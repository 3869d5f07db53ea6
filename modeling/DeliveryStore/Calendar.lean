import DeliveryStore.Text.Numeral

/-!
# Calendar and instants

Dates of the Gregorian calendar, counted in days from 1 January of the year 1, and instants,
counted in microseconds from the beginning of that day in UTC. `Instant.civil` reads an instant off
the calendar and `Civil.micros` counts it back. `Instant.stamp?` is the stored form of an instant:
27 characters of fixed places, so that stored times sort as text in the order of time.
-/

namespace DeliveryStore

/-- A leap year: every fourth, but of the centuries only every fourth. -/
def isLeap (year : Nat) : Bool := year % 4 == 0 && (year % 100 != 0 || year % 400 == 0)

/-- The lengths of the twelve months. -/
def monthLengths (leap : Bool) : List Nat :=
  [31, if leap then 29 else 28, 31, 30, 31, 30, 31, 31, 30, 31, 30, 31]

/-- The number of days in a month, the first month being 1. -/
def daysInMonth (leap : Bool) (month : Nat) : Nat := (monthLengths leap).getD (month - 1) 0

/-- The days before the first day of `year`, counted from the year 1. -/
def daysBeforeYear (year : Nat) : Nat :=
  let y := year - 1
  365 * y + y / 4 - y / 100 + y / 400

/-- The days of a year before the first day of `month`. -/
def daysBeforeMonth (leap : Bool) (month : Nat) : Nat :=
  ((monthLengths leap).take (month - 1)).foldr (· + ·) 0

/-- The last year of the calendar. -/
def lastYear : Nat := 9999

/-- The number of days from 1 January of the year 1 to 31 December of the last year. -/
def calendarDays : Nat := daysBeforeYear (lastYear + 1)

/-- The microseconds of a day. -/
def microsPerDay : Nat := 86400000000

/-- A date and a time of day, to the microsecond. -/
structure Civil where
  year : Nat
  month : Nat
  day : Nat
  hour : Nat := 0
  minute : Nat := 0
  second : Nat := 0
  micro : Nat := 0
deriving DecidableEq, Repr, BEq

namespace Civil

/-- The fields name a day of the calendar and a time of that day. -/
def Valid (c : Civil) : Prop :=
  1 ≤ c.year ∧ c.year ≤ lastYear ∧ 1 ≤ c.month ∧ c.month ≤ 12 ∧
  1 ≤ c.day ∧ c.day ≤ daysInMonth (isLeap c.year) c.month ∧
  c.hour < 24 ∧ c.minute < 60 ∧ c.second < 60 ∧ c.micro < 1000000

instance (c : Civil) : Decidable c.Valid := by unfold Valid; infer_instance

/-- Whether the date is the very first one. -/
def isFirstDay (c : Civil) : Bool := c.year == 1 && c.month == 1 && c.day == 1

/-- The days before the date. -/
def days (c : Civil) : Nat :=
  daysBeforeYear c.year + daysBeforeMonth (isLeap c.year) c.month + (c.day - 1)

/-- The microseconds from the beginning of the day. -/
def microsOfDay (c : Civil) : Nat :=
  ((c.hour * 60 + c.minute) * 60 + c.second) * 1000000 + c.micro

/-- The microseconds from the beginning of the calendar. -/
def micros (c : Civil) : Nat := c.days * microsPerDay + c.microsOfDay

/-- `YYYY-MM-DDTHH:MM:SS.ffffffZ`, every place at its full width. -/
def stamp (c : Civil) : List Char :=
  Text.decimal 4 c.year ++ '-' :: Text.decimal 2 c.month ++ '-' :: Text.decimal 2 c.day ++
  'T' :: Text.decimal 2 c.hour ++ ':' :: Text.decimal 2 c.minute ++ ':' :: Text.decimal 2 c.second ++
  '.' :: Text.decimal 6 c.micro ++ ['Z']

/-- The stamp has 27 characters, whatever the date. -/
theorem length_stamp (c : Civil) : c.stamp.length = 27 := by
  simp [stamp, Text.decimal]

end Civil

/-! ## Reading a day number off the calendar -/

/-- The year that holds day `n`, and the days of that year before it. The calendar repeats after
400 years; of four centuries only the last has a leap year at its end, and so has every fourth year
of a century but the last of those. -/
def yearOfDay (n : Nat) : Nat × Nat :=
  let q := n / 146097
  let r := n % 146097
  let c := min (r / 36524) 3
  let r := r - c * 36524
  let f := r / 1461
  let r := r % 1461
  let y := min (r / 365) 3
  (400 * q + 100 * c + 4 * f + y + 1, r - y * 365)

/-- The month that holds day `n` of a year with these month lengths, and the day within it, both
from 1; `month` is the number of the first month in the list. -/
def monthOfDay (month : Nat) : List Nat → Nat → Nat × Nat
  | [], n => (month, n + 1)
  | length :: rest, n => if n < length then (month, n + 1) else monthOfDay (month + 1) rest (n - length)

/-- The date and time `n` microseconds after the beginning of the calendar. -/
def Civil.ofMicros (n : Nat) : Civil :=
  let (year, dayOfYear) := yearOfDay (n / microsPerDay)
  let (month, day) := monthOfDay 1 (monthLengths (isLeap year)) dayOfYear
  let t := n % microsPerDay
  { year, month, day
    hour := t / 3600000000
    minute := t / 60000000 % 60
    second := t / 1000000 % 60
    micro := t % 1000000 }

/-! ## Moments and instants -/

/-- A date and time of day as a caller states it: with its offset from UTC in microseconds, or with
none, which means UTC. The offset is less than a day either way. -/
structure Moment where
  civil : Civil
  offset : Option Int := none
  civil_valid : civil.Valid
  offset_small : ∀ o ∈ offset, -(microsPerDay : Int) < o ∧ o < microsPerDay
deriving DecidableEq

/-- A point in time, in microseconds from the beginning of the calendar in UTC. It may lie outside
the calendar. -/
structure Instant where
  micros : Int
deriving DecidableEq, Repr

namespace Instant

/-- The instants that a calendar date in UTC can name. -/
def InCalendar (i : Instant) : Prop := 0 ≤ i.micros ∧ i.micros < calendarDays * microsPerDay

instance (i : Instant) : Decidable i.InCalendar := by unfold InCalendar; infer_instance

/-- The date and time of an instant in UTC. -/
def civil (i : Instant) : Civil := Civil.ofMicros i.micros.toNat

/-- The stored form of an instant; an instant outside the calendar has none. -/
def stamp? (i : Instant) : Option String :=
  if i.InCalendar then some (String.ofList i.civil.stamp) else none

/-- Exactly the instants of the calendar have a stored form. -/
theorem isSome_stamp? (i : Instant) : i.stamp?.isSome ↔ i.InCalendar := by
  unfold stamp?; split <;> simp_all

end Instant

/-- The instant a moment names: its own clock reading less its offset. -/
def Moment.instant (m : Moment) : Instant := ⟨m.civil.micros - m.offset.getD 0⟩

/-- A moment without an offset is read as UTC. -/
theorem Moment.instant_of_no_offset {m : Moment} (h : m.offset = none) :
    m.instant = ⟨m.civil.micros⟩ := by
  simp [Moment.instant, h]

/-- The moment with these fields and this offset, if it is one. -/
def Moment.of? (civil : Civil) (offset : Option Int) : Option Moment :=
  if hc : civil.Valid then
    if ho : ∀ o ∈ offset, -(microsPerDay : Int) < o ∧ o < microsPerDay then
      some ⟨civil, offset, hc, ho⟩
    else none
  else none

end DeliveryStore
