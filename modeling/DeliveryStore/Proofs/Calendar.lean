import DeliveryStore.Calendar
import Mathlib.Algebra.Ring.Int.Defs
import Mathlib.Algebra.Ring.Nat
import Mathlib.Data.List.Basic
import Mathlib.Tactic.Common

/-!
# The order of stored times

A stored time is a row of numerals of fixed widths, the greatest unit first. The module proves that
the calendar counts right and that the texts are ordered as the instants are:

* `micros_ofMicros`, `valid_ofMicros` — reading an instant off the calendar and counting it back
  gives the instant, on a date that there is;
* `stamp_lt_stamp_iff` — stamps are ordered by their fields;
* `stamp?_le_iff` — stored times are ordered as texts exactly as they are in time.
-/

namespace DeliveryStore

/-! ## Numerals of one width -/

/-- Of two rows that begin with blocks of one length, the blocks decide first. -/
theorem append_lt_append_iff {a b c d : List Char} (h : a.length = b.length) :
    a ++ c < b ++ d ↔ a < b ∨ a = b ∧ c < d := by
  induction a generalizing b with
  | nil =>
    have hb : b = [] := List.length_eq_zero_iff.1 h.symm
    subst hb
    simp
  | cons x xs ih =>
    cases b with
    | nil => simp at h
    | cons y ys =>
      have hl : xs.length = ys.length := by simpa using h
      simp only [List.cons_append, List.cons_lt_cons_iff, ih hl, List.cons.injEq]
      constructor
      · rintro (hxy | ⟨hxy, hlt | ⟨heq, hlt⟩⟩)
        · exact .inl (.inl hxy)
        · exact .inl (.inr ⟨hxy, hlt⟩)
        · exact .inr ⟨⟨hxy, heq⟩, hlt⟩
      · rintro ((hxy | ⟨hxy, hlt⟩) | ⟨⟨hxy, heq⟩, hlt⟩)
        · exact .inl hxy
        · exact .inr ⟨hxy, .inl hlt⟩
        · exact .inr ⟨hxy, .inr ⟨heq, hlt⟩⟩

namespace Text

theorem digitChar_lt_iff {m n : Nat} (hm : m < 10) (hn : n < 10) :
    Nat.digitChar m < Nat.digitChar n ↔ m < n := by
  have hlt : Nat.digitChar m < Nat.digitChar n ↔
      (Nat.digitChar m).toNat < (Nat.digitChar n).toNat := Iff.rfl
  rw [hlt, Nat.toNat_digitChar_of_lt_ten hm, Nat.toNat_digitChar_of_lt_ten hn]
  omega

theorem digitChar_inj {m n : Nat} (hm : m < 10) (hn : n < 10) :
    Nat.digitChar m = Nat.digitChar n ↔ m = n := by
  rw [← Char.toNat_inj, Nat.toNat_digitChar_of_lt_ten hm, Nat.toNat_digitChar_of_lt_ten hn]
  omega

@[simp] theorem length_decimal (width n : Nat) : (decimal width n).length = width :=
  length_fixed 10 width n

theorem decimal_succ (width n : Nat) :
    decimal (width + 1) n = decimal width (n / 10) ++ [Nat.digitChar (n % 10)] := rfl

/-- Numerals of one width tell apart the numbers that fit. -/
theorem decimal_inj {width m n : Nat} (hm : m < 10 ^ width) (hn : n < 10 ^ width) :
    decimal width m = decimal width n ↔ m = n := by
  induction width generalizing m n with
  | zero => simp [decimal, fixed]; omega
  | succ w ih =>
    have hm' : m / 10 < 10 ^ w := by rw [Nat.pow_succ] at hm; omega
    have hn' : n / 10 < 10 ^ w := by rw [Nat.pow_succ] at hn; omega
    constructor
    · intro h
      rw [decimal_succ, decimal_succ] at h
      obtain ⟨hhigh, hlow⟩ := List.append_inj h (by simp)
      have hdiv : m / 10 = n / 10 := (ih hm' hn').1 hhigh
      have hmod : m % 10 = n % 10 :=
        (digitChar_inj (Nat.mod_lt m (by decide)) (Nat.mod_lt n (by decide))).1
          (List.cons.inj hlow).1
      omega
    · rintro rfl
      rfl

/-- Numerals of one width are ordered as the numbers that fit. -/
theorem decimal_lt_iff {width m n : Nat} (hm : m < 10 ^ width) (hn : n < 10 ^ width) :
    decimal width m < decimal width n ↔ m < n := by
  induction width generalizing m n with
  | zero => simp [decimal, fixed]; omega
  | succ w ih =>
    have hm' : m / 10 < 10 ^ w := by rw [Nat.pow_succ] at hm; omega
    have hn' : n / 10 < 10 ^ w := by rw [Nat.pow_succ] at hn; omega
    have hdigit : [Nat.digitChar (m % 10)] < [Nat.digitChar (n % 10)] ↔ m % 10 < n % 10 := by
      rw [← digitChar_lt_iff (Nat.mod_lt m (by decide)) (Nat.mod_lt n (by decide))]
      simp [List.cons_lt_cons_iff]
    rw [decimal_succ, decimal_succ, append_lt_append_iff (by simp), ih hm' hn',
      decimal_inj hm' hn', hdigit]
    omega

/-- A numeral, and after one and the same mark the rest: the numeral decides first. -/
theorem decimal_append_lt_iff {width m n : Nat} (hm : m < 10 ^ width) (hn : n < 10 ^ width)
    {mark : Char} {a b : List Char} :
    decimal width m ++ mark :: a < decimal width n ++ mark :: b ↔ m < n ∨ m = n ∧ a < b := by
  rw [append_lt_append_iff (by simp), decimal_lt_iff hm hn, decimal_inj hm hn]
  simp

end Text

/-! ## The order of stamps -/

namespace Civil

/-- One date and time comes before another: the greatest unit that differs decides. -/
def Before (c d : Civil) : Prop :=
  c.year < d.year ∨ c.year = d.year ∧
  (c.month < d.month ∨ c.month = d.month ∧
  (c.day < d.day ∨ c.day = d.day ∧
  (c.hour < d.hour ∨ c.hour = d.hour ∧
  (c.minute < d.minute ∨ c.minute = d.minute ∧
  (c.second < d.second ∨ c.second = d.second ∧ c.micro < d.micro)))))

/-- Every field of a valid date fits the place that a stamp has for it. -/
theorem Valid.fits {c : Civil} (h : c.Valid) :
    c.year < 10 ^ 4 ∧ c.month < 10 ^ 2 ∧ c.day < 10 ^ 2 ∧ c.hour < 10 ^ 2 ∧ c.minute < 10 ^ 2 ∧
      c.second < 10 ^ 2 ∧ c.micro < 10 ^ 6 := by
  have hdays : ∀ leap : Bool, ∀ m : Fin 13, daysInMonth leap m.val ≤ 31 := by decide
  obtain ⟨-, hy, -, hm, -, hd, hh, hmi, hs, hu⟩ := h
  have hd' := hdays (isLeap c.year) ⟨c.month, by omega⟩
  simp only [lastYear] at hy
  dsimp only at hd'
  refine ⟨?_, ?_, ?_, ?_, ?_, ?_, ?_⟩ <;> omega

/-- Stamps of dates that there are, are ordered by their fields. -/
theorem stamp_lt_stamp_iff {c d : Civil} (hc : c.Valid) (hd : d.Valid) :
    c.stamp < d.stamp ↔ c.Before d := by
  obtain ⟨cy, cm, cd, ch, cmi, cs, cu⟩ := hc.fits
  obtain ⟨dy, dm, dd, dh, dmi, ds, du⟩ := hd.fits
  simp only [stamp, List.append_assoc, List.cons_append]
  rw [Text.decimal_append_lt_iff cy dy, Text.decimal_append_lt_iff cm dm,
    Text.decimal_append_lt_iff cd dd, Text.decimal_append_lt_iff ch dh,
    Text.decimal_append_lt_iff cmi dmi, Text.decimal_append_lt_iff cs ds,
    Text.decimal_append_lt_iff cu du]
  simp [Before]

end Civil

/-! ## Counting days -/

/-- A year has 365 days, and one more if it is a leap year. -/
def yearLength (year : Nat) : Nat := if isLeap year then 366 else 365

theorem isLeap_iff (year : Nat) :
    isLeap year = true ↔ year % 4 = 0 ∧ (year % 100 ≠ 0 ∨ year % 400 = 0) := by
  simp [isLeap]

theorem daysBeforeYear_succ {year : Nat} (h : 1 ≤ year) :
    daysBeforeYear (year + 1) = daysBeforeYear year + yearLength year := by
  have hy : daysBeforeYear (year + 1) = 365 * year + year / 4 - year / 100 + year / 400 := rfl
  have hy' : daysBeforeYear year =
      365 * (year - 1) + (year - 1) / 4 - (year - 1) / 100 + (year - 1) / 400 := rfl
  rw [hy, hy', yearLength]
  by_cases hl : isLeap year = true
  · rw [if_pos hl]
    have := (isLeap_iff year).1 hl
    omega
  · rw [if_neg hl]
    have := mt (isLeap_iff year).2 hl
    omega

theorem daysBeforeYear_mono {y z : Nat} (h : y ≤ z) : daysBeforeYear y ≤ daysBeforeYear z := by
  induction h with
  | refl => exact Nat.le_refl _
  | @step m _ ih =>
    rcases Nat.eq_zero_or_pos m with rfl | hm
    · exact ih
    · rw [daysBeforeYear_succ hm]
      omega

theorem daysBeforeMonth_succ {leap : Bool} {m : Nat} (hm : 1 ≤ m) (hm' : m ≤ 12) :
    daysBeforeMonth leap (m + 1) = daysBeforeMonth leap m + daysInMonth leap m := by
  have h : ∀ leap : Bool, ∀ i : Fin 12,
      daysBeforeMonth leap (i.val + 2) =
        daysBeforeMonth leap (i.val + 1) + daysInMonth leap (i.val + 1) := by decide
  obtain ⟨i, rfl⟩ : ∃ i, m = i + 1 := ⟨m - 1, by omega⟩
  exact h leap ⟨i, by omega⟩

/-- The months of a year follow one another: before a later month lie all days of an earlier one. -/
theorem daysBeforeMonth_add_le (leap : Bool) {m n : Nat} (hm : 1 ≤ m) (hmn : m < n)
    (hn : n ≤ 13) : daysBeforeMonth leap m + daysInMonth leap m ≤ daysBeforeMonth leap n := by
  -- By induction on the later month, each month being no longer than the way to the next one.
  induction hmn with
  | refl => exact Nat.le_of_eq (daysBeforeMonth_succ hm (by omega)).symm
  | @step k hk ih =>
    have hk' : m + 1 ≤ k := hk
    have hprev := ih (by omega)
    rw [daysBeforeMonth_succ (by omega) (by omega)]
    omega

/-- The twelve months fill the year. -/
theorem daysBeforeMonth_add_le_yearLength (year : Nat) {m : Nat} (hm : 1 ≤ m) (hn : m ≤ 12) :
    daysBeforeMonth (isLeap year) m + daysInMonth (isLeap year) m ≤ yearLength year := by
  have h : ∀ leap : Bool, daysBeforeMonth leap 13 = if leap then 366 else 365 := by decide
  rw [yearLength, ← h]
  exact daysBeforeMonth_add_le _ hm (by omega) (by omega)

namespace Civil

theorem Valid.microsOfDay_lt {c : Civil} (h : c.Valid) : c.microsOfDay < microsPerDay := by
  obtain ⟨-, -, -, -, -, -, hh, hm, hs, hu⟩ := h
  simp only [microsOfDay, microsPerDay]
  omega

/-- Counted from the beginning of the calendar, a later date and time has the greater count. -/
theorem micros_lt_of_before {c d : Civil} (hc : c.Valid) (hd : d.Valid) (h : c.Before d) :
    c.micros < d.micros := by
  have hct := hc.microsOfDay_lt
  obtain ⟨hcy, -, hcm, hcm', hcd, hcd', chh, chm, chs, chu⟩ := hc
  obtain ⟨-, -, hdm, hdm', hdd, hdd', dhh, dhm, dhs, dhu⟩ := hd
  -- Only when the days agree does the time of day decide.
  have hdays : c.days < d.days → c.micros < d.micros := by
    intro hlt
    simp only [micros, microsPerDay] at hct ⊢
    omega
  have htime : c.days = d.days → c.microsOfDay < d.microsOfDay → c.micros < d.micros := by
    intro heq hlt
    simp only [micros, heq]
    omega
  rcases h with hy | ⟨hy, hm | ⟨hm, hday | ⟨hday, ht⟩⟩⟩
  · -- An earlier year is over when the later one begins.
    apply hdays
    have hyear := daysBeforeYear_succ hcy
    have hmono := daysBeforeYear_mono (Nat.succ_le_of_lt hy)
    have hfill := daysBeforeMonth_add_le_yearLength c.year hcm hcm'
    simp only [days, Nat.succ_eq_add_one] at hmono ⊢
    omega
  · apply hdays
    have hmonth := daysBeforeMonth_add_le (isLeap c.year) hcm hm (by omega)
    simp only [days, hy] at hmonth hcd' ⊢
    omega
  · apply hdays
    simp only [days, hy, hm]
    omega
  · apply htime
    · simp only [days, hy, hm, hday]
    · simp only [microsOfDay]
      omega

/-- Of two dates and times that there are, one comes before the other unless they are the same. -/
theorem before_trichotomy (c d : Civil) : c.Before d ∨ c = d ∨ d.Before c := by
  obtain ⟨cy, cm, cd, ch, cmi, cs, cu⟩ := c
  obtain ⟨dy, dm, dd, dh, dmi, ds, du⟩ := d
  simp only [Before, Civil.mk.injEq]
  omega

/-- Dates and times that there are differ if their stamps do not. -/
theorem eq_of_stamp_eq {c d : Civil} (hc : c.Valid) (hd : d.Valid) (h : c.stamp = d.stamp) :
    c = d := by
  rcases before_trichotomy c d with hb | heq | hb
  · have hlt := (stamp_lt_stamp_iff hc hd).2 hb
    exact absurd hlt (h ▸ List.lt_irrefl _)
  · exact heq
  · have hlt := (stamp_lt_stamp_iff hd hc).2 hb
    exact absurd hlt (h ▸ List.lt_irrefl _)

theorem micros_lt_iff {c d : Civil} (hc : c.Valid) (hd : d.Valid) :
    c.micros < d.micros ↔ c.Before d := by
  constructor
  · -- The order of fields is total, so the other direction tells the dates apart.
    intro h
    rcases before_trichotomy c d with hb | rfl | hb
    · exact hb
    · exact absurd h (Nat.lt_irrefl _)
    · exact absurd h (Nat.lt_asymm (micros_lt_of_before hd hc hb))
  · exact micros_lt_of_before hc hd

end Civil

/-! ## Reading an instant off the calendar -/

/-- The days before a year that stands in a cycle, a century and a fourth of it. -/
theorem daysBeforeYear_of_parts {q c f y : Nat} (hc : c ≤ 3) (hf : f ≤ 24) (hy : y ≤ 3) :
    daysBeforeYear (400 * q + 100 * c + 4 * f + y + 1) =
      146097 * q + 36524 * c + 1461 * f + 365 * y := by
  have h4 : (400 * q + 100 * c + 4 * f + y) / 4 = 100 * q + 25 * c + f := by omega
  have h100 : (400 * q + 100 * c + 4 * f + y) / 100 = 4 * q + c := by omega
  have h400 : (400 * q + 100 * c + 4 * f + y) / 400 = q := by omega
  simp only [daysBeforeYear, Nat.add_sub_cancel, h4, h100, h400]
  omega

/-- The fourth year of four is a leap year, except at the end of the first three centuries. -/
theorem yearLength_of_parts {q c f y : Nat} (hf : f ≤ 24) (h : y = 3 ∧ (f = 24 → c = 3)) :
    yearLength (400 * q + 100 * c + 4 * f + y + 1) = 366 := by
  have hl : isLeap (400 * q + 100 * c + 4 * f + y + 1) = true := by
    rw [isLeap_iff]
    omega
  rw [yearLength, if_pos hl]

theorem le_yearLength (year : Nat) : 365 ≤ yearLength year := by
  unfold yearLength
  split <;> omega

/-- The year that holds a day is found, and so are the days of that year before it. -/
theorem yearOfDay_spec (n : Nat) :
    1 ≤ (yearOfDay n).1 ∧ daysBeforeYear (yearOfDay n).1 + (yearOfDay n).2 = n ∧
      (yearOfDay n).2 < yearLength (yearOfDay n).1 := by
  -- The parts of the day number, as they are taken off one after another.
  generalize hq : n / 146097 = q
  generalize hr : n % 146097 = r
  generalize hc : min (r / 36524) 3 = c
  generalize hs : r - c * 36524 = s
  generalize hf : s / 1461 = f
  generalize ht : s % 1461 = t
  generalize hy : min (t / 365) 3 = y
  have hn : yearOfDay n = (400 * q + 100 * c + 4 * f + y + 1, t - y * 365) := by
    simp only [yearOfDay, hq, hr, hc, hs, hf, ht, hy]
  have hrlt : r < 146097 := hr ▸ Nat.mod_lt n (by decide)
  have hc3 : c ≤ 3 := by omega
  have hs' : s ≤ 36524 ∧ (s = 36524 → c = 3) := by omega
  have hf24 : f ≤ 24 := by omega
  have hy3 : y ≤ 3 := by omega
  have ht' : t < 1461 := by omega
  have hyt : y * 365 ≤ t := by omega
  -- A part is cut off at 3 only where a leap day would begin one more century or one more year.
  rw [hn]
  refine ⟨by dsimp only; omega, ?_, ?_⟩
  · dsimp only
    rw [daysBeforeYear_of_parts hc3 hf24 hy3]
    omega
  · dsimp only
    by_cases hlong : t - y * 365 < 365
    · exact Nat.lt_of_lt_of_le hlong (le_yearLength _)
    · rw [yearLength_of_parts hf24 (by omega)]
      omega

/-- The month that holds a day is found among any months, and so is the day of the month. -/
theorem monthOfDay_eq (first : Nat) {n : Nat} {lengths : List Nat} (h : n < lengths.sum) :
    ∃ i < lengths.length, monthOfDay first lengths n = (first + i, n - (lengths.take i).sum + 1) ∧
      (lengths.take i).sum ≤ n ∧ n - (lengths.take i).sum < lengths.getD i 0 := by
  induction lengths generalizing first n with
  | nil => simp at h
  | cons l rest ih =>
    by_cases hl : n < l
    · exact ⟨0, by simp, by simp [monthOfDay, hl], by simp, by simpa using hl⟩
    · have hrest : n - l < rest.sum := by
        rw [List.sum_cons] at h
        omega
      obtain ⟨i, hi, hmonth, hle, hlt⟩ := ih (first + 1) hrest
      refine ⟨i + 1, by simpa using hi, ?_, ?_, ?_⟩
      · rw [monthOfDay, if_neg hl, hmonth, List.take_succ_cons, List.sum_cons]
        congr 1 <;> omega
      · rw [List.take_succ_cons, List.sum_cons]
        omega
      · rw [List.take_succ_cons, List.sum_cons, List.getD_cons_succ]
        omega

/-- The month that holds a day of a year is found, and so is the day of the month. -/
theorem monthOfDay_spec {year n : Nat} (h : n < yearLength year) :
    ∃ month day, monthOfDay 1 (monthLengths (isLeap year)) n = (month, day) ∧
      1 ≤ month ∧ month ≤ 12 ∧ 1 ≤ day ∧ day ≤ daysInMonth (isLeap year) month ∧
      daysBeforeMonth (isLeap year) month + (day - 1) = n := by
  have hsum : ∀ leap : Bool, (monthLengths leap).sum = if leap then 366 else 365 := by decide
  have hlen : ∀ leap : Bool, (monthLengths leap).length = 12 := by decide
  obtain ⟨i, hi, hmonth, hle, hlt⟩ :=
    monthOfDay_eq 1 (show n < (monthLengths (isLeap year)).sum by rwa [hsum])
  have hbefore : daysBeforeMonth (isLeap year) (1 + i) =
      ((monthLengths (isLeap year)).take i).sum := by
    rw [daysBeforeMonth, Nat.add_sub_cancel_left, List.sum_eq_foldr]
  have hin : daysInMonth (isLeap year) (1 + i) = (monthLengths (isLeap year)).getD i 0 := by
    rw [daysInMonth, Nat.add_sub_cancel_left]
  rw [hlen] at hi
  refine ⟨_, _, hmonth, by omega, by omega, by omega, ?_, ?_⟩
  · rw [hin]
    omega
  · rw [hbefore]
    omega

namespace Civil

/-- What is read off the calendar has the days that it was read from before it, and stands at the
time that it was read from. -/
theorem ofMicros_spec (n : Nat) :
    1 ≤ (ofMicros n).year ∧ 1 ≤ (ofMicros n).month ∧ (ofMicros n).month ≤ 12 ∧
      1 ≤ (ofMicros n).day ∧
      (ofMicros n).day ≤ daysInMonth (isLeap (ofMicros n).year) (ofMicros n).month ∧
      (ofMicros n).days = n / microsPerDay ∧ (ofMicros n).microsOfDay = n % microsPerDay := by
  obtain ⟨hyear, hdays, hlt⟩ := yearOfDay_spec (n / microsPerDay)
  obtain ⟨month, day, hmonth, hm, hm', hd, hd', hn⟩ := monthOfDay_spec hlt
  have hof : ofMicros n =
      { year := (yearOfDay (n / microsPerDay)).1, month, day
        hour := n % microsPerDay / 3600000000
        minute := n % microsPerDay / 60000000 % 60
        second := n % microsPerDay / 1000000 % 60
        micro := n % microsPerDay % 1000000 } := by
    simp only [ofMicros, hmonth]
  rw [hof]
  refine ⟨hyear, hm, hm', hd, hd', ?_, ?_⟩
  · simp only [days]
    omega
  · simp only [microsOfDay]
    omega

/-- Counting back what was read off the calendar gives the count that was read. -/
theorem micros_ofMicros (n : Nat) : (ofMicros n).micros = n := by
  obtain ⟨-, -, -, -, -, hdays, htime⟩ := ofMicros_spec n
  rw [micros, hdays, htime, Nat.div_add_mod']

/-- What is read off the calendar within its years is a date and time that there is. -/
theorem valid_ofMicros {n : Nat} (h : n < calendarDays * microsPerDay) : (ofMicros n).Valid := by
  obtain ⟨hyear, hm, hm', hd, hd', hdays, -⟩ := ofMicros_spec n
  have hlt : (ofMicros n).days < calendarDays := hdays ▸ Nat.div_lt_of_lt_mul (by rwa [Nat.mul_comm])
  have htime' : n % microsPerDay < 86400000000 := Nat.mod_lt n (by decide)
  refine ⟨hyear, ?_, hm, hm', hd, hd', ?_, ?_, ?_, ?_⟩
  · by_contra hlate
    have hmono := daysBeforeYear_mono (y := lastYear + 1) (z := (ofMicros n).year) (by omega)
    simp only [days, calendarDays] at hlt
    omega
  all_goals
    simp only [ofMicros]
    omega

end Civil

/-! ## The order of stored times -/

namespace Instant

variable {i j : Instant} {s t : String}

/-- A stored time is the stamp of a date and time that there is, which counts back to the instant. -/
theorem stamp?_eq_some (h : i.stamp? = some s) :
    s = String.ofList i.civil.stamp ∧ i.civil.Valid ∧ (i.civil.micros : Int) = i.micros := by
  by_cases hi : i.InCalendar
  · rw [stamp?, if_pos hi] at h
    obtain ⟨hlow, hhigh⟩ := hi
    refine ⟨(Option.some.inj h).symm, Civil.valid_ofMicros (by omega), ?_⟩
    rw [civil, Civil.micros_ofMicros]
    omega
  · rw [stamp?, if_neg hi] at h
    cases h

/-- Of two stored times the one that comes first as a text is the one that comes first in time. -/
theorem stamp?_lt_iff (hs : i.stamp? = some s) (ht : j.stamp? = some t) :
    s < t ↔ i.micros < j.micros := by
  obtain ⟨rfl, hi, hmi⟩ := stamp?_eq_some hs
  obtain ⟨rfl, hj, hmj⟩ := stamp?_eq_some ht
  rw [String.lt_iff, String.toList_ofList, String.toList_ofList, Civil.stamp_lt_stamp_iff hi hj,
    ← Civil.micros_lt_iff hi hj]
  omega

/-- Stored times are ordered as texts exactly as they are in time. -/
theorem stamp?_le_iff (hs : i.stamp? = some s) (ht : j.stamp? = some t) :
    s ≤ t ↔ i.micros ≤ j.micros := by
  rw [← String.not_lt, stamp?_lt_iff ht hs, Int.not_lt]

/-- Instants that are stored alike are the same point in time. -/
theorem micros_eq_of_stamp? (hi : i.stamp? = some s) (hj : j.stamp? = some s) :
    i.micros = j.micros := by
  have hle := (stamp?_le_iff hi hj).1 (String.le_refl s)
  have hge := (stamp?_le_iff hj hi).1 (String.le_refl s)
  omega

end Instant

end DeliveryStore
