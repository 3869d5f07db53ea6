import DeliveryStore.Host
import DeliveryStore.Proofs.Calendar
import DeliveryStore.Text.Utf8
import Mathlib.Logic.Function.Iterate

/-!
# What stored times say

A stored time is the date and time in UTC of the instant that a caller's moment names. `Civil.read?`
reads it back, `Civil.clock` is the calendar as a clock that ticks from its beginning, each tick a
microsecond. Main statements:

* `Civil.read?_stamp` — what is read from a stamp is the date and time that was stamped;
* `Civil.clock_micros` — `Civil.micros` counts the ticks up to a date and time;
* `stored_time_reads_back` — which moments have a stored form, and what instant it says;
* `stored_times_sort_by_instant` — stored times are ordered byte by byte as the instants are.
-/

namespace DeliveryStore

/-! ## Reading stamps -/

namespace Text

theorem isDigit_of_mem_decimal {width n : Nat} {c : Char} (h : c ∈ decimal width n) :
    c.isDigit = true := by
  induction width generalizing n with
  | zero => simp [decimal, fixed] at h
  | succ w ih =>
    rw [decimal_succ, List.mem_append, List.mem_singleton] at h
    rcases h with h | rfl
    · exact ih h
    · rw [Nat.isDigit_digitChar, decide_eq_true_eq]
      exact Nat.mod_lt n (by decide)

/-- A numeral whose width suffices is read as the number that was written. -/
theorem ofDigitChars_decimal {width n : Nat} (h : n < 10 ^ width) :
    Nat.ofDigitChars 10 (decimal width n) 0 = n := by
  induction width generalizing n with
  | zero => simp [decimal, fixed]; omega
  | succ w ih =>
    have hhigh : n / 10 < 10 ^ w := by rw [Nat.pow_succ] at h; omega
    have hlow : (Nat.digitChar (n % 10)).toNat = '0'.toNat + n % 10 :=
      Nat.toNat_digitChar_of_lt_ten (Nat.mod_lt n (by decide))
    rw [decimal_succ, Nat.ofDigitChars_append, ih hhigh, Nat.ofDigitChars_cons, hlow]
    simp only [Nat.ofDigitChars, List.foldl_nil]
    omega

/-- Reads so many digits and the mark behind them: their number, and what stands behind the mark. -/
def field? (width : Nat) (mark : Char) (text : List Char) : Option (Nat × List Char) :=
  match text.drop width with
  | [] => none
  | c :: rest =>
    if (text.take width).all Char.isDigit && c == mark then
      some (Nat.ofDigitChars 10 (text.take width) 0, rest)
    else none

theorem field?_decimal {width n : Nat} (h : n < 10 ^ width) (mark : Char) (rest : List Char) :
    field? width mark (decimal width n ++ mark :: rest) = some (n, rest) := by
  have htake : (decimal width n ++ mark :: rest).take width = decimal width n :=
    List.take_left' (length_decimal width n)
  have hdrop : (decimal width n ++ mark :: rest).drop width = mark :: rest :=
    List.drop_left' (length_decimal width n)
  have hdigits : (decimal width n).all Char.isDigit = true :=
    List.all_eq_true.2 fun _ => isDigit_of_mem_decimal
  simp only [field?, htake, hdrop, hdigits, beq_self_eq_true, Bool.and_self, if_true,
    ofDigitChars_decimal h]

end Text

namespace Civil

/-- Reads `YYYY-MM-DDTHH:MM:SS.ffffffZ`, with nothing in front and nothing behind. -/
def read? (text : List Char) : Option Civil := do
  let (year, text) ← Text.field? 4 '-' text
  let (month, text) ← Text.field? 2 '-' text
  let (day, text) ← Text.field? 2 'T' text
  let (hour, text) ← Text.field? 2 ':' text
  let (minute, text) ← Text.field? 2 ':' text
  let (second, text) ← Text.field? 2 '.' text
  let (micro, text) ← Text.field? 6 'Z' text
  if text.isEmpty then some { year, month, day, hour, minute, second, micro } else none

/-- The stamp of a date and time that there is is read as that date and time. -/
theorem read?_stamp {c : Civil} (h : c.Valid) : read? c.stamp = some c := by
  obtain ⟨hy, hm, hd, hh, hmi, hs, hu⟩ := h.fits
  simp only [read?, stamp, List.append_assoc, List.cons_append, Text.field?_decimal hy,
    Text.field?_decimal hm, Text.field?_decimal hd, Text.field?_decimal hh,
    Text.field?_decimal hmi, Text.field?_decimal hs, Text.field?_decimal hu, Option.bind_eq_bind,
    Option.bind_some, List.isEmpty_nil, if_true]

/-! ## The calendar as a clock -/

/-- The beginning of the calendar. -/
def first : Civil := { year := 1, month := 1, day := 1 }

/-- The last microsecond of the calendar. -/
def last : Civil :=
  { year := lastYear, month := 12, day := 31, hour := 23, minute := 59, second := 59
    micro := 999999 }

/-- The beginning of the next day. -/
def tomorrow (c : Civil) : Civil :=
  if c.day < daysInMonth (isLeap c.year) c.month then
    { year := c.year, month := c.month, day := c.day + 1 }
  else if c.month < 12 then { year := c.year, month := c.month + 1, day := 1 }
  else { year := c.year + 1, month := 1, day := 1 }

/-- One microsecond later. -/
def tick (c : Civil) : Civil :=
  if c.micro < 999999 then { c with micro := c.micro + 1 }
  else if c.second < 59 then { c with micro := 0, second := c.second + 1 }
  else if c.minute < 59 then { c with micro := 0, second := 0, minute := c.minute + 1 }
  else if c.hour < 23 then { c with micro := 0, second := 0, minute := 0, hour := c.hour + 1 }
  else c.tomorrow

/-- What a clock shows that was started at the beginning of the calendar. -/
def clock (n : Nat) : Civil := tick^[n] first

theorem clock_succ (n : Nat) : clock (n + 1) = (clock n).tick :=
  Function.iterate_succ_apply' tick n first

variable {c : Civil}

theorem one_le_daysInMonth (leap : Bool) {m : Nat} (hm : 1 ≤ m) (hm' : m ≤ 12) :
    1 ≤ daysInMonth leap m := by
  have h : ∀ leap : Bool, ∀ i : Fin 12, 1 ≤ daysInMonth leap (i.val + 1) := by decide
  obtain ⟨i, rfl⟩ : ∃ i, m = i + 1 := ⟨m - 1, by omega⟩
  exact h leap ⟨i, by omega⟩

theorem daysInMonth_december (leap : Bool) : daysInMonth leap 12 = 31 := by
  cases leap <;> rfl

/-- The next day of a day that is not the last of the calendar is a day of the calendar. -/
theorem valid_tomorrow (h : c.Valid) (hlast : c.year < lastYear ∨ c.month < 12 ∨ c.day < 31) :
    c.tomorrow.Valid := by
  unfold tomorrow
  split_ifs with hday hmonth
  · simp only [Valid] at h ⊢
    omega
  · have hfirst := one_le_daysInMonth (isLeap c.year) (Nat.le_add_left 1 c.month) hmonth
    simp only [Valid] at h ⊢
    omega
  · have hmonth' : c.month = 12 := by simp only [Valid] at h; omega
    have hjanuary := one_le_daysInMonth (isLeap (c.year + 1)) (Nat.le_refl 1) (by decide)
    rw [hmonth', daysInMonth_december] at hday
    simp only [Valid] at h ⊢
    omega

/-- The calendar counts day by day. -/
theorem days_tomorrow (h : c.Valid) : c.tomorrow.days = c.days + 1 := by
  obtain ⟨hy, -, hm, hm', hd, hd', -⟩ := h
  unfold tomorrow
  split_ifs with hday hmonth
  · simp only [days]
    omega
  · have hnext : daysBeforeMonth (isLeap c.year) (c.month + 1) =
        daysBeforeMonth (isLeap c.year) c.month + daysInMonth (isLeap c.year) c.month :=
      daysBeforeMonth_succ hm hm'
    simp only [days]
    omega
  · -- From the last day of December to the first of January, a year later.
    have hyear : yearLength c.year = daysBeforeMonth (isLeap c.year) 12 + 31 := by
      unfold yearLength
      cases isLeap c.year <;> rfl
    have hmonth' : c.month = 12 := by omega
    have hjanuary : daysBeforeMonth (isLeap (c.year + 1)) 1 = 0 := rfl
    rw [hmonth', daysInMonth_december] at hday hd'
    simp only [days, hmonth', hjanuary, daysBeforeYear_succ hy, hyear]
    omega

theorem microsOfDay_tomorrow (c : Civil) : c.tomorrow.microsOfDay = 0 := by
  unfold tomorrow
  split_ifs <;> simp [microsOfDay]

/-- Every date and time of the calendar but the last is followed by one. -/
theorem valid_tick (h : c.Valid) (hlast : c ≠ last) : c.tick.Valid := by
  unfold tick
  split_ifs with hmicro hsecond hminute hhour
  · simp only [Valid] at h ⊢
    omega
  · simp only [Valid] at h ⊢
    omega
  · simp only [Valid] at h ⊢
    omega
  · simp only [Valid] at h ⊢
    omega
  · refine valid_tomorrow h ?_
    by_contra hday
    simp only [Valid] at h
    have hmonth : c.month = 12 := by omega
    rw [hmonth, daysInMonth_december] at h
    refine hlast ?_
    obtain ⟨year, month, day, hour, minute, second, micro⟩ := c
    dsimp only at hday hmonth h hhour hminute hsecond hmicro
    simp only [last, mk.injEq]
    omega

/-- One tick is one microsecond. -/
theorem micros_tick (h : c.Valid) : c.tick.micros = c.micros + 1 := by
  unfold tick
  split_ifs with hmicro hsecond hminute hhour
  · simp only [micros, microsOfDay, days]
    omega
  · simp only [Valid] at h
    simp only [micros, microsOfDay, days]
    omega
  · simp only [Valid] at h
    simp only [micros, microsOfDay, days]
    omega
  · simp only [Valid] at h
    simp only [micros, microsOfDay, days]
    omega
  · simp only [micros, days_tomorrow h, microsOfDay_tomorrow]
    simp only [Valid] at h
    simp only [microsOfDay, microsPerDay]
    omega

theorem micros_last : last.micros + 1 = calendarDays * microsPerDay := by decide

/-- A date and time of the calendar is not later than the last. -/
theorem Valid.micros_lt (h : c.Valid) : c.micros < calendarDays * microsPerDay := by
  have htime := h.microsOfDay_lt
  obtain ⟨hy, hy', hm, hm', hd, hd', -⟩ := h
  have hyear := daysBeforeYear_succ hy
  have hmono := daysBeforeYear_mono (Nat.succ_le_succ hy')
  have hfill := daysBeforeMonth_add_le_yearLength c.year hm hm'
  have hdays : c.days < calendarDays := by
    simp only [days, calendarDays, Nat.succ_eq_add_one] at hmono ⊢
    omega
  simp only [micros, microsPerDay] at htime ⊢
  omega

/-- A clock that was started at the beginning shows, until the calendar ends, a date and time that
there is, before which there are as many microseconds as it has ticked. -/
theorem clock_spec {n : Nat} (hn : n < calendarDays * microsPerDay) :
    (clock n).Valid ∧ (clock n).micros = n := by
  induction n with
  | zero => exact ⟨by decide, by decide⟩
  | succ n ih =>
    obtain ⟨hvalid, hmicros⟩ := ih (by omega)
    have hlast : clock n ≠ last := by
      intro heq
      rw [heq] at hmicros
      have := micros_last
      omega
    rw [clock_succ]
    exact ⟨valid_tick hvalid hlast, by rw [micros_tick hvalid, hmicros]⟩

/-- A date and time of the calendar is what a clock shows after its microseconds. -/
theorem clock_micros (h : c.Valid) : clock c.micros = c := by
  obtain ⟨hvalid, hmicros⟩ := clock_spec h.micros_lt
  rcases before_trichotomy (clock c.micros) c with hb | heq | hb
  · exact absurd (micros_lt_of_before hvalid h hb) (by omega)
  · exact heq
  · exact absurd (micros_lt_of_before h hvalid hb) (by omega)

end Civil

/-! ## What stored times say -/

namespace Argument

theorem stamp_moment_ok_iff {now m : Moment} {text : String} :
    stamp now (.moment m) = .ok text ↔ m.instant.stamp? = some text := by
  simp only [stamp, written]
  cases m.instant.stamp? <;> simp

theorem stamp_moment_error_iff {now m : Moment} {f : Failure} :
    stamp now (.moment m) = .error f ↔ f = .outsideCalendar ∧ ¬ m.instant.InCalendar := by
  rw [← Instant.isSome_stamp?]
  simp only [stamp, written]
  cases m.instant.stamp? <;> simp [eq_comm]

end Argument

/-- The instants of the calendar are those between its first and its last microsecond. -/
theorem Instant.inCalendar_iff (i : Instant) :
    i.InCalendar ↔ (Civil.first.micros : Int) ≤ i.micros ∧ i.micros ≤ Civil.last.micros := by
  have hfirst : Civil.first.micros = 0 := by decide
  have hlast := Civil.micros_last
  unfold InCalendar
  omega

/-- A moment has a stored form exactly if its instant, its own clock reading less its offset, lies in
the years 1 to 9999 of UTC, and is refused otherwise as outside the calendar. The stored form has 27
characters, from which the date and time of that instant can be read, those that a clock shows so many
microseconds after the beginning of the calendar; and the moments that it stands for are those of one
instant. -/
theorem stored_time_reads_back (now m : Moment) :
    let instant (m : Moment) : Int := m.civil.micros - m.offset.getD 0
    let stored (m : Moment) : Except Failure String := Argument.stamp now (.moment m)
    let inYears : Prop := Civil.first.micros ≤ instant m ∧ instant m ≤ Civil.last.micros
    ((∃ text, stored m = .ok text) ↔ inYears) ∧
      (¬ inYears → stored m = .error .outsideCalendar) ∧
      (∀ text, stored m = .ok text →
        text.length = 27 ∧ ∃ c : Civil, Civil.read? text.toList = some c ∧ c.Valid ∧
          (c.micros : Int) = instant m ∧ c = Civil.clock (instant m).toNat) ∧
      ∀ m' text text', stored m = .ok text → stored m' = .ok text' →
        (text = text' ↔ instant m = instant m') := by
  intro instant stored inYears
  have hyears : m.instant.InCalendar ↔ inYears := m.instant.inCalendar_iff
  refine ⟨?_, ?_, ?_, ?_⟩
  · rw [← hyears, ← Instant.isSome_stamp?, Option.isSome_iff_exists]
    exact exists_congr fun text => Argument.stamp_moment_ok_iff
  · intro hout
    exact Argument.stamp_moment_error_iff.2 ⟨rfl, mt hyears.1 hout⟩
  · intro text htext
    obtain ⟨rfl, hvalid, hmicros⟩ :=
      Instant.stamp?_eq_some (Argument.stamp_moment_ok_iff.1 htext)
    have hcount : (instant m).toNat = m.instant.civil.micros := by
      show m.instant.micros.toNat = _
      omega
    refine ⟨by rw [String.length_ofList, Civil.length_stamp], m.instant.civil, ?_, hvalid,
      hmicros, ?_⟩
    · rw [String.toList_ofList, Civil.read?_stamp hvalid]
    · rw [hcount, Civil.clock_micros hvalid]
  · intro m' text text' htext htext'
    have hm := Argument.stamp_moment_ok_iff.1 htext
    have hm' := Argument.stamp_moment_ok_iff.1 htext'
    constructor
    · rintro rfl
      exact Instant.micros_eq_of_stamp? hm hm'
    · intro heq
      have hinstant : m.instant = m'.instant := congrArg Instant.mk heq
      rw [hinstant, hm'] at hm
      exact (Option.some.inj hm).symm

/-- A moment half an hour and a microsecond behind UTC, at the end of a February in a year that is a
leap year only to the eye; the same instant in UTC; and a moment too early by a microsecond. -/
theorem stored_time_reads_back_of_century :
    let m : Moment :=
      { civil := { year := 1900, month := 2, day := 28, hour := 23, minute := 30, micro := 999999 }
        offset := some (-1800000001)
        civil_valid := by decide
        offset_small := by decide }
    let m' : Moment :=
      { civil := { year := 1900, month := 3, day := 1, second := 1 }
        civil_valid := by decide
        offset_small := by decide }
    let early : Moment :=
      { civil := Civil.first, offset := some 1, civil_valid := by decide, offset_small := by decide }
    let instant (m : Moment) : Int := m.civil.micros - m.offset.getD 0
    let stored (m : Moment) : Except Failure String := Argument.stamp standardNow (.moment m)
    let text := "1900-03-01T00:00:01.000000Z"
    stored m = .ok text ∧ text.length = 27 ∧
      (∃ c : Civil, Civil.read? text.toList = some c ∧ c.Valid ∧ (c.micros : Int) = instant m ∧
        c = Civil.clock (instant m).toNat) ∧
      stored m' = .ok text ∧ instant m = instant m' ∧
      instant early < Civil.first.micros ∧ stored early = .error .outsideCalendar := by
  intro m m' early instant stored text
  have hm : stored m = .ok text := by decide +kernel
  have hm' : stored m' = .ok text := by decide +kernel
  have hearly : instant early < Civil.first.micros := by decide +kernel
  obtain ⟨-, -, hreads, hsame⟩ := stored_time_reads_back standardNow m
  obtain ⟨-, hrefused, -, -⟩ := stored_time_reads_back standardNow early
  refine ⟨hm, (hreads text hm).1, (hreads text hm).2, hm', (hsame m' text text hm hm').1 rfl,
    hearly, hrefused fun hyears => ?_⟩
  exact absurd hyears.1 (Int.not_le.2 hearly)

/-! ## The order of bytes -/

namespace Text.Utf8

variable {a b : List Char} {c d : Char}

/-- A character of ASCII is written as the byte of its number. -/
theorem encode_ascii_cons (h : c.toNat < 128) (rest : List Char) :
    encode (c :: rest) = UInt8.ofNat c.toNat :: encode rest := by
  have hsize : c.utf8Size = 1 := by
    rw [Char.utf8Size_eq_one_iff, UInt32.le_iff_toNat_le]
    exact Nat.le_of_lt_succ h
  rw [encode, List.flatMap_cons, String.utf8EncodeChar_eq_singleton hsize]
  rfl

/-- Texts of ASCII are ordered byte by byte as they are character by character. -/
theorem encode_lt_encode_iff (ha : ∀ c ∈ a, c.toNat < 128) (hb : ∀ c ∈ b, c.toNat < 128) :
    encode a < encode b ↔ a < b := by
  induction a generalizing b with
  | nil =>
    cases b with
    | nil => simp [encode]
    | cons d ds =>
      rw [encode_ascii_cons (hb d List.mem_cons_self)]
      simp only [encode, List.flatMap_nil, List.nil_lt_cons]
  | cons c cs ih =>
    cases b with
    | nil => simp [encode]
    | cons d ds =>
      have hc := ha c List.mem_cons_self
      have hd := hb d List.mem_cons_self
      have hnumber : ∀ {x : Char}, x.toNat < 128 → (UInt8.ofNat x.toNat).toNat = x.toNat :=
        fun h => UInt8.toNat_ofNat_of_lt' (Nat.lt_trans h (by decide))
      have hlt : UInt8.ofNat c.toNat < UInt8.ofNat d.toNat ↔ c < d := by
        rw [UInt8.lt_iff_toNat_lt, hnumber hc, hnumber hd]
        exact Iff.rfl
      have heq : UInt8.ofNat c.toNat = UInt8.ofNat d.toNat ↔ c = d := by
        rw [← UInt8.toNat_inj, hnumber hc, hnumber hd, Char.toNat_inj]
      rw [encode_ascii_cons hc, encode_ascii_cons hd, List.cons_lt_cons_iff,
        List.cons_lt_cons_iff, hlt, heq, ih (fun x hx => ha x (List.mem_cons_of_mem c hx))
          fun x hx => hb x (List.mem_cons_of_mem d hx)]

end Text.Utf8

/-- A stamp is written in ASCII. -/
theorem Civil.ascii_stamp {c : Civil} {x : Char} (h : x ∈ c.stamp) : x.toNat < 128 := by
  have hdigit : ∀ {width n : Nat}, x ∈ Text.decimal width n → x.toNat < 128 := by
    intro width n hx
    have hrange := Char.isDigit_iff_toNat.1 (Text.isDigit_of_mem_decimal hx)
    exact Nat.lt_of_le_of_lt hrange.2 (by decide)
  simp only [stamp, List.append_assoc, List.cons_append, List.mem_append, List.mem_cons,
    List.not_mem_nil, or_false] at h
  rcases h with h | rfl | h | rfl | h | rfl | h | rfl | h | rfl | h | rfl | h | rfl
  all_goals first | exact hdigit h | decide

/-- Of the stored forms of two moments the one comes first whose instant comes first, when they are
compared byte by byte, and the comparison of texts is that of their bytes. -/
theorem stored_times_sort_by_instant {now a b : Moment} {s t : String}
    (hs : Argument.stamp now (.moment a) = .ok s) (ht : Argument.stamp now (.moment b) = .ok t) :
    (Text.Utf8.encode s.toList < Text.Utf8.encode t.toList ↔
        (a.civil.micros : Int) - a.offset.getD 0 < b.civil.micros - b.offset.getD 0) ∧
      (s < t ↔ Text.Utf8.encode s.toList < Text.Utf8.encode t.toList) := by
  rw [Argument.stamp_moment_ok_iff] at hs ht
  have hascii : ∀ {m : Moment} {text : String}, m.instant.stamp? = some text →
      ∀ c ∈ text.toList, c.toNat < 128 := by
    intro m text h c hc
    rw [(Instant.stamp?_eq_some h).1, String.toList_ofList] at hc
    exact Civil.ascii_stamp hc
  have hbytes := Text.Utf8.encode_lt_encode_iff (hascii hs) (hascii ht)
  rw [hbytes, ← String.lt_iff]
  exact ⟨Instant.stamp?_lt_iff hs ht, Iff.rfl⟩

/-- Two moments on either side of the year 1000, of which the one with the later clock reading is the
earlier one, since it is ahead of UTC. -/
theorem stored_times_sort_by_instant_of_ahead :
    let a : Moment :=
      { civil := { year := 1000, month := 1, day := 1, minute := 30 }
        offset := some 3600000000
        civil_valid := by decide
        offset_small := by decide }
    let b : Moment :=
      { civil :=
          { year := 999, month := 12, day := 31, hour := 23, minute := 59, second := 59
            micro := 999999 }
        civil_valid := by decide
        offset_small := by decide }
    let s := "0999-12-31T23:30:00.000000Z"
    let t := "0999-12-31T23:59:59.999999Z"
    Argument.stamp standardNow (.moment a) = .ok s ∧ Argument.stamp standardNow (.moment b) = .ok t ∧
      (Text.Utf8.encode s.toList < Text.Utf8.encode t.toList ↔
        (a.civil.micros : Int) - a.offset.getD 0 < b.civil.micros - b.offset.getD 0) ∧
      (s < t ↔ Text.Utf8.encode s.toList < Text.Utf8.encode t.toList) := by
  intro a b s t
  have hs : Argument.stamp standardNow (.moment a) = .ok s := by decide +kernel
  have ht : Argument.stamp standardNow (.moment b) = .ok t := by decide +kernel
  exact ⟨hs, ht, stored_times_sort_by_instant hs ht⟩

end DeliveryStore
