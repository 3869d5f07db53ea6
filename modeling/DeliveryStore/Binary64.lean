import DeliveryStore.Text.Numeral

/-!
# Binary floating-point numbers as text

A number is kept as the 64 bits of its binary form. Its text is the shortest decimal that reads
back as the same bits, the nearest such if there are two, positional from 0.0001 up to 10^16 and
with an exponent otherwise. All arithmetic is exact, on natural numbers.
-/

namespace DeliveryStore

/-- A floating-point number of 64 bits. -/
structure Binary64 where
  bits : UInt64
deriving DecidableEq, Repr

namespace Binary64

/-- The number of different fractions, of 52 bits. -/
def fractions : Nat := Nat.pow 2 52

/-- The number of different exponents, of eleven bits. -/
def exponents : Nat := Nat.pow 2 11

/-- The sign bit. -/
def negative (x : Binary64) : Bool := fractions * exponents ≤ x.bits.toNat

/-- The eleven bits of the exponent. -/
def exponentBits (x : Binary64) : Nat := x.bits.toNat / fractions % exponents

/-- The 52 bits of the fraction. -/
def fractionBits (x : Binary64) : Nat := x.bits.toNat % fractions

/-- Zero of either sign. -/
def isZero (x : Binary64) : Bool := x.exponentBits == 0 && x.fractionBits == 0

/-- The magnitude of a finite number is `m * 2 ^ q`, with this `m`. -/
def significand (x : Binary64) : Nat :=
  if x.exponentBits = 0 then x.fractionBits else x.fractionBits + fractions

/-- The magnitude of a finite number is `m * 2 ^ q`, with this `q`. -/
def exponent (x : Binary64) : Int := (max x.exponentBits 1 : Nat) - 1075

/-- The positive rational `num / den`. -/
structure Ratio where
  num : Nat
  den : Nat

/-- `b ^ e` as a ratio. -/
def Ratio.power (b : Nat) (e : Int) : Ratio := ⟨Nat.pow b e.toNat, Nat.pow b (-e).toNat⟩

/-- The number of decimal digits. -/
def digitCount (n : Nat) : Nat := (Nat.toDigits 10 n).length

/-- The least `e` with `r < 10 ^ e`. -/
def decimalPlaces (r : Ratio) : Int :=
  let e : Int := digitCount r.num - digitCount r.den
  let p := Ratio.power 10 e
  if r.num * p.den < p.num * r.den then e else e + 1

/-- The reals that round to a number, in quarters of its last place: from `low` to `high` about
`mid`, the ends included if `closed`; `unit` is a quarter of the last place. -/
structure Interval where
  low : Nat
  mid : Nat
  high : Nat
  closed : Bool
  unit : Ratio

/-- The interval of a finite number that is not zero. Below a power of two the numbers lie twice as
dense. -/
def interval (x : Binary64) : Interval :=
  let m := x.significand
  let low := if x.fractionBits = 0 ∧ 1 < x.exponentBits then 4 * m - 1 else 4 * m - 2
  ⟨low, 4 * m, 4 * m + 2, m % 2 == 0, Ratio.power 2 (x.exponent - 2)⟩

/-- Whether `c * 10 ^ t` lies in the interval. -/
def Interval.holds (i : Interval) (c : Nat) (t : Int) : Bool :=
  let p := Ratio.power 10 t
  let here := c * p.num * i.unit.den
  let low := i.low * i.unit.num * p.den
  let high := i.high * i.unit.num * p.den
  if i.closed then low ≤ here && here ≤ high else low < here && here < high

/-- The nearest `c` with `c * 10 ^ t` in the interval, an even one of two. -/
def Interval.nearest? (i : Interval) (t : Int) : Option Nat :=
  let p := Ratio.power 10 t
  let num := i.mid * i.unit.num * p.den
  let den := p.num * i.unit.den
  let c := num / den
  let rest := 2 * (num % den)
  let up := den < rest ∨ (den = rest ∧ c % 2 = 1)
  match i.holds c t, i.holds (c + 1) t with
  | true, true => some (if up then c + 1 else c)
  | true, false => some c
  | false, true => some (c + 1)
  | false, false => none

/-- The first grid of decimals that has a point in the interval, grids getting finer. -/
def Interval.shortest (i : Interval) (t : Int) : Nat → Nat × Int
  | 0 => (0, 0)
  | steps + 1 =>
    match i.nearest? t with
    | some c => (c, t)
    | none => i.shortest (t - 1) steps

/-- Seventeen digits tell all numbers apart. -/
def enoughDigits : Nat := 17

/-- The digits of the shortest decimal, with no zeros at the end, and the place of the point: the
magnitude is `0.d₁d₂… * 10 ^ place`. -/
def shortestDigits (x : Binary64) : List Char × Int :=
  let i := x.interval
  let places := decimalPlaces ⟨i.mid * i.unit.num, i.unit.den⟩
  let (c, t) := i.shortest (places - 1) enoughDigits
  let digits := Nat.toDigits 10 c
  ((digits.reverse.dropWhile (· == '0')).reverse, t + digits.length)

/-- Digits with the point at `place`: positional from 0.0001 up to 10^16, otherwise with a signed
exponent of at least two digits. -/
def layout (digits : List Char) (place : Int) : List Char :=
  if -4 < place ∧ place ≤ 0 then
    '0' :: '.' :: List.replicate (-place).toNat '0' ++ digits
  else if 0 < place ∧ place ≤ 16 then
    let n := place.toNat
    let whole := digits.take n
    let rest := digits.drop n
    whole ++ List.replicate (n - whole.length) '0' ++ '.' :: (if rest.isEmpty then ['0'] else rest)
  else
    let e := place - 1
    let size := Nat.toDigits 10 e.natAbs
    let mantissa := match digits with
      | d :: rest => if rest.isEmpty then [d] else d :: '.' :: rest
      | [] => ['0']
    mantissa ++ 'e' :: (if e < 0 then '-' else '+') ::
      ((if size.length < 2 then ['0'] else []) ++ size)

/-- The text of a number. -/
def text (x : Binary64) : String :=
  let sign := if x.negative then "-" else ""
  if x.exponentBits = exponents - 1 then
    if x.fractionBits = 0 then sign ++ "inf" else "nan"
  else if x.isZero then sign ++ "0.0"
  else
    let (digits, place) := x.shortestDigits
    sign ++ String.ofList (layout digits place)

/-- The text of a number in base sixteen, with all thirteen digits of its fraction. -/
def hexText (x : Binary64) : String :=
  let sign := if x.negative then "-" else ""
  let digits := String.ofList (Text.hexadecimal 13 x.fractionBits)
  let signed (e : Int) : String := if e < 0 then Text.wholeNumber e else "+" ++ Text.wholeNumber e
  if x.exponentBits = exponents - 1 then
    if x.fractionBits = 0 then sign ++ "inf" else "nan"
  else if x.isZero then sign ++ "0x0.0p+0"
  else if x.exponentBits = 0 then sign ++ "0x0." ++ digits ++ "p-1022"
  else sign ++ "0x1." ++ digits ++ "p" ++ signed ((x.exponentBits : Int) - 1023)

end Binary64

end DeliveryStore
