import ElementTags.Number.Exact
import ElementTags.Text.Basic

/-!
# The fewest digits that read back

A floating-point number is shown by the shortest decimal that rounds to it, and among the shortest
by the nearest. The search goes through the decimal grids from one digit upward; if a grid has a
point in the interval of the values that round to the number, one of the two neighbours of the
number on that grid is such a point.
-/

namespace ElementTags.Number

/-- A positive decimal: `digits` times ten to the power of `exponent`. -/
structure Decimal where
  digits : Nat
  exponent : Int

/-- The values that round to a number, in quarters of its unit, with the common denominator. -/
structure RoundingInterval where
  low : Nat
  value : Nat
  high : Nat
  denominator : Nat
  closed : Bool

/-- The interval of a positive number. Below a power of two the grid of numbers is finer, unless the
number is among the smallest. -/
def Binary.interval (b : Binary) : RoundingInterval :=
  let up := twoTo b.exponent.toNat
  let lower := if b.units = twoTo 52 && -1074 < b.exponent then 4 * b.units - 1 else 4 * b.units - 2
  { low := lower * up
    value := 4 * b.units * up
    high := (4 * b.units + 2) * up
    denominator := 4 * twoTo (-b.exponent).toNat
    closed := b.units % 2 = 0 }

/-- Whether `digits` times ten to the power of `exponent` lies in an interval. -/
def RoundingInterval.holds (i : RoundingInterval) (d : Decimal) : Bool :=
  let point := d.digits * i.denominator * tenTo d.exponent.toNat
  let scale := tenTo (-d.exponent).toNat
  if i.closed then i.low * scale ≤ point && point ≤ i.high * scale
  else i.low * scale < point && point < i.high * scale

/-- The grid point below the value, and twice its distance compared with the step of the grid. -/
def RoundingInterval.floorOn (i : RoundingInterval) (exponent : Int) : Nat × Ordering :=
  let num := i.value * tenTo (-exponent).toNat
  let den := i.denominator * tenTo exponent.toNat
  (num / den, compare (2 * (num % den)) den)

/-- The hit on one grid, if there is one; of two hits the nearer, and of two as near the even one.
-/
def RoundingInterval.hit? (i : RoundingInterval) (exponent : Int) : Option Decimal :=
  let (down, distance) := i.floorOn exponent
  let below : Decimal := ⟨down, exponent⟩
  let above : Decimal := ⟨down + 1, exponent⟩
  let first := distance = .lt || (distance = .eq && down % 2 = 0)
  let nearer := if first then below else above
  let farther := if first then above else below
  if i.holds nearer then some nearer else if i.holds farther then some farther else none

/-- The first hit on the grids from `exponent` downward, within a number of trials. -/
def RoundingInterval.search (i : RoundingInterval) : Nat → Int → Decimal
  | 0, exponent => ⟨(i.floorOn exponent).1, exponent⟩
  | trials + 1, exponent =>
    match i.hit? exponent with
    | some d => d
    | none => i.search trials (exponent - 1)

/-- Factors of ten are moved from the digits to the exponent. -/
def Decimal.trim (d : Decimal) : Nat → Decimal
  | 0 => d
  | trials + 1 =>
    if d.digits % 10 = 0 && d.digits ≠ 0 then trim ⟨d.digits / 10, d.exponent + 1⟩ trials else d

/-- The exponent of the first digit of a positive decimal. -/
def Decimal.leading (d : Decimal) : Int := (Nat.toDigits 10 d.digits).length - 1 + d.exponent

/-- The shortest decimal that reads back as a positive number. The search starts above the first
digit, and seventeen digits always read back. -/
def Binary.shortest (b : Binary) : Decimal :=
  let i := b.interval
  let whole := i.value / i.denominator
  let start : Int :=
    if 0 < whole then (Nat.toDigits 10 whole).length
    else -((Nat.toDigits 10 (i.denominator / i.value)).length : Int) + 1
  (i.search 19 start).trim 19

/-- Which exponents of the first digit are written without an exponent mark, and whether a whole
number keeps a zero behind the point. -/
structure FloatStyle where
  lowest : Int
  beyond : Int
  wholePoint : Bool

/-- Numbers are shown positionally from a ten-thousandth up to ten to the sixteenth, and a whole
number ends in `.0`. -/
def FloatStyle.plain : FloatStyle := ⟨-4, 16, true⟩

/-- Digits with a point behind the first `position` of them, where zeros fill the gaps. -/
def positional (wholePoint : Bool) (digits : Text) (position : Int) : Text :=
  if position ≤ 0 then '0' :: '.' :: List.replicate (-position).toNat '0' ++ digits
  else
    let before := digits.take position.toNat
    let behind := digits.drop position.toNat
    let whole := before ++ List.replicate (position.toNat - digits.length) '0'
    if behind.isEmpty then if wholePoint then whole ++ ['.', '0'] else whole
    else whole ++ '.' :: behind

/-- A first digit, the others behind a point, and an exponent of at least `width` digits with a
sign. -/
def scientific (width : Nat) (digits : Text) (exponent : Int) : Text :=
  let point := match digits with
    | first :: second :: rest => first :: '.' :: second :: rest
    | _ => digits
  let sign := if exponent < 0 then '-' else '+'
  point ++ 'e' :: sign :: Text.padLeft '0' width (Text.ofNat exponent.natAbs)

/-- The text of a positive decimal. -/
def Decimal.spell (style : FloatStyle) (d : Decimal) : Text :=
  let digits := Text.ofNat d.digits
  let leading := d.leading
  if style.lowest ≤ leading && leading < style.beyond then
    positional style.wholePoint digits (leading + 1)
  else scientific 2 digits leading

/-- The text of a floating-point number. -/
def spellFloat (style : FloatStyle) (x : Float) : Text :=
  match classify x with
  | .notANumber => "nan".toList
  | .infinite negative => (if negative then "-inf" else "inf").toList
  | .finite b =>
    let sign : Text := if b.negative then ['-'] else []
    if b.units = 0 then sign ++ (if style.wholePoint then "0.0" else "0").toList
    else sign ++ b.shortest.spell style

end ElementTags.Number
