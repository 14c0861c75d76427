import ElementTags.Fault
import ElementTags.Number.Exact
import ElementTags.Value.Basic

/-!
# Numbers among the values

Whole numbers, truth values and floating-point numbers take part in arithmetic and are compared by
their exact values. A decimal is compared by its exact value too, and a complex number is equal to
another number if its imaginary part is zero.
-/

namespace ElementTags

/-- A number: whole or floating-point. -/
inductive Numeric
  | whole (n : Int)
  | real (x : Float)

namespace Value

/-- The floating-point number that a numeral spells. -/
def floatOf : Text.FractionNumeral → Float
  | .finite d => Number.ofDecimal d.negative d.digits d.exponent
  | .infinity negative => Number.ofDecimal negative 1 400
  | .notANumber => 0.0 / 0.0

/-- The number that a value is; truth values are one and zero. -/
def numeric? : Value → Option Numeric
  | bool b => some (.whole (if b then 1 else 0))
  | int n => some (.whole n)
  | float x => some (.real x)
  | notANumber _ => some (.real (0.0 / 0.0))
  | _ => none

/-- The whole number that a value is; truth values are one and zero. -/
def whole? : Value → Option Int
  | bool b => some (if b then 1 else 0)
  | int n => some n
  | _ => none

end Value

namespace Numeric

/-- The order of a floating-point number and a whole number, if there is one. -/
def compareFloatInt (x : Float) (n : Int) : Option Ordering :=
  match Number.classify x with
  | .finite b => some (b.compareInt n)
  | .infinite negative => some (if negative then .lt else .gt)
  | .notANumber => none

/-- The order of two floating-point numbers, if there is one. -/
def compareFloats (x y : Float) : Option Ordering :=
  if x < y then some .lt else if y < x then some .gt else if x == y then some .eq else none

/-- The order of two numbers by their exact values, if there is one. -/
def compare? : Numeric → Numeric → Option Ordering
  | whole a, whole b => some (compare a b)
  | whole a, real y => (compareFloatInt y a).map Ordering.swap
  | real x, whole b => compareFloatInt x b
  | real x, real y => compareFloats x y

/-- Equal numbers have the same exact value. -/
def equal (a b : Numeric) : Bool := compare? a b == some .eq

/-- A number with a given real part and no imaginary one is equal to this number. -/
def equalsComplex (a : Numeric) (re im : Float) : Bool := im == 0.0 && a.equal (.real re)

end Numeric

/-! ## Decimals -/

/-- A number as the quotient of a whole number and a positive one, with signs of infinity. -/
inductive Exact
  | quotient (num : Int) (den : Nat)
  | infinite (negative : Bool)

namespace Exact

/-- A decimal with more digits in front of or behind the point than this is not compared exactly. -/
def maxScale : Nat := 6000

/-- The exact value of a decimal numeral. -/
def ofNumeral? : Text.FractionNumeral → Option Exact
  | .finite d =>
    if maxScale < d.exponent.natAbs then none
    else
      let n : Int := d.digits * tenTo d.exponent.toNat
      some (.quotient (if d.negative then -n else n) (tenTo (-d.exponent).toNat))
  | .infinity negative => some (.infinite negative)
  | .notANumber => none

/-- The exact value of a number, if it has one. -/
def ofNumeric? : Numeric → Option Exact
  | .whole n => some (.quotient n 1)
  | .real x =>
    match Number.classify x with
    | .finite b =>
      let n : Int := b.units * twoTo b.exponent.toNat
      some (.quotient (if b.negative then -n else n) (twoTo (-b.exponent).toNat))
    | .infinite negative => some (.infinite negative)
    | .notANumber => none

/-- The exact value of a value that is a number or a decimal. -/
def ofValue? : Value → Option Exact
  | .decimal s => (Text.fraction? s).bind ofNumeral?
  | v => v.numeric?.bind ofNumeric?

/-- The order of two exact values. -/
def compare : Exact → Exact → Ordering
  | quotient m d, quotient n e => Ord.compare (m * e) (n * d)
  | infinite a, infinite b => if a = b then .eq else if a then .lt else .gt
  | quotient _ _, infinite b => if b then .gt else .lt
  | infinite a, quotient _ _ => if a then .lt else .gt

end Exact

namespace Value

/-- Whether a value is a decimal. -/
def isDecimal : Value → Bool
  | decimal _ => true
  | _ => false

/-- The order of two values one of which is a decimal and the other a decimal or a number. -/
def compareDecimals? (a b : Value) : Option Ordering :=
  if a.isDecimal || b.isDecimal then do
    some ((← Exact.ofValue? a).compare (← Exact.ofValue? b))
  else none

/-! ## Conversions -/

/-- The floating-point number nearest to a number, if it is not too large. -/
def toFloat : Numeric → Except EvalFault Float
  | .real x => .ok x
  | .whole n =>
    let x := Number.ofInt n
    if x.isInf then .error .overflow else .ok x

/-- A number or decimal cut off at the point. -/
def truncated (v : Value) : Except EvalFault Int :=
  match v.numeric?, v with
  | some (.whole n), _ => .ok n
  | some (.real x), _ =>
    match Number.classify x with
    | .finite b => .ok b.truncate
    | .infinite _ => .error .overflow
    | .notANumber => .error .unsuitableValue
  | none, decimal s =>
    match Text.fraction? s with
    | some (.finite d) =>
      let magnitude : Nat :=
        if 0 ≤ d.exponent then d.digits * tenTo d.exponent.toNat
        else d.digits / tenTo (-d.exponent).toNat
      .ok (if d.negative then -magnitude else magnitude)
    | some (.infinity _) => .error .overflow
    | _ => .error .unsuitableValue
  | none, _ => .error .wrongType

/-- A number or decimal as a floating-point number. -/
def asFloat (v : Value) : Except EvalFault Float :=
  match v.numeric?, v with
  | some n, _ => toFloat n
  | none, decimal s =>
    match Text.fraction? s with
    | some n => .ok (floatOf n)
    | none => .error .unsuitableValue
  | none, _ => .error .wrongType

end Value
end ElementTags
