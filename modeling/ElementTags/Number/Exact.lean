import ElementTags.Number.Power

/-!
# Floating-point numbers as exact values

A finite floating-point number is a whole number of units times a power of two. Operations whose
results have to be exact or rounded once, whatever the size of the operands, are carried out on that
form: division of whole numbers, the remainder, and the comparison with a whole number.
-/

namespace ElementTags.Number

/-- A finite floating-point number: `units` times two to the power of `exponent`. -/
structure Binary where
  negative : Bool
  units : Nat
  exponent : Int

/-- The classes of floating-point numbers. -/
inductive Class
  | finite (value : Binary)
  | infinite (negative : Bool)
  | notANumber

/-- What the bits of a floating-point number stand for. -/
def classify (x : Float) : Class :=
  let bits := x.toBits.toNat
  let negative := decide (bits / twoTo 63 = 1)
  let field : Nat := bits / twoTo 52 % twoTo 11
  let fraction : Nat := bits % twoTo 52
  if field = 2047 then if fraction = 0 then .infinite negative else .notANumber
  else if field = 0 then .finite ⟨negative, fraction, -1074⟩
  else .finite ⟨negative, fraction + twoTo 52, (field : Int) - 1075⟩

/-- A quotient rounded to the nearest whole number, halves to the even neighbour. -/
def roundQuotient (num den : Nat) : Nat :=
  let quotient := num / den
  let twice := 2 * (num % den)
  if twice < den || (twice = den && quotient % 2 = 0) then quotient else quotient + 1

/-- The quotient of two whole numbers when the first is scaled by a power of two. -/
def scaledQuotient (num den : Nat) (power : Int) : Nat :=
  if 0 ≤ power then roundQuotient (num * twoTo power.toNat) den
  else roundQuotient num (den * twoTo (-power).toNat)

/-- Two to the power of `e` is at most the quotient of two positive whole numbers. -/
def powerAtMost (e : Int) (num den : Nat) : Bool :=
  if 0 ≤ e then den * twoTo e.toNat ≤ num else den ≤ num * twoTo (-e).toNat

/-- The floating-point number nearest to a quotient with a positive denominator, infinite when the
quotient is too large. -/
def ofQuotient (negative : Bool) (num den : Nat) : Float :=
  let magnitude : Nat :=
    if num = 0 then 0
    else
      let guess : Int := (Nat.log2 num : Int) - Nat.log2 den
      let top := if powerAtMost guess num den then guess else guess - 1
      let exponent := max (top - 52) (-1074)
      min (scaledQuotient num den (-exponent) + (exponent + 1074).toNat * twoTo 52)
        (2047 * twoTo 52)
  Float.ofBits (UInt64.ofNat (magnitude + if negative then twoTo 63 else 0))

/-- The floating-point number nearest to a whole number. -/
def ofInt (n : Int) : Float := ofQuotient (n < 0) n.natAbs 1

/-- The floating-point number nearest to `digits` times ten to the power of `exponent`. -/
def ofDecimal (negative : Bool) (digits : Nat) (exponent : Int) : Float :=
  let length : Int := (Nat.toDigits 10 digits).length
  if digits = 0 || length + exponent < -400 then ofQuotient negative 0 1
  else if 400 < length + exponent then ofQuotient negative (twoTo 1100) 1
  else if 0 ≤ exponent then ofQuotient negative (digits * tenTo exponent.toNat) 1
  else ofQuotient negative digits (tenTo (-exponent).toNat)

/-- The whole part of a finite number, rounded toward zero. -/
def Binary.truncate (b : Binary) : Int :=
  let magnitude : Nat :=
    if 0 ≤ b.exponent then b.units * twoTo b.exponent.toNat
    else b.units / twoTo (-b.exponent).toNat
  if b.negative then -(magnitude : Int) else magnitude

/-- Whether a finite number has no fractional part. -/
def Binary.isWhole (b : Binary) : Bool :=
  0 ≤ b.exponent || b.units % twoTo (-b.exponent).toNat = 0

/-- The number of units of size two to the power of `exponent` in a finite number whose own exponent
is not smaller. -/
def Binary.unitsAt (b : Binary) (exponent : Int) : Int :=
  let magnitude : Int := b.units * twoTo (b.exponent - exponent).toNat
  if b.negative then -magnitude else magnitude

/-- The order of a finite number and a whole number. -/
def Binary.compareInt (b : Binary) (n : Int) : Ordering :=
  let exponent := min b.exponent 0
  compare (b.unitsAt exponent) (n * twoTo (-exponent).toNat)

/-- The number with a given count of units of size two to the power of `exponent`. -/
def ofUnits (negative : Bool) (units : Nat) (exponent : Int) : Float :=
  if 0 ≤ exponent then ofQuotient negative (units * twoTo exponent.toNat) 1
  else ofQuotient negative units (twoTo (-exponent).toNat)

/-- The exact remainder of a division that truncates; it has the sign of the dividend. -/
def truncatedRemainder (x y : Float) : Float :=
  match classify x, classify y with
  | .finite a, .finite b =>
    if b.units = 0 then 0.0 / 0.0
    else
      let exponent := min a.exponent b.exponent
      ofUnits a.negative ((a.unitsAt exponent).natAbs % (b.unitsAt exponent).natAbs) exponent
  | .finite _, .infinite _ => x
  | _, _ => 0.0 / 0.0

/-- Zero with the sign of a number. -/
def zeroLike (x : Float) : Float :=
  match classify x with
  | .finite b => ofQuotient b.negative 0 1
  | .infinite negative => ofQuotient negative 0 1
  | .notANumber => 0.0

/-- Whether two numbers lie on different sides of zero. -/
def oppositeSigns (x y : Float) : Bool := (x < 0.0) != (y < 0.0)

/-- The remainder of a division that rounds down; it has the sign of the divisor. -/
def flooredRemainder (x y : Float) : Float :=
  let rest := truncatedRemainder x y
  if rest == 0.0 then zeroLike y
  else if oppositeSigns y rest then rest + y
  else rest

/-- The whole quotient of a division that rounds down. -/
def flooredQuotient (x y : Float) : Float :=
  let rest := truncatedRemainder x y
  let quotient := (x - rest) / y
  let adjusted := if !(rest == 0.0) && oppositeSigns y rest then quotient - 1.0 else quotient
  if adjusted == 0.0 then zeroLike (x / y)
  else
    let down := adjusted.floor
    if 0.5 < adjusted - down then down + 1.0 else down

end ElementTags.Number
