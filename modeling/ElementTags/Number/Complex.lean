/-!
# Complex numbers

The arithmetic of complex numbers whose parts are floating-point numbers. The quotient is scaled by
the larger part of the divisor, and powers go through the polar form, except that small whole powers
are products.
-/

namespace ElementTags.Number

/-- A complex number. -/
structure Complex where
  re : Float
  im : Float

namespace Complex

/-- The sum. -/
def add (x y : Complex) : Complex := ⟨x.re + y.re, x.im + y.im⟩

/-- The difference. -/
def subtract (x y : Complex) : Complex := ⟨x.re - y.re, x.im - y.im⟩

/-- The product. -/
def multiply (x y : Complex) : Complex :=
  ⟨x.re * y.re - x.im * y.im, x.re * y.im + x.im * y.re⟩

/-- The opposite. -/
def negate (x : Complex) : Complex := ⟨-x.re, -x.im⟩

/-- Whether both parts are zero. -/
def isZero (x : Complex) : Bool := x.re == 0.0 && x.im == 0.0

/-- The quotient by a divisor that is not zero. -/
def divide? (x y : Complex) : Option Complex :=
  if y.im.abs <= y.re.abs then
    if y.re.abs == 0.0 then none
    else
      let ratio := y.im / y.re
      let scale := y.re + y.im * ratio
      some ⟨(x.re + x.im * ratio) / scale, (x.im - x.re * ratio) / scale⟩
  else if y.re.abs <= y.im.abs then
    let ratio := y.re / y.im
    let scale := y.re * ratio + y.im
    some ⟨(x.re * ratio + x.im) / scale, (x.im * ratio - x.re) / scale⟩
  else some ⟨0.0 / 0.0, 0.0 / 0.0⟩

/-- A product of `n` equal factors, by repeated squaring; `steps` bounds the squarings. -/
def powerNat (x : Complex) : Nat → Nat → Complex
  | 0, _ => ⟨1.0, 0.0⟩
  | steps + 1, n =>
    if n = 0 then ⟨1.0, 0.0⟩
    else
      let half := powerNat (x.multiply x) steps (n / 2)
      if n % 2 = 1 then x.multiply half else half

/-- The distance from zero. -/
def magnitude (x : Complex) : Float :=
  let a := x.re.abs
  let b := x.im.abs
  if a == 0.0 then b
  else if b == 0.0 then a
  else
    let (large, small) := if a < b then (b, a) else (a, b)
    let ratio := small / large
    large * (1.0 + ratio * ratio).sqrt

/-- The power by way of the polar form. -/
def powerPolar (x y : Complex) : Complex :=
  let size := x.magnitude
  let length := Float.pow size y.re
  let angle := Float.atan2 x.im x.re
  let phase := angle * y.re
  if y.im == 0.0 then ⟨length * phase.cos, length * phase.sin⟩
  else
    let length := length / (angle * y.im).exp
    let phase := phase + y.im * size.log
    ⟨length * phase.cos, length * phase.sin⟩

/-- The power; zero has no power with a negative or imaginary exponent. -/
def power? (x y : Complex) : Option Complex :=
  if y.isZero then some ⟨1.0, 0.0⟩
  else if x.isZero then
    if !(y.im == 0.0) || y.re < 0.0 then none else some ⟨0.0, 0.0⟩
  else if y.im == 0.0 && y.re == y.re.floor && y.re.abs <= 100.0 then
    let n := y.re.abs.toUInt64.toNat
    let product := powerNat x 8 n
    if 0.0 < y.re then some product else divide? ⟨1.0, 0.0⟩ product
  else some (powerPolar x y)

end Complex
end ElementTags.Number
