import ElementTags.Number.Shortest

/-!
# Floating-point numbers with a chosen number of digits

A finite number can be written with a fixed number of places behind the point, with an exponent mark
and a fixed number of digits, or with whichever of the two is shorter. Each time the exact value is
rounded once, a half to the even neighbour.
-/

namespace ElementTags.Number

/-- A finite number without its sign, in units of ten to the power of `-places`, rounded. -/
def Binary.roundedAt (b : Binary) (places : Int) : Nat :=
  if 0 ≤ places then scaledQuotient (b.units * tenTo places.toNat) 1 b.exponent
  else scaledQuotient b.units (tenTo (-places).toNat) b.exponent

/-- The digits of a finite number without its sign in front of and behind the point, with some
number of places. -/
def Binary.fixed (b : Binary) (places : Nat) : Text × Text :=
  let digits := Text.padLeft '0' (places + 1) (Text.ofNat (b.roundedAt places))
  (digits.take (digits.length - places), digits.drop (digits.length - places))

/-- The exponent of the first digit of a finite number that is not zero. -/
def Binary.leading (b : Binary) : Int :=
  let whole := b.units * twoTo b.exponent.toNat / twoTo (-b.exponent).toNat
  if 0 < whole then (Nat.toDigits 10 whole).length - 1
  else
    let inverse := twoTo (-b.exponent).toNat / b.units
    let guess : Int := -((Nat.toDigits 10 inverse).length : Int)
    if twoTo (-b.exponent).toNat ≤ b.units * tenTo (-guess - 1).toNat then guess + 1 else guess

/-- The first `count` digits of a finite number without its sign, rounded, and the exponent of the
first one. -/
def Binary.digits (b : Binary) (count : Nat) : Text × Int :=
  if b.units = 0 then (List.replicate count '0', 0)
  else
    let leading := b.leading
    let rounded := Text.ofNat (b.roundedAt (count - 1 - leading))
    if count < rounded.length then (rounded.take count, leading + 1) else (rounded, leading)

/-- Digits without the zeros at their end. -/
def dropZeros (digits : Text) : Text := (digits.reverse.dropWhile (· = '0')).reverse

/-- Digits in front of and behind a point, which is left out if nothing stands behind it, unless it
is always shown. -/
def pointed (pointAlways : Bool) (front back : Text) : Text :=
  if back.isEmpty && !pointAlways then front else front ++ '.' :: back

/-- An exponent with its mark and sign, and at least two digits. -/
def exponentMark (exponent : Int) : Text :=
  'e' :: (if exponent < 0 then '-' else '+') :: Text.padLeft '0' 2 (Text.ofNat exponent.natAbs)

/-- A finite number without its sign, with some number of places behind the point. -/
def Binary.inPlaces (b : Binary) (places : Nat) (pointAlways : Bool) : Text :=
  let (front, back) := b.fixed places
  pointed pointAlways front back

/-- A finite number without its sign, with an exponent mark and some number of places. -/
def Binary.withExponent (b : Binary) (places : Nat) (pointAlways : Bool) : Text :=
  let (digits, exponent) := b.digits (places + 1)
  pointed pointAlways (digits.take 1) (digits.drop 1) ++ exponentMark exponent

/-- A finite number without its sign, with some number of digits: with an exponent mark if the
exponent is less than minus four or at least `beyond`. Zeros at the end are dropped unless they are
kept. -/
def Binary.withDigits (b : Binary) (count : Nat) (beyond : Int) (keepZeros : Bool) : Text :=
  let (digits, exponent) := b.digits count
  let trimmed (s : Text) : Text := if keepZeros then s else dropZeros s
  if -4 ≤ exponent && exponent < beyond then
    if exponent < 0 then
      pointed keepZeros ['0'] (trimmed (List.replicate (-exponent - 1).toNat '0' ++ digits))
    else
      let front := Text.padRight '0' (exponent + 1).toNat (digits.take (exponent + 1).toNat)
      pointed keepZeros front (trimmed (digits.drop (exponent + 1).toNat))
  else pointed keepZeros (digits.take 1) (trimmed (digits.drop 1)) ++ exponentMark exponent

/-- The letters of an exponent mark raised. -/
def raised (s : Text) : Text := s.map Char.toUpper

end ElementTags.Number
