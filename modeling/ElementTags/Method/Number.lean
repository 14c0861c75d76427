import ElementTags.Method.Basic
import ElementTags.Text.Quoted

/-!
# Methods and parts of numbers

Numbers have parts, which are had without a call, and methods that count bits, give a number as a
fraction, or write it as octets or in hexadecimal digits.
-/

namespace ElementTags.NumberMethod

open Method

/-! ## Parts -/

/-- The part of a whole number that has a name. -/
def wholePart? (n : Int) (name : Text) : Option Value :=
  if name = "real".toList || name = "numerator".toList then some (.int n)
  else if name = "imag".toList then some (.int 0)
  else if name = "denominator".toList then some (.int 1)
  else none

/-- The part of a floating-point number that has a name. -/
def realPart? (v : Value) (name : Text) : Option Value :=
  if name = "real".toList then some v
  else if name = "imag".toList then some (.float 0.0)
  else none

/-- The part of a complex number that has a name. -/
def complexPart? (re im : Float) (name : Text) : Option Value :=
  if name = "real".toList then some (.float re)
  else if name = "imag".toList then some (.float im)
  else none

/-! ## Whole numbers -/

/-- The number of binary digits. -/
def bitLength (n : Int) : Nat := if n = 0 then 0 else Nat.log2 n.natAbs + 1

/-- The number of ones among the binary digits. -/
def bitCount (n : Int) : Nat := (Nat.toDigits 2 n.natAbs).count '1'

/-- The octets of a natural number, of which there are `count`, the last one first. -/
def octetsOf : Nat → Nat → List UInt8
  | 0, _ => []
  | count + 1, n => UInt8.ofNat (n % 256) :: octetsOf count (n / 256)

/-- Whether the last octet comes first. -/
def isLittle (order : Option Value) : Except EvalFault Bool :=
  match order with
  | none => .ok false
  | some v => do
    let s ← asText v
    if s = "little".toList then pure true
    else if s = "big".toList then pure false
    else throw .unsuitableValue

/-- Octets are written for numbers of at most so many. -/
def maxOctets : Nat := twoTo 24

/-- The octets of a whole number, of which there are as many as asked for. -/
def toOctets (n : Int) (arguments : List (Option Value)) : Except EvalFault Value := do
  let count ← wholeOr 1 arguments 0
  let little ← isLittle (argument? arguments 1)
  let signed := (argument arguments 2).isTruthy
  if count < 0 then throw .unsuitableValue
  else if (maxOctets : Int) < count then throw .outOfMemory
  else
    let size : Int := twoTo (8 * count.toNat)
    let fits := if signed then -size ≤ 2 * n && 2 * n < size else 0 ≤ n && n < size
    if fits then
      let octets := octetsOf count.toNat (n % size).toNat
      pure (.bytes (if little then octets else octets.reverse))
    else throw .overflow

/-- Octets given by a sequence of octets, or by their numbers. -/
def octetsIn (v : Value) : Except EvalFault (List UInt8) :=
  match v, v.anyChars?, v.items? with
  | .bytes octets, _, _ => .ok octets
  | _, none, some items =>
    items.mapM fun item => do
      let n ← asWhole item
      if 0 ≤ n && n < 256 then pure (UInt8.ofNat n.toNat) else throw .unsuitableValue
  | _, _, _ => .error .wrongType

/-- The whole number that octets give, the most significant one of which comes first. -/
def ofOctets (signed : Bool) (octets : List UInt8) : Int :=
  let n := octets.foldl (fun n o => 256 * n + o.toNat) 0
  let size := twoTo (8 * octets.length)
  if signed && size ≤ 2 * n then (n : Int) - size else n

/-- The whole number that octets give, as arguments ask for. -/
def fromOctets (arguments : List (Option Value)) : Except EvalFault Value := do
  let little ← isLittle (argument? arguments 1)
  let octets ← octetsIn (argument arguments 0)
  let signed := (argument arguments 2).isTruthy
  pure (.int (ofOctets signed (if little then octets.reverse else octets)))

/-- The methods of whole numbers. -/
def ofWhole : List (Method Int) :=
  [ simple "bit_length" (fun n => .int (bitLength n)),
    simple "bit_count" (fun n => .int (bitCount n)),
    simple "conjugate" (fun n => .int n),
    simple "as_integer_ratio" (fun n => .tuple [.int n, .int 1]),
    reading "to_bytes" ⟨["length", "byteorder", "signed"], 0, 2⟩ toOctets,
    reading "from_bytes" ⟨["bytes", "byteorder", "signed"], 1, 2⟩ fun _ => fromOctets ]

/-! ## Floating-point numbers -/

/-- A floating-point number as a fraction in lowest terms. -/
def ratioOf (x : Float) : Except EvalFault Value :=
  match Number.classify x with
  | .finite b =>
    let num := b.units * twoTo b.exponent.toNat
    let den := twoTo (-b.exponent).toNat
    let common := Nat.gcd num den
    let magnitude : Int := (num / common : Nat)
    .ok (.tuple [.int (if b.negative then -magnitude else magnitude), .int (den / common : Nat)])
  | .infinite _ => .error .overflow
  | .notANumber => .error .unsuitableValue

/-- A floating-point number in hexadecimal digits, of which thirteen stand behind the point. -/
def hexOf (x : Float) : Text :=
  match Number.classify x with
  | .infinite negative => (if negative then "-inf" else "inf").toList
  | .notANumber => "nan".toList
  | .finite b =>
    let sign : Text := if b.negative then ['-'] else []
    if b.units = 0 then sign ++ "0x0.0p+0".toList
    else
      let front : Char := if b.units < twoTo 52 then '0' else '1'
      let exponent := b.exponent + 52
      let mark : Text := if exponent < 0 then ['p', '-'] else ['p', '+']
      sign ++ '0' :: 'x' :: front :: '.' :: Text.hexDigits 13 (b.units % twoTo 52) ++ mark ++
        Text.ofNat exponent.natAbs

/-- The hexadecimal digits of a text up to an exponent mark: the number that they spell, and how
many of them stand behind the point. -/
def hexMantissa? (s : Text) : Option (Nat × Nat) := do
  let (whole, fraction) := (Text.splitAtFirst? (· = '.') s).getD (s, [])
  let n ← Text.hexNumber? (whole ++ fraction)
  if whole.isEmpty && fraction.isEmpty then none else some (n, fraction.length)

/-- An exponent: decimal digits with an optional sign. -/
def hexExponent? (s : Text) : Option Int :=
  let (negative, digits) := Text.splitSign s
  if !digits.isEmpty && digits.all Char.isDigit then
    (Text.natural? digits).map fun (n, _) => if negative then -(n : Int) else n
  else none

/-- The floating-point number that is so many units of a power of two. No number is too small, but
one can be too large. -/
def ofHexUnits (negative : Bool) (units : Nat) (exponent : Int) : Except EvalFault Value :=
  let top : Int := Nat.log2 units + exponent
  if units = 0 || top < -1100 then .ok (.float (Number.ofUnits negative 0 0))
  else if 1024 ≤ top then .error .overflow
  else
    let x := Number.ofUnits negative units exponent
    if x.isInf then .error .overflow else .ok (.float x)

/-- The number that a text spells in hexadecimal digits, which may have a mark in front of them. -/
def ofHexDigits (negative : Bool) (s : Text) : Except EvalFault Value :=
  let digits := match s with
    | '0' :: 'x' :: rest => rest
    | s => s
  let (front, exponent?) := match Text.splitAtFirst? (· = 'p') digits with
    | some (front, exponent) => (front, hexExponent? exponent)
    | none => (digits, some 0)
  match hexMantissa? front, exponent? with
  | some (units, places), some exponent =>
    ofHexUnits negative units (exponent - 4 * (places : Int))
  | _, _ => .error .unsuitableValue

/-- The number that a text spells in hexadecimal digits; blanks around it do not matter. -/
def ofHex (s : Text) : Except EvalFault Value :=
  let trimmed := ((s.dropWhile Text.isPlainBlank).reverse.dropWhile Text.isPlainBlank).reverse
  let (negative, body) := Text.splitSign (trimmed.map Char.toLower)
  if body = "inf".toList || body = "infinity".toList then
    .ok (.float (if negative then -1.0 / 0.0 else 1.0 / 0.0))
  else if body = "nan".toList then .ok (.float (0.0 / 0.0))
  else ofHexDigits negative body

/-- Whether a floating-point number has no fractional part. -/
def isWhole (x : Float) : Bool :=
  match Number.classify x with
  | .finite b => b.isWhole
  | _ => false

/-- The methods of floating-point numbers. -/
def ofReal : List (Method Float) :=
  [ reading "as_integer_ratio" .none (fun x _ => ratioOf x),
    simple "conjugate" .float,
    simple "hex" (fun x => .text (hexOf x)),
    reading "fromhex" (.plain 1 1) (fun _ arguments => do ofHex (← asText (argument arguments 0))),
    simple "is_integer" (fun x => .bool (isWhole x)) ]

/-- The methods of complex numbers. -/
def ofComplex : List (Method (Float × Float)) :=
  [simple "conjugate" fun (re, im) => .complex re (-im)]

end ElementTags.NumberMethod
