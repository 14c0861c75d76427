import ElementTags.Number.Power
import ElementTags.Text.Blank
import ElementTags.Text.Digit

/-!
# Numerals

Whole numbers and decimal fractions as they are written in a template. Digits may be of any script,
and an underscore may stand between two digits.
-/

namespace ElementTags.Text

/-- The value of a run of digits in which an underscore may stand between two digits, with the
digits read so far and their count; `pending` tells that a digit has to follow. -/
def readDigits (value count : Nat) (pending : Bool) : Text → Option (Nat × Nat)
  | [] => if pending then none else some (value, count)
  | c :: rest =>
    match digitValue? c with
    | some d => readDigits (10 * value + d) (count + 1) false rest
    | none => if c = '_' && !pending then readDigits value count true rest else none

/-- The value and the number of digits of a numeral without a sign. -/
def natural? (s : Text) : Option (Nat × Nat) := readDigits 0 0 true s

/-- A sign in front of a numeral, and the rest. -/
def splitSign : Text → Bool × Text
  | '-' :: rest => (true, rest)
  | '+' :: rest => (false, rest)
  | s => (false, s)

/-- Numerals with more digits than this are not read. -/
def maxDigits : Nat := 4300

/-- Whether a character is a blank in a text of common characters. -/
def isPlainBlank (c : Char) : Bool := c = ' ' || ('\t' ≤ c && c ≤ '\r')

/-- A numeral without the blanks around it. In a text of common characters only the common blanks
count, and otherwise all of them. -/
def trimNumeral (s : Text) : Text :=
  if s.all (·.toNat < 0x80) then
    ((s.dropWhile isPlainBlank).reverse.dropWhile isPlainBlank).reverse
  else strip s

/-- The whole number that a text spells; blanks around it are ignored. -/
def integer? (s : Text) : Option Int :=
  let (negative, digits) := splitSign (trimNumeral s)
  match natural? digits with
  | some (n, count) => if count ≤ maxDigits then some (if negative then -n else n) else none
  | none => none

/-- A decimal number: `digits` times ten to the power of `exponent`, with a sign of its own, since
zero has one too. -/
structure DecimalNumeral where
  negative : Bool
  digits : Nat
  exponent : Int

/-- A spelled floating-point number. -/
inductive FractionNumeral
  | finite (value : DecimalNumeral)
  | infinity (negative : Bool)
  | notANumber

/-- The texts before and behind the first of two characters. -/
def splitAtFirst? (isSeparator : Char → Bool) (s : Text) : Option (Text × Text) :=
  match s.span (!isSeparator ·) with
  | (before, _ :: rest) => some (before, rest)
  | (_, []) => none

/-- A run of digits that may be empty, as its value and its length. -/
def optionalDigits? (s : Text) : Option (Nat × Nat) :=
  if s.isEmpty then some (0, 0) else natural? s

/-- The number before the exponent mark: digits with at most one point, and a digit somewhere. -/
def mantissa? (s : Text) : Option (Nat × Int) :=
  match splitAtFirst? (· = '.') s with
  | none => (natural? s).map fun (n, _) => (n, 0)
  | some (whole, fraction) => do
    let (n, wholeCount) ← optionalDigits? whole
    let (f, count) ← optionalDigits? fraction
    if wholeCount + count = 0 then none
    else some (n * tenTo count + f, -(count : Int))

/-- The floating-point number that a text spells; blanks around it are ignored. -/
def fraction? (s : Text) : Option FractionNumeral :=
  let (negative, body) := splitSign (trimNumeral s)
  let plain := body.map Char.toLower
  if plain = ['i', 'n', 'f'] || plain = ['i', 'n', 'f', 'i', 'n', 'i', 't', 'y'] then
    some (.infinity negative)
  else if plain = ['n', 'a', 'n'] then some .notANumber
  else
    match splitAtFirst? (fun c => c = 'e' || c = 'E') body with
    | none => (mantissa? body).map fun (n, e) => .finite ⟨negative, n, e⟩
    | some (front, power) => do
      let (n, e) ← mantissa? front
      let (negativePower, digits) := splitSign power
      let (p, _) ← natural? digits
      some (.finite ⟨negative, n, e + (if negativePower then -(p : Int) else p)⟩)

end ElementTags.Text
