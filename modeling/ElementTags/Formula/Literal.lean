import ElementTags.Text.CharacterName
import ElementTags.Text.Digit
import ElementTags.Value.Number

/-!
# Literals of formulas

How texts, sequences of octets and numbers are written in formulas. A backslash in a text starts an
escape: a character given by its number or by its name, or one of the control characters. The digits
of a number may be separated by underscores.
-/

namespace ElementTags.Literal

/-! ## Characters given by numbers -/

/-- The character that stands for one that cannot stand alone. -/
def replacement : Char := '\ufffd'

/-- The character whose number is written in hexadecimal digits. -/
def hexChar? (digits : List Char) : Option Char := do
  let code ← Text.hexNumber? digits
  if 0xD800 ≤ code && code < 0xE000 then some replacement else Text.charOf? code

/-- Whether a character is a digit of a number to the base of eight. -/
def isOctal (c : Char) : Bool := '0' ≤ c && c ≤ '7'

/-- Up to three digits to the base of eight at the start of a text, and what stands behind them. -/
def octalDigits (s : Text) : Text × Text :=
  let digits := (s.take 3).takeWhile isOctal
  (digits, s.drop digits.length)

/-- The number that digits to the base of eight spell. -/
def octalNumber (digits : List Char) : Nat :=
  digits.foldl (fun n c => 8 * n + (c.toNat - '0'.toNat)) 0

/-! ## Escapes -/

/-- The character that one letter behind a backslash stands for. -/
def simpleEscape? : Char → Option Char
  | '\\' => some '\\'
  | '\'' => some '\''
  | '"' => some '"'
  | 'a' => some '\x07'
  | 'b' => some '\x08'
  | 'f' => some '\x0c'
  | 'n' => some '\n'
  | 'r' => some '\r'
  | 't' => some '\t'
  | 'v' => some '\x0b'
  | _ => none

/-- What stands behind the end of a line, if there is one at the start of a text. -/
def behindLineEnd? : Text → Option Text
  | '\r' :: '\n' :: rest => some rest
  | '\r' :: rest => some rest
  | '\n' :: rest => some rest
  | _ => none

/-- The name in braces at the start of a text, and what stands behind it. -/
def bracedName? : Text → Option (Text × Text)
  | '\x7b' :: rest =>
    match rest.dropWhile (· ≠ '\x7d') with
    | _ :: behind => some (rest.takeWhile (· ≠ '\x7d'), behind)
    | [] => none
  | _ => none

/-- The character given by a count of hexadecimal digits, and what stands behind them. -/
def hexEscape? (count : Nat) (s : Text) : Option (Text × Text) :=
  if s.length < count then none else (hexChar? (s.take count)).map fun c => ([c], s.drop count)

/-- What an escape behind its backslash stands for, and what stands behind it. A character that
starts no escape stays behind its backslash. -/
def escape? (s : Text) : Option (Text × Text) :=
  match s, behindLineEnd? s with
  | _, some rest => some ([], rest)
  | [], none => none
  | c :: rest, none =>
    if c = 'x' then hexEscape? 2 rest
    else if c = 'u' then hexEscape? 4 rest
    else if c = 'U' then hexEscape? 8 rest
    else if c = 'N' then do
      let (name, behind) ← bracedName? rest
      some ([← Text.named? name], behind)
    else if isOctal c then
      let (digits, behind) := octalDigits s
      some ([Char.ofNat (octalNumber digits)], behind)
    else some (match simpleEscape? c with
      | some meant => ([meant], rest)
      | none => (['\\', c], rest))

/-- The characters that the body of a text stands for; `steps` bounds their number. -/
def unescapeWithin : Nat → Text → Option Text
  | _, [] => some []
  | 0, _ => none
  | steps + 1, '\\' :: rest => do
    let (meant, behind) ← escape? rest
    let others ← unescapeWithin steps behind
    some (meant ++ others)
  | steps + 1, c :: rest => (unescapeWithin steps rest).map (c :: ·)

/-- The characters that the body of a text stands for. -/
def unescape? (body : Text) : Option Text := unescapeWithin body.length body

/-! ## Octets -/

/-- The octets of characters, all of which have to be letters, digits or marks of the common set. -/
def asciiOctets? (s : Text) : Option (List UInt8) :=
  s.mapM fun c => if c.toNat < 0x80 then some (UInt8.ofNat c.toNat) else none

/-- What an escape in a sequence of octets stands for, and what stands behind it. -/
def octetEscape? (s : Text) : Option (List UInt8 × Text) :=
  match s, behindLineEnd? s with
  | _, some rest => some ([], rest)
  | [], none => none
  | c :: rest, none =>
    if c = 'x' then
      if rest.length < 2 then none
      else (Text.hexNumber? (rest.take 2)).map fun n => ([UInt8.ofNat n], rest.drop 2)
    else if isOctal c then
      let (digits, behind) := octalDigits s
      some ([UInt8.ofNat (octalNumber digits)], behind)
    else
      (asciiOctets? (match simpleEscape? c with
        | some meant => [meant]
        | none => ['\\', c])).map (·, rest)

/-- The octets that the body of a literal stands for; `steps` bounds their number. -/
def octetsWithin : Nat → Text → Option (List UInt8)
  | _, [] => some []
  | 0, _ => none
  | steps + 1, '\\' :: rest => do
    let (meant, behind) ← octetEscape? rest
    let others ← octetsWithin steps behind
    some (meant ++ others)
  | steps + 1, c :: rest => do
    let first ← asciiOctets? [c]
    let others ← octetsWithin steps rest
    some (first ++ others)

/-- The octets that the body of a literal stands for. -/
def octets? (raw : Bool) (body : Text) : Option (List UInt8) :=
  if raw then asciiOctets? body else octetsWithin body.length body

/-! ## Enclosed texts -/

/-- The marks in front of a literal in quotes: whether it keeps its backslashes, whether it spells
octets, and whether it has values in it. -/
structure Marks where
  raw : Bool := false
  octets : Bool := false
  interpolated : Bool := false

/-- The marks that some letters are. -/
def Marks.ofText? (letters : Text) : Option Marks :=
  match letters.map Char.toLower with
  | [] => some {}
  | ['u'] => some {}
  | ['r'] => some { raw := true }
  | ['b'] => some { octets := true }
  | ['b', 'r'] => some { octets := true, raw := true }
  | ['r', 'b'] => some { octets := true, raw := true }
  | ['f'] => some { interpolated := true }
  | ['f', 'r'] => some { interpolated := true, raw := true }
  | ['r', 'f'] => some { interpolated := true, raw := true }
  | _ => none

/-- The quotes that enclose a literal: one character, once or three times. A literal in single
quotes ends on its line. -/
structure Quotes where
  quote : Char
  isTriple : Bool

/-- The quotes at the start of a text, and what stands behind them. -/
def Quotes.opening? : Text → Option (Quotes × Text)
  | a :: b :: c :: rest =>
    if a = b && b = c then some (⟨a, true⟩, rest) else some (⟨a, false⟩, b :: c :: rest)
  | a :: rest => some (⟨a, false⟩, rest)
  | [] => none

/-- What stands behind the closing quotes at the start of a text. -/
def Quotes.closing? (q : Quotes) : Text → Option Text
  | a :: rest =>
    if a ≠ q.quote then none
    else if q.isTriple then
      match rest with
      | b :: c :: behind => if b = a && c = a then some behind else none
      | _ => none
    else some rest
  | [] => none

/-- Whether a character ends a line. -/
def isLineEnd (c : Char) : Bool := c = '\n' || c = '\r'

/-- The body of a literal up to its closing quotes, and what stands behind them; `steps` bounds its
length. A backslash takes the next character along, or the end of the line. -/
def bodyWithin (q : Quotes) : Nat → Text → Option (Text × Text)
  | 0, _ => none
  | _, [] => none
  | steps + 1, '\\' :: '\r' :: '\n' :: rest =>
    (bodyWithin q steps rest).map fun (body, rest) => ('\\' :: '\r' :: '\n' :: body, rest)
  | steps + 1, '\\' :: c :: rest =>
    (bodyWithin q steps rest).map fun (body, rest) => ('\\' :: c :: body, rest)
  | steps + 1, c :: rest =>
    match q.closing? (c :: rest) with
    | some behind => some ([], behind)
    | none =>
      if isLineEnd c && !q.isTriple then none
      else (bodyWithin q steps rest).map fun (body, rest) => (c :: body, rest)

/-- The body of a literal up to its closing quotes, and what stands behind them. -/
def body? (q : Quotes) (s : Text) : Option (Text × Text) := bodyWithin q (s.length + 1) s

/-! ## Numbers -/

/-- Whether a character is a digit of a number to a base. -/
def isDigitOf (base : Nat) (c : Char) : Bool := (Text.hexValue? c).any (· < base)

/-- The digits at the start of a text, without the underscores in front of them, and what stands
behind them. -/
def digitRun (base : Nat) : Text → Text × Text
  | c :: rest =>
    if isDigitOf base c then
      let (digits, behind) := digitRun base rest
      (c :: digits, behind)
    else if c = '_' && rest.head?.any (isDigitOf base) then digitRun base rest
    else ([], c :: rest)
  | [] => ([], [])

/-- The number that digits to a base spell. -/
def valueOf (base : Nat) (digits : Text) : Nat :=
  digits.foldl (fun n c => base * n + (Text.hexValue? c).getD 0) 0

/-- The number to a base at the start of a text, and what stands behind it. -/
def based? (base : Nat) (s : Text) : Option (Value × Text) :=
  match digitRun base s with
  | ([], _) => none
  | (digits, behind) => some (.int (valueOf base digits), behind)

/-- The digits behind the point at the start of a text with the point, and what stands behind them.
They do not start with an underscore. -/
def fraction? (s : Text) : Option (Text × Text) :=
  match s with
  | '.' :: '_' :: _ => none
  | '.' :: rest =>
    let (digits, behind) := digitRun 10 rest
    some ('.' :: digits, behind)
  | s => some ([], s)

/-- The exponent at the start of a text, and what stands behind it. -/
def exponent (s : Text) : Text × Text :=
  let isMark (c : Char) : Bool := c = 'e' || c = 'E'
  let isSign (c : Char) : Bool := c = '+' || c = '-'
  match s with
  | mark :: a :: b :: rest =>
    if isMark mark && a.isDigit then
      let (digits, behind) := digitRun 10 (a :: b :: rest)
      ('e' :: digits, behind)
    else if isMark mark && isSign a && b.isDigit then
      let (digits, behind) := digitRun 10 (b :: rest)
      ('e' :: a :: digits, behind)
    else ([], s)
  | [mark, a] => if isMark mark && a.isDigit then (['e', a], []) else ([], s)
  | s => ([], s)

/-- The floating-point number that a text without underscores spells. -/
def float? (s : Text) : Option Float := (Text.fraction? s).map Value.floatOf

/-- The decimal number at the start of a text, and what stands behind it. A whole number does not
start with a zero, unless it is zero, and does not have too many digits. -/
def decimal? (s : Text) : Option (Value × Text) := do
  let (whole, behind) := digitRun 10 s
  let (places, behind) ← fraction? behind
  let (power, behind) := exponent behind
  let spelled := whole ++ places ++ power
  match behind with
  | mark :: rest =>
    if mark = 'j' || mark = 'J' then
      return (.complex 0.0 (← float? spelled), rest)
  | [] => pure ()
  if places.isEmpty && power.isEmpty then
    if whole.head? = some '0' && whole.any (· ≠ '0') || Text.maxDigits < whole.length then none
    else some (.int (valueOf 10 whole), behind)
  else some (.float (← float? spelled), behind)

/-- The number at the start of a text, and what stands behind it. -/
def number? (s : Text) : Option (Value × Text) :=
  match s with
  | '0' :: c :: rest =>
    if c = 'x' || c = 'X' then based? 16 rest
    else if c = 'o' || c = 'O' then based? 8 rest
    else if c = 'b' || c = 'B' then based? 2 rest
    else decimal? s
  | _ => decimal? s

end ElementTags.Literal
