import ElementTags.Number.Notation
import ElementTags.Value.Display
import ElementTags.Value.Equality

/-!
# Filling a text with values

The remainder operator on a text fills its conversion specifications with values: `%s` takes the
text of a value, `%d` a number, `%%` is a percent sign. A tuple gives one value to each
specification, any other value is given once, and a mapping may also be read by the names in
parentheses. Every value has to be taken, unless it could have been read by name.

The result is plain, unless it is nothing but a safe text that was put in as it is.
-/

namespace ElementTags.Value.Format

/-- The flags, width and precision of a conversion specification. -/
structure Spec where
  left : Bool := false
  plus : Bool := false
  space : Bool := false
  zero : Bool := false
  alternate : Bool := false
  width : Nat := 0
  precision : Option Nat := none

/-- The values that are still to be taken. -/
structure Supply where
  /-- The values of a tuple, or the one value. -/
  values : List Value
  /-- The mapping that names are looked up in. -/
  named : Option (List (Value × Value))
  /-- Whether values may be left over. -/
  mayRemain : Bool

/-- Whether a value is subscripted, and may therefore be left untaken. -/
def isSubscripted : Value → Bool
  | .list _ _ => true
  | .dict _ _ => true
  | .keywords _ _ => true
  | .mapping _ _ => true
  | .lazy _ _ => true
  | .bytes _ => true
  | _ => false

/-- The supply that the right operand makes. -/
def Supply.of : Value → Supply
  | .tuple items _ => ⟨items, none, false⟩
  | v => ⟨[v], v.pairs?, isSubscripted v⟩

/-- Takes the next value. -/
def Supply.next (s : Supply) : Except EvalFault (Value × Supply) :=
  match s.values with
  | v :: rest => .ok (v, { s with values := rest })
  | [] => .error .wrongType

/-- A number with its sign, filled to the width: blanks go in front of the sign or, on the left,
behind the digits; zeros go between sign and digits. -/
def Spec.fill (s : Spec) (sign body : Text) (zeros : Bool) : Text :=
  let missing := s.width - (sign.length + body.length)
  if s.left then sign ++ body ++ List.replicate missing ' '
  else if s.zero && zeros then sign ++ List.replicate missing '0' ++ body
  else List.replicate missing ' ' ++ sign ++ body

/-- The sign of a number under the flags. -/
def Spec.sign (s : Spec) (negative : Bool) : Text :=
  if negative then ['-'] else if s.plus then ['+'] else if s.space then [' '] else []

/-- A whole number in a base, with at least as many digits as the precision asks for. -/
def Spec.whole (s : Spec) (base : Nat) (mark : Text) (raised : Bool) (n : Int) : Text :=
  let digits := Nat.toDigits base n.natAbs
  let digits := if raised then Number.raised digits else digits
  let digits := Text.padLeft '0' (s.precision.getD 0) digits
  s.fill (s.sign (n < 0) ++ if s.alternate then mark else []) digits true

/-- The whole part of a number in decimal digits, if it does not have too many of them. -/
def Spec.decimal (s : Spec) (v : Value) : Except EvalFault Text := do
  let n ← v.truncated
  if n.natAbs < tooLong then pure (s.whole 10 [] false n) else throw .unsuitableValue

/-- A finite floating-point number without its sign under a conversion letter: `f` for a fixed count
of places, `e` for an exponent mark, and `g` for the shorter of the two. -/
def Spec.digits (s : Spec) (letter : Char) (b : Number.Binary) : Text :=
  let precision := s.precision.getD 6
  match letter with
  | 'f' => b.inPlaces precision s.alternate
  | 'e' => b.withExponent precision s.alternate
  | _ => b.withDigits (max 1 precision) (max 1 precision : Nat) s.alternate

/-- A floating-point number under a conversion letter. -/
def Spec.real (s : Spec) (letter : Char) (raised : Bool) (v : Value) : Except EvalFault Text := do
  let x ← v.asFloat
  let (negative, body) := match Number.classify x with
    | .notANumber => (false, "nan".toList)
    | .infinite negative => (negative, "inf".toList)
    | .finite b => (b.negative, s.digits letter b)
  pure (s.fill (s.sign negative) (if raised then Number.raised body else body) true)

/-- Whether a text is put in as it is: it is neither filled nor cut, and no sign is asked for. -/
def Spec.keeps (s : Spec) (t : Text) : Bool :=
  s.width ≤ t.length && (match s.precision with | some n => t.length ≤ n | none => true) &&
    !s.plus && !s.space

/-- A text, cut to the precision and filled to the width. -/
def Spec.shown (s : Spec) (t : Text) : Text :=
  s.fill [] (match s.precision with
    | some n => t.take n
    | none => t) false

/-- The text of a value under the letter `s`. -/
def Spec.spelled (s : Spec) (v : Value) : Except EvalFault Value :=
  v.shownValue.map fun w =>
    match w with
    | .safe t => if s.keeps t then .safe t else .text (s.shown t)
    | w => .text (s.shown w.spell)

/-- A whole number under the letters for the bases eight and sixteen. -/
def Spec.based (s : Spec) (base : Nat) (mark : Text) (raised : Bool) (v : Value) :
    Except EvalFault Text :=
  match v.whole? with
  | some n => .ok (s.whole base mark raised n)
  | none => .error .wrongType

/-- A single character, which is also given by its number. -/
def Spec.character (s : Spec) (v : Value) : Except EvalFault Text :=
  match v.chars?, v.whole? with
  | some [c], _ => .ok (s.fill [] [c] false)
  | _, some n =>
    if 0 ≤ n && n < 0x110000 then .ok (s.fill [] [Char.ofNat n.toNat] false) else .error .overflow
  | _, _ => .error .wrongType

/-- One value under a conversion letter other than `s`. -/
def Spec.convert (s : Spec) (letter : Char) (v : Value) : Except EvalFault Text :=
  match letter with
  | 'r' => v.described.map s.shown
  | 'a' => v.described.map fun t => s.shown (Text.inAscii t)
  | 'd' => s.decimal v
  | 'i' => s.decimal v
  | 'u' => s.decimal v
  | 'x' => s.based 16 ['0', 'x'] false v
  | 'X' => s.based 16 ['0', 'X'] true v
  | 'o' => s.based 8 ['0', 'o'] false v
  | 'c' => s.character v
  | 'e' => s.real 'e' false v
  | 'E' => s.real 'e' true v
  | 'f' => s.real 'f' false v
  | 'F' => s.real 'f' true v
  | 'g' => s.real 'g' false v
  | 'G' => s.real 'g' true v
  | _ => .error .unsuitableValue

/-- The flags at the start of a specification. -/
def readFlags (s : Spec) : Text → Spec × Text
  | '-' :: rest => readFlags { s with left := true } rest
  | '+' :: rest => readFlags { s with plus := true } rest
  | ' ' :: rest => readFlags { s with space := true } rest
  | '0' :: rest => readFlags { s with zero := true } rest
  | '#' :: rest => readFlags { s with alternate := true } rest
  | rest => (s, rest)

/-- The value of the decimal digits in front of a text. -/
def readCount (n : Nat) : Text → Nat × Text
  | c :: rest =>
    if c.isDigit then readCount (10 * n + (c.toNat - '0'.toNat)) rest else (n, c :: rest)
  | [] => (n, [])

/-- A width or precision of less than `limit`: digits, or a star that takes it from the values. -/
def readSize (limit : Nat) (supply : Supply) : Text → Except EvalFault (Int × Supply × Text)
  | '*' :: rest => do
    let (v, supply) ← supply.next
    match v.whole? with
    | some n => if n.natAbs < limit then pure (n, supply, rest) else throw .overflow
    | none => throw .wrongType
  | rest =>
    let (n, rest) := readCount 0 rest
    if n < limit then pure (n, supply, rest) else throw .unsuitableValue

/-- A text cannot be filled to this width or a larger one. -/
def widthLimit : Nat := twoTo 63

/-- A text cannot be filled to this width or a larger one for lack of memory. -/
def storedWidth : Nat := twoTo 32

/-- A precision is less than this. -/
def precisionLimit : Nat := twoTo 31

/-- The width of a specification; a negative one puts the value on the left. -/
def Spec.withWidth (s : Spec) (n : Int) : Spec :=
  { s with width := n.natAbs, left := s.left || n < 0 }

/-- One value under a conversion letter, as the part of the result that it makes. -/
def Spec.part (s : Spec) (letter : Char) (v : Value) : Except EvalFault Value :=
  if letter = 's' then s.spelled v else (s.convert letter v).map .text

/-- The rest of a specification behind its name: flags, width, precision, size letter and conversion
letter. The value is the named one, if there is a name, or else the next of the supply. -/
def readSpec (supply : Supply) (named : Option Value) (source : Text) :
    Except EvalFault (Value × Supply × Text) := do
  let (spec, rest) := readFlags {} source
  let (width, supply, rest) ← readSize widthLimit supply rest
  let spec := spec.withWidth width
  let (spec, supply, rest) ← match rest with
    | '.' :: more => do
      let (precision, supply, rest) ← readSize precisionLimit supply more
      pure ({ spec with precision := some precision.toNat }, supply, rest)
    | rest => pure (spec, supply, rest)
  let rest := match rest with
    | 'l' :: more => more
    | 'h' :: more => more
    | 'L' :: more => more
    | rest => rest
  match rest with
  | [] => throw .unsuitableValue
  | letter :: rest =>
    let (v, supply) ← match named with
      | some v => pure (v, supply)
      | none => supply.next
    let shown ← if spec.width < storedWidth then spec.part letter v else throw .outOfMemory
    pure (shown, supply, rest)

/-- The name in front of a specification, up to the parenthesis that closes it. -/
def readName (depth : Nat) : Text → Except EvalFault (Text × Text)
  | [] => .error .unsuitableValue
  | '(' :: rest => (readName (depth + 1) rest).map fun (name, rest) => ('(' :: name, rest)
  | ')' :: rest =>
    match depth with
    | 0 => .ok ([], rest)
    | d + 1 => (readName d rest).map fun (name, rest) => (')' :: name, rest)
  | c :: rest => (readName depth rest).map fun (name, rest) => (c :: name, rest)

/-- A specification behind its percent sign. -/
def readConversion (supply : Supply) (source : Text) : Except EvalFault (Value × Supply × Text) :=
  match source with
  | '(' :: rest => do
    let pairs ← match supply.named with
      | some pairs => pure pairs
      | none => throw .wrongType
    let (name, rest) ← readName 0 rest
    match lookup pairs (.text name) with
    | some v => readSpec { supply with mayRemain := true } (some v) rest
    | none => throw .missingKey
  | '%' :: rest => pure (.text ['%'], supply, rest)
  | source => readSpec supply none source

/-- The parts of the result, one for each conversion and each plain character; `steps` bounds their
number. -/
def partsWithin : Nat → Supply → Text → Except EvalFault (List Value)
  | 0, _, _ => .ok []
  | _ + 1, supply, [] =>
    if supply.values.isEmpty || supply.mayRemain then .ok [] else .error .wrongType
  | steps + 1, supply, '%' :: rest => do
    let (shown, supply, rest) ← readConversion supply rest
    let behind ← partsWithin steps supply rest
    pure (shown :: behind)
  | steps + 1, supply, c :: rest => do
    let behind ← partsWithin steps supply rest
    pure (.text [c] :: behind)

/-- The parts joined. A safe text at the end, with nothing in front of it, is the result itself. -/
def joinParts : List Value → Value
  | [] => .text []
  | [.safe s] => if s.isEmpty then .text [] else .safe s
  | part :: rest =>
    if part.spell.isEmpty then joinParts rest
    else .text ((part :: rest).flatMap Value.spell)

/-- A text filled with a value, or with the values of a tuple. -/
def fill (pattern : Text) (v : Value) : Except EvalFault Value :=
  (partsWithin (pattern.length + 1) (Supply.of v) pattern).map joinParts

/-- A safe text filled with a value. Where there is nothing to fill in, it is the result itself. -/
def fillSafe (pattern : Text) (v : Value) : Except EvalFault Value :=
  (fill pattern v).map fun filled =>
    if pattern.isEmpty || pattern.contains '%' then filled else .safe pattern

end ElementTags.Value.Format
