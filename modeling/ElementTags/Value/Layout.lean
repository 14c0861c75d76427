import ElementTags.Number.Notation
import ElementTags.Text.Numeral
import ElementTags.Value.Display
import ElementTags.Value.Number

/-!
# Layouts

A layout tells how a value is shown in a field: with which fill and at which side of the field, with
which sign, in which base or notation, with how many digits, and with which separators between the
digits. It is written as a short text such as `>8.2f`. Texts, whole numbers and floating-point
numbers can be laid out; every other value has only its plain text.
-/

namespace ElementTags

/-- A layout. -/
structure Layout where
  fill : Char := ' '
  align : Option Char := none
  sign : Option Char := none
  noNegativeZero : Bool := false
  alternate : Bool := false
  width : Nat := 0
  grouping : Option Char := none
  precision : Option Nat := none
  kind : Option Char := none

namespace Layout

/-! ## Reading -/

/-- Whether a character names a side of a field. -/
def isAlign (c : Char) : Bool := c = '<' || c = '>' || c = '=' || c = '^'

/-- The fill and the side at the start of a layout. -/
def readAlign (l : Layout) : Text → Layout × Bool × Bool × Text
  | fill :: align :: rest =>
    if isAlign align then ({ l with fill := fill, align := some align }, true, true, rest)
    else if isAlign fill then ({ l with align := some fill }, false, true, align :: rest)
    else (l, false, false, fill :: align :: rest)
  | [align] => if isAlign align then ({ l with align := some align }, false, true, [])
    else (l, false, false, [align])
  | [] => (l, false, false, [])

/-- The sign at the start of a layout. -/
def readSign (l : Layout) : Text → Layout × Text
  | c :: rest =>
    if c = '+' || c = '-' || c = ' ' then ({ l with sign := some c }, rest) else (l, c :: rest)
  | [] => (l, [])

/-- One character at the start of a layout, if it stands there. -/
def readMark (mark : Char) : Text → Bool × Text
  | c :: rest => if c = mark then (true, rest) else (false, c :: rest)
  | [] => (false, [])

/-- The digits at the start of a layout, as a number. -/
def readCount (s : Text) : Option Nat × Text :=
  let digits := s.takeWhile Text.isDecimal
  ((Text.natural? digits).map (·.1), s.dropWhile Text.isDecimal)

/-- A size is at most this. -/
def maxSize : Nat := twoTo 31

/-- The separators between digits at the start of a layout. -/
def readGrouping (l : Layout) : Text → Except EvalFault (Layout × Text)
  | ',' :: rest =>
    match rest with
    | ',' :: _ => .error .unsuitableValue
    | '_' :: _ => .error .unsuitableValue
    | rest => .ok ({ l with grouping := some ',' }, rest)
  | '_' :: rest =>
    match rest with
    | ',' :: _ => .error .unsuitableValue
    | '_' :: _ => .error .unsuitableValue
    | rest => .ok ({ l with grouping := some '_' }, rest)
  | rest => .ok (l, rest)

/-- The precision at the start of a layout, which needs a digit behind its point. -/
def readPrecision (l : Layout) : Text → Except EvalFault (Layout × Text)
  | '.' :: rest =>
    match readCount rest with
    | (some n, rest) =>
      if n < maxSize then .ok ({ l with precision := some n }, rest) else .error .unsuitableValue
    | (none, _) => .error .unsuitableValue
  | rest => .ok (l, rest)

/-- The layout that a text spells, for values that stand on the right side of a field or not unless
something else is said. -/
def ofText (onRight : Bool) (s : Text) : Except EvalFault Layout := do
  let (l, hasFill, hasAlign, rest) := readAlign {} s
  let (l, rest) := readSign l rest
  let (noNegativeZero, rest) := readMark 'z' rest
  let (alternate, rest) := readMark '#' rest
  let (zero, rest) := if hasFill then (false, rest) else readMark '0' rest
  let l := { l with noNegativeZero := noNegativeZero, alternate := alternate }
  let l :=
    if zero then
      { l with fill := '0', align := if !hasAlign && onRight then some '=' else l.align }
    else l
  let (width, rest) := readCount rest
  let l := { l with width := width.getD 0 }
  if maxSize ≤ l.width then throw .unsuitableValue
  else
    let (l, rest) ← readGrouping l rest
    let (l, rest) ← readPrecision l rest
    match rest with
    | [] => pure l
    | [c] => pure { l with kind := some c }
    | _ => throw .unsuitableValue

/-! ## Laying out -/

/-- A sign and what follows it in a field of a layout. -/
def place (l : Layout) (align : Char) (sign body : Text) : Text :=
  let missing := l.width - (sign.length + body.length)
  let fill (n : Nat) : Text := List.replicate n l.fill
  match l.align.getD align with
  | '<' => sign ++ body ++ fill missing
  | '^' => fill (missing / 2) ++ sign ++ body ++ fill (missing - missing / 2)
  | '=' => sign ++ fill missing ++ body
  | _ => fill missing ++ sign ++ body

/-- A text in a field. -/
def ofString (l : Layout) (s : Text) : Except EvalFault Text :=
  if l.sign.isSome || l.alternate || l.grouping.isSome || l.noNegativeZero || l.align = some '=' ||
      l.kind.any (· ≠ 's') then .error .unsuitableValue
  else .ok (l.place '<' [] (match l.precision with | some n => s.take n | none => s))

/-- Digits in groups of some size, the last one full; `digits` come last digit first. -/
def groupsOf (size : Nat) (separator : Char) : Nat → Text → Text
  | _, [] => []
  | n, c :: rest =>
    if n = size then separator :: c :: groupsOf size separator 1 rest
    else c :: groupsOf size separator (n + 1) rest

/-- Digits with separators. -/
def grouped (size : Nat) (separator : Char) (digits : Text) : Text :=
  (groupsOf size separator 0 digits.reverse).reverse

/-- The number of digits with which a text with separators is at least as long as `width`. -/
def digitsFor (size width : Nat) : Nat :=
  if width = 0 then 0 else width - width / (size + 1) + (if width % (size + 1) = 0 then 1 else 0)

/-- The digits in front of the point with the separators of a layout; if the field is filled with
zeros behind the sign, they are grouped too. `others` is the length of everything else. -/
def front (l : Layout) (size others : Nat) (digits : Text) : Text :=
  match l.grouping with
  | none => digits
  | some separator =>
    let padded :=
      if l.fill = '0' && l.align = some '=' then
        Text.padLeft '0' (digitsFor size (l.width - others)) digits
      else digits
    let shown := grouped size separator padded
    if shown.head? = some separator then shown.drop 1 else shown

/-- The sign of a number. -/
def signOf (l : Layout) (negative : Bool) : Text :=
  if negative then ['-']
  else match l.sign with
    | some '+' => ['+']
    | some ' ' => [' ']
    | _ => []

/-- A whole number to a base, behind a mark. -/
def inBase (l : Layout) (base size : Nat) (mark : Text) (raised : Bool) (n : Int) : Text :=
  let digits := Nat.toDigits base n.natAbs
  let digits := if raised then Number.raised digits else digits
  let sign := l.signOf (n < 0) ++ if l.alternate then mark else []
  l.place '>' sign (l.front size sign.length digits)

/-- The digits of a finite number in front of the point, and the point with what follows. -/
def splitPoint (s : Text) : Text × Text := (s.takeWhile Char.isDigit, s.dropWhile Char.isDigit)

/-- A number with a point behind its leading digits, if it has none yet. -/
def withPoint (s : Text) : Text :=
  if s.contains '.' then s else (splitPoint s).1 ++ '.' :: (splitPoint s).2

/-- A finite number without its sign in the notation of a layout. -/
def digits (l : Layout) (letter : Option Char) (b : Number.Binary) : Text :=
  match letter with
  | none =>
    match l.precision with
    | none =>
      if b.units = 0 then ['0', '.', '0']
      else
        let shown := b.shortest.spell Number.FloatStyle.plain
        if l.alternate then withPoint shown else shown
    | some p =>
      let shown := b.withDigits (max 1 p) ((max 1 p : Nat) - 1) l.alternate
      if shown.all Char.isDigit then shown ++ ['.', '0'] else shown
  | some letter =>
    let precision := l.precision.getD 6
    match letter with
    | 'f' => b.inPlaces precision l.alternate
    | 'e' => b.withExponent precision l.alternate
    | _ => b.withDigits (max 1 precision) (max 1 precision : Nat) l.alternate

/-- A finite number without its sign as a percentage. -/
def percentage (l : Layout) (x : Float) : Text :=
  match Number.classify (x * 100.0) with
  | .finite b => b.inPlaces (l.precision.getD 6) l.alternate ++ ['%']
  | .infinite _ => "inf%".toList
  | .notANumber => "nan%".toList

/-- Whether a number without its sign is shown as zero. -/
def showsZero (s : Text) : Bool :=
  s.all fun c => c = '0' || c = '.' || c = 'e' || c = '+' || c = '%'

/-- A floating-point number in a notation, with raised letters or not. -/
def ofReal (l : Layout) (letter : Option Char) (raised : Bool) (x : Float) : Text :=
  let (negative, body) := match Number.classify x with
    | .notANumber => (false, if letter = some '%' then "nan%".toList else "nan".toList)
    | .infinite negative => (negative, if letter = some '%' then "inf%".toList else "inf".toList)
    | .finite b =>
      (b.negative, if letter = some '%' then l.percentage x else l.digits letter b)
  let sign := l.signOf (negative && !(l.noNegativeZero && showsZero body))
  let body := if raised then Number.raised body else body
  let (whole, rest) := splitPoint body
  let shown := if whole.isEmpty then [] else l.front 3 (sign.length + rest.length) whole
  l.place '>' sign (shown ++ rest)

/-- A floating-point number under a letter that names a notation. -/
def ofFloat (l : Layout) (x : Float) : Except EvalFault Text :=
  match l.kind with
  | none => .ok (l.ofReal none false x)
  | some 'e' => .ok (l.ofReal (some 'e') false x)
  | some 'E' => .ok (l.ofReal (some 'e') true x)
  | some 'f' => .ok (l.ofReal (some 'f') false x)
  | some 'F' => .ok (l.ofReal (some 'f') true x)
  | some 'g' => .ok (l.ofReal (some 'g') false x)
  | some 'G' => .ok (l.ofReal (some 'g') true x)
  | some 'n' => if l.grouping.isSome then .error .unsuitableValue
    else .ok (l.ofReal (some 'g') false x)
  | some '%' => .ok (l.ofReal (some '%') false x)
  | some _ => .error .unsuitableValue

/-- Whether a letter names a notation of floating-point numbers. -/
def isRealKind (c : Char) : Bool := ['e', 'E', 'f', 'F', 'g', 'G', '%'].contains c

/-- A whole number under a letter that names a base or a notation. -/
def ofInt (l : Layout) (n : Int) : Except EvalFault Text :=
  if l.kind.any isRealKind then do l.ofFloat (← Value.toFloat (.whole n))
  else if l.precision.isSome || l.noNegativeZero then .error .unsuitableValue
  else
    let inDecimal : Except EvalFault Text :=
      if n.natAbs < Value.tooLong then .ok (l.inBase 10 3 [] false n) else .error .unsuitableValue
    match l.kind with
    | none => inDecimal
    | some 'd' => inDecimal
    | some 'n' => if l.grouping.isSome then .error .unsuitableValue else inDecimal
    | some 'c' =>
      if l.sign.isSome || l.alternate || l.grouping.isSome then .error .unsuitableValue
      else if 0 ≤ n && n < 0x110000 then .ok (l.place '>' [] [Char.ofNat n.toNat])
      else .error .overflow
    | some c =>
      if l.grouping = some ',' then .error .unsuitableValue
      else match c with
        | 'b' => .ok (l.inBase 2 4 ['0', 'b'] false n)
        | 'o' => .ok (l.inBase 8 4 ['0', 'o'] false n)
        | 'x' => .ok (l.inBase 16 4 ['0', 'x'] false n)
        | 'X' => .ok (l.inBase 16 4 ['0', 'X'] true n)
        | _ => .error .unsuitableValue

end Layout

/-- The text of a value under a layout; without a layout it is the plain text. -/
def Value.laidOut (v : Value) (layout : Text) : Except EvalFault Text :=
  if layout.isEmpty then v.shown
  else
    match v.chars?, v.numeric? with
    | some s, _ => do (← Layout.ofText false layout).ofString s
    | none, some (.whole n) => do (← Layout.ofText true layout).ofInt n
    | none, some (.real x) => do (← Layout.ofText true layout).ofFloat x
    | none, none => .error .wrongType

end ElementTags
