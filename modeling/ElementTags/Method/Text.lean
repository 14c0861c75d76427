import ElementTags.Method.Basic
import ElementTags.Method.Encoding
import ElementTags.Text.Identifier
import ElementTags.Text.Printable

/-!
# Methods of texts

What can be called on a text. Every method returns plain texts, whatever the text was.
-/

namespace ElementTags.TextMethod

open Method

/-! ## Splitting and replacing -/

/-- The pieces of a text between the occurrences of a separator, at most `limit` of which count. -/
def piecesBetween (separator : Text) : Nat → Text → List Text
  | 0, s => [s]
  | limit + 1, s =>
    match Text.cut? separator s with
    | some (piece, rest) => piece :: piecesBetween separator limit rest
    | none => [s]

/-- The words of a text; behind `limit` of them the rest stays together. -/
def wordsUpTo : Nat → Text → List Text
  | 0, s =>
    let rest := Text.dropBlanks s
    if rest.isEmpty then [] else [rest]
  | limit + 1, s =>
    match (Text.dropBlanks s).span (!Text.isBlank ·) with
    | ([], _) => []
    | (word, rest) => word :: wordsUpTo limit rest

/-- The parts of a text, split from its end. -/
def fromEnd (split : Text → List Text) (s : Text) : List Text :=
  ((split s.reverse).map List.reverse).reverse

/-- The number of occurrences of a pattern, which do not overlap. -/
def occurrences (pattern s : Text) : Nat :=
  if pattern.isEmpty then s.length + 1 else (piecesBetween pattern s.length s).length - 1

/-- All occurrences of `pattern`, at most `limit` of them, replaced. -/
def replaceUpTo (pattern replacement : Text) (limit : Nat) (s : Text) : Text :=
  if pattern.isEmpty then
    if limit = 0 then s
    else replacement ++ (s.take (limit - 1)).flatMap (· :: replacement) ++ s.drop (limit - 1)
  else Text.join replacement (piecesBetween pattern limit s)

/-- A limit, where a negative one means none. -/
def limitOf (s : Text) (n : Int) : Nat := if n < 0 then s.length + 1 else n.toNat

/-- A list of texts. -/
def textList (parts : List Text) : Value := .list (parts.map .text)

/-- The parts of a text between separators, or its words if no separator is given; `turned` splits
from the end. -/
def splitBy (turned : Bool) (s : Text) (arguments : List (Option Value)) :
    Except EvalFault Value := do
  let limit := limitOf s (← wholeOr (-1) arguments 1)
  match argument arguments 0 with
  | .null => pure (textList (if turned then fromEnd (wordsUpTo limit) s else wordsUpTo limit s))
  | v =>
    let separator ← asText v
    if separator.isEmpty then throw .unsuitableValue
    else if turned then
      pure (textList (fromEnd (piecesBetween separator.reverse limit) s))
    else pure (textList (piecesBetween separator limit s))

/-- Whether a character ends a line. -/
def endsLine (c : Char) : Bool :=
  [0x0A, 0x0B, 0x0C, 0x0D, 0x1C, 0x1D, 0x1E, 0x85, 0x2028, 0x2029].contains c.toNat

/-- The lines of a text, the last character first in `line`, with their ends or without. -/
def linesFrom (keepEnds : Bool) (line : Text) : Text → List Text
  | [] => if line.isEmpty then [] else [line.reverse]
  | '\r' :: '\n' :: rest =>
    (if keepEnds then '\n' :: '\r' :: line else line).reverse :: linesFrom keepEnds [] rest
  | c :: rest =>
    if endsLine c then
      (if keepEnds then c :: line else line).reverse :: linesFrom keepEnds [] rest
    else linesFrom keepEnds (c :: line) rest

/-- A text cut at the first or the last occurrence of a separator, with the separator between the
parts. -/
def partition (turned : Bool) (s : Text) (arguments : List (Option Value)) :
    Except EvalFault Value := do
  let separator ← asText (argument arguments 0)
  if separator.isEmpty then throw .unsuitableValue
  else
    let parts := if turned then
        match Text.cut? separator.reverse s.reverse with
        | some (back, front) => [front.reverse, separator, back.reverse]
        | none => [[], [], s]
      else
        match Text.cut? separator s with
        | some (front, back) => [front, separator, back]
        | none => [s, [], []]
    pure (.tuple (parts.map .text))

/-! ## Searching -/

/-- The part of a text between two bounds, and its position. -/
def windowOf (s : Text) (arguments : List (Option Value)) :
    Except EvalFault (Option (Nat × Text)) := do
  let start ← boundAt arguments 1
  let stop ← boundAt arguments 2
  pure ((window s.length start stop).map fun (first, count) => (first, (s.drop first).take count))

/-- The position of the first or the last occurrence of a text between two bounds. -/
def position? (turned : Bool) (s : Text) (arguments : List (Option Value)) :
    Except EvalFault (Option Nat) := do
  let pattern ← asText (argument arguments 0)
  match ← windowOf s arguments with
  | none => pure none
  | some (first, part) =>
    let offset :=
      if turned then
        (Text.offset? pattern.reverse part.reverse).map fun n => part.length - n - pattern.length
      else Text.offset? pattern part
    pure (offset.map (first + ·))

/-- The position of a text, or minus one. -/
def find (turned : Bool) (s : Text) (arguments : List (Option Value)) : Except EvalFault Value := do
  match ← position? turned s arguments with
  | some n => pure (.int n)
  | none => pure (.int (-1))

/-- The position of a text that has to occur. -/
def index (turned : Bool) (s : Text) (arguments : List (Option Value)) :
    Except EvalFault Value := do
  match ← position? turned s arguments with
  | some n => pure (.int n)
  | none => throw .unsuitableValue

/-- The number of occurrences of a text between two bounds. -/
def count (s : Text) (arguments : List (Option Value)) : Except EvalFault Value := do
  let pattern ← asText (argument arguments 0)
  match ← windowOf s arguments with
  | none => pure (.int 0)
  | some (_, part) => pure (.int (occurrences pattern part))

/-- Whether one of several texts fits, where those behind the first fitting one are not looked at.
-/
def anyFits (fits : Text → Bool) : List Value → Except EvalFault Bool
  | [] => .ok false
  | v :: rest => do
    if fits (← asText v) then pure true else anyFits fits rest

/-- Whether a text, between two bounds, starts or ends with a text or one of several. -/
def touches (fits : Text → Text → Bool) (s : Text) (arguments : List (Option Value)) :
    Except EvalFault Value := do
  let part ← windowOf s arguments
  let holds (pattern : Text) : Bool := part.any fun (_, part) => fits pattern part
  match argument arguments 0 with
  | .tuple items _ => (anyFits holds items).map .bool
  | v => (asText v).map fun pattern => .bool (holds pattern)

/-! ## Filling -/

/-- A field is at most so wide. -/
def widthLimit : Nat := twoTo 32

/-- The width of a field and the character that fills it. -/
def fieldOf (arguments : List (Option Value)) : Except EvalFault (Nat × Char) := do
  let width ← asWhole (argument arguments 0)
  let fill ← match argument? arguments 1 with
    | none => pure [' ']
    | some v => asText v
  match fill with
  | [c] =>
    if (twoTo 63 : Int) ≤ width then throw .overflow
    else if (widthLimit : Int) ≤ width then throw .outOfMemory
    else pure (width.toNat, c)
  | _ => throw .wrongType

/-- A text filled to a width on both sides; `before` tells how many of the missing characters stand
in front of it. -/
def filled (before : Nat → Nat → Nat) (s : Text) (arguments : List (Option Value)) :
    Except EvalFault Value := do
  let (width, fill) ← fieldOf arguments
  let missing := width - s.length
  let front := before missing width
  pure (.text (List.replicate front fill ++ s ++ List.replicate (missing - front) fill))

/-- How many of the characters that are missing to a width stand in front of a text in the middle.
-/
def middle (missing width : Nat) : Nat := missing / 2 + (if missing % 2 = 1 && width % 2 = 1 then 1
  else 0)

/-- A text with zeros behind its sign. -/
def fillZeros (s : Text) (arguments : List (Option Value)) : Except EvalFault Value := do
  let width ← asWhole (argument arguments 0)
  if (twoTo 63 : Int) ≤ width then throw .overflow
  else if (widthLimit : Int) ≤ width then throw .outOfMemory
  else
    let (sign, rest) := match s with
      | '+' :: rest => (['+'], rest)
      | '-' :: rest => (['-'], rest)
      | s => ([], s)
    pure (.text (sign ++ List.replicate (width.toNat - s.length) '0' ++ rest))

/-- A text in which each tab is filled with blanks up to the next multiple of a size. -/
def expandFrom (size : Nat) (column : Nat) : Text → Text
  | [] => []
  | '\t' :: rest =>
    if size = 0 then expandFrom size column rest
    else
      let missing := size - column % size
      List.replicate missing ' ' ++ expandFrom size (column + missing) rest
  | c :: rest =>
    c :: expandFrom size (if c = '\n' || c = '\r' then 0 else column + 1) rest

/-! ## Replacing characters -/

/-- What a table gives for a character, which stays if the table does not have it. -/
def replacement (table : Value) (c : Char) : Except EvalFault Text :=
  match Value.subscript table (.int c.toNat) with
  | .error .missingKey => .ok [c]
  | .error .indexOutOfRange => .ok [c]
  | .error fault => .error fault
  | .ok .null => .ok []
  | .ok v =>
    match v.chars?, v.whole? with
    | some s, _ => .ok s
    | none, some n =>
      if 0 ≤ n && n < 0x110000 then .ok [Char.ofNat n.toNat] else .error .unsuitableValue
    | none, none => .error .wrongType

/-- The key of a table of replacements: a number, or the number of a character. -/
def tableKey (v : Value) : Except EvalFault Value :=
  match v.chars?, v.whole? with
  | some [c], _ => .ok (.int c.toNat)
  | some _, _ => .error .unsuitableValue
  | none, some _ => .ok v
  | none, none => .error .wrongType

/-- A table of replacements: from a mapping, or from two texts of one length and a text of
characters to be left out. -/
def makeTable (arguments : List (Option Value)) : Except EvalFault Value := do
  match argument? arguments 0, argument? arguments 1, argument? arguments 2 with
  | some source, none, none =>
    match source with
    | .dict ps _ => do
      let pairs ← ps.mapM fun (k, v) => do pure (← tableKey k, v)
      pure (.dict (pairs.foldl (fun all (k, v) => Value.put all k v) []))
    | .keywords ps _ => do
      let pairs ← ps.mapM fun (k, v) => do pure (← tableKey k, v)
      pure (.dict (pairs.foldl (fun all (k, v) => Value.put all k v) []))
    | _ => throw .wrongType
  | some source, some image, dropped =>
    let front ← asText source
    let back ← asText image
    let gone ← match dropped with
      | some v => asText v
      | none => pure []
    if front.length ≠ back.length then throw .unsuitableValue
    else
      let code (c : Char) : Value := .int c.toNat
      let pairs := (front.zip back).map (fun (a, b) => (code a, code b)) ++
        gone.map fun c => (code c, Value.null)
      pure (.dict (pairs.foldl (fun all (k, v) => Value.put all k v) []))
  | _, _, _ => throw .wrongType

/-! ## Other functions -/

/-- The texts that `join` joins. -/
def joined (separator : Text) (v : Value) : Except EvalFault Value :=
  match v.items? with
  | none => .error .wrongType
  | some items => (items.mapM asText).map fun parts => .text (Text.join separator parts)

/-- A text without the characters of a set at its start, at its end or at both; no set means
blanks. -/
def stripped (atStart atEnd : Bool) (s : Text) (arguments : List (Option Value)) :
    Except EvalFault Value := do
  let isIn ← match argument arguments 0 with
    | .null => pure Text.isBlank
    | v => do
      let set ← asText v
      pure set.elem
  let s := if atStart then s.dropWhile isIn else s
  pure (.text (if atEnd then (s.reverse.dropWhile isIn).reverse else s))

/-- Whether a text is not empty and all its characters are of a class. -/
def allOf (holds : Char → Bool) (s : Text) : Value := .bool (!s.isEmpty && s.all holds)

/-- The result of filling the fields of a text when there is nothing to fill in: doubled braces
become single ones, and any field asks for what is not there. -/
def withoutFields : Text → Except EvalFault Text
  | [] => .ok []
  | '{' :: '{' :: rest => (withoutFields rest).map ('{' :: ·)
  | '}' :: '}' :: rest => (withoutFields rest).map ('}' :: ·)
  | '}' :: _ => .error .unsuitableValue
  | '{' :: rest =>
    if rest.contains '}' then
      let field := rest.takeWhile fun c => c ≠ '}' && c ≠ '!' && c ≠ ':' && c ≠ '.' && c ≠ '['
      if field.all Char.isDigit then .error .indexOutOfRange else .error .missingKey
    else .error .unsuitableValue
  | c :: rest => (withoutFields rest).map (c :: ·)

/-- The encoding and the remedy that arguments name. -/
def encodingOf (arguments : List (Option Value)) : Except EvalFault (Encoding × Text) := do
  let name ← textOr "utf-8" arguments 0
  let remedy ← textOr "strict" arguments 1
  pure (← Encoding.named name, remedy)

/-- A method that transforms a text. -/
def transforming (name : String) (f : Text → Text) : Method Text :=
  simple name fun s => .text (f s)

/-- A method that asks something of a text. -/
def asking (name : String) (f : Text → Bool) : Method Text := simple name fun s => .bool (f s)

/-- The methods that make a text from a text. -/
def transformations : List (Method Text) :=
  [ transforming "capitalize" Text.capitalize, transforming "casefold" Text.fold,
    transforming "lower" Text.lower, transforming "swapcase" Text.swapCase,
    transforming "title" Text.title, transforming "upper" Text.upper,
    reading "center" (.plain 1 2) (filled middle),
    reading "ljust" (.plain 1 2) (filled fun _ _ => 0),
    reading "rjust" (.plain 1 2) (filled fun missing _ => missing),
    reading "zfill" (.plain 1 1) fillZeros,
    reading "expandtabs" (.optional ["tabsize"]) (fun s arguments => do
      pure (.text (expandFrom (← wholeOr 8 arguments 0).toNat 0 s))),
    reading "strip" (.plain 0 1) (stripped true true),
    reading "lstrip" (.plain 0 1) (stripped true false),
    reading "rstrip" (.plain 0 1) (stripped false true),
    reading "removeprefix" (.plain 1 1) (fun s arguments => do
      pure (.text ((Text.after? (← asText (argument arguments 0)) s).getD s))),
    reading "removesuffix" (.plain 1 1) (fun s arguments => do
      let suffix ← asText (argument arguments 0)
      pure (.text (((Text.after? suffix.reverse s.reverse).map List.reverse).getD s))),
    reading "replace" (.plain 2 3) (fun s arguments => do
      let pattern ← asText (argument arguments 0)
      let replacement ← asText (argument arguments 1)
      let limit ← wholeOr (-1) arguments 2
      pure (.text (replaceUpTo pattern replacement (limitOf s limit) s))),
    reading "translate" (.plain 1 1) (fun s arguments => do
      pure (.text (← s.mapM (replacement (argument arguments 0))).flatten)),
    reading "join" (.plain 1 1) (fun s arguments => joined s (argument arguments 0)),
    reading "format" .none (fun s _ => (withoutFields s).map .text),
    reading "format_map" (.plain 1 1) (fun s _ => (withoutFields s).map .text) ]

/-- The methods that search a text or cut it into parts. -/
def searches : List (Method Text) :=
  [ reading "count" (.plain 1 3) count,
    reading "find" (.plain 1 3) (find false), reading "rfind" (.plain 1 3) (find true),
    reading "index" (.plain 1 3) (index false), reading "rindex" (.plain 1 3) (index true),
    reading "startswith" (.plain 1 3) (touches List.isPrefixOf),
    reading "endswith" (.plain 1 3) (touches List.isSuffixOf),
    reading "split" (.optional ["sep", "maxsplit"]) (splitBy false),
    reading "rsplit" (.optional ["sep", "maxsplit"]) (splitBy true),
    reading "splitlines" (.optional ["keepends"]) (fun s arguments => do
      let keepsEnds ← wholeOr 0 arguments 0
      pure (textList (linesFrom (keepsEnds ≠ 0) [] s))),
    reading "partition" (.plain 1 1) (partition false),
    reading "rpartition" (.plain 1 1) (partition true),
    reading "encode" (.optional ["encoding", "errors"]) (fun s arguments => do
      let (encoding, remedy) ← encodingOf arguments
      pure (.bytes (← encoding.encode remedy s))),
    reading "maketrans" (.plain 1 3) (fun _ arguments => makeTable arguments) ]

/-- The methods that ask something of a text. -/
def questions : List (Method Text) :=
  [ simple "isalnum" (allOf fun c => Text.isWord c && c ≠ '_'),
    simple "isalpha" (allOf Text.isLetter),
    asking "isascii" (·.all fun c => c.val < 0x80),
    simple "isdecimal" (allOf Text.isDecimal),
    simple "isdigit" (allOf Text.isDigit),
    asking "isidentifier" Text.isIdentifier,
    asking "islower" Text.isLower,
    simple "isnumeric" (allOf Text.isNumeric),
    asking "isprintable" (·.all Text.isPrintable),
    simple "isspace" (allOf Text.isBlank),
    asking "istitle" Text.isTitled,
    asking "isupper" Text.isUpper ]

/-- The methods of texts. -/
def all : List (Method Text) := transformations ++ searches ++ questions

end ElementTags.TextMethod
