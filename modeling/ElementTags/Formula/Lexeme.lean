import ElementTags.Formula.Literal
import ElementTags.Formula.Tree
import ElementTags.Text.Identifier
import ElementTags.Text.Normal
import ElementTags.Text.Quoted

/-!
# Lexemes of formulas

A formula is the code of an expression in parentheses. Its lexemes are words, names, numbers, texts
in quotes and operators; blanks, line ends within brackets and comments between them are skipped. A
text with values in it has the lexemes of the values among its parts.
-/

namespace ElementTags

/-- The lexemes of formulas. -/
inductive Lexeme
  /-- A reserved word, which is no name. -/
  | word (s : Text)
  | name (s : Text)
  | number (v : Value)
  | text (s : Text)
  | octets (octets : List UInt8)
  | interpolated (parts : List (TextPart (List Lexeme)))
  | operator (s : Text)

namespace Lexeme

instance : Inhabited Lexeme := ⟨text []⟩

open Literal (Marks Quotes)

/-! ## Words and operators -/

/-- Words that cannot be names. -/
def reserved : List Text :=
  ["False", "None", "True", "and", "as", "assert", "async", "await", "break", "class", "continue",
    "def", "del", "elif", "else", "except", "finally", "for", "from", "global", "if", "import",
    "in", "is", "lambda", "nonlocal", "not", "or", "pass", "raise", "return", "try", "while",
    "with", "yield"].map String.toList

/-- The lexeme of a word. Names are compared in their normal form; what is written in other letters
than a reserved word is none. -/
def ofWord (s : Text) : Lexeme :=
  if s.all (·.toNat < 0x80) then if reserved.contains s then word s else name s
  else name (Text.normal s)

/-- The operators, longer ones first. -/
def operators : List Text :=
  ["...", "**", "//", ":=", "==", "!=", "<=", ">=", "<<", ">>", "->", "+", "-", "*", "/", "%", "@",
    "&", "|", "^", "~", "<", ">", "(", ")", "[", "]", "\x7b", "\x7d", ",", ":", ".",
    "="].map String.toList

/-- The operator at the start of a source. -/
def operator? (source : Text) : Option (Lexeme × Text) :=
  (operators.find? (·.isPrefixOf source)).map fun o => (operator o, source.drop o.length)

/-- How many brackets are open behind a lexeme. -/
def depthBehind (depth : Nat) : Lexeme → Nat
  | operator ['('] => depth + 1
  | operator ['['] => depth + 1
  | operator ['\x7b'] => depth + 1
  | operator [')'] => depth - 1
  | operator [']'] => depth - 1
  | operator ['\x7d'] => depth - 1
  | _ => depth

/-- Whether a character separates lexemes on one line. -/
def isSpace (c : Char) : Bool := c = ' ' || c = '\t' || c = '\x0c'

/-- Whether a value among the parts of a text ends in front of a source: at the closing brace, or in
front of a conversion, a layout, or the mark that repeats its source. -/
def endsValue : Text → Bool
  | '\x7d' :: _ => true
  | ':' :: _ => true
  | '!' :: rest => rest.head? ≠ some '='
  | '=' :: rest => rest.head? ≠ some '='
  | _ => false

/-! ## Texts with values in them -/

/-- Where characters among the parts of a text stand. -/
structure Setting where
  quotes : Quotes
  raw : Bool
  inLayout : Bool

/-- What is copied with a backslash at the start of a source, without the backslash: the name of a
character, the end of a line, or one character. A brace is not copied with it. -/
def copied (setting : Setting) (source : Text) : Text × Text :=
  match source with
  | '\r' :: '\n' :: rest => (['\r', '\n'], rest)
  | 'N' :: '\x7b' :: rest =>
    if setting.raw then (['N'], '\x7b' :: rest)
    else
      ('N' :: '\x7b' :: rest.takeWhile (· ≠ '\x7d') ++ ['\x7d'],
       (rest.dropWhile (· ≠ '\x7d')).drop 1)
  | c :: rest => if c = '\x7b' || c = '\x7d' then ([], c :: rest) else ([c], rest)
  | [] => ([], [])

/-- The characters up to a value, the closing brace of a layout, or the closing quotes, and the
source from there on; `steps` bounds their number. A brace that is written twice stands for itself,
but not in a layout. -/
def charactersWithin (setting : Setting) : Nat → Text → Option (Text × Text)
  | 0, _ => none
  | _, [] => none
  | steps + 1, '\\' :: rest => do
    let (taken, behind) := copied setting rest
    let (others, behind) ← charactersWithin setting steps behind
    some ('\\' :: taken ++ others, behind)
  | steps + 1, c :: rest =>
    let isBrace := c = '\x7b' || c = '\x7d'
    if (setting.quotes.closing? (c :: rest)).isSome then some ([], c :: rest)
    else if Literal.isLineEnd c && !setting.quotes.isTriple then none
    else if isBrace && !setting.inLayout && rest.head? = some c then do
      let (others, behind) ← charactersWithin setting steps (rest.drop 1)
      some (c :: others, behind)
    else if c = '\x7b' || (isBrace && setting.inLayout) then some ([], c :: rest)
    else if isBrace then none
    else do
      let (others, behind) ← charactersWithin setting steps rest
      some (c :: others, behind)

/-- The conversion at the start of a source, if there is one, and what stands behind it. -/
def conversion? : Text → Option (Option Char × Text)
  | '!' :: c :: rest =>
    if c = 'r' || c = 's' || c = 'a' then some (some c, rest.dropWhile isSpace) else none
  | rest => some (none, rest)

/-! ## The lexemes of a source -/

mutual

/-- The lexemes of a source, and what stands behind the value that it starts with if it is read as
one among the parts of a text; `steps` bounds the number of lexemes and spaces, and `depth` is the
number of open brackets. -/
def scanWithin : Nat → Bool → Nat → Text → Option (List Lexeme × Text)
  | _, inText, _, [] => if inText then none else some ([], [])
  | 0, _, _, _ => none
  | steps + 1, inText, depth, c :: rest =>
    if inText && depth = 0 && endsValue (c :: rest) then some ([], c :: rest)
    else if isSpace c then scanWithin steps inText depth rest
    else if Literal.isLineEnd c then
      if depth = 0 && !inText then none else scanWithin steps inText depth rest
    else if c = '#' then scanWithin steps inText depth (rest.dropWhile (!Literal.isLineEnd ·))
    else if c = '\\' then (Literal.behindLineEnd? rest).bind (scanWithin steps inText depth)
    else do
      let (lexeme, behind) ← firstWithin steps (c :: rest)
      let (others, behind) ← scanWithin steps inText (lexeme.depthBehind depth) behind
      some (lexeme :: others, behind)

/-- The lexeme at the start of a source that starts with neither a space nor a comment. -/
def firstWithin : Nat → Text → Option (Lexeme × Text)
  | 0, _ => none
  | _, [] => none
  | steps + 1, c :: rest =>
    if Text.isQuote c then quotedWithin steps {} (c :: rest)
    else if c.isDigit || (c = '.' && rest.head?.any Char.isDigit) then
      (Literal.number? (c :: rest)).map fun (v, behind) => (number v, behind)
    else if Text.startsName c then
      let letters := c :: rest.takeWhile Text.continuesName
      let behind := rest.dropWhile Text.continuesName
      match Marks.ofText? letters with
      | some marks =>
        if behind.head?.any Text.isQuote then quotedWithin steps marks behind
        else some (ofWord letters, behind)
      | none => some (ofWord letters, behind)
    else operator? (c :: rest)

/-- The literal in quotes at the start of a source, behind its marks. -/
def quotedWithin : Nat → Marks → Text → Option (Lexeme × Text)
  | 0, _, _ => none
  | steps + 1, marks, source => do
    let (quotes, behind) ← Quotes.opening? source
    if marks.interpolated then
      let (parts, behind) ← partsWithin steps ⟨quotes, marks.raw, false⟩ behind
      some (interpolated parts, ← quotes.closing? behind)
    else
      let (body, behind) ← Literal.body? quotes behind
      if marks.octets then some (octets (← Literal.octets? marks.raw body), behind)
      else if marks.raw then some (text body, behind)
      else some (text (← Literal.unescape? body), behind)

/-- The parts of a text up to its closing quotes, or of a layout up to its closing brace. -/
def partsWithin : Nat → Setting → Text → Option (List (TextPart (List Lexeme)) × Text)
  | 0, _, _ => none
  | steps + 1, setting, source => do
    let (body, behind) ← charactersWithin setting (source.length + 1) source
    let s ← if setting.raw then some body else Literal.unescape? body
    match behind with
    | '\x7b' :: behind =>
      let (field, behind) ← fieldWithin steps setting behind
      let (others, behind) ← partsWithin steps setting behind
      some (.characters s :: field ++ others, behind)
    | behind => some ([.characters s], behind)

/-- A value among the parts of a text, behind its opening brace. A value whose source is repeated
has the source in front of it. -/
def fieldWithin : Nat → Setting → Text → Option (List (TextPart (List Lexeme)) × Text)
  | 0, _, _ => none
  | steps + 1, setting, source => do
    let (lexemes, behind) ← scanWithin steps true 0 source
    if lexemes.isEmpty then none
    let repeats := behind.head? = some '='
    let rest := if repeats then (behind.drop 1).dropWhile isSpace else behind
    let repeated := source.take (source.length - rest.length)
    let (conversion, rest) ← conversion? rest
    let (layout, rest) ← match rest with
      | ':' :: more => partsWithin steps { setting with inLayout := true } more
      | rest => some ([], rest)
    match rest with
    | '\x7d' :: behind =>
      let plain := conversion.isNone && layout.isEmpty
      let conversion := if repeats && plain then some 'r' else conversion
      let field := TextPart.field lexemes conversion layout
      some (if repeats then [.characters repeated, field] else [field], behind)
    | _ => none

end

/-- The lexemes of the code of a formula, which stands in parentheses on lines of its own. -/
def scan? (code : Text) : Option (List Lexeme) :=
  let source := '(' :: '\n' :: code ++ ['\n', ')']
  (scanWithin (3 * source.length + 3) false 0 source).map (·.1)

end Lexeme
end ElementTags
