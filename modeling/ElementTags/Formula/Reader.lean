import ElementTags.Formula.Lexeme
import ElementTags.Formula.Nesting

/-!
# Reading formulas

The grammar of formulas, from the loosest to the tightest construction. Every function is given the
number of steps that it may still go down; as many as the length of the source asks for are given at
the start. A source that is no formula has no reading, and neither has one whose parts are nested
too deep.
-/

namespace ElementTags.Formula

open Lexeme (number text operator word)

/-- The lexemes behind a certain operator. -/
def behindOperator? (o : String) : List Lexeme → Option (List Lexeme)
  | operator s :: rest => if s = o.toList then some rest else none
  | _ => none

/-- The lexemes behind a certain word. -/
def behindWord? (w : String) : List Lexeme → Option (List Lexeme)
  | word s :: rest => if s = w.toList then some rest else none
  | _ => none

/-- The operators that join values from the left, the loosest first. -/
def levels : List (List (String × Connective)) :=
  [[("|", .bitOr)], [("^", .bitXor)], [("&", .bitAnd)], [("<<", .shiftLeft), (">>", .shiftRight)],
    [("+", .plus), ("-", .minus)],
    [("*", .times), ("/", .ratio), ("//", .ratioDown), ("%", .remainder), ("@", .matrix)]]

/-- The operator of a level at the start of some lexemes. -/
def connective? (level : Nat) : List Lexeme → Option (Connective × List Lexeme)
  | operator s :: rest =>
    ((levels.getD level []).find? fun (o, _) => o.toList = s).map fun (_, c) => (c, rest)
  | _ => none

/-- The comparisons that are written as operators. -/
def comparisons : List (String × Comparison) :=
  [("==", .equal), ("!=", .unequal), ("<", .less), ("<=", .lessOrEqual), (">", .greater),
    (">=", .greaterOrEqual)]

/-- The comparison at the start of some lexemes. -/
def comparison? (ts : List Lexeme) : Option (Comparison × List Lexeme) :=
  match ts with
  | operator s :: rest =>
    (comparisons.find? fun (o, _) => o.toList = s).map fun (_, c) => (c, rest)
  | _ =>
    match behindWord? "in" ts with
    | some rest => some (.within, rest)
    | none =>
      match (behindWord? "not" ts).bind (behindWord? "in") with
      | some rest => some (.notWithin, rest)
      | none =>
        (behindWord? "is" ts).map fun rest =>
          match behindWord? "not" rest with
          | some behind => (.notSame, behind)
          | none => (.same, rest)

/-- The sign at the start of some lexemes. -/
def sign? (ts : List Lexeme) : Option (Sign × List Lexeme) :=
  match ts with
  | operator ['+'] :: rest => some (.plus, rest)
  | operator ['-'] :: rest => some (.minus, rest)
  | operator ['~'] :: rest => some (.invert, rest)
  | _ => none

/-- The constant that a reserved word is. -/
def constant? (s : Text) : Option Value :=
  if s = "True".toList then some (.bool true)
  else if s = "False".toList then some (.bool false)
  else if s = "None".toList then some .null
  else none

/-- Whether a lexeme is a literal in quotes. -/
def isQuoted : Lexeme → Bool
  | text _ => true
  | .octets _ => true
  | .interpolated _ => true
  | _ => false

/-- The octets of literals that follow each other, all of which have to be octets. -/
def joinedOctets? (literals : List Lexeme) : Option (List UInt8) :=
  (literals.mapM fun
    | Lexeme.octets os => some os
    | _ => none).map List.flatten

/-- The characters of literals that follow each other, all of which have to be plain texts. -/
def joinedText? (literals : List Lexeme) : Option Text :=
  (literals.mapM fun
    | Lexeme.text s => some s
    | _ => none).map List.flatten

/-- The parts of literals that follow each other, none of which may be octets. -/
def joinedParts? (literals : List Lexeme) : Option (List (TextPart (List Lexeme))) :=
  (literals.mapM fun
    | Lexeme.text s => some [TextPart.characters s]
    | Lexeme.interpolated parts => some parts
    | _ => none).map List.flatten

/-- The parameters of a function with its defaults. -/
abbrev Parameters := List (ParameterKind × Text × Option Formula)

/-- Whether a parameter takes its argument by place and has no default. -/
def needsPlace (parameter : ParameterKind × Text × Option Formula) : Bool :=
  (parameter.1 = .placed || parameter.1 = .placedOnly) && parameter.2.2.isNone

/-- Whether parameters can be those of a function: no two have the same name, those without a
default are not behind those with one, and the one for all further names comes last. -/
def areParameters (parameters : Parameters) : Bool :=
  let names := parameters.map (·.2.1)
  let places := parameters.filter fun q => q.1 = .placed || q.1 = .placedOnly
  names.eraseDups.length = names.length &&
    (places.dropWhile needsPlace).all (!needsPlace ·) &&
    parameters.dropLast.all (·.1 ≠ .furtherNamed)

/-- Parameters that take their arguments by place only. -/
def placedOnly (parameters : Parameters) : Parameters :=
  parameters.map fun (kind, rest) => (if kind = .placed then .placedOnly else kind, rest)

/-- The arguments of a call: those by place, and those by name. -/
structure CallArguments where
  placed : List Formula := []
  named : List (Option Text × Formula) := []

/-- Arguments behind one by place. After a named one only the items of a collection may follow, and
after a mapping of named ones nothing by place. -/
def CallArguments.addPlaced? (a : CallArguments) (e : Formula) : Option CallArguments :=
  let isSpread := match e with
    | .spread _ => true
    | _ => false
  if a.named.isEmpty || (isSpread && a.named.all (·.1.isSome)) then
    some { a with placed := a.placed ++ [e] }
  else none

/-- Arguments behind one by name, which may be given only once. -/
def CallArguments.addNamed? (a : CallArguments) (name : Option Text) (e : Formula) :
    Option CallArguments :=
  if name.isSome && a.named.any (·.1 = name) then none
  else some { a with named := a.named ++ [(name, e)] }

/-- Items as one formula: several, or one with a comma behind it, are a tuple. A single one may not
be the items of a collection. -/
def ofItems? (items : List Formula) (hasComma : Bool) : Option Formula :=
  match items, hasComma with
  | [.spread _], false => none
  | [e], false => some e
  | [], _ => none
  | items, _ => some (.tuple items)

mutual

/-- An assignment or an expression without one. -/
def readNamed : Nat → List Lexeme → Option (Formula × List Lexeme)
  | 0, _ => none
  | n + 1, ts => do
    let (e, rest) ← readTest n ts
    readAssigned n e rest

/-- What follows an expression that may be the name of an assignment. -/
def readAssigned : Nat → Formula → List Lexeme → Option (Formula × List Lexeme)
  | 0, _, _ => none
  | n + 1, e, ts =>
    match behindOperator? ":=" ts, e with
    | none, e => some (e, ts)
    | some rest, .name s => (readTest n rest).map fun (value, behind) => (.assign s value, behind)
    | some _, _ => none

/-- A function, a condition with two outcomes, or an expression without one. -/
def readTest : Nat → List Lexeme → Option (Formula × List Lexeme)
  | 0, _ => none
  | n + 1, ts =>
    match behindWord? "lambda" ts with
    | some rest => do
      let (parameters, rest) ← readParameters n false [] rest
      if areParameters parameters then
        (readTest n rest).map fun (e, rest) => (.function parameters e, rest)
      else none
    | none => do
      let (value, rest) ← readEither n ts
      match behindWord? "if" rest with
      | none => some (value, rest)
      | some rest =>
        let (condition, rest) ← readEither n rest
        let (other, rest) ← readTest n (← behindWord? "else" rest)
        some (.choice condition value other, rest)

/-- The parameters of a function up to its colon, behind others. `onlyNamed` tells that no more can
be given by place. -/
def readParameters : Nat → Bool → Parameters → List Lexeme → Option (Parameters × List Lexeme)
  | 0, _, _, _ => none
  | n + 1, onlyNamed, before, ts =>
    let kind : ParameterKind := if onlyNamed then .named else .placed
    match ts with
    | operator [':'] :: rest => some (before, rest)
    | operator ['/'] :: rest =>
      if onlyNamed || before.isEmpty then none
      else moreParameters n onlyNamed (placedOnly before) rest
    | operator ['*'] :: .name s :: rest =>
      if onlyNamed then none
      else moreParameters n true (before ++ [(.furtherPlaced, s, none)]) rest
    | operator ['*'] :: operator [','] :: .name s :: rest =>
      if onlyNamed then none else readParameters n true before (.name s :: rest)
    | operator ['*', '*'] :: .name s :: rest =>
      moreParameters n true (before ++ [(.furtherNamed, s, none)]) rest
    | .name s :: operator ['='] :: rest => do
      let (default, rest) ← readTest n rest
      moreParameters n onlyNamed (before ++ [(kind, s, some default)]) rest
    | .name s :: rest => moreParameters n onlyNamed (before ++ [(kind, s, none)]) rest
    | _ => none

/-- What follows a parameter: a comma and further ones, or the colon. -/
def moreParameters : Nat → Bool → Parameters → List Lexeme → Option (Parameters × List Lexeme)
  | 0, _, _, _ => none
  | n + 1, onlyNamed, before, ts =>
    match ts with
    | operator [','] :: rest => readParameters n onlyNamed before rest
    | operator [':'] :: rest => some (before, rest)
    | _ => none

/-- Alternatives. -/
def readEither : Nat → List Lexeme → Option (Formula × List Lexeme)
  | 0, _ => none
  | n + 1, ts => do
    let (left, rest) ← readBoth n ts
    moreEither n left rest

/-- Further alternatives. -/
def moreEither : Nat → Formula → List Lexeme → Option (Formula × List Lexeme)
  | 0, _, _ => none
  | n + 1, left, ts =>
    match behindWord? "or" ts with
    | none => some (left, ts)
    | some rest => do
      let (right, rest) ← readBoth n rest
      moreEither n (.either left right) rest

/-- Conjunctions. -/
def readBoth : Nat → List Lexeme → Option (Formula × List Lexeme)
  | 0, _ => none
  | n + 1, ts => do
    let (left, rest) ← readNegation n ts
    moreBoth n left rest

/-- Further conjuncts. -/
def moreBoth : Nat → Formula → List Lexeme → Option (Formula × List Lexeme)
  | 0, _, _ => none
  | n + 1, left, ts =>
    match behindWord? "and" ts with
    | none => some (left, ts)
    | some rest => do
      let (right, rest) ← readNegation n rest
      moreBoth n (.both left right) rest

/-- Negations. -/
def readNegation : Nat → List Lexeme → Option (Formula × List Lexeme)
  | 0, _ => none
  | n + 1, ts =>
    match behindWord? "not" ts with
    | some rest => (readNegation n rest).map fun (e, rest) => (.signed .negation e, rest)
    | none => do
      let (first, rest) ← readJoined n 0 ts
      let (links, rest) ← readLinks n rest
      some (if links.isEmpty then first else .compared first links, rest)

/-- Comparisons with what they compare with. -/
def readLinks : Nat → List Lexeme → Option (List (Comparison × Formula) × List Lexeme)
  | 0, _ => none
  | n + 1, ts =>
    match comparison? ts with
    | none => some ([], ts)
    | some (c, rest) => do
      let (e, rest) ← readJoined n 0 rest
      let (links, rest) ← readLinks n rest
      some ((c, e) :: links, rest)

/-- Values joined by the operators of a level or a tighter one. -/
def readJoined : Nat → Nat → List Lexeme → Option (Formula × List Lexeme)
  | 0, _, _ => none
  | n + 1, level, ts =>
    if level < levels.length then do
      let (left, rest) ← readJoined n (level + 1) ts
      moreJoined n level left rest
    else readSigned n ts

/-- Further values joined by the operators of a level. -/
def moreJoined : Nat → Nat → Formula → List Lexeme → Option (Formula × List Lexeme)
  | 0, _, _, _ => none
  | n + 1, level, left, ts =>
    match connective? level ts with
    | none => some (left, ts)
    | some (c, rest) => do
      let (right, rest) ← readJoined n (level + 1) rest
      moreJoined n level (.combined c left right) rest

/-- Values with signs, and powers, which bind tighter than the signs in front of them. -/
def readSigned : Nat → List Lexeme → Option (Formula × List Lexeme)
  | 0, _ => none
  | n + 1, ts =>
    match sign? ts with
    | some (s, rest) => (readSigned n rest).map fun (e, rest) => (.signed s e, rest)
    | none => do
      let (base, rest) ← readAtom n ts
      let (base, rest) ← readParts n base rest
      match behindOperator? "**" rest with
      | none => some (base, rest)
      | some rest => (readSigned n rest).map fun (e, rest) => (.combined .power base e, rest)

/-- Attributes, items and calls behind a value. -/
def readParts : Nat → Formula → List Lexeme → Option (Formula × List Lexeme)
  | 0, _, _ => none
  | n + 1, owner, ts =>
    match ts with
    | operator ['.'] :: .name s :: rest => readParts n (.member owner s) rest
    | operator ['('] :: rest => do
      let (arguments, rest) ← readArguments n {} rest
      readParts n (.call owner arguments.placed arguments.named) rest
    | operator ['['] :: rest => do
      let (keys, rest) ← readKeys n rest
      let key ← match keys with
        | ([.spread e], false) => some (.tuple [.spread e])
        | (keys, hasComma) => ofItems? keys hasComma
      readParts n (.item owner key) rest
    | operator ['.'] :: _ => none
    | ts => some (owner, ts)

/-- The arguments of a call up to its closing parenthesis, behind others. A gathering may be the
only argument. -/
def readArguments : Nat → CallArguments → List Lexeme → Option (CallArguments × List Lexeme)
  | 0, _, _ => none
  | n + 1, before, ts =>
    match ts with
    | operator [')'] :: rest => some (before, rest)
    | .name s :: operator ['='] :: rest => do
      let (value, rest) ← readTest n rest
      moreArguments n (← before.addNamed? (some s) value) rest
    | operator ['*'] :: rest => do
      let (value, rest) ← readTest n rest
      moreArguments n (← before.addPlaced? (.spread value)) rest
    | operator ['*', '*'] :: rest => do
      let (value, rest) ← readTest n rest
      moreArguments n (← before.addNamed? none value) rest
    | ts => do
      let (value, rest) ← readNamed n ts
      match behindWord? "for" rest with
      | none => moreArguments n (← before.addPlaced? value) rest
      | some _ => do
        let (gathering, rest) ← readGathering n (.item value) rest
        let rest ← behindOperator? ")" rest
        if before.placed.isEmpty && before.named.isEmpty then
          some ({ placed := [.gathered .stream gathering] }, rest)
        else none

/-- What follows an argument: a comma and further arguments, or the closing parenthesis. -/
def moreArguments : Nat → CallArguments → List Lexeme → Option (CallArguments × List Lexeme)
  | 0, _, _ => none
  | n + 1, before, ts =>
    match ts with
    | operator [','] :: rest => readArguments n before rest
    | operator [')'] :: rest => some (before, rest)
    | _ => none

/-- The keys in brackets behind a collection, and whether there is a comma behind one. -/
def readKeys : Nat → List Lexeme → Option ((List Formula × Bool) × List Lexeme)
  | 0, _ => none
  | n + 1, ts =>
    match behindOperator? "]" ts with
    | some rest => some (([], false), rest)
    | none => do
      let (key, rest) ← readKey n ts
      match rest with
      | operator [','] :: rest => do
        let ((keys, _), rest) ← readKeys n rest
        some ((key :: keys, true), rest)
      | operator [']'] :: rest => some (([key], false), rest)
      | _ => none

/-- A key, the bounds of a slice, or all items of a collection as keys. -/
def readKey : Nat → List Lexeme → Option (Formula × List Lexeme)
  | 0, _ => none
  | n + 1, ts =>
    match ts with
    | operator ['*'] :: _ => readElement n ts
    | operator [':'] :: rest => readBounds n (.constant .null) rest
    | ts => do
      let (key, rest) ← readTest n ts
      match behindOperator? ":" rest with
      | some rest => readBounds n key rest
      | none => readAssigned n key rest

/-- The bounds of a slice behind its first colon. -/
def readBounds : Nat → Formula → List Lexeme → Option (Formula × List Lexeme)
  | 0, _, _ => none
  | n + 1, start, ts => do
    let (stop, rest) ← readBound n ts
    match behindOperator? ":" rest with
    | none => some (.bounds start stop (.constant .null), rest)
    | some rest =>
      let (step, rest) ← readBound n rest
      some (.bounds start stop step, rest)

/-- A bound of a slice, which may be missing. -/
def readBound : Nat → List Lexeme → Option (Formula × List Lexeme)
  | 0, _ => none
  | n + 1, ts =>
    match ts with
    | operator [':'] :: _ => some (.constant .null, ts)
    | operator [']'] :: _ => some (.constant .null, ts)
    | operator [','] :: _ => some (.constant .null, ts)
    | ts => readTest n ts

/-- An item of a display: an expression, or all items of a collection. -/
def readElement : Nat → List Lexeme → Option (Formula × List Lexeme)
  | 0, _ => none
  | n + 1, ts =>
    match behindOperator? "*" ts with
    | some rest => (readJoined n 0 rest).map fun (e, rest) => (.spread e, rest)
    | none => readNamed n ts

/-- Items with commas between them, up to a closing bracket, the end, or another lexeme that is no
comma, and whether there was a comma. -/
def readItems : Nat → String → List Lexeme → Option ((List Formula × Bool) × List Lexeme)
  | 0, _, _ => none
  | n + 1, close, ts =>
    if ts.isEmpty || (behindOperator? close ts).isSome then some (([], false), ts)
    else do
      let (entry, rest) ← readElement n ts
      match behindOperator? "," rest with
      | none => some (([entry], false), rest)
      | some rest =>
        let ((items, _), rest) ← readItems n close rest
        some ((entry :: items, true), rest)

/-- A list or a set up to its closing bracket, behind its first item: what is gathered by that item,
or further items. -/
def readDisplay : Nat → String → GatheringKind → Formula → List Lexeme →
    Option (Formula × List Lexeme)
  | 0, _, _, _, _ => none
  | n + 1, close, kind, first, ts =>
    let make (items : List Formula) : Formula := if kind = .set then .set items else .list items
    match behindWord? "for" ts, behindOperator? "," ts, first with
    | some _, _, .spread _ => none
    | some _, _, first => do
      let (gathering, rest) ← readGathering n (.item first) ts
      (behindOperator? close rest).map fun rest => (.gathered kind gathering, rest)
    | none, some rest, first => do
      let ((items, _), rest) ← readItems n close rest
      (behindOperator? close rest).map fun rest => (make (first :: items), rest)
    | none, none, first => (behindOperator? close ts).map fun rest => (make [first], rest)

/-- How something is gathered: collections with targets for their items, and conditions. -/
def readGathering : Nat → Gathering Formula → List Lexeme →
    Option (Gathering Formula × List Lexeme)
  | 0, _, _ => none
  | n + 1, inner, ts =>
    match behindWord? "for" ts, behindWord? "if" ts with
    | some rest, _ => do
      let ((targets, hasComma), rest) ← readTargets n rest
      let target ← match targets, hasComma with
        | [.remaining _], false => none
        | [target], false => some target
        | targets, _ => some (.parts targets)
      let (source, rest) ← readEither n (← behindWord? "in" rest)
      (readGathering n inner rest).map fun (more, rest) => (.each target source more, rest)
    | none, some rest => do
      let (condition, rest) ← readEither n rest
      (readGathering n inner rest).map fun (more, rest) => (.only condition more, rest)
    | none, none => some (inner, ts)

/-- Targets with commas between them, and whether there was a comma. -/
def readTargets : Nat → List Lexeme → Option ((List Target × Bool) × List Lexeme)
  | 0, _ => none
  | n + 1, ts => do
    let (target, rest) ← readTarget n ts
    match behindOperator? "," rest with
    | none => some (([target], false), rest)
    | some rest =>
      match rest with
      | operator [')'] :: _ => some (([target], true), rest)
      | operator [']'] :: _ => some (([target], true), rest)
      | word _ :: _ => some (([target], true), rest)
      | rest => (readTargets n rest).map fun ((targets, _), rest) =>
        ((target :: targets, true), rest)

/-- What an item is given to. -/
def readTarget : Nat → List Lexeme → Option (Target × List Lexeme)
  | 0, _ => none
  | n + 1, ts =>
    match ts with
    | .name s :: rest => some (.name s, rest)
    | operator ['*'] :: rest => (readTarget n rest).map fun (t, rest) => (.remaining t, rest)
    | operator ['('] :: operator [')'] :: rest => some (.parts [], rest)
    | operator ['('] :: rest => do
      let ((targets, hasComma), rest) ← readTargets n rest
      let rest ← behindOperator? ")" rest
      match targets, hasComma with
      | [target], false => some (target, rest)
      | targets, _ => some (.parts targets, rest)
    | operator ['['] :: operator [']'] :: rest => some (.parts [], rest)
    | operator ['['] :: rest => do
      let ((targets, _), rest) ← readTargets n rest
      (behindOperator? "]" rest).map fun rest => (.parts targets, rest)
    | _ => none

/-- The pairs of a dictionary up to its closing brace. -/
def readPairs : Nat → List Lexeme → Option (List (Option Formula × Formula) × List Lexeme)
  | 0, _ => none
  | n + 1, ts =>
    match behindOperator? "\x7d" ts with
    | some rest => some ([], rest)
    | none => do
      let (pair, rest) ← readPair n ts
      match behindOperator? "," rest with
      | some rest =>
        let (pairs, rest) ← readPairs n rest
        some (pair :: pairs, rest)
      | none => (behindOperator? "\x7d" rest).map fun rest => ([pair], rest)

/-- A pair of a dictionary, or a mapping that gives all its pairs. -/
def readPair : Nat → List Lexeme → Option ((Option Formula × Formula) × List Lexeme)
  | 0, _ => none
  | n + 1, ts =>
    match behindOperator? "**" ts with
    | some rest => (readJoined n 0 rest).map fun (e, rest) => ((none, e), rest)
    | none => do
      let (key, rest) ← readTest n ts
      let (value, rest) ← readTest n (← behindOperator? ":" rest)
      some ((some key, value), rest)

/-- A dictionary or a set behind its opening brace. -/
def readBraced : Nat → List Lexeme → Option (Formula × List Lexeme)
  | 0, _ => none
  | n + 1, ts =>
    match ts with
    | operator ['\x7d'] :: rest => some (.dict [], rest)
    | operator ['*', '*'] :: _ => (readPairs n ts).map fun (pairs, rest) => (.dict pairs, rest)
    | operator ['*'] :: _ => do
      let (e, rest) ← readElement n ts
      readDisplay n "\x7d" .set e rest
    | ts => do
      let (e, rest) ← readTest n ts
      match behindOperator? ":" rest with
      | some rest => do
        let (value, rest) ← readTest n rest
        readDictionary n e value rest
      | none => do
        let (e, rest) ← readAssigned n e rest
        readDisplay n "\x7d" .set e rest

/-- A dictionary up to its closing brace, behind its first pair: what is gathered by that pair, or
further pairs. -/
def readDictionary : Nat → Formula → Formula → List Lexeme → Option (Formula × List Lexeme)
  | 0, _, _, _ => none
  | n + 1, key, value, ts =>
    match behindWord? "for" ts, behindOperator? "," ts with
    | some _, _ => do
      let (gathering, rest) ← readGathering n (.pair key value) ts
      (behindOperator? "\x7d" rest).map fun rest => (.gathered .dict gathering, rest)
    | none, some rest => (readPairs n rest).map fun (pairs, rest) =>
      (.dict ((some key, value) :: pairs), rest)
    | none, none =>
      (behindOperator? "\x7d" ts).map fun rest => (.dict [(some key, value)], rest)

/-- The parts of a text with values in it. -/
def readTextParts : Nat → List (TextPart (List Lexeme)) → Option (List (TextPart Formula))
  | 0, _ => none
  | _, [] => some []
  | n + 1, .characters s :: rest => (readTextParts n rest).map (.characters s :: ·)
  | n + 1, .field ts conversion layout :: rest => do
    let ((items, hasComma), behind) ← readItems n "" ts
    let e ← ofItems? items hasComma
    let layout ← readTextParts n layout
    let others ← readTextParts n rest
    if behind.isEmpty then some (.field e conversion layout :: others) else none

/-- Literals in quotes that follow each other. -/
def readQuoted : Nat → List Lexeme → Option Formula
  | 0, _ => none
  | n + 1, literals =>
    match joinedText? literals, joinedOctets? literals with
    | some s, _ => some (.constant (.text s))
    | none, some octets => some (.constant (.bytes octets))
    | none, none => do
      let parts ← readTextParts n (← joinedParts? literals)
      some (.interpolated parts)

/-- A constant, a variable, or something in brackets. -/
def readAtom : Nat → List Lexeme → Option (Formula × List Lexeme)
  | 0, _ => none
  | n + 1, ts =>
    match ts with
    | number v :: rest => some (.constant v, rest)
    | operator ['.', '.', '.'] :: rest => some (.constant .ellipsis, rest)
    | word s :: rest => (constant? s).map fun v => (.constant v, rest)
    | .name s :: rest => some (.name s, rest)
    | operator ['('] :: operator [')'] :: rest => some (.tuple [], rest)
    | operator ['('] :: rest => do
      let ((items, hasComma), rest) ← readItems n ")" rest
      let e ← ofItems? items hasComma
      match behindOperator? ")" rest, hasComma with
      | some rest, _ => some (e, rest)
      | none, true => none
      | none, false => do
        if (behindWord? "for" rest).isNone then none
        let (gathering, rest) ← readGathering n (.item e) rest
        (behindOperator? ")" rest).map fun rest => (.gathered .stream gathering, rest)
    | operator ['['] :: operator [']'] :: rest => some (.list [], rest)
    | operator ['['] :: rest => do
      let (e, rest) ← readElement n rest
      readDisplay n "]" .list e rest
    | operator ['\x7b'] :: rest => readBraced n rest
    | ts =>
      let literals := ts.takeWhile isQuoted
      if literals.isEmpty then none
      else (readQuoted n literals).map fun e => (e, ts.dropWhile isQuoted)

end

/-- The formula that a code spells. Each lexeme leads through at most so many constructions. -/
def ofText? (code : Text) : Option Formula := do
  let ts ← Lexeme.scan? code
  let (e, rest) ← readTest (24 * (code.length + 4)) ts
  if rest.isEmpty && e.nesting 0 ≤ maxNesting then some e else none

end ElementTags.Formula
