import ElementTags.Attribute.Words
import ElementTags.Library
import ElementTags.Template.Path

/-!
# Statements

The block tags that belong to the template language itself: conditions, loops, bindings, switches
for escaping, and inclusions. This module reads what stands in the block tag that opens a statement.
Block tags of the host come before them.
-/

namespace ElementTags

/-- A statement of the template language. -/
inductive Statement
  | choice (condition : FilterExpr)
  | loop (names : List Text) (collection : FilterExpr) (backwards : Bool)
  | binding (bindings : List (Text × FilterExpr))
  | escaping (on : Bool)
  | inclusion (name : FilterExpr)
  /-- A block of the host. -/
  | host (step : HostStep)

namespace Statement

/-- Rejects a block tag with a message. -/
def reject {α : Type} (parts : List Text) : Except TemplateFault α :=
  .error (.malformedBlock (String.ofList parts.flatten))

/-- The expression that a text spells. -/
def compile (s : Text) : Except TemplateFault FilterExpr :=
  match FilterExpr.ofText s with
  | .ok e => .ok e
  | .error fault => .error (.attributes (.value fault) none)

/-- The words of a block tag behind its name. -/
def wordsOf (contents : Text) : Except TemplateFault (List Text) :=
  match Words.split contents with
  | .ok ws => .ok (ws.drop 1)
  | .error fault => .error (.attributes fault none)

/-- The condition of a choice, which is a single expression. All words have to be readable before it
is asked how many there are. -/
def readCondition (contents : Text) : Except TemplateFault FilterExpr := do
  let ws ← wordsOf contents
  let es ← ws.mapM compile
  match es with
  | [] => reject ["Unexpected end of expression in if tag.".toList]
  | [e] => pure e
  | _ :: extra :: _ => reject ["Unused '".toList, extra.text, "' at end of if expression.".toList]

/-- Whether a text can be the name of a variable of a loop. -/
def isLoopName (s : Text) : Bool :=
  !s.isEmpty && s.all fun c => c ≠ ' ' && c ≠ '|' && !Text.isQuote c

/-- A text without the spaces around it. -/
def trimSpaces (s : Text) : Text :=
  ((s.dropWhile (· = ' ')).reverse.dropWhile (· = ' ')).reverse

/-- The collection, whether it is gone through backwards, and the words in front of the word `in`.
-/
def splitLoop (contents : Text) (ws : List Text) :
    Except TemplateFault (List Text × Text × Bool) :=
  if ws.length < 3 then
    reject ["'for' statements should have at least four words: ".toList, contents]
  else
    let backwards := ws.getLast? = some "reversed".toList
    let front := if backwards then ws.dropLast else ws
    match front.reverse with
    | collection :: ['i', 'n'] :: names => .ok (names.reverse, collection, backwards)
    | _ => reject ["'for' statements should use the format 'for x in y': ".toList, contents]

/-- The head of a loop: names, separated by commas, the word `in`, and a collection. -/
def readLoop (contents : Text) : Except TemplateFault Statement := do
  let (front, collection, backwards) ← splitLoop contents (← wordsOf contents)
  let names := (Text.pieces ',' (Text.join [' '] front)).map trimSpaces
  if names.all isLoopName then do
    let e ← compile collection
    pure (loop names e backwards)
  else reject ["'for' tag received an invalid argument: ".toList, contents]

/-- Bindings with one more; the last one of a name counts. -/
def addBinding (bindings : List (Text × FilterExpr)) (name : Text) (e : FilterExpr) :
    List (Text × FilterExpr) :=
  if bindings.any (·.1 = name) then bindings.map fun b => if b.1 = name then (name, e) else b
  else bindings ++ [(name, e)]

/-- Bindings of the form `name=value`, added to earlier ones, and the words behind them. -/
def keyedBindings (before : List (Text × FilterExpr)) :
    List Text → Except TemplateFault (List (Text × FilterExpr) × List Text)
  | [] => .ok (before, [])
  | w :: rest =>
    match Words.keyed? w with
    | some (name, value) => do keyedBindings (addBinding before name (← compile value)) rest
    | none => .ok (before, w :: rest)

/-- Bindings of the form `value as name`, joined by `and`, added to earlier ones, and the words
behind them. -/
def namedBindings (before : List (Text × FilterExpr)) :
    List Text → Except TemplateFault (List (Text × FilterExpr) × List Text)
  | value :: ['a', 's'] :: name :: ['a', 'n', 'd'] :: rest => do
    namedBindings (addBinding before name (← compile value)) rest
  | value :: ['a', 's'] :: name :: rest => do
    pure (addBinding before name (← compile value), rest)
  | ws => .ok (before, ws)

/-- The head of a binding: bindings of one of the two forms. -/
def readBinding (contents : Text) : Except TemplateFault Statement := do
  let ws ← wordsOf contents
  let isKeyed := (ws.head?.bind Words.keyed?).isSome
  let (bindings, extra) ← if isKeyed then keyedBindings [] ws else namedBindings [] ws
  if bindings.isEmpty then reject ["'with' expected at least one variable assignment".toList]
  else
    match extra with
    | [] => pure (binding bindings)
    | w :: _ => reject ["'with' received an invalid token: ".toList, Text.quote w]

/-- The head of a switch for escaping: the word `on` or `off`. -/
def readEscaping (contents : Text) : Except TemplateFault Statement :=
  match Text.words contents with
  | [_, ['o', 'n']] => .ok (escaping true)
  | [_, ['o', 'f', 'f']] => .ok (escaping false)
  | [_, _] => reject ["'autoescape' argument should be 'on' or 'off'".toList]
  | _ => reject ["'autoescape' tag requires exactly one argument.".toList]

/-- An inclusion: the name of a template, seen from the template that it stands in. -/
def readInclusion (origin : Option Text) (contents : Text) : Except TemplateFault Statement := do
  match ← wordsOf contents with
  | [] =>
    reject
      ["'include' tag takes at least one argument: the name of the template to be included.".toList]
  | [name] => do pure (inclusion (← compile (← Path.seenFrom origin true name)))
  | _ :: extra :: _ =>
    reject ["Unknown argument for 'include' tag: ".toList, Text.quote extra, ['.']]

/-- The statement that a block tag of some name opens, if the host or the language has one of that
name. `origin` is the template that it stands in. -/
def read? (library : Library) (origin : Option Text) (name contents : Text) :
    Option (Except TemplateFault Statement) :=
  if let some tag := library.host? name then some (.ok (host (tag.read contents)))
  else if name = "if".toList then some ((readCondition contents).map choice)
  else if name = "for".toList then some (readLoop contents)
  else if name = "with".toList then some (readBinding contents)
  else if name = "autoescape".toList then some (readEscaping contents)
  else if name = "include".toList then some (readInclusion origin contents)
  else none

end Statement
end ElementTags
