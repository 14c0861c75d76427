import ElementTags.Attribute.Reader
import ElementTags.Attribute.Words
import ElementTags.Behaviour
import ElementTags.Text.Case

/-!
# Tags

A tag has a name, by which templates use it, and writes an element of a name. A container has a body
and an end tag. Tags are made from a class, which brings defaults and a behaviour, and from what the
maker of the tag says.
-/

namespace ElementTags

/-- What the maker of a tag says; empty texts and missing switches say nothing. -/
structure TagOptions where
  name : Text := []
  elementName : Text := []
  isContainer : Option Bool := none
  useGrammar : Option Bool := none

/-- A class of tags. Its switch for containers may be set to nothing, which means no. -/
structure TagClass where
  className : Text
  name : Text := []
  elementName : Text := []
  isContainer : Option Bool := some true
  useGrammar : Option Bool := none
  behaviour : Behaviour := Behaviour.default

/-- A tag. -/
structure Tag where
  className : Text
  name : Text
  elementName : Text
  isContainer : Option Bool
  /-- Whether attributes are read by the attribute grammar, if the tag says so itself. -/
  useGrammar : Option Bool
  behaviour : Behaviour

namespace TagClass

/-- The class of plain tags. -/
def plain : TagClass := { className := "Tag".toList }

/-- The class name made from the name of a function: its words are raised and joined. -/
def nameFor (function : Text) : Text :=
  (Text.title function).filter (fun c => c ≠ '_' && c ≠ '-') ++ "Tag".toList

/-- Why a text cannot be the name of a class: no such name holds the null character. -/
def nameProblem? (name : Text) : Option String :=
  if name.contains '\x00' then some "type name must not contain null characters" else none

/-- A class under a name. -/
def named (name : Text) (c : TagClass) : Except Fault TagClass :=
  match nameProblem? name with
  | none => .ok { c with className := name }
  | some problem => .error (.definition problem)

/-- The class of the tag that a function renders. -/
def ofFunction (function : Text) (c : TagClass) : Except Fault TagClass :=
  match nameProblem? (nameFor function) with
  | none => .ok { c with className := nameFor function }
  | some problem =>
    .error (.definition ("Failed to create tag class in 'html_tag()' for '" ++
      String.ofList function ++ "': " ++ problem))

/-- The tag of a class that the options ask for. What they leave open is as in the class, and the
element is named like the tag if neither says how. A tag has to have a name. -/
def make (c : TagClass) (options : TagOptions) : Except Fault Tag :=
  let orElse (a b : Text) : Text := if a.isEmpty then b else a
  let name := orElse options.name c.name
  if name.isEmpty then
    .error (.definition ("Tag " ++ String.ofList c.className ++ " must have a 'tag' attribute"))
  else
    .ok
      { className := c.className
        name := name
        elementName := orElse (orElse options.elementName c.elementName) name
        isContainer := options.isContainer.or c.isContainer
        useGrammar := options.useGrammar.or c.useGrammar
        behaviour := c.behaviour }

end TagClass

namespace Tag

/-- Whether a tag has a body. -/
def hasBody (t : Tag) : Bool := t.isContainer = some true

/-- The element that a tag writes. -/
def element (t : Tag) : Element := ⟨t.elementName, t.hasBody⟩

/-- The name of the end tag of a tag. -/
def endNameOf (name : Text) : Text := "end".toList ++ name

/-- The name of the end tag, if there is one. -/
def endName? (t : Tag) : Option Text := if t.hasBody then some (endNameOf t.name) else none

/-- The description of a tag. -/
def describe (t : Tag) : Text := '<' :: t.className ++ ": ".toList ++ t.name ++ ['>']

/-- What a tag gives when it is run with its attributes: safe HTML, unless the behaviour gave
something that is no text yet. -/
def act (t : Tag) (attributes : List Value) : Acting Value := do
  let v ← t.behaviour t.element (.list attributes)
  Acting.ofEval (Markup.safeAny v)

/-! ## The head of a tag -/

/-- The attributes of a use of a tag, and its source. -/
structure Head where
  source : Text
  entries : List Entry

/-- What stands in front of the contents of a tag. -/
def opener : Text := ['{', '%', ' ']

/-- What stands behind the contents of a tag. -/
def closer : Text := [' ', '%', '}']

/-- The source of a tag with some contents. -/
def sourceOf (contents : Text) : Text := opener ++ contents ++ closer

/-- The first word of the contents, and the attributes behind it and the blanks that follow it. -/
def splitContents (contents : Text) : Text × Text :=
  (contents.takeWhile (!Text.isBlank ·), Text.dropBlanks (contents.dropWhile (!Text.isBlank ·)))

/-- Where the attributes of a tag stand. -/
def siteOf (contents attributes : Text) : Site :=
  ⟨sourceOf contents, ((opener.length + (contents.length - attributes.length) : Nat) : Int)⟩

/-- The head of the tag with some contents, which have to start with the name of the tag. -/
def readHead (name : Text) (useGrammar : Bool) (contents : Text) : Except TemplateFault Head :=
  let (first, attributes) := splitContents contents
  if first = name then
    let site := siteOf contents (if first.isEmpty then [] else attributes)
    let entries :=
      if useGrammar then Attribute.read (if first.isEmpty then [] else attributes)
      else Words.read name contents
    match entries with
    | .ok entries => .ok ⟨sourceOf contents, entries⟩
    | .error fault => .error (.attributes fault (some site))
  else .error (.wrongTag first name)

end Tag
end ElementTags
