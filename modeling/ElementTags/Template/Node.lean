import ElementTags.Filter.Expression
import ElementTags.Library

/-!
# Compiled templates

A compiled template is a list of nodes. Those of registered tags carry the tag itself, so that later
changes of the library do not touch them.
-/

namespace ElementTags

/-- A node of a compiled template. -/
inductive Node
  /-- Plain text. -/
  | text (s : Text)
  /-- A value that is written. -/
  | value (e : FilterExpr)
  /-- One of two bodies, depending on whether a condition is true. -/
  | choice (condition : FilterExpr) (body otherwise : List Node)
  /-- A body for each item of a collection, or another body if there is no item. -/
  | loop (names : List Text) (collection : FilterExpr) (backwards : Bool)
      (body whenEmpty : List Node)
  /-- A body in which further variables are set. -/
  | binding (bindings : List (Text × FilterExpr)) (body : List Node)
  /-- A body in which written values are escaped or not. -/
  | escaping (on : Bool) (body : List Node)
  /-- Another template, named in a template that may have a name itself. The serial number tells
  inclusions apart. -/
  | inclusion (serial : Nat) (origin : Option Text) (name : FilterExpr)
  /-- Several nodes as one. -/
  | group (body : List Node)
  /-- A block of the host with its parts. -/
  | host (weave : Weave) (parts : List Node)
  /-- A use of a registered tag. -/
  | element (tag : Tag) (identifier source : Text) (entries : List Entry) (body : List Node)

/-- A use of a registered tag in a compiled template. -/
structure Occurrence where
  tag : Tag
  identifier : Text
  source : Text
  entries : List Entry
  bodySize : Nat

/-- The description of a use of a tag. -/
def Occurrence.describe (o : Occurrence) : Text :=
  "<HtmlTagNode: ".toList ++ o.tag.name ++ ' ' :: o.identifier ++
    ". Source: ".toList ++ o.source ++ ['>']

namespace Node

mutual

/-- The uses of registered tags in a node, each before those in its body. -/
def occurrences : Node → List Occurrence
  | text _ => []
  | value _ => []
  | choice _ body otherwise => occurrencesAll body ++ occurrencesAll otherwise
  | loop _ _ _ body whenEmpty => occurrencesAll body ++ occurrencesAll whenEmpty
  | binding _ body => occurrencesAll body
  | escaping _ body => occurrencesAll body
  | inclusion _ _ _ => []
  | group body => occurrencesAll body
  | host _ parts => occurrencesAll parts
  | element tag identifier source entries body =>
    ⟨tag, identifier, source, entries, body.length⟩ :: occurrencesAll body

/-- The uses of registered tags in nodes, in the order of the template. -/
def occurrencesAll : List Node → List Occurrence
  | [] => []
  | n :: rest => occurrences n ++ occurrencesAll rest

end

end Node
end ElementTags
