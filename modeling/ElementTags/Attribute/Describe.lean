import ElementTags.Attribute.Entry
import ElementTags.Text.Quoted

/-!
# Descriptions of attributes

Entries and their values are described on one line. Lists and dictionaries have no description, and
neither has an attribute list that contains one.
-/

namespace ElementTags

/-- A description of the form `<name: content>`. -/
def describeAs (name : String) (content : Text) : Text :=
  '<' :: name.toList ++ ": ".toList ++ content ++ ['>']

/-- Descriptions in brackets. -/
def describeList (items : List Text) : Text := '[' :: Text.join ", ".toList items ++ [']']

/-- The operators of joined operands, from left to right. -/
def Term.operators : Term → List Operator
  | joined _ others _ => others.map (·.1)
  | _ => []

/-- The description of a value. -/
def Term.describe? (t : Term) : Option Text :=
  match t with
  | plain e => some (describeAs "FilterValue" (Text.quote e.text))
  | hyphenated name => some (describeAs "LookupValue" (Text.quote name))
  | joined _ _ _ =>
    some (describeAs "ArithmeticValue"
      (describeList (t.operators.map fun o => Text.quote [o.mark])))
  | parenthesized code _ => some (describeAs "PythonValue" (Text.quote code))
  | list _ _ => none
  | dict _ _ => none

namespace Entry

/-- The description of an entry. -/
def describe? (e : Entry) : Option Text :=
  e.value.describe?.map fun value =>
    let front := match e.key? with
      | some key => "KeywordAttr(key=".toList ++ Text.quote key ++ ", ".toList
      | none => "PositionalAttr(".toList
    front ++ "value=".toList ++ value ++ ", start_index=".toList ++ Text.ofNat e.start ++ [')']

/-- The description of an attribute list. -/
def describeAll? (entries : List Entry) : Option Text :=
  (entries.mapM describe?).map fun shown => describeAs "ParsedAttrs" (describeList shown)

end Entry
end ElementTags
