import ElementTags.Text.Basic

/-!
# Escaping for HTML

The five characters with a meaning in HTML text and attribute values are written as entities. Each
character is escaped on its own, so that escaping distributes over concatenation.
-/

namespace ElementTags.Text

/-- The entity of a character, or the character itself when it needs none. -/
def entity : Char → Text
  | '&' => "&amp;".toList
  | '<' => "&lt;".toList
  | '>' => "&gt;".toList
  | '"' => "&quot;".toList
  | '\'' => "&#x27;".toList
  | c => [c]

/-- A text with the five special characters written as entities. -/
def escape (s : Text) : Text := s.flatMap entity

@[simp] theorem escape_nil : escape [] = [] := rfl

@[simp] theorem escape_cons (c : Char) (s : Text) : escape (c :: s) = entity c ++ escape s := rfl

@[simp] theorem escape_append (s t : Text) : escape (s ++ t) = escape s ++ escape t :=
  List.flatMap_append

end ElementTags.Text
