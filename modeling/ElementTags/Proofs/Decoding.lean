import ElementTags.Proofs.InertText

/-! # Reading escaped text

HTML reads the five entities back as the characters that they stand for. Escaping
writes an ampersand only as the start of one of them, so that reading an escaped text
gives the text (`ElementTags.Text.decode_escape`) and different texts are escaped to
different ones (`ElementTags.Text.escape_injective`).
-/

namespace ElementTags.Text

/-- A text in which the entities are read as the characters that they stand for. -/
def decode : Text → Text
  | '&' :: 'a' :: 'm' :: 'p' :: ';' :: rest => '&' :: decode rest
  | '&' :: 'l' :: 't' :: ';' :: rest => '<' :: decode rest
  | '&' :: 'g' :: 't' :: ';' :: rest => '>' :: decode rest
  | '&' :: 'q' :: 'u' :: 'o' :: 't' :: ';' :: rest => '"' :: decode rest
  | '&' :: '#' :: 'x' :: '2' :: '7' :: ';' :: rest => '\'' :: decode rest
  | c :: rest => c :: decode rest
  | [] => []

theorem decode_cons {c : Char} (plain : c ≠ '&') (rest : Text) :
    decode (c :: rest) = c :: decode rest := by
  rw [decode] <;> intro _ same <;> exact absurd same plain

/-- The entity of a character is read as the character. -/
theorem decode_entity_append (c : Char) (rest : Text) :
    decode (entity c ++ rest) = c :: decode rest := by
  by_cases ampersand : c = '&'
  · subst ampersand
    rfl
  · unfold entity
    split
    case h_6 => exact decode_cons ampersand rest
    all_goals rfl

/-- An escaped text is read as the text. -/
theorem decode_escape (s : Text) : decode (escape s) = s := by
  induction s with
  | nil => rfl
  | cons c s ih => rw [escape_cons, decode_entity_append, ih]

/-- Different texts are escaped to different ones. -/
theorem escape_injective : Function.Injective escape :=
  Function.LeftInverse.injective decode_escape

end ElementTags.Text
