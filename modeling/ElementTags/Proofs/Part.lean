import ElementTags.Proofs.Segmentation

/-! # The tokens of a part of a source

A reader of attributes is given the tokens behind those that were read already, and
an attribute is spelled by the tokens between its neighbours. Both are the
segmentation of a part of the source (`ElementTags.Token.Part`), so that each of
them is a lexeme that stands in the source where it says, and the text between two
of them is cut into the tokens between them.
-/

namespace ElementTags.Token

open Outcome

/-- The tokens of a part of a source. -/
def Part (source : Text) (tokens : List Token) : Prop :=
  ∃ before inside behind, source = before ++ (inside ++ behind) ∧
    Segments before.length inside tokens

/-- The tokens of a source are those of a part of every text with the source at its start. -/
theorem Segments.part {source : Text} {tokens : List Token} (segments : Segments 0 source tokens)
    (behind : Text) : Part (source ++ behind) tokens :=
  ⟨[], source, behind, rfl, segments⟩

theorem part_of_scan {source : Text} {tokens : List Token}
    (scanned : scan source = .ok tokens) : Part source tokens := by
  rw [← List.append_nil source]
  exact (segments_of_scanFrom scanned).part []

/-- Without its first tokens a part is still one. -/
theorem Part.behind {source : Text} {tokens others : List Token}
    (part : Part source (tokens ++ others)) : Part source others := by
  obtain ⟨before, inside, behind, rfl, segments⟩ := part
  obtain ⟨a, b, rfl, -, back, -⟩ := segments.split
  refine ⟨before ++ a, b, behind, by simp only [List.append_assoc], ?_⟩
  rw [List.length_append]
  exact back

theorem Part.tail {source : Text} {t : Token} {tokens : List Token}
    (part : Part source (t :: tokens)) : Part source tokens :=
  Part.behind (show Part source ([t] ++ tokens) from part)

/-- The tokens of a part are lexemes. -/
theorem Part.lexeme {source : Text} {tokens : List Token} (part : Part source tokens)
    {t : Token} (member : t ∈ tokens) : Lexeme t.kind t.text := by
  obtain ⟨front, back, rfl⟩ := List.append_of_mem member
  obtain ⟨_, _, _, rfl, segments⟩ := part.behind
  obtain ⟨_, _, _, _, _, lexeme, _⟩ := segments.uncons
  exact lexeme

/-- The tokens of a part stand in the source where they say. -/
theorem Part.slice {source : Text} {tokens : List Token} (part : Part source tokens)
    {t : Token} (member : t ∈ tokens) :
    ∃ before behind, source = before ++ (t.text ++ behind) ∧ before.length = t.start := by
  obtain ⟨front, back, rfl⟩ := List.append_of_mem member
  obtain ⟨before, inside, behind, rfl, segments⟩ := part.behind
  obtain ⟨blanks, rest, rfl, -, start, -⟩ := segments.uncons
  refine ⟨before ++ blanks, rest ++ behind, by simp only [List.append_assoc], ?_⟩
  rw [start, List.length_append]

theorem Part.stop_le {source : Text} {tokens : List Token} (part : Part source tokens)
    {t : Token} (member : t ∈ tokens) : t.stop ≤ source.length := by
  obtain ⟨before, behind, rfl, start⟩ := part.slice member
  rw [Token.stop, ← start, List.length_append, List.length_append]
  omega

/-- The text between two tokens of a part is cut into the tokens between them. -/
theorem Part.between {source : Text} {first last : Token} {tokens others : List Token}
    (part : Part source (first :: tokens ++ last :: others)) :
    Segments first.stop ((source.take last.start).drop first.stop) tokens := by
  obtain ⟨before, inside, behind, rfl, segments⟩ := part
  obtain ⟨blanks, rest, rfl, -, start, -, -, inner⟩ := segments.uncons
  obtain ⟨a, b, rfl, front, back, -⟩ := inner.split
  obtain ⟨gap, rest, rfl, blank, lastStart, -⟩ := back.uncons
  have stop : first.stop = (before ++ (blanks ++ first.text)).length := by
    rw [Token.stop, start, List.length_append, List.length_append]
    omega
  have reach : last.start = (before ++ (blanks ++ first.text) ++ (a ++ gap)).length := by
    rw [lastStart, stop]
    simp only [List.length_append]
    omega
  have source :
      before ++ ((blanks ++ (first.text ++ (a ++ (gap ++ (last.text ++ rest))))) ++ behind) =
        before ++ (blanks ++ first.text) ++ (a ++ gap) ++ (last.text ++ (rest ++ behind)) := by
    simp only [List.append_assoc]
  rw [source, reach, List.take_left, stop, List.drop_left, ← stop]
  exact front.before_blanks blank

end ElementTags.Token
