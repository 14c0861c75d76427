import ElementTags.Proofs.Decoding
import ElementTags.Proofs.Recovery

/-! # Replacing characters in turn

The host escapes a text by replacing the special characters one after the other, each
throughout the whole text, so that a later turn also meets what an earlier one has
written. Every such row of replacements is local
(`ElementTags.Text.replaceInTurn_eq_flatMap`), and if nothing that is written has a
later turn, it replaces every character by its own replacement
(`ElementTags.Text.replaceInTurn_singleton`). All entities begin with an ampersand and
have no other special character in them. So the ampersand goes first, and the five
turns write what escaping character by character writes, which decoding reads back
(`ElementTags.Text.escape_reversible`).
-/

namespace ElementTags.Text

/-- A text in which some characters are replaced one after the other. -/
def replaceInTurn (replacement : Char → Text) (turns : List Char) (s : Text) : Text :=
  turns.foldl (fun s c => replaceAll [c] (replacement c) s) s

variable {replacement : Char → Text} {turns : List Char} {s : Text}

/-- Replacing a single character looks at each character on its own. -/
theorem replaceAll_singleton (c : Char) (new s : Text) :
    replaceAll [c] new s = s.flatMap fun d => if d = c then new else [d] := by
  change replaceFrom [c] new 0 s = _
  induction s with
  | nil => rfl
  | cons d s ih =>
      rw [List.flatMap_cons, ← ih]
      by_cases same : d = c
      · subst same
        have here : List.isPrefixOf [d] (d :: s) = true := by
          rw [List.isPrefixOf_cons_cons, beq_self_eq_true, Bool.true_and]
          rfl
        rw [if_pos rfl, replaceFrom, if_pos here]
        rfl
      · have other : List.isPrefixOf [c] (d :: s) = false := by
          rw [List.isPrefixOf_cons_cons, beq_eq_false_iff_ne.mpr (Ne.symm same), Bool.false_and]
        rw [if_neg same, Written.replaceFrom_skip other, List.singleton_append]

/-- Replacing in turn does not look across the end of a text. -/
theorem replaceInTurn_append (replacement : Char → Text) (turns : List Char) (s t : Text) :
    replaceInTurn replacement turns (s ++ t) =
      replaceInTurn replacement turns s ++ replaceInTurn replacement turns t := by
  induction turns generalizing s t with
  | nil => rfl
  | cons c turns ih =>
      change replaceInTurn replacement turns (replaceAll [c] (replacement c) (s ++ t)) =
        replaceInTurn replacement turns (replaceAll [c] (replacement c) s) ++
          replaceInTurn replacement turns (replaceAll [c] (replacement c) t)
      simp only [replaceAll_singleton, List.flatMap_append, ih]

/-- Characters that do not occur have nothing to be replaced. -/
theorem replaceInTurn_of_not_mem (absent : ∀ c ∈ turns, c ∉ s) :
    replaceInTurn replacement turns s = s := by
  induction turns with
  | nil => rfl
  | cons c turns ih =>
      obtain ⟨here, others⟩ := List.forall_mem_cons.mp absent
      have unchanged : replaceAll [c] (replacement c) s = s := by
        refine replaceAll_of_not_infix (List.cons_ne_nil _ _) (fun inside => here ?_) _
        exact inside.subset List.mem_cons_self
      change replaceInTurn replacement turns (replaceAll [c] (replacement c) s) = s
      rw [unchanged, ih others]

/-- Replacing in turn looks at each character on its own, whatever the order of the turns. -/
theorem replaceInTurn_eq_flatMap (replacement : Char → Text) (turns : List Char) (s : Text) :
    replaceInTurn replacement turns s = s.flatMap fun c => replaceInTurn replacement turns [c] := by
  induction s with
  | nil => exact replaceInTurn_of_not_mem fun _ _ => List.not_mem_nil
  | cons c s ih => rw [← List.singleton_append, replaceInTurn_append, ih]; rfl

/-- A character is replaced by its own replacement if no later turn meets a character of it. -/
theorem replaceInTurn_singleton (settled : turns.Pairwise fun c later => later ∉ replacement c)
    (c : Char) :
    replaceInTurn replacement turns [c] = if c ∈ turns then replacement c else [c] := by
  induction turns with
  | nil => rfl
  | cons d turns ih =>
      obtain ⟨last, others⟩ := List.pairwise_cons.mp settled
      change replaceInTurn replacement turns (replaceAll [d] (replacement d) [c]) = _
      rw [replaceAll_singleton, List.flatMap_singleton]
      by_cases same : c = d
      · subst same
        rw [if_pos rfl, if_pos List.mem_cons_self, replaceInTurn_of_not_mem last]
      · rw [if_neg same, ih others]
        simp only [List.mem_cons, same, false_or]

/-! ## Entities in turn -/

/-- The special characters in the order in which the host replaces them. -/
def specialsInTurn : List Char := ['&', '<', '>', '"', '\'']

/-- Only the special characters have an entity. -/
theorem entity_of_not_special {c : Char} (ordinary : c ∉ specialsInTurn) : entity c = [c] := by
  unfold entity
  split
  case h_6 => rfl
  all_goals exact absurd (by decide) ordinary

/-- Five turns write what escaping character by character writes. -/
theorem replaceInTurn_entity (s : Text) :
    replaceInTurn entity specialsInTurn s = s.flatMap entity := by
  -- No entity has a special character other than the ampersand, whose turn is over by then.
  have settled : specialsInTurn.Pairwise fun c later => later ∉ entity c := by decide
  have each (c : Char) : replaceInTurn entity specialsInTurn [c] = entity c := by
    rw [replaceInTurn_singleton settled]
    split
    · rfl
    · exact (entity_of_not_special ‹_›).symm
  rw [replaceInTurn_eq_flatMap]
  exact congrArg s.flatMap (funext each)

/-- **Escaping is local and can be undone.** Replacing the five special characters in turn, the
ampersand first, replaces every character on its own by its entity. So a text is escaped part by
part, one pass over the escaped text reads the entities back, also those of a text that has
entities itself, and different texts are escaped to different ones. -/
theorem escape_reversible (s t : Text) :
    replaceInTurn entity specialsInTurn s = escape s ∧ escape s = s.flatMap entity ∧
      escape (s ++ t) = escape s ++ escape t ∧ decode (escape s) = s ∧
      (escape s = escape t ↔ s = t) :=
  ⟨replaceInTurn_entity s, rfl, escape_append s t, decode_escape s, escape_injective.eq_iff⟩

/-- With the ampersand behind the angle bracket, an entity would be escaped a second time. -/
example : replaceInTurn entity ['<', '&'] ['<'] = "&amp;lt;".toList := by decide

end ElementTags.Text
