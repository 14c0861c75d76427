import ElementTags.Proofs.Soundness

/-! # What the readers leave

A reader that succeeds leaves tokens from the end of those that it was given
(`ElementTags.Attribute.Leaves`), for every list of tokens, also one that no source is
cut into. What is left of what is left is left of the whole, so that the property
passes through sequencing, and through the readers that call each other
(`ElementTags.Attribute.terms_leave`).
-/

namespace ElementTags.Attribute

open Outcome

/-- Where a reading succeeds, the tokens that it leaves end the given ones. -/
def Leaves {α : Type} (left : α → List Token) (ts : List Token) (x : Reading α) : Prop :=
  ∀ a, x = .ok a → left a <:+ ts

section Rules

variable {α β : Type} {left : α → List Token} {left' : β → List Token} {ts tokens : List Token}
  {x y : Reading α}

theorem leaves_error (fault : AttributeFault) : Leaves left ts (.error fault) := nofun

theorem leaves_ok {a : α} (suffix : left a <:+ ts) : Leaves left ts (.ok a) := by
  intro b same
  obtain rfl := Except.ok.inj same
  exact suffix

theorem Leaves.within (leaves : Leaves left ts x) (inside : ts <:+ tokens) :
    Leaves left tokens x := fun a found => (leaves a found).trans inside

/-- What is left of what is left. -/
theorem Leaves.bind {f : α → Reading β} (leaves : Leaves left ts x)
    (next : ∀ a, Leaves left' (left a) (f a)) : Leaves left' ts (x >>= f) := by
  intro b found
  obtain ⟨a, first, found⟩ := bind_eq_ok.mp found
  exact (next a b found).trans (leaves a first)

/-- A step that takes no tokens. -/
theorem leaves_bind {γ : Type} {z : Reading γ} {f : γ → Reading α}
    (next : ∀ c, Leaves left ts (f c)) : Leaves left ts (z >>= f) := by
  intro a found
  obtain ⟨c, -, found⟩ := bind_eq_ok.mp found
  exact next c a found

theorem Leaves.map {f : α → β} (leaves : Leaves left ts x) (same : ∀ a, left' (f a) = left a) :
    Leaves left' ts (x.map f) := by
  intro b found
  obtain ⟨a, first, rfl⟩ := map_eq_ok.mp found
  rw [same]
  exact leaves a first

theorem Leaves.ite {c : Prop} [Decidable c] (yes : c → Leaves left ts x)
    (no : ¬c → Leaves left ts y) : Leaves left ts (if c then x else y) := by
  split
  · exact yes ‹_›
  · exact no ‹_›

end Rules

variable {source : Text} {ts : List Token}

/-! ## Values -/

theorem readLocalized_leaves : Leaves Read.rest ts (readLocalized source ts) := by
  intro r found
  obtain ⟨literal, close, split, -⟩ := readLocalized_sound found
  exact ⟨[literal, close], split.symm⟩

theorem readOperand_leaves : Leaves Read.rest ts (readOperand source ts) := by
  cases negative : negative? ts with
  | some found =>
      obtain ⟨number, rest⟩ := found
      rw [readOperand_negative negative]
      obtain ⟨sign, rfl, -⟩ := negative?_eq_some_iff.mp negative
      exact leaves_ok ⟨[sign, number], rfl⟩
  | none =>
      cases localized : localized? ts with
      | some rest =>
          rw [readOperand_localized negative localized]
          obtain ⟨name, paren, rfl, -⟩ := localized?_eq_some_iff.mp localized
          exact (readLocalized_leaves.within ⟨[name, paren], rfl⟩).map fun _ => rfl
      | none =>
          match ts with
          | [] => exact leaves_error _
          | t :: rest =>
              rw [readOperand_cons negative localized]
              exact Leaves.ite (fun _ => leaves_error _) fun _ =>
                leaves_ok (List.suffix_cons t rest)

theorem readArgument_leaves : Leaves Read.rest ts (readArgument source ts) := by
  match ts with
  | [] => exact leaves_ok List.suffix_rfl
  | colon :: rest =>
      rw [readArgument]
      refine Leaves.ite (fun _ => ?_) fun _ => leaves_ok List.suffix_rfl
      exact (readOperand_leaves.within (List.suffix_cons colon rest)).map fun _ => rfl

theorem readCalls_leaves (source : Text) (ts : List Token) :
    Leaves Read.rest ts (readCalls source ts) := by
  induction ts using readCalls.induct with
  | case1 =>
      rw [readCalls]
      exact leaves_ok List.suffix_rfl
  | case2 bar mark =>
      rw [readCalls, if_pos mark]
      exact leaves_error _
  | case3 bar mark name behind kind ih =>
      rw [readCalls, if_pos mark]
      simp only [if_pos kind]
      refine (readArgument_leaves.within ⟨[bar, name], rfl⟩).bind fun argument => ?_
      exact (ih argument).bind fun others => leaves_ok List.suffix_rfl
  | case4 bar mark name behind other =>
      rw [readCalls, if_pos mark]
      simp only [if_neg other]
      exact leaves_error _
  | case5 bar rest other =>
      rw [readCalls.eq_def]
      simp only [if_neg other]
      exact leaves_ok List.suffix_rfl

theorem readFilters_leaves : Leaves Read.rest ts (readFilters source ts) := by
  refine (readCalls_leaves source ts).bind fun calls => ?_
  exact leaves_bind fun arguments => leaves_bind fun filters => leaves_ok List.suffix_rfl

theorem readOperations_leaves (source : Text) (ts : List Token) :
    Leaves Read.rest ts (readOperations source ts) := by
  induction ts using readOperations.induct with
  | case1 =>
      rw [readOperations]
      exact leaves_ok List.suffix_rfl
  | case2 t rest other =>
      rw [readOperations]
      simp only [other]
      exact leaves_ok List.suffix_rfl
  | case3 t rest operator mark ih =>
      rw [readOperations]
      simp only [mark]
      refine (readOperand_leaves.within (List.suffix_cons t rest)).bind fun operand => ?_
      refine leaves_bind fun value => ?_
      exact (ih operand).bind fun others => leaves_ok List.suffix_rfl

theorem readPlain_leaves : Leaves Read.rest ts (readPlain source ts) := by
  refine readOperand_leaves.bind fun operand => Leaves.ite (fun _ => ?_) fun _ => ?_
  · refine leaves_bind fun first => (readOperations_leaves source _).bind fun others => ?_
    exact readFilters_leaves.bind fun filters => leaves_ok List.suffix_rfl
  · refine (readCalls_leaves source _).bind fun calls => ?_
    exact leaves_bind fun value => leaves_ok List.suffix_rfl

theorem readCode_leaves {paren : Token} : Leaves Read.rest ts (readCode source paren ts) := by
  unfold readCode
  split
  · exact leaves_error _
  · rename_i close rest found
    obtain ⟨inner, rfl, -⟩ := closing?_eq_some_iff.mp found
    refine Leaves.ite (fun _ => leaves_ok ?_) fun _ => leaves_error _
    exact (List.suffix_cons close rest).trans (List.suffix_append inner _)

theorem readColon_leaves {key : Text} :
    Leaves Read.rest ts (readPairKey.readColon source key ts) := by
  intro r found
  obtain ⟨colon, split, -⟩ := readColon_sound found
  exact ⟨[colon], split.symm⟩

theorem readPairKey_leaves : Leaves Read.rest ts (readPairKey source ts) := by
  match ts with
  | [] => exact leaves_error _
  | key :: rest =>
      rw [readPairKey]
      split
      · exact leaves_error _
      · exact readColon_leaves.within (List.suffix_cons key rest)
      · exact readColon_leaves.within (List.suffix_cons key rest)

theorem readComma_leaves {close : Char} : Leaves Read.rest ts (readComma source close ts) := by
  intro r found
  rcases readComma_sound found with ⟨comma, split, -⟩ | ⟨same, -⟩
  · exact ⟨[comma], split.symm⟩
  · exact ⟨[], same.symm⟩

theorem terms_leave (source : Text) : (∀ ts, Leaves Read.rest ts (readTerm source ts)) ∧
    (∀ ts, Leaves Read.rest ts (readPairs source ts)) ∧
    ∀ ts, Leaves Read.rest ts (readItems source ts) := by
  refine readTerm.mutual_induct (fun ts => Leaves Read.rest ts (readTerm source ts))
    (fun ts => Leaves Read.rest ts (readPairs source ts))
    (fun ts => Leaves Read.rest ts (readItems source ts)) ?_ ?_ ?_ ?_ ?_ ?_ ?_ ?_ ?_ ?_ ?_
  · rw [readTerm]
    exact leaves_error _
  · intro t rest mark items
    rw [readTerm, if_pos mark]
    refine (items.within (List.suffix_cons t rest)).bind fun items => ?_
    exact readFilters_leaves.bind fun filters => leaves_ok List.suffix_rfl
  · intro t rest noList mark pairs
    rw [readTerm, if_neg noList, if_pos mark]
    refine (pairs.within (List.suffix_cons t rest)).bind fun pairs => ?_
    exact readFilters_leaves.bind fun filters => leaves_ok List.suffix_rfl
  · intro t rest noList noDict mark
    rw [readTerm, if_neg noList, if_neg noDict, if_pos mark]
    refine (readCode_leaves.within (List.suffix_cons t rest)).bind fun code => ?_
    exact readFilters_leaves.bind fun filters => leaves_ok List.suffix_rfl
  · intro t rest noList noDict noCode
    rw [readTerm, if_neg noList, if_neg noDict, if_neg noCode]
    exact readPlain_leaves
  · rw [readPairs]
    exact leaves_error _
  · intro t rest mark
    rw [readPairs, if_pos mark]
    exact leaves_ok (List.suffix_cons t rest)
  · intro t rest other value others
    rw [readPairs, if_neg other]
    refine readPairKey_leaves.bind fun key => ?_
    refine (value key).bind fun value => ?_
    refine readComma_leaves.bind fun comma => ?_
    exact (others key value comma).bind fun others => leaves_ok List.suffix_rfl
  · rw [readItems]
    exact leaves_error _
  · intro t rest mark
    rw [readItems, if_pos mark]
    exact leaves_ok (List.suffix_cons t rest)
  · intro t rest other item others
    rw [readItems, if_neg other]
    refine item.bind fun item => readComma_leaves.bind fun comma => ?_
    exact (others item comma).bind fun others => leaves_ok List.suffix_rfl

theorem readTerm_leaves : Leaves Read.rest ts (readTerm source ts) := (terms_leave source).1 ts

/-! ## Keys and entries -/

theorem scanHyphens_leaves (last : Token) (ts : List Token) :
    Leaves Prod.snd ts (scanHyphens last ts) := by
  fun_induction scanHyphens last ts with
  | case1 => exact leaves_ok List.suffix_rfl
  | case2 => exact leaves_error _
  | case3 => exact leaves_error _
  | case4 => exact leaves_error _
  | case5 last hyphen _ part rest _ _ ih => exact (ih.within ⟨[hyphen, part], rfl⟩).map fun _ => rfl
  | case6 last hyphen rest =>
      intro found same
      obtain ⟨_, -, rfl⟩ := map_eq_ok.mp same
      exact List.suffix_rfl

theorem keyCandidate_leaves {first : Token} :
    Leaves KeyCandidate.rest ts (keyCandidate first ts) := by
  refine Leaves.ite (fun _ => ?_) fun _ => (scanHyphens_leaves first ts).map fun _ => rfl
  intro k same
  obtain ⟨_, -, rfl⟩ := map_eq_ok.mp same
  exact List.suffix_rfl

theorem readEntry_leaves {first : Token} :
    Leaves Read.rest (first :: ts) (readEntry source first ts) := by
  have positional : Leaves Read.rest (first :: ts) (readEntry.positional source first ts) :=
    readTerm_leaves.map fun _ => rfl
  have notKey (k : KeyCandidate) (candidate : keyCandidate first ts = .ok k) :
      Leaves Read.rest (first :: ts) (readEntry.notKey source first ts k candidate) :=
    Leaves.ite (fun _ => leaves_ok
      ((keyCandidate_leaves k candidate).trans (List.suffix_cons first ts))) fun _ => positional
  unfold readEntry
  refine Leaves.ite (fun _ => ?_) fun _ => Leaves.ite (fun _ => positional) fun _ => leaves_error _
  split
  · exact leaves_error _
  · rename_i k candidate
    split
    · rename_i equals behind next
      have inside : equals :: behind <:+ ts := next ▸ keyCandidate_leaves k candidate
      refine Leaves.ite (fun _ => ?_) fun _ => notKey k candidate
      refine Leaves.map (readTerm_leaves.within ?_) fun _ => rfl
      exact (List.suffix_cons equals behind).trans (inside.trans (List.suffix_cons first ts))
    · exact notKey k candidate

end ElementTags.Attribute
