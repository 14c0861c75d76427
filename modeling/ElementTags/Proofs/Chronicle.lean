import ElementTags.Proofs.Leeway

/-! # The templates that are compiled one after the other

An engine takes its identifiers for the templates that it compiles. If each template is
compiled where the one before it has left the counter, or tags have moved it to since
(`ElementTags.Compilation.Chain`), the identifiers in all of them have increasing numbers
(`ElementTags.Compilation.Chain.numbers`), also if some of them are rejected.

A rendering compiles the templates that it includes. If its tags heed a leeway, it is a
sequence of look-ups, between which the included templates stay as they are and the counter
moves within the leeway only (`ElementTags.Shelf.Moves`, `ElementTags.Shelf.moves_render`).
-/

namespace ElementTags

open ElementTags.Computation Node

variable {leeway : Leeway}

/-! ## Chains of compilations -/

namespace Compilation

/-- Templates are compiled one after the other while the counter goes from one number to another,
and in between it is moved within a leeway. -/
inductive Chain (leeway : Leeway) (first : Nat) : List Compilation → Nat → Prop
  | nil : Chain leeway first [] first
  | move {earlier : List Compilation} {m n : Nat} (before : Chain leeway first earlier m)
      (moved : leeway.may m n) : Chain leeway first earlier n
  | snoc {earlier : List Compilation} {c : Compilation}
      (before : Chain leeway first earlier c.before.tagCount) :
      Chain leeway first (earlier ++ [c]) c.after.tagCount

namespace Chain

variable {first middle last : Nat} {earlier later : List Compilation}

theorem append (before : Chain leeway first earlier middle)
    (behind : Chain leeway middle later last) : Chain leeway first (earlier ++ later) last := by
  induction behind with
  | nil => rwa [List.append_nil]
  | move _ moved ih => exact ih.move moved
  | snoc _ ih => exact List.append_assoc earlier _ _ ▸ ih.snoc

theorem singleton (c : Compilation) : Chain leeway c.before.tagCount [c] c.after.tagCount :=
  @snoc _ _ [] c .nil

/-- The identifiers in a chain of templates have increasing numbers, which the counter has passed.
-/
theorem numbers (chain : Chain leeway first earlier last) : first ≤ last ∧
    ∃ numbers : List Nat, earlier.flatMap identifiers = numbers.map Ledger.identifier ∧
      numbers.Pairwise (· < ·) ∧ ∀ n ∈ numbers, n ≤ last := by
  induction chain with
  | nil => exact ⟨Nat.le_refl _, [], rfl, .nil, List.forall_mem_nil _⟩
  | move _ moved ih =>
      obtain ⟨grown, numbers, taken, increasing, passed⟩ := ih
      have forward := leeway.forward moved
      exact ⟨Nat.le_trans grown forward, numbers, taken, increasing,
        fun n old => Nat.le_trans (passed n old) forward⟩
  | @snoc earlier c _ ih =>
      obtain ⟨grown, numbers, taken, increasing, passed⟩ := ih
      obtain ⟨count, same, further⟩ := c.numbered
      refine ⟨by omega, numbers ++ List.range' (c.before.tagCount + 1) count, ?_, ?_, ?_⟩
      · rw [List.flatMap_append, taken, List.flatMap_singleton, same, Ledger.identifiersFrom,
          List.map_append]
      · refine List.pairwise_append.mpr ⟨increasing, List.pairwise_lt_range', fun m old n new => ?_⟩
        exact Nat.lt_of_le_of_lt (passed m old) (List.mem_range'_1.mp new).1
      · refine List.forall_mem_append.mpr ⟨fun n old => ?_, fun n new => ?_⟩
        · have := passed n old
          omega
        · have := (List.mem_range'_1.mp new).2
          omega

/-- So they are different from each other. -/
theorem nodup (chain : Chain leeway first earlier last) : (earlier.flatMap identifiers).Nodup := by
  obtain ⟨-, numbers, taken, increasing, -⟩ := chain.numbers
  rw [taken]
  exact (increasing.imp Nat.ne_of_lt).map _ fun _ _ apart same =>
    apart (Ledger.identifier_injective same)

end Chain
end Compilation

/-! ## Look-ups -/

namespace Shelf

open Rendering

variable {shelf : Shelf}

/-- What an inclusion compiles on a stage: the template that it asks for, unless that was included
before. -/
def compilations (shelf : Shelf) (serial : Nat) (names : List Text) (stage : Stage) :
    List Compilation :=
  match stage.included.find? fun i => i.serial = serial && i.names = names with
  | some _ => []
  | none =>
    match shelf.source? names with
    | none => []
    | some (name, source) => [⟨shelf.library, some name, source, stage.ledger⟩]

/-- What a look-up does: nothing, if there is nothing to compile, or else it compiles a template,
and includes it if that succeeds. -/
theorem lookUp_cases (shelf : Shelf) (serial : Nat) (names : List Text) (stage : Stage) :
    (shelf.compilations serial names stage = [] ∧ (shelf.lookUp serial names stage).2 = stage) ∨
    ∃ c : Compilation, shelf.compilations serial names stage = [c] ∧ c.before = stage.ledger ∧
      (shelf.lookUp serial names stage).2.ledger = c.after ∧
      ∀ i ∈ (shelf.lookUp serial names stage).2.included,
        i ∈ stage.included ∨ c.result = .ok i.nodes := by
  unfold compilations lookUp
  cases stage.included.find? fun i => i.serial = serial && i.names = names with
  | some known => exact .inl ⟨rfl, rfl⟩
  | none =>
      cases shelf.source? names with
      | none => exact .inl ⟨rfl, rfl⟩
      | some found =>
          obtain ⟨name, source⟩ := found
          refine .inr ⟨⟨shelf.library, some name, source, stage.ledger⟩, rfl, rfl, ?_⟩
          simp only [Shelf.compile, Compilation.after, Compilation.result]
          generalize ofTemplate shelf.library (some name) source stage.ledger = ran
          obtain ⟨fault | nodes, ledger⟩ := ran
          · exact ⟨rfl, fun i known => .inl known⟩
          · exact ⟨rfl, List.forall_mem_cons.mpr ⟨.inr rfl, fun i known => .inl known⟩⟩

/-- A rendering moves from a stage to another by look-ups. Between these it leaves the included
templates alone, and moves the counter within a leeway. -/
inductive Moves (leeway : Leeway) (shelf : Shelf) (stage : Stage) : List Compilation → Stage → Prop
  | start : Moves leeway shelf stage [] stage
  | stay {earlier : List Compilation} {here other : Stage}
      (moves : Moves leeway shelf stage earlier here)
      (moved : leeway.may here.ledger.tagCount other.ledger.tagCount)
      (included : other.included = here.included) : Moves leeway shelf stage earlier other
  | lookUp {earlier : List Compilation} {here : Stage}
      (moves : Moves leeway shelf stage earlier here) (serial : Nat) (names : List Text) :
      Moves leeway shelf stage (earlier ++ shelf.compilations serial names here)
        (shelf.lookUp serial names here).2

namespace Moves

variable {stage other : Stage} {compilations : List Compilation}

/-- The templates are compiled one after the other. -/
theorem chain (moves : shelf.Moves leeway stage compilations other) :
    Compilation.Chain leeway stage.ledger.tagCount compilations other.ledger.tagCount := by
  induction moves with
  | start => exact .nil
  | stay _ moved _ ih => exact ih.move moved
  | @lookUp earlier here _ serial names ih =>
      obtain ⟨nothing, same⟩ | ⟨c, one, before, after, -⟩ :=
        shelf.lookUp_cases serial names here
      · rwa [nothing, same, List.append_nil]
      · rw [one, after]
        exact .snoc (before ▸ ih)

/-- Every included template is one of those, or was included before. -/
theorem included (moves : shelf.Moves leeway stage compilations other) :
    ∀ i ∈ other.included, i ∈ stage.included ∨ ∃ c ∈ compilations, c.result = .ok i.nodes := by
  induction moves with
  | start => exact fun i known => .inl known
  | stay _ _ same ih => exact same ▸ ih
  | @lookUp earlier here _ serial names ih =>
      obtain ⟨nothing, same⟩ | ⟨c, one, -, -, compiled⟩ :=
        shelf.lookUp_cases serial names here
      · rwa [nothing, same, List.append_nil]
      · rw [one]
        refine fun i known => (compiled i known).elim (fun old => ?_) fun new => ?_
        · exact (ih i old).imp_right fun ⟨d, member, gives⟩ =>
            ⟨d, List.mem_append_left _ member, gives⟩
        · exact .inr ⟨c, List.mem_append_right _ (List.mem_singleton_self c), new⟩

/-- The tags in included templates heed a leeway if those of the library do. -/
theorem heed (known : ∀ tag ∈ shelf.library.tags, tag.Heeds leeway)
    (first : ∀ i ∈ stage.included, AllTags (Tag.Heeds leeway) i.nodes)
    (moves : shelf.Moves leeway stage compilations other) :
    ∀ i ∈ other.included, AllTags (Tag.Heeds leeway) i.nodes := by
  induction moves with
  | start => exact first
  | stay _ _ same ih => exact same ▸ ih
  | @lookUp earlier here _ serial names ih =>
      have found := keeps_lookUp known serial names { here with bodies := [] }
        ⟨rfl, ih, List.forall_mem_nil _⟩
      rw [lookUp_withBodies] at found
      exact found.1.included

end Moves

/-! ## Renderings -/

/-- A rendering may have come to some number and some included templates. -/
def Reaches (leeway : Leeway) (shelf : Shelf) (stage : Stage) (count : Nat)
    (included : List Included) : Prop :=
  ∃ compilations here, shelf.Moves leeway stage compilations here ∧
    leeway.may here.ledger.tagCount count ∧
    here.included = included

variable {stage : Stage}

/-- A stage that a rendering may have come to, while the tags in bodies heed a leeway. -/
theorem stands_reaches_iff {other : Stage} : other.Stands leeway (shelf.Reaches leeway stage) ↔
    (∃ compilations, shelf.Moves leeway stage compilations other) ∧
      ∀ cell ∈ other.bodies, AllTags (Tag.Heeds leeway) cell.nodes := by
  constructor
  · rintro ⟨⟨compilations, here, moves, moved, included⟩, bodies⟩
    exact ⟨⟨compilations, moves.stay moved included.symm⟩, bodies⟩
  · rintro ⟨⟨compilations, moves⟩, bodies⟩
    exact ⟨⟨compilations, other, moves, leeway.refl _, rfl⟩, bodies⟩

theorem spares_reaches : leeway.Spares (shelf.Reaches leeway stage) :=
  fun _ _ _ further ⟨compilations, here, moves, moved, included⟩ =>
    ⟨compilations, here, moves, leeway.trans moved further, included⟩

/-- A look-up finds a template whose tags heed the leeway. -/
theorem keeps_lookUp_reaches (known : ∀ tag ∈ shelf.library.tags, tag.Heeds leeway)
    (first : ∀ i ∈ stage.included, AllTags (Tag.Heeds leeway) i.nodes) (serial : Nat)
    (names : List Text) :
    Keeps (Stage.Stands leeway (shelf.Reaches leeway stage)) (shelf.lookUp serial names)
      (AllTags (Tag.Heeds leeway)) := by
  intro here stands
  obtain ⟨⟨compilations, moves⟩, bodies⟩ := stands_reaches_iff.mp stands
  obtain ⟨set, found⟩ := keeps_lookUp known serial names here ⟨rfl, moves.heed known first, bodies⟩
  exact ⟨stands_reaches_iff.mpr ⟨⟨_, moves.lookUp serial names⟩, set.bodies⟩, found⟩

theorem steady_renderWithin (known : ∀ tag ∈ shelf.library.tags, tag.Heeds leeway)
    (first : ∀ i ∈ stage.included, AllTags (Tag.Heeds leeway) i.nodes) (depth : Nat)
    {nodes : List Node} (heed : AllTags (Tag.Heeds leeway) nodes) :
    Steady leeway (shelf.Reaches leeway stage) (shelf.renderWithin depth nodes) := by
  induction depth generalizing nodes with
  | zero => exact steady_fail _
  | succ depth ih =>
      have covered : Covers leeway (shelf.Reaches leeway stage) (shelf.elsewhere depth) := by
        refine ⟨fun serial origin v => ?_, fun accessor => ?_⟩
        · have names : Steady leeway (shelf.Reaches leeway stage)
              fun stage => (namesOf origin v, stage) := fun _ stands => ⟨stands, fun _ _ => trivial⟩
          exact names.andThen fun names => (keeps_lookUp_reaches known first serial names).bind
            fun nodes heed => (ih heed).inLayer []
        · exact (keeps_nodesOf accessor).bind fun nodes heed => ih heed
      exact (steady_renderAll spares_reaches covered nodes heed).andThen fun outputs =>
        steady_joined outputs

/-- **A rendering takes identifiers for the templates that it includes only**, apart from those that
its tags take within their leeway. -/
theorem moves_render (known : ∀ tag ∈ shelf.library.tags, tag.Heeds leeway)
    (first : ∀ i ∈ stage.included, AllTags (Tag.Heeds leeway) i.nodes)
    (bodies : ∀ cell ∈ stage.bodies, AllTags (Tag.Heeds leeway) cell.nodes) {nodes : List Node}
    (heed : AllTags (Tag.Heeds leeway) nodes) :
    (∃ compilations, shelf.Moves leeway stage compilations (shelf.render nodes stage).2) ∧
      ∀ cell ∈ (shelf.render nodes stage).2.bodies, AllTags (Tag.Heeds leeway) cell.nodes :=
  stands_reaches_iff.mp (steady_renderWithin known first maxDepth heed stage
    (stands_reaches_iff.mpr ⟨⟨[], .start⟩, bodies⟩)).1

end Shelf
end ElementTags
