import ElementTags.Proofs.Outcome
import ElementTags.Proofs.WrittenForm

/-! # Accepted forms have a meaning

The host reads texts of values and knows names of filters. When it accepts all of
those in a written form, the form means an entry at every position.
-/

namespace ElementTags.Written

open Attribute (compile)
open Outcome

/-- A value that the host reads is compiled, whether it is a literal or not. -/
theorem compile_of_readable {operand : Attribute.WrittenOperand} {filters : Text}
    (readable : Readable (operand.text ++ filters)) :
    ∃ value, compile operand filters = .ok value := by
  obtain ⟨e, read⟩ := readable
  unfold compile
  rw [read]
  by_cases literal : operand.isLiteral = true
  · simp only [if_pos literal]
    exact ⟨_, rfl⟩
  · simp only [if_neg literal]
    exact ⟨e, rfl⟩

theorem compile_of_readable_alone {operand : Operand} (readable : Readable operand.text) :
    ∃ value, compile operand.operand [] = .ok value := by
  refine compile_of_readable ?_
  rw [List.append_nil]
  exact readable

theorem compileArgument_of_accepted {call : Call} (accepted : call.Accepted) :
    ∃ argument, call.call.compileArgument = .ok argument := by
  obtain ⟨name, operand⟩ := call
  cases operand with
  | none => exact ⟨none, rfl⟩
  | some operand =>
      obtain ⟨value, compiled⟩ := compile_of_readable_alone (accepted.2 operand rfl)
      refine ⟨some value, ?_⟩
      change (some operand.operand).mapM (compile · []) = .ok (some value)
      rw [Option.mapM_some, compiled]
      rfl

theorem filters_of_accepted {calls : List Call} (accepted : ∀ call ∈ calls, call.Accepted) :
    ∃ applied, filters calls = .ok applied := by
  suffices both : ∃ arguments applied,
      (calls.map Call.call).mapM Attribute.WrittenCall.compileArgument = .ok arguments ∧
        ((calls.map Call.call).zip arguments).mapM Attribute.knownFilter = .ok applied by
    obtain ⟨arguments, applied, compiled, known⟩ := both
    refine ⟨applied, ?_⟩
    rw [filters, compiled, ok_bind, known]
  induction calls with
  | nil => exact ⟨[], [], rfl, rfl⟩
  | cons call calls ih =>
      obtain ⟨first, others⟩ := List.forall_mem_cons.mp accepted
      obtain ⟨argument, compiled⟩ := compileArgument_of_accepted first
      obtain ⟨filter, registered⟩ := first.1
      obtain ⟨arguments, applied, rest, known⟩ := ih others
      have head : Attribute.knownFilter (call.call, argument) = .ok ⟨filter, argument⟩ := by
        unfold Attribute.knownFilter
        simp only [Call.call, registered]
      refine ⟨argument :: arguments, ⟨filter, argument⟩ :: applied, ?_, ?_⟩
      · rw [List.map_cons, List.mapM_cons, compiled, ok_bind, rest]
        rfl
      · rw [List.map_cons, List.zip_cons_cons, List.mapM_cons, head, ok_bind, known]
        rfl

theorem operations_of_accepted {others : List (Operator × Operand)}
    (accepted : ∀ operation ∈ others, Readable operation.2.text) :
    ∃ values, operations others = .ok values := by
  induction others with
  | nil => exact ⟨[], rfl⟩
  | cons operation others ih =>
      obtain ⟨operator, operand⟩ := operation
      obtain ⟨first, rest⟩ := List.forall_mem_cons.mp accepted
      obtain ⟨value, compiled⟩ := compile_of_readable_alone first
      obtain ⟨values, more⟩ := ih rest
      refine ⟨(operator, value) :: values, ?_⟩
      rw [operations, compiled, ok_bind, more]
      rfl

mutual

/-- An accepted term has a meaning. -/
theorem Term.meaning_of_accepted (term : Term) (accepted : term.Accepted) :
    ∃ value, term.meaning = .ok value := by
  match term with
  | .plain operand calls =>
      rw [Term.Accepted] at accepted
      obtain ⟨value, compiled⟩ := compile_of_readable accepted
      refine ⟨.plain value, ?_⟩
      rw [Term.meaning, compiled]
      rfl
  | .joined first others several calls =>
      rw [Term.Accepted] at accepted
      obtain ⟨start, rest, chain⟩ := accepted
      obtain ⟨value, compiled⟩ := compile_of_readable_alone start
      obtain ⟨values, operands⟩ := operations_of_accepted rest
      obtain ⟨applied, known⟩ := filters_of_accepted chain
      refine ⟨.joined value values applied, ?_⟩
      rw [Term.meaning, compiled, ok_bind, operands, ok_bind, known]
      rfl
  | .list items calls =>
      rw [Term.Accepted] at accepted
      obtain ⟨values, inside⟩ := itemsMeaning_of_accepted items accepted.1
      obtain ⟨applied, known⟩ := filters_of_accepted accepted.2
      refine ⟨.list values applied, ?_⟩
      rw [Term.meaning, inside, ok_bind, known]
      rfl
  | .dict pairs calls =>
      rw [Term.Accepted] at accepted
      obtain ⟨values, inside⟩ := pairsMeaning_of_accepted pairs accepted.1
      obtain ⟨applied, known⟩ := filters_of_accepted accepted.2
      refine ⟨.dict values applied, ?_⟩
      rw [Term.meaning, inside, ok_bind, known]
      rfl
  | .parenthesized code calls =>
      rw [Term.Accepted] at accepted
      obtain ⟨applied, known⟩ := filters_of_accepted accepted
      refine ⟨.parenthesized code.text applied, ?_⟩
      rw [Term.meaning, known]
      rfl

theorem itemsMeaning_of_accepted (items : List Term) (accepted : ItemsAccepted items) :
    ∃ values, itemsMeaning items = .ok values := by
  match items with
  | [] => exact ⟨[], rfl⟩
  | item :: rest =>
      rw [ItemsAccepted] at accepted
      obtain ⟨value, meaning⟩ := Term.meaning_of_accepted item accepted.1
      obtain ⟨values, others⟩ := itemsMeaning_of_accepted rest accepted.2
      refine ⟨value :: values, ?_⟩
      rw [itemsMeaning, meaning, ok_bind, others]
      rfl

theorem pairsMeaning_of_accepted (pairs : List (PairKey × Term)) (accepted : PairsAccepted pairs) :
    ∃ values, pairsMeaning pairs = .ok values := by
  match pairs with
  | [] => exact ⟨[], rfl⟩
  | (key, item) :: rest =>
      rw [PairsAccepted] at accepted
      obtain ⟨value, meaning⟩ := Term.meaning_of_accepted item accepted.1
      obtain ⟨values, others⟩ := pairsMeaning_of_accepted rest accepted.2
      refine ⟨(key.key, value) :: values, ?_⟩
      rw [pairsMeaning, meaning, ok_bind, others]
      rfl

end

/-- An accepted entry has a meaning at every position. -/
theorem Entry.meaning_of_accepted {entry : Entry} (accepted : entry.Accepted) (start : Nat) :
    ∃ value, entry.meaning start = .ok value := by
  cases entry with
  | positional term =>
      obtain ⟨value, meaning⟩ := term.meaning_of_accepted accepted
      exact ⟨_, map_eq_ok.mpr ⟨value, meaning, rfl⟩⟩
  | lookup name hyphens => exact ⟨_, rfl⟩
  | keyword key term =>
      obtain ⟨value, meaning⟩ := term.meaning_of_accepted accepted
      exact ⟨_, map_eq_ok.mpr ⟨value, meaning, rfl⟩⟩

/-- Accepted entries have a meaning where they are printed. -/
theorem entriesMeaning_of_accepted {entries : List Entry}
    (accepted : ∀ entry ∈ entries, entry.Accepted) (start : Nat) :
    ∃ values, entriesMeaning (placed start entries) = .ok values := by
  induction entries generalizing start with
  | nil => exact ⟨[], rfl⟩
  | cons entry rest ih =>
      obtain ⟨first, others⟩ := List.forall_mem_cons.mp accepted
      obtain ⟨value, meaning⟩ := Entry.meaning_of_accepted first start
      obtain ⟨values, more⟩ := ih others (start + entry.text.length + 2)
      refine ⟨value :: values, ?_⟩
      rw [placed, entriesMeaning, meaning, ok_bind, more]
      rfl

end ElementTags.Written
