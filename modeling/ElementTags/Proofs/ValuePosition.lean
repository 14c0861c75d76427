import Mathlib
import ElementTags.Proofs.Completeness
import ElementTags.Proofs.Joining
import ElementTags.Proofs.Lookups
import ElementTags.Proofs.Providers
import ElementTags.Proofs.Rereading

/-! # Names in value position

Which names are looked up can be told from the tokens of a source: the first segment of
an operand or argument that is no literal and no number, and the whole of a name with
hyphens that stands alone (`ElementTags.Attribute.InValuePosition`). Keys of attributes
and of dictionaries, names of filters and what stands in quotes are no such names, even
where they look the same. For an accepted source these names are the ones that its
entries look up (`ElementTags.Attribute.inValuePosition_iff`), so nothing else in the
scope influences its values (`ElementTags.Attribute.resolveAll_of_agree`).
-/

namespace ElementTags

/-! ## Written forms -/

namespace Written

/-- A text that is no number looks up its first segment. -/
def segmentLookups (s : Text) : List Text :=
  if (Variable.number? s).isSome then [] else [s.takeWhile (· ≠ '.')]

/-- The names that an operand looks up. -/
def Operand.lookups : Operand → List Text
  | .literal _ => []
  | .name word => segmentLookups word.text
  | .negative number => segmentLookups ('-' :: number.text)
  | .localized _ => []

/-- The names that a call looks up for its argument. -/
def Call.lookups (call : Call) : List Text := (call.argument.map Operand.lookups).getD []

mutual

/-- The names that stand in value position in a term. -/
def Term.lookups : Term → List Text
  | .plain operand calls => operand.lookups ++ calls.flatMap Call.lookups
  | .joined first others _ calls =>
    first.lookups ++ others.flatMap (·.2.lookups) ++ calls.flatMap Call.lookups
  | .list items calls => itemLookups items ++ calls.flatMap Call.lookups
  | .dict pairs calls => pairLookups pairs ++ calls.flatMap Call.lookups
  | .parenthesized _ calls => calls.flatMap Call.lookups

/-- The names that stand in value position in the items of a list. -/
def itemLookups : List Term → List Text
  | [] => []
  | item :: rest => item.lookups ++ itemLookups rest

/-- The names that stand in value position in the values of a dictionary. -/
def pairLookups : List (PairKey × Term) → List Text
  | [] => []
  | (_, item) :: rest => item.lookups ++ pairLookups rest

end

/-- The names that stand in value position in an attribute. -/
def Entry.lookups : Entry → List Text
  | .positional value => value.lookups
  | .lookup name _ => [name.text]
  | .keyword _ value => value.lookups

/-! ## The same names in both readings -/

theorem lookups_ofText {s : Text} {x : Variable} (read : Variable.ofText s = .ok x) :
    x.lookups = segmentLookups s := by
  unfold Variable.ofText at read
  unfold segmentLookups
  split at read
  · rename_i n number
    cases read
    rw [number]
    rfl
  · rename_i number
    split at read
    · cases read
    · cases read
      have first := Text.head?_pieces '.' s
      rw [number, Option.isSome_none, if_neg Bool.false_ne_true, Variable.lookups,
        Variable.pathOf]
      cases split : Text.pieces '.' s with
      | nil => exact absurd split (Text.pieces_ne_nil _ _)
      | cons name rest =>
          rw [split] at first
          exact congrArg (· :: []) (Option.some.inj first)

theorem Operand.Stands.lookups {plain : Text → Value} {operand : Operand}
    {found : ElementTags.Operand} (stands : operand.Stands plain found) :
    found.lookups = operand.lookups := by
  cases stands with
  | literal => rfl
  | name text means => exact (lookups_ofText means).trans (congrArg segmentLookups text)
  | negative text means => exact (lookups_ofText means).trans (congrArg segmentLookups text)
  | localized => rfl

theorem Call.Calls.lookups {call : Call} {found : FilterCall} (calls : call.Calls found) :
    found.lookups = call.lookups := by
  obtain ⟨name, operand?⟩ := call
  obtain ⟨filter, found?⟩ := found
  cases calls.argument with
  | none => rfl
  | some stands => exact stands.lookups

theorem flatMap_eq_of_forall₂ {α β γ : Type} {R : α → β → Prop} {f : α → List γ} {g : β → List γ}
    {as : List α} {bs : List β} (related : List.Forall₂ R as bs)
    (same : ∀ a b, R a b → g b = f a) : bs.flatMap g = as.flatMap f := by
  induction related with
  | nil => rfl
  | cons here _ ih => rw [List.flatMap_cons, List.flatMap_cons, ih, same _ _ here]

theorem Rereads.lookups {plain : Text → Value} {operand : Operand} {calls : List Call}
    {e : FilterExpr} (same : Rereads plain operand calls e) :
    e.lookups = operand.lookups ++ calls.flatMap Call.lookups := by
  rw [FilterExpr.lookups, same.operand.lookups,
    flatMap_eq_of_forall₂ same.filters fun _ _ => Call.Calls.lookups]

theorem Rereads.lookups_operand {plain : Text → Value} {operand : Operand} {e : FilterExpr}
    (same : Rereads plain operand [] e) : e.lookups = operand.lookups :=
  same.lookups.trans (List.append_nil _)

theorem Call.Applies.lookups {call : Call} {found : AppliedFilter} (applies : call.Applies found) :
    found.lookups = call.lookups := by
  obtain ⟨name, operand?⟩ := call
  obtain ⟨filter, e?⟩ := found
  cases applies.argument with
  | none => rfl
  | some same => exact same.lookups_operand

theorem applies_lookups {calls : List Call} {applied : List AppliedFilter}
    (filters : List.Forall₂ Call.Applies calls applied) :
    applied.flatMap AppliedFilter.lookups = calls.flatMap Call.lookups :=
  flatMap_eq_of_forall₂ filters fun _ _ => Call.Applies.lookups

mutual

theorem Term.Rereads.lookups {term : Term} {t : ElementTags.Term} (same : term.Rereads t) :
    t.lookups = term.lookups := by
  match term with
  | .plain operand calls =>
      cases same with
      | plain same => exact same.lookups
  | .joined first others several calls =>
      cases same with
      | joined same operands filters =>
          rw [ElementTags.Term.lookups, Term.lookups, same.lookups_operand, applies_lookups filters,
            flatMap_eq_of_forall₂ operands fun _ _ operand => operand.2.lookups_operand]
  | .list items calls =>
      cases same with
      | list inner filters =>
          rw [ElementTags.Term.lookups, Term.lookups, inner.lookups, applies_lookups filters]
  | .dict pairs calls =>
      cases same with
      | dict inner filters =>
          rw [ElementTags.Term.lookups, Term.lookups, inner.lookups, applies_lookups filters]
  | .parenthesized code calls =>
      cases same with
      | parenthesized filters => exact applies_lookups filters

theorem ItemsReread.lookups {items : List Term} {ts : List ElementTags.Term}
    (same : ItemsReread items ts) : ElementTags.Term.itemLookups ts = itemLookups items := by
  match items with
  | [] =>
      cases same
      rfl
  | item :: rest =>
      cases same with
      | cons same others =>
          rw [ElementTags.Term.itemLookups, itemLookups, same.lookups, others.lookups]

theorem PairsReread.lookups {pairs : List (PairKey × Term)} {ts : List (Text × ElementTags.Term)}
    (same : PairsReread pairs ts) : ElementTags.Term.pairLookups ts = pairLookups pairs := by
  match pairs with
  | [] =>
      cases same
      rfl
  | (key, item) :: rest =>
      cases same with
      | cons same others =>
          rw [ElementTags.Term.pairLookups, pairLookups, same.lookups, others.lookups]

end

theorem Entry.Rereads.lookups {start : Nat} {entry : Entry} {found : ElementTags.Entry}
    (same : entry.Rereads start found) : found.lookups = entry.lookups := by
  cases same with
  | positional same => exact same.lookups
  | lookup => rfl
  | keyword same => exact same.lookups

theorem entries_lookups {written : List (Nat × Entry)} {found : List ElementTags.Entry}
    (same : List.Forall₂ (fun w e => w.2.Rereads w.1 e) written found) :
    found.flatMap ElementTags.Entry.lookups = written.flatMap (·.2.lookups) :=
  flatMap_eq_of_forall₂ same fun _ _ => Entry.Rereads.lookups

end Written

/-! ## Sources -/

namespace Attribute

open Written Outcome

variable {source : Text} {entries : List ElementTags.Entry} {kind : Function → Prop} {a b : Scope}

/-- A name stands in value position in a source: the tokens of the source spell attributes, with at
most one comma at the end, and one of them looks the name up. -/
def InValuePosition (source name : Text) : Prop :=
  ∃ written own final, Token.scan source = .ok (own ++ final) ∧ Separator final ∧
    EntriesSpelled source written own final.head? ∧ ∃ w ∈ written, name ∈ w.2.lookups

/-- The names in value position are the ones that the entries of an accepted source look up. -/
theorem inValuePosition_iff (accepted : read source = .ok entries) (name : Text) :
    InValuePosition source name ↔ name ∈ entries.flatMap Entry.lookups := by
  constructor
  · rintro ⟨written, own, final, scanned, separated, spelled, w, member, looked⟩
    have whole : readEntries source (own ++ final) = .ok entries := by
      rw [read, scanned] at accepted
      exact accepted
    rw [readEntries_complete spelled rfl, readEntries_final separated] at whole
    obtain ⟨found, means, same⟩ := bind_eq_ok.mp whole
    cases same
    rw [List.append_nil, entries_lookups (entries_reread means)]
    exact List.mem_flatMap.mpr ⟨w, member, looked⟩
  · intro looked
    obtain ⟨written, own, final, scanned, separated, spelled, same⟩ :=
      read_rereads.2 source entries accepted
    rw [entries_lookups same] at looked
    exact ⟨written, own, final, scanned, separated, spelled, List.mem_flatMap.mp looked⟩

end Attribute
end ElementTags
