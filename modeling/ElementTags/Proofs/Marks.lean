import ElementTags.Proofs.Outcome
import ElementTags.Value.Identity
import ElementTags.Value.Set

/-! # Values without a mark

A value is unmarked if nothing that can be reached from it is a text marked as safe:
no item, key, attribute or owner, and not what a call gives
(`ElementTags.Value.Unmarked`). Taking unmarked values apart and putting them together
leads to unmarked values only, and so does giving identities and putting in new
contents.
-/

namespace ElementTags.Value

open Outcome

/-- A value that holds no others and is neither marked as safe nor put off. -/
def isPlainAtom : Value → Bool
  | null => true
  | ellipsis => true
  | bool _ => true
  | int _ => true
  | float _ => true
  | notANumber _ => true
  | complex _ _ => true
  | decimal _ => true
  | text _ => true
  | bytes _ => true
  | function _ => true
  | _ => false

/-- Nothing that can be reached from a value is a text marked as safe. If `lazily`, no text that is
put off will be safe either. -/
inductive Unmarked (lazily : Prop) : Value → Prop
  | atom {v : Value} (plain : v.isPlainAtom = true) : Unmarked lazily v
  | lazy {s : Text} {isSafe : Bool} (plain : lazily → isSafe = false) :
      Unmarked lazily (.lazy s isSafe)
  | list {items : List Value} {who : Identity} (each : ∀ v ∈ items, Unmarked lazily v) :
      Unmarked lazily (.list items who)
  | tuple {items : List Value} {who : Identity} (each : ∀ v ∈ items, Unmarked lazily v) :
      Unmarked lazily (.tuple items who)
  | set {items : List Value} {who : Identity} (each : ∀ v ∈ items, Unmarked lazily v) :
      Unmarked lazily (.set items who)
  | dict {pairs : List (Value × Value)} {who : Identity}
      (keys : ∀ p ∈ pairs, Unmarked lazily p.1) (values : ∀ p ∈ pairs, Unmarked lazily p.2) :
      Unmarked lazily (.dict pairs who)
  | keywords {pairs : List (Value × Value)} {who : Identity}
      (keys : ∀ p ∈ pairs, Unmarked lazily p.1) (values : ∀ p ∈ pairs, Unmarked lazily p.2) :
      Unmarked lazily (.keywords pairs who)
  | mapping {pairs : List (Value × Value)} {who : Identity}
      (keys : ∀ p ∈ pairs, Unmarked lazily p.1) (values : ∀ p ∈ pairs, Unmarked lazily p.2) :
      Unmarked lazily (.mapping pairs who)
  | view {kind : ViewKind} {owner : Value} (shown : Unmarked lazily owner) :
      Unmarked lazily (.view kind owner)
  | stream {items : List Value} {who : Identity} (each : ∀ v ∈ items, Unmarked lazily v) :
      Unmarked lazily (.stream items who)
  | bounds {start stop step : Value} (first : Unmarked lazily start) (second : Unmarked lazily stop)
      (third : Unmarked lazily step) : Unmarked lazily (.bounds start stop step)
  | object {s : Text} {attributes : List (Text × Value)} {who : Identity}
      (each : ∀ a ∈ attributes, Unmarked lazily a.2) : Unmarked lazily (.object s attributes who)
  | callable {result : Value} {who : Identity} (given : Unmarked lazily result) :
      Unmarked lazily (.callable result who)
  | method {owner : Value} {name : Text} (own : Unmarked lazily owner) :
      Unmarked lazily (.method owner name)

/-- All keys and values of some pairs are unmarked. -/
def PairsUnmarked (lazily : Prop) (pairs : List (Value × Value)) : Prop :=
  ∀ p ∈ pairs, p.1.Unmarked lazily ∧ p.2.Unmarked lazily

variable {lazily : Prop} {v w key : Value} {items : List Value} {pairs : List (Value × Value)}

/-! ## What unmarked values hold -/

@[simp] theorem unmarked_text (s : Text) : (text s).Unmarked lazily := .atom rfl

@[simp] theorem unmarked_int (n : Int) : (int n).Unmarked lazily := .atom rfl

@[simp] theorem unmarked_float (x : Float) : (float x).Unmarked lazily := .atom rfl

@[simp] theorem unmarked_complex (re im : Float) : (complex re im).Unmarked lazily := .atom rfl

@[simp] theorem unmarked_bytes (octets : List UInt8) : (bytes octets).Unmarked lazily := .atom rfl

theorem not_unmarked_safe (s : Text) : ¬(safe s).Unmarked lazily := by
  intro unmarked
  cases unmarked with
  | atom plain => cases plain

theorem Unmarked.isSafe (unmarked : v.Unmarked lazily) : v.isSafe = false := by
  cases v with
  | safe s => exact absurd unmarked (not_unmarked_safe s)
  | _ => rfl

theorem unmarked_lazy {s : Text} {isSafe : Bool} :
    (Value.lazy s isSafe).Unmarked lazily ↔ (lazily → isSafe = false) := by
  refine ⟨fun unmarked => ?_, .lazy⟩
  cases unmarked with
  | atom plain => cases plain
  | lazy plain => exact plain

theorem unmarked_list {who : Identity} :
    (list items who).Unmarked lazily ↔ ∀ v ∈ items, v.Unmarked lazily := by
  refine ⟨fun unmarked => ?_, .list⟩
  cases unmarked with
  | atom plain => cases plain
  | list each => exact each

theorem unmarked_tuple {who : Identity} :
    (tuple items who).Unmarked lazily ↔ ∀ v ∈ items, v.Unmarked lazily := by
  refine ⟨fun unmarked => ?_, .tuple⟩
  cases unmarked with
  | atom plain => cases plain
  | tuple each => exact each

theorem unmarked_pair (first : v.Unmarked lazily) (second : w.Unmarked lazily) :
    (tuple [v, w]).Unmarked lazily := by
  rw [unmarked_tuple, List.forall_mem_cons, List.forall_mem_singleton]
  exact ⟨first, second⟩

theorem unmarked_set {who : Identity} :
    (set items who).Unmarked lazily ↔ ∀ v ∈ items, v.Unmarked lazily := by
  refine ⟨fun unmarked => ?_, .set⟩
  cases unmarked with
  | atom plain => cases plain
  | set each => exact each

theorem unmarked_dict {who : Identity} :
    (dict pairs who).Unmarked lazily ↔ PairsUnmarked lazily pairs := by
  constructor
  · intro unmarked
    cases unmarked with
    | atom plain => cases plain
    | dict keys values => exact fun p member => ⟨keys p member, values p member⟩
  · intro each
    exact .dict (fun p member => (each p member).1) fun p member => (each p member).2

theorem unmarked_keywords {who : Identity} :
    (keywords pairs who).Unmarked lazily ↔ PairsUnmarked lazily pairs := by
  constructor
  · intro unmarked
    cases unmarked with
    | atom plain => cases plain
    | keywords keys values => exact fun p member => ⟨keys p member, values p member⟩
  · intro each
    exact .keywords (fun p member => (each p member).1) fun p member => (each p member).2

theorem unmarked_mapping {who : Identity} :
    (mapping pairs who).Unmarked lazily ↔ PairsUnmarked lazily pairs := by
  constructor
  · intro unmarked
    cases unmarked with
    | atom plain => cases plain
    | mapping keys values => exact fun p member => ⟨keys p member, values p member⟩
  · intro each
    exact .mapping (fun p member => (each p member).1) fun p member => (each p member).2

/-- A value stays unmarked when less is asked of the texts that are put off. -/
theorem Unmarked.mono {other : Prop} (unmarked : v.Unmarked lazily) (weaker : other → lazily) :
    v.Unmarked other := by
  induction unmarked with
  | atom plain => exact .atom plain
  | lazy plain => exact .lazy fun asked => plain (weaker asked)
  | list _ each => exact .list each
  | tuple _ each => exact .tuple each
  | set _ each => exact .set each
  | dict _ _ keys values => exact .dict keys values
  | keywords _ _ keys values => exact .keywords keys values
  | mapping _ _ keys values => exact .mapping keys values
  | view _ shown => exact .view shown
  | stream _ each => exact .stream each
  | bounds _ _ _ first second third => exact .bounds first second third
  | object _ each => exact .object each
  | callable _ given => exact .callable given
  | method _ own => exact .method own

/-! ## Taking apart -/

theorem Unmarked.pairs? (unmarked : v.Unmarked lazily) (found : v.pairs? = some pairs) :
    PairsUnmarked lazily pairs := by
  cases v with
  | dict pairs who =>
      cases found
      exact unmarked_dict.mp unmarked
  | keywords pairs who =>
      cases found
      exact unmarked_keywords.mp unmarked
  | mapping pairs who =>
      cases found
      exact unmarked_mapping.mp unmarked
  | _ => cases found

theorem unmarked_characters (s : Text) : ∀ v ∈ characters s, v.Unmarked lazily := by
  intro v member
  obtain ⟨c, -, rfl⟩ := List.mem_map.mp member
  exact unmarked_text [c]

theorem unmarked_viewed (each : PairsUnmarked lazily pairs) (kind : ViewKind) :
    ∀ v ∈ viewed pairs kind, v.Unmarked lazily := by
  intro v member
  cases kind with
  | keys =>
      obtain ⟨p, here, rfl⟩ := List.mem_map.mp member
      exact (each p here).1
  | values =>
      obtain ⟨p, here, rfl⟩ := List.mem_map.mp member
      exact (each p here).2
  | pairs =>
      obtain ⟨p, here, rfl⟩ := List.mem_map.mp member
      obtain ⟨first, second⟩ := each p here
      exact unmarked_pair first second

theorem Unmarked.items? (unmarked : v.Unmarked lazily) (found : v.items? = some items) :
    ∀ w ∈ items, w.Unmarked lazily := by
  unfold Value.items? at found
  split at found
  · cases found
    exact unmarked_characters _
  · split at found
    · cases found
      exact unmarked_list.mp unmarked
    · cases found
      exact unmarked_tuple.mp unmarked
    · cases found
      exact unmarked_set.mp unmarked
    · cases found
      cases unmarked with
      | atom plain => cases plain
      | stream each => exact each
    · cases found
      intro w member
      obtain ⟨o, -, rfl⟩ := List.mem_map.mp member
      exact unmarked_int _
    · obtain ⟨pairs, shown, rfl⟩ := Option.map_eq_some_iff.mp found
      cases unmarked with
      | atom plain => cases plain
      | view owner => exact unmarked_viewed (owner.pairs? shown) _
    · obtain ⟨pairs, shown, rfl⟩ := Option.map_eq_some_iff.mp found
      exact unmarked_viewed (unmarked.pairs? shown) .keys

theorem unmarked_lookup (each : PairsUnmarked lazily pairs)
    (found : lookup pairs key = some v) : v.Unmarked lazily := by
  obtain ⟨p, here, rfl⟩ := Option.map_eq_some_iff.mp found
  exact (each p (List.mem_of_find?_eq_some here)).2

/-- A pair of a mapping to which a value is given is one of before, or the key is, or it is new. -/
theorem mem_put {p : Value × Value} (member : p ∈ put pairs key v) :
    p ∈ pairs ∨ (p.2 = v ∧ (p.1 = key ∨ ∃ q ∈ pairs, q.1 = p.1)) := by
  induction pairs with
  | nil =>
      rw [List.mem_singleton.mp member]
      exact .inr ⟨rfl, .inl rfl⟩
  | cons q rest ih =>
      unfold put at member
      split at member
      · rcases List.mem_cons.mp member with rfl | behind
        · exact .inr ⟨rfl, .inr ⟨q, List.mem_cons_self, rfl⟩⟩
        · exact .inl (List.mem_cons_of_mem _ behind)
      · rcases List.mem_cons.mp member with rfl | behind
        · exact .inl List.mem_cons_self
        · rcases ih behind with known | ⟨same, new | ⟨q', here, keys⟩⟩
          · exact .inl (List.mem_cons_of_mem _ known)
          · exact .inr ⟨same, .inl new⟩
          · exact .inr ⟨same, .inr ⟨q', List.mem_cons_of_mem _ here, keys⟩⟩

theorem unmarked_put (each : PairsUnmarked lazily pairs) (unmarkedKey : key.Unmarked lazily)
    (unmarked : v.Unmarked lazily) : PairsUnmarked lazily (put pairs key v) := by
  intro p member
  rcases mem_put member with before | ⟨rfl, rfl | ⟨q, here, same⟩⟩
  · exact each p before
  · exact ⟨unmarkedKey, unmarked⟩
  · exact ⟨same ▸ (each q here).1, unmarked⟩

theorem itemAt_mem {α : Type} {xs : List α} {x : α} {position : Int}
    (found : itemAt xs position = .ok x) : x ∈ xs := by
  unfold itemAt at found
  generalize (if position < 0 then position + (xs.length : Int) else position) = index at found
  dsimp only at found
  split at found
  · cases found
  · split at found
    · rename_i here
      cases found
      exact List.mem_of_getElem? here
    · cases found

theorem sliceItems_subset {α : Type} {xs ys : List α} {start stop step : Option Int}
    (found : sliceItems xs start stop step = .ok ys) : ys ⊆ xs := by
  obtain ⟨positions, -, same⟩ := bind_eq_ok.mp found
  cases same
  intro x member
  obtain ⟨i, -, here⟩ := List.mem_filterMap.mp member
  exact List.mem_of_getElem? here

theorem Unmarked.slice {start stop step : Option Int} (unmarked : v.Unmarked lazily)
    (found : v.slice start stop step = .ok w) : w.Unmarked lazily := by
  unfold Value.slice at found
  split at found
  · obtain ⟨s, -, rfl⟩ := map_eq_ok.mp found
    exact unmarked_text s
  · split at found
    · obtain ⟨ys, here, rfl⟩ := map_eq_ok.mp found
      exact .list fun x member => unmarked_list.mp unmarked x (sliceItems_subset here member)
    · obtain ⟨ys, here, rfl⟩ := map_eq_ok.mp found
      exact .tuple fun x member => unmarked_tuple.mp unmarked x (sliceItems_subset here member)
    · obtain ⟨octets, -, rfl⟩ := map_eq_ok.mp found
      exact unmarked_bytes octets
    · cases found

theorem Unmarked.subscript (unmarked : v.Unmarked lazily) (found : v.subscript key = .ok w) :
    w.Unmarked lazily := by
  unfold Value.subscript at found
  split at found
  · rename_i shown
    split at found
    · split at found
      · rename_i here
        cases found
        exact unmarked_lookup (unmarked.pairs? shown) here
      · cases found
    · cases found
  · split at found
    · obtain ⟨c, -, rfl⟩ := map_eq_ok.mp found
      exact unmarked_text [c]
    · exact unmarked_list.mp unmarked w (itemAt_mem found)
    · exact unmarked_tuple.mp unmarked w (itemAt_mem found)
    · obtain ⟨o, -, rfl⟩ := map_eq_ok.mp found
      exact unmarked_int _
    · cases found

/-! ## Identities -/

section Identities

variable {origin : Option Text} {next : Nat}

theorem mem_identifiedItems (member : w ∈ (identifiedItems origin next items).1) :
    ∃ v ∈ items, ∃ n, (v.identified origin n).1 = w := by
  induction items generalizing next with
  | nil => cases member
  | cons v rest ih =>
      rcases List.mem_cons.mp member with rfl | behind
      · exact ⟨v, List.mem_cons_self, next, rfl⟩
      · obtain ⟨v', here, found⟩ := ih behind
        exact ⟨v', List.mem_cons_of_mem _ here, found⟩

theorem mem_identifiedPairs {p : Value × Value}
    (member : p ∈ (identifiedPairs origin next pairs).1) :
    ∃ q ∈ pairs, ∃ m n, ((q.1.identified origin m).1, (q.2.identified origin n).1) = p := by
  induction pairs generalizing next with
  | nil => cases member
  | cons q rest ih =>
      rcases List.mem_cons.mp member with rfl | behind
      · exact ⟨q, List.mem_cons_self, _, _, rfl⟩
      · obtain ⟨q', here, found⟩ := ih behind
        exact ⟨q', List.mem_cons_of_mem _ here, found⟩

theorem mem_identifiedFields {fields : List (Text × Value)} {a : Text × Value}
    (member : a ∈ (identifiedFields origin next fields).1) :
    ∃ b ∈ fields, ∃ n, (b.2.identified origin n).1 = a.2 := by
  induction fields generalizing next with
  | nil => cases member
  | cons b rest ih =>
      rcases List.mem_cons.mp member with rfl | behind
      · exact ⟨b, List.mem_cons_self, _, rfl⟩
      · obtain ⟨b', here, found⟩ := ih behind
        exact ⟨b', List.mem_cons_of_mem _ here, found⟩

theorem unmarked_identifiedItems {next : Nat}
    (each : ∀ v ∈ items, ∀ n, (v.identified origin n).1.Unmarked lazily) :
    ∀ w ∈ (identifiedItems origin next items).1, w.Unmarked lazily := by
  intro w member
  obtain ⟨v, here, n, rfl⟩ := mem_identifiedItems member
  exact each v here n

theorem unmarked_identifiedPairs {next : Nat}
    (keys : ∀ p ∈ pairs, ∀ n, (p.1.identified origin n).1.Unmarked lazily)
    (values : ∀ p ∈ pairs, ∀ n, (p.2.identified origin n).1.Unmarked lazily) :
    PairsUnmarked lazily (identifiedPairs origin next pairs).1 := by
  intro p member
  obtain ⟨q, here, m, n, rfl⟩ := mem_identifiedPairs member
  exact ⟨keys q here m, values q here n⟩

theorem isPlainAtom_identified (plain : v.isPlainAtom = true) (origin : Option Text) (next : Nat) :
    (v.identified origin next).1.isPlainAtom = true := by
  cases v with
  | float x =>
      unfold Value.identified
      split
      · rfl
      · rfl
  | _ => first | exact plain | cases plain

/-- Giving identities marks nothing. -/
theorem Unmarked.identified (unmarked : v.Unmarked lazily) (origin : Option Text) (next : Nat) :
    (v.identified origin next).1.Unmarked lazily := by
  induction unmarked generalizing next with
  | atom plain => exact .atom (isPlainAtom_identified plain origin next)
  | lazy plain => exact .lazy plain
  | @list items who unmarked each =>
      cases who with
      | none => exact .list (unmarked_identifiedItems each)
      | some label => exact .list unmarked
  | @tuple items who unmarked each =>
      cases who with
      | none => exact .tuple (unmarked_identifiedItems each)
      | some label => exact .tuple unmarked
  | @set items who unmarked each =>
      cases who with
      | none => exact .set (unmarked_identifiedItems each)
      | some label => exact .set unmarked
  | @dict pairs who before after keys values =>
      cases who with
      | none => exact unmarked_dict.mpr (unmarked_identifiedPairs keys values)
      | some label => exact .dict before after
  | @keywords pairs who before after keys values =>
      cases who with
      | none => exact unmarked_keywords.mpr (unmarked_identifiedPairs keys values)
      | some label => exact .keywords before after
  | @mapping pairs who before after keys values =>
      cases who with
      | none => exact unmarked_mapping.mpr (unmarked_identifiedPairs keys values)
      | some label => exact .mapping before after
  | view _ shown => exact .view (shown next)
  | @stream items who unmarked each =>
      cases who with
      | none => exact .stream (unmarked_identifiedItems each)
      | some label => exact .stream unmarked
  | bounds first second third => exact .bounds first second third
  | @object s fields who unmarked each =>
      cases who with
      | none =>
          refine .object fun a member => ?_
          obtain ⟨b, here, n, same⟩ := mem_identifiedFields member
          exact same ▸ each b here n
      | some label => exact .object unmarked
  | @callable result who unmarked given =>
      cases who with
      | none => exact .callable (given (next + 1))
      | some label => exact .callable unmarked
  | method _ own => exact .method (own next)

end Identities

/-! ## New contents -/

section Contents

variable {find : Label → Option Value}

theorem revisedItems_eq (find : Label → Option Value) (items : List Value) :
    revisedItems find items = items.map (revised find) := by
  induction items with
  | nil => rfl
  | cons v rest ih => rw [revisedItems, ih, List.map_cons]

theorem revisedPairs_eq (find : Label → Option Value) (pairs : List (Value × Value)) :
    revisedPairs find pairs = pairs.map fun p => (p.1.revised find, p.2.revised find) := by
  induction pairs with
  | nil => rfl
  | cons p rest ih => rw [revisedPairs, ih, List.map_cons]

theorem revisedFields_eq (find : Label → Option Value) (fields : List (Text × Value)) :
    revisedFields find fields = fields.map fun a => (a.1, a.2.revised find) := by
  induction fields with
  | nil => rfl
  | cons a rest ih => rw [revisedFields, ih, List.map_cons]

theorem unmarked_replacing (contents : ∀ label v, find label = some v → v.Unmarked lazily)
    (kept : v.Unmarked lazily) (who : Identity) : (replacing find who v).Unmarked lazily := by
  unfold replacing
  cases new : who.bind find with
  | none => exact kept
  | some content =>
      obtain ⟨label, -, found⟩ := Option.bind_eq_some_iff.mp new
      exact contents label content found

theorem unmarked_revisedItems (each : ∀ v ∈ items, (v.revised find).Unmarked lazily) :
    ∀ w ∈ revisedItems find items, w.Unmarked lazily := by
  rw [revisedItems_eq, List.forall_mem_map]
  exact each

theorem unmarked_revisedPairs (keys : ∀ p ∈ pairs, (p.1.revised find).Unmarked lazily)
    (values : ∀ p ∈ pairs, (p.2.revised find).Unmarked lazily) :
    PairsUnmarked lazily (revisedPairs find pairs) := by
  unfold PairsUnmarked
  rw [revisedPairs_eq, List.forall_mem_map]
  exact fun p member => ⟨keys p member, values p member⟩

theorem isPlainAtom_revised (plain : v.isPlainAtom = true) (find : Label → Option Value) :
    (v.revised find).isPlainAtom = true := by
  cases v with
  | _ => first | exact plain | cases plain

/-- A value stays unmarked when unmarked contents are put into it. -/
theorem Unmarked.revised (contents : ∀ label v, find label = some v → v.Unmarked lazily)
    (unmarked : v.Unmarked lazily) : (v.revised find).Unmarked lazily := by
  induction unmarked with
  | atom plain => exact .atom (isPlainAtom_revised plain find)
  | lazy plain => exact .lazy plain
  | list _ each => exact unmarked_replacing contents (.list (unmarked_revisedItems each)) _
  | tuple _ each => exact .tuple (unmarked_revisedItems each)
  | set _ each => exact unmarked_replacing contents (.set (unmarked_revisedItems each)) _
  | dict _ _ keys values =>
      exact unmarked_replacing contents
        (unmarked_dict.mpr (unmarked_revisedPairs keys values)) _
  | keywords _ _ keys values =>
      exact unmarked_replacing contents
        (unmarked_keywords.mpr (unmarked_revisedPairs keys values)) _
  | mapping _ _ keys values =>
      exact unmarked_replacing contents
        (unmarked_mapping.mpr (unmarked_revisedPairs keys values)) _
  | view _ shown => exact .view shown
  | stream _ each => exact unmarked_replacing contents (.stream (unmarked_revisedItems each)) _
  | bounds _ _ _ first second third => exact .bounds first second third
  | object _ each =>
      refine .object ?_
      rw [revisedFields_eq, List.forall_mem_map]
      exact each
  | callable _ given => exact .callable given
  | method _ own => exact .method own

end Contents

end ElementTags.Value
