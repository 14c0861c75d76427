import Mathlib.Data.List.Induction
import ElementTags.Proofs.Denotation
import ElementTags.Proofs.Marks

/-! # Entries resolved one after the other

The entries of a tag are resolved in the order in which they are written, each in
the scope that the ones before it leave (`ElementTags.Entry.Resolved`), and the first
one that fails decides the fault (`ElementTags.Entry.FirstFault`). The values of a key
are overridden by later ones: what is kept are the distinct keys in the order of their
first occurrences, each with the value of its last one (`ElementTags.LastWrites`).
Resolving either fails in this way or gives the values without a key and the pairs that
are kept (`ElementTags.Entry.resolveAll_of_resolved`).
-/

namespace ElementTags

/-! ## The last write of a key -/

/-- The pairs that are kept of some that are written one after the other: the distinct keys in the
order of their first occurrences, each with the value of its last occurrence. -/
structure LastWrites (written kept : List (Text × Value)) : Prop where
  keys : kept.map (·.1) = (written.map (·.1)).eraseDups
  values : ∀ p ∈ kept, ∃ before behind, written = before ++ p :: behind ∧ ∀ q ∈ behind, q.1 ≠ p.1

namespace Layer

/-- Setting a name that is known leaves the names as they are. -/
theorem names_set_of_known {layer : Layer} {name : Text} (known : name ∈ layer.map (·.1))
    (value : Value) : (layer.set name value).map (·.1) = layer.map (·.1) := by
  induction layer with
  | nil => cases known
  | cons entry rest ih =>
      obtain ⟨n, v⟩ := entry
      by_cases same : n = name
      · simp only [set, if_pos same, List.map_cons]
      · rcases List.mem_cons.mp known with here | later
        · exact absurd here.symm same
        · simp only [set, if_neg same, List.map_cons, ih later]

/-- A name that is new to a layer is added behind the others. -/
theorem set_of_new {layer : Layer} {name : Text} (new : name ∉ layer.map (·.1)) (value : Value) :
    layer.set name value = layer ++ [(name, value)] := by
  induction layer with
  | nil => rfl
  | cons entry rest ih =>
      obtain ⟨n, v⟩ := entry
      rw [List.map_cons, List.mem_cons, not_or] at new
      rw [set, if_neg (Ne.symm new.1), ih new.2, List.cons_append]

/-- After a name is set, a layer in which every name stands once holds the new value of the name
and the values of all others. -/
theorem mem_set {layer : Layer} {name : Text} {value : Value} {p : Text × Value}
    (distinct : (layer.map (·.1)).Nodup) (member : p ∈ layer.set name value) :
    p = (name, value) ∨ p ∈ layer ∧ p.1 ≠ name := by
  induction layer with
  | nil => exact .inl (List.mem_singleton.mp member)
  | cons entry rest ih =>
      obtain ⟨n, v⟩ := entry
      obtain ⟨fresh, others⟩ := List.nodup_cons.mp distinct
      by_cases same : n = name
      · subst same
        rw [set, if_pos rfl] at member
        rcases List.mem_cons.mp member with first | later
        · exact .inl first
        · refine .inr ⟨List.mem_cons_of_mem _ later, fun here => fresh ?_⟩
          exact List.mem_map.mpr ⟨p, later, here⟩
      · rw [set, if_neg same] at member
        rcases List.mem_cons.mp member with rfl | later
        · exact .inr ⟨List.mem_cons_self, same⟩
        · rcases ih others later with new | ⟨old, other⟩
          · exact .inl new
          · exact .inr ⟨List.mem_cons_of_mem _ old, other⟩

end Layer

/-- Pairs written into a layer one after the other. -/
def Layer.setAll (layer : Layer) (written : List (Text × Value)) : Layer :=
  written.foldl (fun layer p => Layer.set layer p.1 p.2) layer

/-- Pairs written one after the other. -/
def merged (written : List (Text × Value)) : Layer := Layer.setAll [] written

theorem merged_concat (written : List (Text × Value)) (p : Text × Value) :
    merged (written ++ [p]) = (merged written).set p.1 p.2 := by
  rw [merged, Layer.setAll, List.foldl_append]
  rfl

theorem names_merged (written : List (Text × Value)) :
    (merged written).map (·.1) = (written.map (·.1)).eraseDups := by
  induction written using List.reverseRecOn with
  | nil => rfl
  | append_singleton written p ih =>
      rw [merged_concat, List.map_append, List.eraseDups_append, List.map_singleton, ← ih]
      by_cases known : p.1 ∈ written.map (·.1)
      · have removed : List.removeAll [p.1] (written.map (·.1)) = [] := by
          simp only [List.removeAll, List.filter_cons, List.elem_eq_mem, known, decide_true,
            Bool.not_true, Bool.false_eq_true, ↓reduceIte, List.filter_nil]
        rw [← List.mem_eraseDups, ← ih] at known
        rw [Layer.names_set_of_known known, removed]
        exact (List.append_nil _).symm
      · have kept : List.removeAll [p.1] (written.map (·.1)) = [p.1] := by
          simp only [List.removeAll, List.filter_cons, List.elem_eq_mem, known, decide_false,
            Bool.not_false, ↓reduceIte, List.filter_nil]
        rw [← List.mem_eraseDups, ← ih] at known
        rw [Layer.set_of_new known, kept, List.map_append]
        rfl

theorem nodup_merged (written : List (Text × Value)) : ((merged written).map (·.1)).Nodup := by
  induction written using List.reverseRecOn with
  | nil => exact List.nodup_nil
  | append_singleton written p ih =>
      rw [merged_concat]
      by_cases known : p.1 ∈ (merged written).map (·.1)
      · rw [Layer.names_set_of_known known]
        exact ih
      · rw [Layer.set_of_new known, List.map_append]
        refine List.nodup_append.mpr ⟨ih, List.pairwise_singleton _ _, ?_⟩
        intro name member other new
        rw [List.mem_singleton.mp new]
        rintro rfl
        exact known member

/-- Writing pairs one after the other keeps the last write of every key. -/
theorem lastWrites_merged (written : List (Text × Value)) :
    LastWrites written (merged written) where
  keys := names_merged written
  values := by
    induction written using List.reverseRecOn with
    | nil => exact fun p none => absurd none List.not_mem_nil
    | append_singleton written q ih =>
        intro p member
        rw [merged_concat] at member
        rcases Layer.mem_set (nodup_merged written) member with rfl | ⟨old, other⟩
        · exact ⟨written, [], rfl, fun _ none => absurd none List.not_mem_nil⟩
        · obtain ⟨before, behind, split, last⟩ := ih p old
          refine ⟨before, behind ++ [q], ?_, ?_⟩
          · rw [split, List.append_assoc]
            rfl
          · intro r later
            rcases List.mem_append.mp later with inside | final
            · exact last r inside
            · rw [List.mem_singleton.mp final]
              exact Ne.symm other

/-- Pairs with different keys are all kept. -/
theorem merged_of_nodup {written : List (Text × Value)} (distinct : (written.map (·.1)).Nodup) :
    merged written = written := by
  induction written using List.reverseRecOn with
  | nil => rfl
  | append_singleton written p ih =>
      rw [List.map_append, List.map_singleton] at distinct
      have fresh : p.1 ∉ written.map (·.1) := fun known =>
        (List.nodup_append.mp distinct).2.2 _ known _ List.mem_cons_self rfl
      rw [merged_concat, ih (List.nodup_append.mp distinct).1, Layer.set_of_new fresh]

/-! ## Pairs with plain keys -/

/-- Pairs whose keys are plain texts, as values. -/
def textPairs (ps : List (Text × Value)) : List (Value × Value) := ps.map fun p => (.text p.1, p.2)

theorem put_textPairs (ps : List (Text × Value)) (key : Text) (v : Value) :
    Value.put (textPairs ps) (.text key) v = textPairs (Layer.set ps key v) := by
  induction ps with
  | nil => rfl
  | cons p rest ih =>
      obtain ⟨k, w⟩ := p
      rw [textPairs, List.map_cons, Value.put, Written.equal_text, Layer.set]
      by_cases same : k = key
      · rw [if_pos (decide_eq_true same), if_pos same]
        rfl
      · rw [if_neg (ne_true_of_eq_false (decide_eq_false same)), if_neg same]
        exact congrArg _ ih

/-- Changes reach the values of keyword attributes, and the keys stay what they are. -/
theorem Scope.current_textPairs (scope : Scope) (ps : List (Text × Value)) :
    scope.current (.keywords (textPairs ps)) =
      .keywords (textPairs (ps.map fun p => (p.1, scope.current p.2))) := by
  by_cases unchanged : scope.changes.isEmpty = true
  · simp only [current, if_pos unchanged, List.map_id']
  · have revised (find : Label → Option Value) : (Value.keywords (textPairs ps)).revised find =
        .keywords (textPairs (ps.map fun p => (p.1, p.2.revised find))) := by
      simp only [Value.revised, Value.revisedPairs_eq, textPairs, List.map_map]
      rfl
    simp only [current, if_neg unchanged, revised]

theorem merged_map (f : Value → Value) (written : List (Text × Value)) :
    merged (written.map fun p => (p.1, f p.2)) = (merged written).map fun p => (p.1, f p.2) := by
  have set (layer : Layer) (name : Text) (v : Value) :
      Layer.set (layer.map fun p => (p.1, f p.2)) name (f v) =
        (layer.set name v).map fun p => (p.1, f p.2) := by
    induction layer with
    | nil => rfl
    | cons entry rest ih =>
        obtain ⟨n, w⟩ := entry
        by_cases same : n = name
        · simp only [List.map_cons, Layer.set, if_pos same]
        · simp only [List.map_cons, Layer.set, if_neg same, ih]
  induction written using List.reverseRecOn with
  | nil => rfl
  | append_singleton written p ih =>
      rw [List.map_append, List.map_singleton, merged_concat, merged_concat, ih, set]

/-! ## Entries -/

namespace Entry

/-- Some entries have some values, each in the scope that the ones before it leave. -/
inductive Resolved : Scope → List Entry → List Value → Scope → Prop
  | nil {scope : Scope} : Resolved scope [] [] scope
  | cons {scope between after : Scope} {entry : Entry} {rest : List Entry} {v : Value}
      {vs : List Value} (first : entry.value.resolve scope = (.ok v, between))
      (others : Resolved between rest vs after) : Resolved scope (entry :: rest) (v :: vs) after

/-- An entry has a fault, and those before it have values. -/
def FirstFault (scope : Scope) (entries : List Entry) (fault : EvalFault) : Prop :=
  ∃ before entry behind vs between, entries = before ++ entry :: behind ∧
    Resolved scope before vs between ∧ (entry.value.resolve between).1 = .error fault

/-- Either all entries have values, or there is a first one that has none. -/
theorem resolved_or_fault (scope : Scope) (entries : List Entry) :
    (∃ vs after, Resolved scope entries vs after) ∨ ∃ fault, FirstFault scope entries fault := by
  induction entries generalizing scope with
  | nil => exact .inl ⟨[], scope, .nil⟩
  | cons entry rest ih =>
      rcases here : entry.value.resolve scope with ⟨outcome, between⟩
      cases outcome with
      | error fault => exact .inr ⟨fault, [], entry, rest, [], scope, rfl, .nil, by rw [here]⟩
      | ok v =>
          rcases ih between with ⟨vs, after, resolved⟩ | ⟨fault, faulty⟩
          · exact .inl ⟨v :: vs, after, .cons here resolved⟩
          · obtain ⟨before, culprit, behind, vs, last, split, resolved, failed⟩ := faulty
            refine .inr ⟨fault, entry :: before, culprit, behind, v :: vs, last, ?_,
              .cons here resolved, failed⟩
            rw [split, List.cons_append]

/-- The values of the entries without a key. -/
def positionals (entries : List Entry) (vs : List Value) : List Value :=
  (entries.zip vs).filterMap fun (entry, v) => if entry.key?.isNone then some v else none

/-- The values of the entries with a key, behind their keys. -/
def keyed (entries : List Entry) (vs : List Value) : List (Text × Value) :=
  (entries.zip vs).filterMap fun (entry, v) => entry.key?.map (·, v)

theorem positionals_map (f : Value → Value) (entries : List Entry) (vs : List Value) :
    positionals entries (vs.map f) = (positionals entries vs).map f := by
  rw [positionals, positionals, List.zip_map_right, List.filterMap_map, List.map_filterMap]
  congr 1
  funext pair
  rcases pair with ⟨entry, v⟩
  cases entry <;> rfl

theorem keyed_map (f : Value → Value) (entries : List Entry) (vs : List Value) :
    keyed entries (vs.map f) = (keyed entries vs).map fun p => (p.1, f p.2) := by
  rw [keyed, keyed, List.zip_map_right, List.filterMap_map, List.map_filterMap]
  congr 1
  funext pair
  rcases pair with ⟨entry, v⟩
  cases entry <;> rfl

/-- The values of some entries, put behind and into those that came before. -/
theorem resolveOnto_of_resolved {scope after : Scope} {entries : List Entry} {vs : List Value}
    (resolved : Resolved scope entries vs after) (values : List Value) (layer : Layer) :
    resolveOnto values (textPairs layer) entries scope =
      (.ok (values ++ positionals entries vs, textPairs (layer.setAll (keyed entries vs))),
        after) := by
  induction resolved generalizing values layer with
  | nil =>
      rw [resolveOnto, positionals, List.zip_nil_left, List.filterMap_nil, List.append_nil]
      rfl
  | @cons scope between after entry rest v vs first others ih =>
      cases entry with
      | positional start t =>
          have here : t.resolve scope = (.ok v, between) := first
          rw [resolveOnto, Computation.bind_of_ok here, ih, List.append_assoc]
          rfl
      | keyword start key t =>
          have here : t.resolve scope = (.ok v, between) := first
          rw [resolveOnto, Computation.bind_of_ok here, put_textPairs, ih]
          rfl

/-- The first fault among some entries is the outcome. -/
theorem resolveOnto_of_fault {scope : Scope} {entries : List Entry} {fault : EvalFault}
    (faulty : FirstFault scope entries fault) (values : List Value)
    (pairs : List (Value × Value)) :
    (resolveOnto values pairs entries scope).1 = .error fault := by
  obtain ⟨before, culprit, behind, vs, between, rfl, resolved, failed⟩ := faulty
  induction resolved generalizing values pairs with
  | @nil scope =>
      rw [List.nil_append]
      cases culprit with
      | positional start t =>
          have here : t.resolve scope = (.error fault, (t.resolve scope).2) := Prod.ext failed rfl
          rw [resolveOnto, Computation.bind_of_error here]
      | keyword start key t =>
          have here : t.resolve scope = (.error fault, (t.resolve scope).2) := Prod.ext failed rfl
          rw [resolveOnto, Computation.bind_of_error here]
  | @cons scope between after entry rest v vs first others ih =>
      rw [List.cons_append]
      cases entry with
      | positional start t =>
          have here : t.resolve scope = (.ok v, between) := first
          rw [resolveOnto, Computation.bind_of_ok here, ih _ _ failed]
      | keyword start key t =>
          have here : t.resolve scope = (.ok v, between) := first
          rw [resolveOnto, Computation.bind_of_ok here, ih _ _ failed]

/-- The keyword attributes of a tag, if any entry has a key. -/
def keywordsOf (entries : List Entry) (kept : List (Text × Value)) : List Value :=
  if entries.any (·.key?.isSome) then [.keywords (textPairs kept)] else []

/-- What entries resolve to, as it is after all of them are resolved. -/
theorem resolveAll_of_resolved {scope after : Scope} {entries : List Entry} {vs : List Value}
    (resolved : Resolved scope entries vs after) :
    resolveAll entries scope =
      (.ok (positionals entries (vs.map after.current) ++
        keywordsOf entries (merged (keyed entries (vs.map after.current)))), after) := by
  have onto := resolveOnto_of_resolved resolved [] []
  rw [List.nil_append] at onto
  have kept : after.current (.keywords (textPairs (merged (keyed entries vs)))) =
      .keywords (textPairs (merged (keyed entries (vs.map after.current)))) := by
    rw [Scope.current_textPairs, keyed_map, merged_map]
  rw [resolveAll, show ([] : List (Value × Value)) = textPairs [] from rfl,
    Computation.bind_of_ok onto, positionals_map, keywordsOf, ← kept]
  by_cases some : entries.any (·.key?.isSome) = true
  · simp only [Scoped.currentAll, Scoped.reading, if_pos some, List.map_append, List.map_singleton]
    rfl
  · simp only [Scoped.currentAll, Scoped.reading, if_neg some, List.append_nil]

theorem resolveAll_of_fault {scope : Scope} {entries : List Entry} {fault : EvalFault}
    (faulty : FirstFault scope entries fault) : (resolveAll entries scope).1 = .error fault := by
  have outcome : resolveOnto [] [] entries scope =
      (.error fault, (resolveOnto [] [] entries scope).2) :=
    Prod.ext (resolveOnto_of_fault faulty [] []) rfl
  rw [resolveAll, Computation.bind_of_error outcome]

end Entry
end ElementTags
