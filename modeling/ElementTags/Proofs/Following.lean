import ElementTags.Filter.Variable
import ElementTags.Proofs.Calls
import ElementTags.Proofs.Computation

/-! # Following paths through unmarked values

A scope is unmarked if nothing that can be reached from it is marked as safe: not the
values of its variables, not the new contents of changed collections, and not what its
functions give (`ElementTags.Scope.Unmarked`). A computation keeps the scope unmarked
and gives unmarked values only (`ElementTags.Scoped.Keeps`) if its steps do, and a
variable does (`ElementTags.Variable.keeps_resolve`): each name on its path leads to a
part of what was found before, or to what a call gives.
-/

namespace ElementTags

open Outcome

/-! ## Steps that keep an invariant -/

namespace Scoped

variable {α β : Type} {invariant : Scope → Prop} {holds : α → Prop} {next : β → Prop}

/-- From a scope with the invariant, a computation leads to a scope with the invariant, and what it
gives has a property. -/
def Keeps (invariant : Scope → Prop) (x : Scoped α) (holds : α → Prop) : Prop :=
  ∀ scope, invariant scope → invariant (x scope).2 ∧ ∀ a, (x scope).1 = .ok a → holds a

theorem keeps_pure {a : α} (here : holds a) : Keeps invariant (pure a) holds :=
  Computation.keeps_pure here

theorem Keeps.bind (holds : α → Prop) {x : Scoped α} {f : α → Scoped β}
    (first : Keeps invariant x holds) (behind : ∀ a, holds a → Keeps invariant (f a) next) :
    Keeps invariant (x >>= f) next := Computation.Keeps.bind first behind

theorem Keeps.mono {holds' : α → Prop} {x : Scoped α} (keeps : Keeps invariant x holds)
    (weaker : ∀ a, holds a → holds' a) : Keeps invariant x holds' := fun scope kept =>
  ⟨(keeps scope kept).1, fun a result => weaker a ((keeps scope kept).2 a result)⟩

theorem keeps_reading {f : Scope → Except EvalFault α}
    (gives : ∀ scope, invariant scope → ∀ a, f scope = .ok a → holds a) :
    Keeps invariant (reading f) holds := fun scope kept => ⟨kept, gives scope kept⟩

theorem keeps_ofExcept {result : Except EvalFault α} (gives : ∀ a, result = .ok a → holds a) :
    Keeps invariant (ofExcept result) holds := fun _ kept => ⟨kept, gives⟩

theorem keeps_fail {fault : EvalFault} : Keeps invariant (fail fault) holds := fun _ kept =>
  ⟨kept, fun _ failed => by cases failed⟩

theorem keeps_change {f : Scope → Scope} {holds : Unit → Prop} (here : holds ())
    (kept : ∀ scope, invariant scope → invariant (f scope)) : Keeps invariant (change f) holds :=
  fun scope before => ⟨kept scope before, fun _ _ => here⟩

theorem Keeps.recover {x : Scoped α} {handler : EvalFault → Except EvalFault α}
    (keeps : Keeps invariant x holds) (handled : ∀ fault a, handler fault = .ok a → holds a) :
    Keeps invariant (recover x handler) holds := by
  intro scope before
  obtain ⟨kept, gives⟩ := keeps scope before
  unfold Scoped.recover
  split
  · rename_i a after result
    rw [result] at kept gives
    exact ⟨kept, gives⟩
  · rename_i fault after result
    rw [result] at kept
    exact ⟨kept, fun a given => handled fault a given⟩

end Scoped

/-! ## Unmarked scopes -/

/-- Nothing that can be reached from a scope is marked as safe: no value of a variable, and no new
content of something that was changed. Its functions are of a harmless kind. -/
structure Scope.Unmarked (harmless : Function → Prop) (scope : Scope) : Prop where
  layers : ∀ layer ∈ scope.layers, ∀ entry ∈ layer, entry.2.Unmarked True
  changes : ∀ change ∈ scope.changes, change.2.Unmarked True
  functions : ∀ f ∈ scope.functions, harmless f

/-- Functions of a kind do no harm when they are called without arguments: they give unmarked values
and leave the scope unmarked, also the functions in it. -/
def Function.Closed (harmless : Function → Prop) : Prop :=
  ∀ f, harmless f → Scoped.Keeps (Scope.Unmarked harmless)
    (Formula.callWithin Formula.maxCalls f {}) (·.Unmarked True)

variable {harmless : Function → Prop} {lazily : Prop}

namespace Scope

variable {scope : Scope} {v content : Value} {name : Text} {label : Label}

theorem mem_of_layer_get? {layer : Layer} (found : layer.get? name = some v) :
    (name, v) ∈ layer := by
  induction layer with
  | nil => cases found
  | cons entry rest ih =>
      obtain ⟨n, w⟩ := entry
      unfold Layer.get? at found
      split at found
      · rename_i same
        cases found
        exact same ▸ List.mem_cons_self
      · exact List.mem_cons_of_mem _ (ih found)

theorem Unmarked.get? (unmarked : scope.Unmarked harmless) (found : scope.get? name = some v) :
    v.Unmarked True := by
  obtain ⟨layer, member, here⟩ := List.exists_of_findSome?_eq_some found
  exact unmarked.layers layer member _ (mem_of_layer_get? here)

theorem Unmarked.changed? (unmarked : scope.Unmarked harmless)
    (found : scope.changed? label = some v) : v.Unmarked True := by
  obtain ⟨change, here, rfl⟩ := Option.map_eq_some_iff.mp found
  exact unmarked.changes change (List.mem_of_find?_eq_some here)

/-- What has become of an unmarked value is unmarked. -/
theorem Unmarked.current (unmarked : scope.Unmarked harmless) (before : v.Unmarked lazily) :
    (scope.current v).Unmarked lazily := by
  unfold Scope.current
  split
  · exact before
  · exact before.revised fun label content found =>
      (unmarked.changed? found).mono fun _ => trivial

theorem Unmarked.value? (unmarked : scope.Unmarked harmless)
    (found : scope.value? name = some v) : v.Unmarked True := by
  obtain ⟨w, here, rfl⟩ := Option.map_eq_some_iff.mp found
  exact unmarked.current (unmarked.get? here)

/-- The scope of a template that is given unmarked data is unmarked. -/
theorem unmarked_ofData {data : Layer} (unmarked : ∀ entry ∈ data, entry.2.Unmarked True)
    (autoescape : Bool) : (ofData data autoescape).Unmarked harmless where
  layers := by
    have known : ∀ entry ∈ constants, entry.2.Unmarked True := by
      rw [constants, List.forall_mem_cons, List.forall_mem_cons, List.forall_mem_singleton]
      exact ⟨.atom rfl, .atom rfl, .atom rfl⟩
    have given : ∀ entry ∈ identifiedData data, entry.2.Unmarked True := by
      rw [identifiedData, List.forall_mem_map]
      exact fun entry member => (unmarked entry member).identified _ 0
    exact List.forall_mem_cons.mpr ⟨given, List.forall_mem_singleton.mpr known⟩
  changes := List.forall_mem_nil _
  functions := List.forall_mem_nil _

/-- A scope in which something unmarked was changed is unmarked. -/
theorem Unmarked.record (unmarked : scope.Unmarked harmless) (new : content.Unmarked True)
    (label : Label) : (scope.record label content).Unmarked harmless := by
  have revised : (content.revised fun l => if l = label then none else scope.changed? l).Unmarked
      True := by
    refine new.revised fun l v found => ?_
    split at found
    · cases found
    · exact unmarked.changed? found
  refine ⟨unmarked.layers, List.forall_mem_cons.mpr ⟨revised, ?_⟩, unmarked.functions⟩
  rw [List.forall_mem_map]
  intro change member
  refine (unmarked.changes change (List.mem_filter.mp member).1).revised fun l v found => ?_
  split at found
  · cases found
    exact revised
  · cases found

end Scope

/-! ## Calls -/

namespace Scoped

variable {v content owner : Value}

theorem keeps_current (before : v.Unmarked lazily) :
    Keeps (Scope.Unmarked harmless) (current v) (·.Unmarked lazily) := by
  refine keeps_reading fun scope unmarked w result => ?_
  cases result
  exact unmarked.current before

theorem keeps_adopt (unmarked : v.Unmarked True) :
    Keeps (Scope.Unmarked harmless) (adopt v) (·.Unmarked True) := by
  refine fun scope kept => ⟨⟨kept.layers, kept.changes, kept.functions⟩, ?_⟩
  rintro _ ⟨⟩
  exact unmarked.identified none scope.labelCount

theorem keeps_record (new : content.Unmarked True) :
    Keeps (Scope.Unmarked harmless) (record v content) fun _ => True := by
  unfold record
  split
  · rename_i label _
    exact keeps_change trivial fun scope unmarked => unmarked.record new label
  · exact keeps_pure trivial

theorem keeps_settle {outcome : Outcome} (unmarked : owner.Unmarked True)
    (settled : outcome.Unmarked) :
    Keeps (Scope.Unmarked harmless) (settle owner outcome) (·.Unmarked True) := by
  have given : Keeps (Scope.Unmarked harmless) (adopt outcome.result) (·.Unmarked True) :=
    keeps_adopt settled.result
  unfold settle
  split
  · rename_i content changed
    refine Keeps.bind _ (keeps_adopt (settled.content content changed)) fun w new => ?_
    exact Keeps.bind _ (keeps_record (unmarked.withContent new)) fun _ _ => given
  · exact given

theorem keeps_callMethod {name : Text} (unmarked : owner.Unmarked True) :
    Keeps (Scope.Unmarked harmless) (callMethod owner name {}) (·.Unmarked True) := by
  refine Keeps.bind _ (keeps_current unmarked) fun now kept => ?_
  have called : Keeps (Scope.Unmarked harmless)
      (ofExcept (now.callMethod name {})) Outcome.Unmarked :=
    keeps_ofExcept fun outcome called => kept.callMethod called
  exact Keeps.bind Outcome.Unmarked called fun outcome settled => keeps_settle kept settled

/-- What a call without arguments gives is unmarked. -/
theorem keeps_apply (closed : Function.Closed harmless) (unmarked : v.Unmarked True) :
    Keeps (Scope.Unmarked harmless) (Formula.apply v {}) (·.Unmarked True) := by
  unfold Formula.apply Formula.callPlainly
  split
  · cases unmarked with
    | atom plain => cases plain
    | callable given => exact keeps_current given
  · rename_i which
    refine Keeps.bind (fun f? => ∀ f ∈ f?, harmless f) (keeps_reading ?_) fun f? known => ?_
    · rintro scope unmarked _ ⟨⟩ f member
      exact unmarked.functions f (List.mem_of_getElem? member)
    · split
      · rename_i f
        exact closed f (known f rfl)
      · exact keeps_fail
  · cases unmarked with
    | atom plain => cases plain
    | method own => exact keeps_callMethod own
  · exact keeps_fail

end Scoped

/-! ## Paths -/

namespace Variable

open Scoped

variable {v w : Value} {name s : Text} {x : Variable}

theorem keeps_called (closed : Function.Closed harmless) (unmarked : v.Unmarked True) :
    Keeps (Scope.Unmarked harmless) (called v) (·.Unmarked True) := by
  refine Keeps.bind (fun _ => True) (keeps_reading fun _ _ _ _ => trivial) fun needs _ => ?_
  split
  · refine keeps_reading fun scope _ w result => ?_
    unfold uncalled at result
    split at result
    · cases result
    · split at result
      · cases result
        exact .atom rfl
      · cases result
  · split
    · exact keeps_apply closed unmarked
    · exact keeps_pure unmarked

theorem unmarked_step? (unmarked : v.Unmarked True) (found : step? v name = some w) :
    w.Unmarked True := by
  unfold step? at found
  rcases Option.or_eq_some_iff.mp found with under | ⟨-, found⟩
  · obtain ⟨pairs, shown, under⟩ := Option.bind_eq_some_iff.mp under
    exact Value.unmarked_lookup (unmarked.pairs? shown) under
  · rcases Option.or_eq_some_iff.mp found with member | ⟨-, found⟩
    · exact unmarked.member? member
    · unfold position? at found
      split at found
      · cases found
      · split at found
        · rename_i item
          cases found
          exact unmarked.subscript item
        · cases found

theorem keeps_found (closed : Function.Closed harmless) {v? : Option Value}
    (unmarked : ∀ v ∈ v?, v.Unmarked True) :
    Keeps (Scope.Unmarked harmless) (found v?) (·.Unmarked True) := by
  unfold found
  split
  · rename_i v
    exact Keeps.bind _ (keeps_called closed (unmarked v rfl)) fun w given => keeps_current given
  · exact keeps_fail

theorem keeps_follow (closed : Function.Closed harmless) (names : List Text)
    (unmarked : v.Unmarked True) :
    Keeps (Scope.Unmarked harmless) (follow v names) (·.Unmarked True) := by
  induction names generalizing v with
  | nil => exact keeps_pure unmarked
  | cons name rest ih =>
      refine Keeps.bind _ (keeps_found closed fun w here => ?_) fun next given => ih given
      exact unmarked_step? unmarked here

/-- A number that a variable is written as is unmarked. -/
def Numeric (x : Variable) : Prop := ∀ n, x.reading = .number n → n.Unmarked True

theorem numeric_ofText (read : ofText s = .ok x) : x.Numeric := by
  intro n same
  unfold ofText at read
  split at read
  · rename_i m number
    cases read
    cases same
    unfold number? at number
    split at number
    · split at number
      · cases number
      · obtain ⟨numeral, -, rfl⟩ := Option.map_eq_some_iff.mp number
        exact .atom rfl
    · obtain ⟨whole, -, rfl⟩ := Option.map_eq_some_iff.mp number
      exact .atom rfl
  · split at read
    · cases read
    · cases read
      unfold pathOf at same
      split at same
      · cases same
      · cases same

/-- A variable of an unmarked scope has an unmarked value. -/
theorem keeps_resolve (closed : Function.Closed harmless) (numeric : x.Numeric) :
    Keeps (Scope.Unmarked harmless) x.resolve (·.Unmarked True) := by
  unfold resolve
  split
  · rename_i n number
    exact keeps_pure (numeric n number)
  · rename_i first rest _
    refine Keeps.bind (fun v? => ∀ v ∈ v?, v.Unmarked True) (keeps_reading ?_)
      fun start unmarked => Keeps.bind _ (keeps_found closed unmarked) fun v given =>
        keeps_follow closed rest given
    rintro scope unmarked _ ⟨⟩ v known
    exact unmarked.value? known

end Variable
end ElementTags
