import Mathlib.Data.List.Basic
import ElementTags.Attribute.Resolve
import ElementTags.Proofs.Compilation
import ElementTags.Proofs.Computation

/-! # The names that are looked up

A variable looks up the first name of its path, and a name with hyphens is looked up as
a whole. Whatever else stands in an attribute list is not looked up. So two scopes that
agree on the names that a list of entries looks up (`ElementTags.Scope.Agree`) lead to
the same values, or to the same fault (`ElementTags.Entry.respects_resolveAll`). The two
runs are compared step by step: a computation respects a relation between scopes if it
gives the same from related scopes and leaves related scopes behind
(`ElementTags.Scoped.Respects`).

All that matters about a relation is what computations ask of a scope
(`ElementTags.Scope.Likeness`): what its names are bound to, the state of its objects,
and what comes of calling its functions without arguments.

Code in parentheses may look up anything, and so may a function that such code
described. So terms with code are left out, unless code respects the relation, and
functions count as harmless if they respect it themselves.
-/

namespace ElementTags

/-! ## Computations that respect a relation -/

namespace Scoped

variable {α β : Type} {related : Scope → Scope → Prop}

/-- From related scopes, a computation gives the same and leads to related scopes. -/
def Respects (related : Scope → Scope → Prop) (x : Scoped α) : Prop :=
  ∀ a b, related a b → (x a).1 = (x b).1 ∧ related (x a).2 (x b).2

theorem respects_pure (v : α) : Respects related (pure v) := fun _ _ same => ⟨rfl, same⟩

theorem Respects.bind {x : Scoped α} {f : α → Scoped β} (first : Respects related x)
    (behind : ∀ v, Respects related (f v)) : Respects related (x >>= f) := by
  intro a b same
  obtain ⟨gives, left⟩ := first a b same
  cases result : (x a).1 with
  | ok v =>
      rw [Computation.bind_of_ok (Prod.ext result rfl),
        Computation.bind_of_ok (Prod.ext (gives.symm.trans result) rfl)]
      exact behind v _ _ left
  | error fault =>
      rw [Computation.bind_of_error (Prod.ext result rfl),
        Computation.bind_of_error (Prod.ext (gives.symm.trans result) rfl)]
      exact ⟨rfl, left⟩

theorem respects_reading {f : Scope → Except EvalFault α}
    (same : ∀ a b, related a b → f a = f b) : Respects related (reading f) :=
  fun a b here => ⟨same a b here, here⟩

theorem respects_ofExcept (result : Except EvalFault α) : Respects related (ofExcept result) :=
  fun _ _ same => ⟨rfl, same⟩

theorem respects_fail (fault : EvalFault) : Respects related (fail fault : Scoped α) :=
  fun _ _ same => ⟨rfl, same⟩

theorem respects_mapM {f : α → Scoped β} (each : ∀ a, Respects related (f a)) (items : List α) :
    Respects related (items.mapM f) := by
  induction items with
  | nil => exact respects_pure []
  | cons a rest ih =>
      rw [List.mapM_cons]
      exact (each a).bind fun b => ih.bind fun bs => respects_pure _

theorem respects_change {f : Scope → Scope} (kept : ∀ a b, related a b → related (f a) (f b)) :
    Respects related (change f) := fun a b same => ⟨rfl, kept a b same⟩

theorem Respects.recover {x : Scoped α} (respects : Respects related x)
    (handler : EvalFault → Except EvalFault α) : Respects related (recover x handler) := by
  intro a b same
  obtain ⟨gives, left⟩ := respects a b same
  unfold Scoped.recover
  cases here : x a with
  | mk result after =>
      cases there : x b with
      | mk result' after' =>
          rw [here, there] at gives left
          obtain rfl : result = result' := gives
          cases result with
          | ok v => exact ⟨rfl, left⟩
          | error fault => exact ⟨rfl, left⟩

end Scoped

/-! ## Relations between scopes -/

/-- A relation between scopes that are used alike and refer to objects in the same state. It stays
when objects get labels or new contents. -/
structure Scope.ObjectsAlike (related : Scope → Scope → Prop) : Prop where
  current : ∀ {a b}, related a b → a.current = b.current
  functions : ∀ {a b}, related a b → a.functions = b.functions
  autoescape : ∀ {a b}, related a b → a.autoescape = b.autoescape
  inTemplate : ∀ {a b}, related a b → a.inTemplate = b.inTemplate
  adopt : ∀ v, Scoped.Respects related (Scoped.adopt v)
  record : ∀ {a b} label content, related a b →
    related (a.record label content) (b.record label content)

/-- A relation between such scopes, in which some names are bound to the same, and from which the
same comes of calling a function without arguments. -/
structure Scope.Likeness (names : Text → Prop) (related : Scope → Scope → Prop) : Prop
    extends Scope.ObjectsAlike related where
  value? : ∀ {a b name}, related a b → names name → a.value? name = b.value? name
  called : ∀ {a b}, related a b → ∀ f ∈ a.functions,
    (Formula.callWithin Formula.maxCalls f {} a).1 =
        (Formula.callWithin Formula.maxCalls f {} b).1 ∧
      related (Formula.callWithin Formula.maxCalls f {} a).2
        (Formula.callWithin Formula.maxCalls f {} b).2

/-! ## Scopes that agree on some names -/

/-- The state of the objects that variables can refer to, which is no matter of one scope: what
became of those that were changed, how many got a label, and the functions that were described. -/
def Scope.objects (scope : Scope) : List (Label × Value) × Nat × List Function :=
  (scope.changes, scope.labelCount, scope.functions)

/-- Two scopes that agree on some names and on escaping, and that are both used by a template that
is rendered, or neither of them. They refer to objects in the same state, with functions of a kind.
-/
structure Scope.Agree (names : Text → Prop) (kind : Function → Prop) (a b : Scope) : Prop where
  get? : ∀ name, names name → a.get? name = b.get? name
  autoescape : a.autoescape = b.autoescape
  inTemplate : a.inTemplate = b.inTemplate
  objects : a.objects = b.objects
  kinds : ∀ f ∈ a.functions, kind f

/-- Functions of a kind that are called without arguments look up none but some names. -/
def Function.Confined (names : Text → Prop) (kind : Function → Prop) : Prop :=
  ∀ f, kind f → Scoped.Respects (Scope.Agree names kind)
    (Formula.callWithin Formula.maxCalls f {})

variable {names : Text → Prop} {kind : Function → Prop}

namespace Scope

variable {a b : Scope}

theorem Agree.changes (agree : Agree names kind a b) : a.changes = b.changes :=
  (Prod.ext_iff.mp agree.objects).1

theorem Agree.labelCount (agree : Agree names kind a b) : a.labelCount = b.labelCount :=
  (Prod.ext_iff.mp (Prod.ext_iff.mp agree.objects).2).1

theorem Agree.functions (agree : Agree names kind a b) : a.functions = b.functions :=
  (Prod.ext_iff.mp (Prod.ext_iff.mp agree.objects).2).2

theorem Agree.changed? (agree : Agree names kind a b) : a.changed? = b.changed? := by
  funext label
  rw [Scope.changed?, Scope.changed?, agree.changes]

theorem Agree.current (agree : Agree names kind a b) : a.current = b.current := by
  funext v
  rw [Scope.current, Scope.current, agree.changes, agree.changed?]

theorem Agree.value? (agree : Agree names kind a b) {name : Text} (known : names name) :
    a.value? name = b.value? name := by
  rw [Scope.value?, Scope.value?, agree.get? name known, agree.current]

theorem Agree.record (agree : Agree names kind a b) (label : Label) (content : Value) :
    Agree names kind (a.record label content) (b.record label content) where
  get? := agree.get?
  autoescape := agree.autoescape
  inTemplate := agree.inTemplate
  objects := by
    simp only [Scope.objects, Scope.record, agree.changed?, agree.changes, agree.labelCount,
      agree.functions]
  kinds := agree.kinds

/-- Such scopes look up the same under their names. -/
theorem likeness_agree (confined : Function.Confined names kind) :
    Likeness names (Agree names kind) where
  current := Agree.current
  functions := Agree.functions
  autoescape := Agree.autoescape
  inTemplate := Agree.inTemplate
  adopt v a b agree := by
    refine ⟨?_, agree.get?, agree.autoescape, agree.inTemplate, ?_, agree.kinds⟩
    · simp only [Scoped.adopt, Scope.adopt, agree.labelCount]
    · simp only [Scoped.adopt, Scope.adopt, Scope.objects, agree.changes, agree.labelCount,
        agree.functions]
  record label content agree := agree.record label content
  value? agree := agree.value?
  called agree f known := confined f (agree.kinds f known) _ _ agree

/-- The scopes of templates that are given data with the same values under some names. -/
theorem agree_ofData {data other : Layer} {autoescape : Bool}
    (same : ∀ name, names name →
      (ofData data autoescape).get? name = (ofData other autoescape).get? name) :
    Agree names kind (ofData data autoescape) (ofData other autoescape) :=
  ⟨same, rfl, rfl, rfl, List.forall_mem_nil _⟩

end Scope

/-! ## Calls -/

variable {related : Scope → Scope → Prop}

namespace Scoped

section

variable (alike : Scope.ObjectsAlike related)

include alike

theorem respects_current (v : Value) : Respects related (current v) :=
  respects_reading fun _ _ same => congrArg Except.ok (congrFun (alike.current same) v)

theorem respects_currentAll (vs : List Value) : Respects related (currentAll vs) :=
  respects_reading fun _ _ same => by rw [alike.current same]

theorem respects_currentPairs (ps : List (Value × Value)) :
    Respects related (currentPairs ps) :=
  respects_reading fun _ _ same => by rw [alike.current same]

theorem respects_record (v content : Value) : Respects related (record v content) := by
  unfold record
  split
  · exact respects_change fun a b same => alike.record _ content same
  · exact respects_pure ()

theorem respects_settle (owner : Value) (outcome : Outcome) :
    Respects related (settle owner outcome) := by
  have given : Respects related (adopt outcome.result) := alike.adopt _
  unfold settle
  split
  · refine Respects.bind (alike.adopt _) fun content => ?_
    exact Respects.bind (respects_record alike owner _) fun _ => given
  · exact given

theorem respects_callMethod (owner : Value) (name : Text) (a : Arguments) :
    Respects related (callMethod owner name a) :=
  Respects.bind (respects_current alike owner) fun _ =>
    Respects.bind (respects_ofExcept _) fun outcome => respects_settle alike _ outcome

/-- A call of a function respects what all calls of described functions respect. -/
theorem respects_callFunction {caller : Caller} {arguments : Arguments}
    (called : ∀ {a b}, related a b → ∀ f ∈ a.functions,
      (caller f arguments a).1 = (caller f arguments b).1 ∧
        related (caller f arguments a).2 (caller f arguments b).2) (which : Nat) :
    Respects related (callFunction caller which arguments) := by
  -- Which function is found is known only when the scopes are at hand.
  intro a b same
  have found : (reading fun scope => .ok scope.functions[which]?) a =
      (.ok a.functions[which]?, a) := rfl
  have foundThere : (reading fun scope => .ok scope.functions[which]?) b =
      (.ok a.functions[which]?, b) := by rw [alike.functions same]; rfl
  rw [callFunction, Computation.bind_of_ok found, Computation.bind_of_ok foundThere]
  cases here : a.functions[which]? with
  | none => exact respects_fail _ a b same
  | some f => exact called same f (List.mem_of_getElem? here)

end

/-- A call without arguments looks up what the functions look up. -/
theorem respects_apply (like : Scope.Likeness names related) (v : Value) :
    Respects related (Formula.apply v {}) := by
  unfold Formula.apply Formula.callPlainly
  split
  · exact respects_current like.toObjectsAlike _
  · exact respects_callFunction like.toObjectsAlike like.called _
  · exact respects_callMethod like.toObjectsAlike _ _ {}
  · exact respects_fail _

end Scoped

open Scoped

/-! ## Variables -/

namespace Variable

/-- The name that a variable looks up: the first one of its path. -/
def lookups (x : Variable) : List Text :=
  match x.reading with
  | .number _ => []
  | .path first _ => [first]

theorem needsArguments_eq {a b : Scope} (same : a.functions = b.functions) (v : Value) :
    needsArguments a v = needsArguments b v := by
  unfold needsArguments
  split
  · rfl
  · rw [same]
  · rfl

theorem uncalled_eq {a b : Scope} (same : a.inTemplate = b.inTemplate) (v : Value) :
    uncalled a v = uncalled b v := by
  unfold uncalled
  split
  · rfl
  · rw [same]

theorem respects_called (like : Scope.Likeness names related) (v : Value) :
    Respects related (called v) := by
  have needs : Respects related (Scoped.reading fun scope => .ok (needsArguments scope v)) :=
    respects_reading fun _ _ same => congrArg Except.ok (needsArguments_eq (like.functions same) v)
  refine Respects.bind needs fun needed => ?_
  split
  · exact respects_reading fun _ _ same => uncalled_eq (like.inTemplate same) v
  · split
    · exact respects_apply like v
    · exact respects_pure v

theorem respects_found (like : Scope.Likeness names related) (v? : Option Value) :
    Respects related (found v?) := by
  unfold found
  split
  · exact Respects.bind (respects_called like _) (respects_current like.toObjectsAlike)
  · exact respects_fail _

theorem respects_follow (like : Scope.Likeness names related) (path : List Text) (v : Value) :
    Respects related (follow v path) := by
  induction path generalizing v with
  | nil => exact respects_pure v
  | cons name rest ih => exact Respects.bind (respects_found like _) ih

/-- A variable looks up the first name of its path only. -/
theorem respects_resolve (like : Scope.Likeness names related) {x : Variable}
    (known : ∀ name ∈ x.lookups, names name) : Respects related x.resolve := by
  unfold lookups at known
  unfold resolve
  split
  · exact respects_pure _
  · rename_i first rest same
    rw [same] at known
    have start : Respects related (Scoped.reading fun scope => .ok (scope.value? first)) :=
      respects_reading fun _ _ same =>
        congrArg Except.ok (like.value? same (known first List.mem_cons_self))
    exact Respects.bind start fun v? =>
      Respects.bind (respects_found like v?) (respects_follow like rest)

end Variable

/-! ## Plain values -/

/-- The names that an operand or argument looks up. -/
def Operand.lookups : Operand → List Text
  | .constant _ => []
  | .variable x => x.lookups

/-- The names that a filter looks up for its argument. -/
def FilterCall.lookups (call : FilterCall) : List Text :=
  (call.argument.map Operand.lookups).getD []

namespace FilterExpr

variable {e : FilterExpr}

/-- The names that a plain value looks up. -/
def lookups (e : FilterExpr) : List Text :=
  e.operand.lookups ++ e.filters.flatMap FilterCall.lookups

theorem respects_applied (alike : Scope.ObjectsAlike related) (filter : Filter) (v : Value)
    (argument : Option Value) : Respects related (applied filter v argument) :=
  respects_reading fun _ _ same => by rw [alike.autoescape same, alike.current same]

theorem respects_applyCall (like : Scope.Likeness names related) {call : FilterCall}
    (known : ∀ name ∈ call.lookups, names name) (v : Value) :
    Respects related (applyCall v call) := by
  unfold FilterCall.lookups at known
  unfold applyCall
  split
  · rename_i operand given
    rw [given] at known
    have argument : Respects related (argumentValue operand) := by
      rcases operand with c | x
      · exact respects_pure c
      · exact Variable.respects_resolve like known
    exact Respects.bind argument fun a => respects_applied like.toObjectsAlike _ v (some a)
  · exact respects_applied like.toObjectsAlike _ v none

theorem respects_applyCalls (like : Scope.Likeness names related) {calls : List FilterCall}
    (known : ∀ name ∈ calls.flatMap FilterCall.lookups, names name) (v : Value) :
    Respects related (applyCalls v calls) := by
  induction calls generalizing v with
  | nil => exact respects_pure v
  | cons call rest ih =>
      rw [List.flatMap_cons, List.forall_mem_append] at known
      exact Respects.bind (respects_applyCall like known.1 v) (ih known.2)

theorem respects_initialValue (like : Scope.Likeness names related) {operand : Operand}
    (known : ∀ name ∈ operand.lookups, names name) (missing : Value) :
    Respects related (initialValue missing operand) := by
  rcases operand with c | x
  · exact respects_pure c
  · exact (Variable.respects_resolve like known).recover _

/-- A plain value looks up its operand and the arguments of its filters. -/
theorem respects_resolve (like : Scope.Likeness names related)
    (known : ∀ name ∈ e.lookups, names name) (missing : Value) :
    Respects related (e.resolve missing) := by
  rw [lookups, List.forall_mem_append] at known
  exact Respects.bind (respects_initialValue like known.1 missing)
    (respects_applyCalls like known.2)

end FilterExpr

/-! ## Filters behind other values -/

namespace AppliedFilter

/-- The names that a filter looks up for its argument. -/
def lookups (f : AppliedFilter) : List Text := (f.argument.map FilterExpr.lookups).getD []

theorem respects_apply (like : Scope.Likeness names related) {f : AppliedFilter}
    (known : ∀ name ∈ f.lookups, names name) (v : Value) :
    Respects related (apply v f) := by
  unfold lookups at known
  unfold apply
  split
  · rename_i e given
    rw [given] at known
    exact Respects.bind (FilterExpr.respects_resolve like known .null) fun a =>
      FilterExpr.respects_applied like.toObjectsAlike _ v (some a)
  · exact FilterExpr.respects_applied like.toObjectsAlike _ v none

theorem respects_applyAll (like : Scope.Likeness names related) {filters : List AppliedFilter}
    (known : ∀ name ∈ filters.flatMap lookups, names name) (v : Value) :
    Respects related (applyAll v filters) := by
  induction filters generalizing v with
  | nil => exact respects_pure v
  | cons f rest ih =>
      rw [List.flatMap_cons, List.forall_mem_append] at known
      exact Respects.bind (respects_apply like known.1 v) (ih known.2)

end AppliedFilter

/-! ## Terms -/

namespace Term

mutual

/-- The names that a term looks up. -/
def lookups : Term → List Text
  | plain e => e.lookups
  | hyphenated name => [name]
  | list items filters => itemLookups items ++ filters.flatMap AppliedFilter.lookups
  | dict pairs filters => pairLookups pairs ++ filters.flatMap AppliedFilter.lookups
  | joined first others filters =>
    first.lookups ++ others.flatMap (·.2.lookups) ++ filters.flatMap AppliedFilter.lookups
  | parenthesized _ filters => filters.flatMap AppliedFilter.lookups

/-- The names that the items of a list look up. -/
def itemLookups : List Term → List Text
  | [] => []
  | item :: rest => item.lookups ++ itemLookups rest

/-- The names that the values of a dictionary look up. -/
def pairLookups : List (Text × Term) → List Text
  | [] => []
  | (_, item) :: rest => item.lookups ++ pairLookups rest

end

/-- There is no expression in parentheses in a term. -/
abbrev Codeless (t : Term) : Prop := t.Throughout (fun _ => True) (fun _ => True) False

theorem respects_operandValues (like : Scope.Likeness names related)
    {others : List (Operator × FilterExpr)}
    (known : ∀ name ∈ others.flatMap (·.2.lookups), names name) :
    Respects related (operandValues others) := by
  induction others with
  | nil => exact respects_pure []
  | cons operation rest ih =>
      rw [List.flatMap_cons, List.forall_mem_append] at known
      refine Respects.bind (FilterExpr.respects_resolve like known.1 .null) fun v => ?_
      exact Respects.bind (ih known.2) fun vs => respects_pure _

theorem respects_joinedValue (like : Scope.Likeness names related) {first : FilterExpr}
    {others : List (Operator × FilterExpr)} (start : ∀ name ∈ first.lookups, names name)
    (known : ∀ name ∈ others.flatMap (·.2.lookups), names name) :
    Respects related (joinedValue first others) := by
  refine Respects.bind (FilterExpr.respects_resolve like start .null) fun v => ?_
  refine Respects.bind (respects_operandValues like known) fun vs => ?_
  exact respects_reading fun _ _ same => by rw [like.current same]

variable {code : Prop}

mutual

/-- A term looks up the names of its variables only, if its code looks up nothing else. -/
theorem respects_resolve (runs : code → ∀ source, Respects related (Formula.run source))
    (like : Scope.Likeness names related) (t : Term)
    (codes : t.Throughout (fun _ => True) (fun _ => True) code)
    (known : ∀ name ∈ t.lookups, names name) : Respects related t.resolve := by
  cases t with
  | plain e => exact FilterExpr.respects_resolve like known .null
  | hyphenated name =>
      refine respects_reading fun _ _ same => ?_
      rw [like.value? same (known name List.mem_cons_self)]
  | list items filters =>
      rw [lookups, List.forall_mem_append] at known
      exact Respects.bind (respects_resolveItems runs like items codes.1 known.1) fun vs =>
        AppliedFilter.respects_applyAll like known.2 _
  | dict pairs filters =>
      rw [lookups, List.forall_mem_append] at known
      exact Respects.bind (respects_resolvePairs runs like pairs codes.1 known.1 []) fun ps =>
        AppliedFilter.respects_applyAll like known.2 _
  | joined first others filters =>
      rw [lookups, List.forall_mem_append, List.forall_mem_append] at known
      exact Respects.bind (respects_joinedValue like known.1.1 known.1.2) fun v =>
        AppliedFilter.respects_applyAll like known.2 _
  | parenthesized source filters =>
      exact Respects.bind (runs codes.1 source) fun v =>
        AppliedFilter.respects_applyAll like known v

/-- So do the items of a list. -/
theorem respects_resolveItems (runs : code → ∀ source, Respects related (Formula.run source))
    (like : Scope.Likeness names related) (items : List Term)
    (codes : ItemsThroughout (fun _ => True) (fun _ => True) code items)
    (known : ∀ name ∈ itemLookups items, names name) :
    Respects related (resolveItems items) := by
  cases items with
  | nil => exact respects_pure []
  | cons item rest =>
      rw [itemLookups, List.forall_mem_append] at known
      refine Respects.bind (respects_resolve runs like item codes.1 known.1) fun v => ?_
      exact Respects.bind (respects_resolveItems runs like rest codes.2 known.2) fun vs =>
        respects_pure _

/-- So do the pairs of a dictionary. -/
theorem respects_resolvePairs (runs : code → ∀ source, Respects related (Formula.run source))
    (like : Scope.Likeness names related) (pairs : List (Text × Term))
    (codes : PairsThroughout (fun _ => True) (fun _ => True) code pairs)
    (known : ∀ name ∈ pairLookups pairs, names name) (before : List (Value × Value)) :
    Respects related (resolvePairs before pairs) := by
  cases pairs with
  | nil => exact respects_pure before
  | cons pair rest =>
      obtain ⟨key, item⟩ := pair
      rw [pairLookups, List.forall_mem_append] at known
      exact Respects.bind (respects_resolve runs like item codes.1 known.1) fun v =>
        respects_resolvePairs runs like rest codes.2 known.2 _

end

end Term

/-! ## Entries -/

namespace Entry

variable {entries : List Entry}

/-- The names that an entry looks up: its key is none of them. -/
def lookups (entry : Entry) : List Text := entry.value.lookups

theorem respects_resolveOnto {code : Prop}
    (runs : code → ∀ source, Respects related (Formula.run source))
    (like : Scope.Likeness names related)
    (codes : ∀ entry ∈ entries, entry.value.Throughout (fun _ => True) (fun _ => True) code)
    (known : ∀ name ∈ entries.flatMap lookups, names name) (values : List Value)
    (pairs : List (Value × Value)) :
    Respects related (resolveOnto values pairs entries) := by
  induction entries generalizing values pairs with
  | nil => exact respects_pure (values, pairs)
  | cons entry rest ih =>
      obtain ⟨here, others⟩ := List.forall_mem_cons.mp codes
      rw [List.flatMap_cons, List.forall_mem_append] at known
      have resolved := Term.respects_resolve runs like entry.value here known.1
      cases entry with
      | positional start t => exact Respects.bind resolved fun v => ih others known.2 _ _
      | keyword start key t => exact Respects.bind resolved fun v => ih others known.2 _ _

/-- Entries look up the names of their variables only, if their code looks up nothing else. -/
theorem respects_resolveAll {code : Prop}
    (runs : code → ∀ source, Respects related (Formula.run source))
    (like : Scope.Likeness names related)
    (codes : ∀ entry ∈ entries, entry.value.Throughout (fun _ => True) (fun _ => True) code)
    (known : ∀ name ∈ entries.flatMap lookups, names name) :
    Respects related (resolveAll entries) :=
  Respects.bind (respects_resolveOnto runs like codes known [] []) fun _ =>
    respects_currentAll like.toObjectsAlike _

end Entry
end ElementTags
