import ElementTags.Ledger
import ElementTags.Proofs.Lookups
import ElementTags.Template.Render

/-! # Readings make no difference

An engine reads every piece of code once for all templates, and lends what it has read
to the scopes in which something is evaluated. What comes of an evaluation does not
depend on it: scopes that were lent different readings (`ElementTags.Scope.Lent`) lead to
the same, and differ in their readings only again. This is shown for formulas
(`ElementTags.Formula.respects_eval`), for code, which may be read or found
(`ElementTags.Formula.respects_run`), and from there for attributes
(`ElementTags.Entry.respects_readings`). So an engine evaluates to the same, whatever it
has read before (`ElementTags.Ledger.evaluate_eq`).
-/

namespace ElementTags

open Scoped

/-! ## Scopes with different readings -/

namespace Scope

/-- Two scopes differ in the readings of code that were lent to them, if at all. -/
def Lent (a b : Scope) : Prop := ∃ readings, b = a.lend readings

theorem Lent.refl (a : Scope) : Lent a a := ⟨a.readings, rfl⟩

theorem lent_lend (a : Scope) (readings : Readings) : Lent a (a.lend readings) :=
  ⟨readings, rfl⟩

theorem Lent.symm {a b : Scope} (lent : Lent a b) : Lent b a := by
  obtain ⟨readings, rfl⟩ := lent
  exact ⟨a.readings, rfl⟩

theorem Lent.trans {a b c : Scope} (first : Lent a b) (second : Lent b c) : Lent a c := by
  obtain ⟨readings, rfl⟩ := first
  obtain ⟨others, rfl⟩ := second
  exact ⟨others, rfl⟩

/-- The same readings take the difference away. -/
theorem Lent.lend_eq {a b : Scope} (lent : Lent a b) (readings : Readings) :
    a.lend readings = b.lend readings := by
  obtain ⟨others, rfl⟩ := lent
  rfl

theorem objectsAlike_lent : ObjectsAlike Lent where
  current := by rintro a _ ⟨readings, rfl⟩; rfl
  functions := by rintro a _ ⟨readings, rfl⟩; rfl
  autoescape := by rintro a _ ⟨readings, rfl⟩; rfl
  inTemplate := by rintro a _ ⟨readings, rfl⟩; rfl
  adopt v := by rintro a _ ⟨readings, rfl⟩; exact ⟨rfl, lent_lend _ readings⟩
  record label content := by rintro ⟨readings, rfl⟩; exact lent_lend _ readings

end Scope

/-! ## Formulas -/

namespace Formula

variable {caller : Caller}

/-- How functions are called does not depend on the readings of the scope. -/
def Unread (caller : Caller) : Prop := ∀ f a, Respects Scope.Lent (caller f a)

theorem respects_made (result : Except EvalFault Value) : Respects Scope.Lent (made result) :=
  (respects_ofExcept result).bind Scope.objectsAlike_lent.adopt

theorem respects_set (name : Text) (v : Value) :
    Respects Scope.Lent (change (·.set name v)) := by
  refine respects_change ?_
  rintro a _ ⟨readings, rfl⟩
  refine ⟨readings, ?_⟩
  unfold Scope.set
  split <;> rename_i same <;> simp only [Scope.lend] at same ⊢ <;> rw [same]

theorem respects_describeFunction (f : Function) :
    Respects Scope.Lent (describeFunction f) := by
  rintro a _ ⟨readings, rfl⟩
  exact ⟨rfl, readings, rfl⟩

theorem respects_variableValue (bound : Layer) (s : Text) :
    Respects Scope.Lent (reading fun scope => variableValue scope bound s) := by
  refine respects_reading ?_
  rintro a _ ⟨readings, rfl⟩
  rfl

section

variable (unread : Unread caller)

include unread

theorem respects_callPlainly (v : Value) (a : Arguments) :
    Respects Scope.Lent (callPlainly caller v a) := by
  unfold callPlainly
  split
  · split
    · exact respects_current Scope.objectsAlike_lent _
    · exact respects_fail _
  · exact respects_callFunction Scope.objectsAlike_lent (fun same f _ => unread f a _ _ same) _
  · exact respects_callMethod Scope.objectsAlike_lent _ _ _
  · exact respects_fail _

theorem respects_rankAll (key : Value) (vs : List Value) :
    Respects Scope.Lent (rankAll caller key vs) := by
  induction vs with
  | nil => exact respects_pure []
  | cons v rest ih =>
      refine (respects_callPlainly unread key _).bind fun rank => ih.bind fun others => ?_
      exact respects_pure _

theorem respects_sortBy (owner key : Value) (a : Arguments) :
    Respects Scope.Lent (sortBy caller owner key a) := by
  refine (respects_current Scope.objectsAlike_lent owner).bind fun owner => ?_
  refine (respects_ofExcept _).bind fun bound => (respects_ofExcept _).bind fun isReversed => ?_
  refine (respects_rankAll unread key _).bind fun ranked => ?_
  refine (respects_ofExcept _).bind fun sorted => ?_
  exact (respects_record Scope.objectsAlike_lent owner _).bind fun _ => respects_pure _

theorem respects_callValue (v : Value) (a : Arguments) :
    Respects Scope.Lent (callValue caller v a) := by
  unfold callValue
  split
  · split
    · exact respects_fail _
    · split
      · exact respects_sortBy unread _ _ a
      · exact respects_callMethod Scope.objectsAlike_lent _ _ a
  · exact respects_callPlainly unread _ a

end

mutual

/-- Evaluating a formula does not depend on the readings of the scope. -/
theorem respects_eval (unread : Unread caller) (bound : Layer) (e : Formula) :
    Respects Scope.Lent (eval caller bound e) := by
  match e with
  | constant v => exact Scope.objectsAlike_lent.adopt v
  | name s => exact respects_variableValue bound s
  | assign s e =>
      refine (respects_eval unread bound e).bind fun v => ?_
      split
      · exact respects_fail _
      · exact (respects_set s v).bind fun _ => respects_pure v
  | signed s e => exact (respects_eval unread bound e).bind fun v => respects_made _
  | combined c a b =>
      refine (respects_eval unread bound a).bind fun x => ?_
      refine (respects_eval unread bound b).bind fun y => ?_
      exact (respects_current Scope.objectsAlike_lent x).bind fun _ => respects_made _
  | compared first links =>
      exact (respects_eval unread bound first).bind fun v =>
        respects_evalLinks unread bound first v links
  | both a b =>
      refine (respects_eval unread bound a).bind fun v => ?_
      split
      · exact respects_eval unread bound b
      · exact respects_pure v
  | either a b =>
      refine (respects_eval unread bound a).bind fun v => ?_
      split
      · exact respects_pure v
      · exact respects_eval unread bound b
  | choice condition a b =>
      refine (respects_eval unread bound condition).bind fun v => ?_
      split
      · exact respects_eval unread bound a
      · exact respects_eval unread bound b
  | list es =>
      refine (respects_evalAll unread bound es).bind fun vs => ?_
      exact (respects_currentAll Scope.objectsAlike_lent vs).bind fun _ =>
        Scope.objectsAlike_lent.adopt _
  | tuple es =>
      refine (respects_evalAll unread bound es).bind fun vs => ?_
      exact (respects_currentAll Scope.objectsAlike_lent vs).bind fun _ =>
        Scope.objectsAlike_lent.adopt _
  | set es => exact (respects_evalAll unread bound es).bind fun vs => respects_made _
  | dict es =>
      refine (respects_evalPairs unread bound es).bind fun ps => ?_
      exact (respects_currentPairs Scope.objectsAlike_lent ps).bind fun _ => respects_made _
  | spread e => exact respects_eval unread bound e
  | gathered kind g =>
      refine (respects_gather unread bound g).bind fun ps => ?_
      exact (respects_currentPairs Scope.objectsAlike_lent ps).bind fun _ => respects_made _
  | item e key =>
      refine (respects_eval unread bound e).bind fun v => ?_
      refine (respects_eval unread bound key).bind fun k => ?_
      exact (respects_current Scope.objectsAlike_lent v).bind fun _ => respects_made _
  | bounds a b c =>
      refine (respects_eval unread bound a).bind fun start => ?_
      refine (respects_eval unread bound b).bind fun stop => ?_
      exact (respects_eval unread bound c).bind fun step => respects_pure _
  | member e s => exact (respects_eval unread bound e).bind fun v => respects_made _
  | call f arguments named =>
      refine (respects_eval unread bound f).bind fun v => ?_
      refine (respects_evalAll unread bound arguments).bind fun vs => ?_
      refine (respects_evalNamed unread bound [] named).bind fun ns => ?_
      exact (respects_currentAll Scope.objectsAlike_lent vs).bind fun _ =>
        respects_callValue unread v _
  | interpolated parts =>
      exact (respects_evalParts unread bound parts).bind fun vs => respects_pure _
  | function parameters body =>
      exact (respects_evalDefaults unread bound parameters).bind fun parameters =>
        respects_describeFunction _

theorem respects_evalAll (unread : Unread caller) (bound : Layer) (es : List Formula) :
    Respects Scope.Lent (evalAll caller bound es) := by
  match es with
  | [] => exact respects_pure []
  | e :: rest =>
      have here := respects_eval unread bound e
      have others := respects_evalAll unread bound rest
      unfold evalAll
      split
      · exact respects_pure []
      · rename_i e rest same
        cases same
        exact here.bind fun v => (respects_ofExcept _).bind fun items =>
          others.bind fun vs => respects_pure _
      · rename_i e rest _ same
        cases same
        exact here.bind fun v => others.bind fun vs => respects_pure _

theorem respects_evalPairs (unread : Unread caller) (bound : Layer)
    (ps : List (Option Formula × Formula)) :
    Respects Scope.Lent (evalPairs caller bound ps) := by
  match ps with
  | [] => exact respects_pure []
  | (some k, v) :: rest =>
      refine (respects_eval unread bound k).bind fun key => ?_
      refine (respects_eval unread bound v).bind fun value => ?_
      exact (respects_evalPairs unread bound rest).bind fun ps => respects_pure _
  | (none, v) :: rest =>
      refine (respects_eval unread bound v).bind fun value => ?_
      refine (respects_ofExcept _).bind fun pairs => ?_
      exact (respects_evalPairs unread bound rest).bind fun ps => respects_pure _

theorem respects_evalNamed (unread : Unread caller) (bound : Layer) (before : List (Text × Value))
    (named : List (Option Text × Formula)) :
    Respects Scope.Lent (evalNamed caller bound before named) := by
  match named with
  | [] => exact respects_pure before
  | (some s, e) :: rest =>
      refine (respects_eval unread bound e).bind fun v => (respects_ofExcept _).bind fun named => ?_
      exact respects_evalNamed unread bound named rest
  | (none, e) :: rest =>
      refine (respects_eval unread bound e).bind fun v => (respects_ofExcept _).bind fun more => ?_
      exact (respects_ofExcept _).bind fun named => respects_evalNamed unread bound named rest

theorem respects_evalLinks (unread : Unread caller) (bound : Layer) (e : Formula) (v : Value)
    (links : List (Comparison × Formula)) :
    Respects Scope.Lent (evalLinks caller bound e v links) := by
  match links with
  | [] => exact respects_pure _
  | (c, f) :: rest =>
      refine (respects_eval unread bound f).bind fun w => ?_
      refine (respects_current Scope.objectsAlike_lent v).bind fun now => ?_
      refine (respects_ofExcept _).bind fun holds => ?_
      split
      · exact respects_evalLinks unread bound f w rest
      · exact respects_pure _

theorem respects_gather (unread : Unread caller) (bound : Layer) (g : Gathering Formula) :
    Respects Scope.Lent (gather caller bound g) := by
  match g with
  | .item e => exact (respects_eval unread bound e).bind fun v => respects_pure _
  | .pair k v =>
      refine (respects_eval unread bound k).bind fun key => ?_
      refine (respects_eval unread bound v).bind fun value => ?_
      exact respects_pure _
  | .each target source rest =>
      refine (respects_eval unread bound source).bind fun v => ?_
      refine (respects_ofExcept _).bind fun items => ?_
      refine Respects.bind (respects_mapM (fun item => ?_) items) fun parts => respects_pure _
      exact (respects_ofExcept _).bind fun names => respects_gather unread (names ++ bound) rest
  | .only condition rest =>
      refine (respects_eval unread bound condition).bind fun v => ?_
      split
      · exact respects_gather unread bound rest
      · exact respects_pure []

theorem respects_evalParts (unread : Unread caller) (bound : Layer)
    (parts : List (TextPart Formula)) : Respects Scope.Lent (evalParts caller bound parts) := by
  match parts with
  | [] => exact respects_pure []
  | .characters s :: rest =>
      exact (respects_evalParts unread bound rest).bind fun vs => respects_pure _
  | .field e conversion layout :: rest =>
      refine (respects_eval unread bound e).bind fun v => (respects_ofExcept _).bind fun v => ?_
      refine (respects_evalParts unread bound layout).bind fun parts => ?_
      refine (respects_ofExcept _).bind fun shown => ?_
      exact (respects_evalParts unread bound rest).bind fun vs => respects_pure _

theorem respects_evalDefaults (unread : Unread caller) (bound : Layer)
    (parameters : List (ParameterKind × Text × Option Formula)) :
    Respects Scope.Lent (evalDefaults caller bound parameters) := by
  match parameters with
  | [] => exact respects_pure []
  | (kind, s, some e) :: rest =>
      refine (respects_eval unread bound e).bind fun v => ?_
      exact (respects_evalDefaults unread bound rest).bind fun others => respects_pure _
  | (kind, s, none) :: rest =>
      exact (respects_evalDefaults unread bound rest).bind fun others => respects_pure _

end

theorem unread_callWithin (depth : Nat) : Unread (callWithin depth) := by
  induction depth with
  | zero => exact fun f a => respects_fail _
  | succ depth ih =>
      exact fun f a => (respects_ofExcept _).bind fun names => respects_eval ih (names ++ f.bound) _

/-- Whether a piece of code was read before makes no difference to its formula. -/
theorem respects_read (code : Text) : Respects Scope.Lent (read code) := by
  rintro a _ ⟨readings, rfl⟩
  have here := a.readings.fst_read code
  have there := readings.fst_read code
  unfold read
  simp only [Scope.lend]
  generalize a.readings.read code = read, readings.read code = other at here there
  obtain ⟨e?, kept⟩ := read
  obtain ⟨other?, keptToo⟩ := other
  obtain rfl : e? = other? := here.trans there.symm
  cases e? with
  | some e => exact ⟨rfl, keptToo, rfl⟩
  | none => exact ⟨rfl, keptToo, rfl⟩

/-- So whatever was read before, a piece of code has the same value. -/
theorem respects_run (code : Text) : Respects Scope.Lent (run code) :=
  (respects_read code).bind fun e => respects_eval (unread_callWithin maxCalls) [] e

end Formula

/-! ## Attributes -/

/-- Scopes that were lent different readings look up the same. -/
theorem Scope.likeness_lent : Likeness (fun _ => True) Lent where
  toObjectsAlike := objectsAlike_lent
  value? := by
    rintro a _ name ⟨readings, rfl⟩ -
    rfl
  called same f _ := Formula.unread_callWithin Formula.maxCalls f {} _ _ same

namespace Term

mutual

/-- Nothing is said of the parts of a term. -/
theorem throughout_true (t : Term) : t.Throughout (fun _ => True) (fun _ => True) True := by
  have filters (fs : List AppliedFilter) :
      ∀ f ∈ fs, f.Throughout (fun _ => True) fun _ => True :=
    fun f _ => ⟨trivial, fun _ _ => trivial⟩
  match t with
  | plain e => trivial
  | hyphenated name => trivial
  | list items fs => exact ⟨itemsThroughout_true items, filters fs⟩
  | dict pairs fs => exact ⟨pairsThroughout_true pairs, filters fs⟩
  | joined first others fs => exact ⟨trivial, fun _ _ => trivial, filters fs⟩
  | parenthesized code fs => exact ⟨trivial, filters fs⟩

theorem itemsThroughout_true (items : List Term) :
    ItemsThroughout (fun _ => True) (fun _ => True) True items := by
  match items with
  | [] => trivial
  | item :: rest => exact ⟨throughout_true item, itemsThroughout_true rest⟩

theorem pairsThroughout_true (pairs : List (Text × Term)) :
    PairsThroughout (fun _ => True) (fun _ => True) True pairs := by
  match pairs with
  | [] => trivial
  | (_, item) :: rest => exact ⟨throughout_true item, pairsThroughout_true rest⟩

end

end Term

/-- The values of attributes do not depend on the readings of the scope. -/
theorem Entry.respects_readings (entries : List Entry) :
    Respects Scope.Lent (resolveAll entries) :=
  respects_resolveAll (fun _ => Formula.respects_run) Scope.likeness_lent
    (fun entry _ => entry.value.throughout_true) fun _ _ => trivial

/-- Neither does a plain value. -/
theorem FilterExpr.respects_readings (e : FilterExpr) (missing : Value) :
    Respects Scope.Lent (e.resolve missing) :=
  respects_resolve Scope.likeness_lent (fun _ _ => trivial) missing

/-! ## Engines -/

namespace Ledger

variable {α : Type} {ledger : Ledger} {x : Scoped α} {a b : Scope}

/-- An engine comes to the same, whatever it has read before and whatever was lent to the scope. -/
theorem evaluate_eq (respects : Respects Scope.Lent x) (lent : Scope.Lent a b) :
    (ledger.evaluate x a).1 = (x b).1 ∧ Scope.Lent (ledger.evaluate x a).2.2 (x b).2 := by
  have start : Scope.Lent (a.lend ledger.readings) b := (Scope.lent_lend a _).symm.trans lent
  obtain ⟨gives, left⟩ := respects _ _ start
  exact ⟨gives, (Scope.lent_lend _ _).symm.trans left⟩

/-- Two engines come to the same in the same scope, and leave it the same. -/
theorem evaluate_congr (respects : Respects Scope.Lent x) (ledger other : Ledger) (scope : Scope) :
    (ledger.evaluate x scope).1 = (other.evaluate x scope).1 ∧
      (ledger.evaluate x scope).2.2 = (other.evaluate x scope).2.2 := by
  have start : Scope.Lent (scope.lend ledger.readings) (scope.lend other.readings) :=
    (Scope.lent_lend scope _).symm.trans (Scope.lent_lend scope _)
  obtain ⟨gives, left⟩ := respects _ _ start
  exact ⟨gives, left.lend_eq scope.readings⟩

end Ledger
end ElementTags
