import ElementTags.Proofs.Contents
import ElementTags.Proofs.Elements

/-! # Renderings side by side

Two renderings are compared by a relation between the states that they start from
(`ElementTags.Pairing`): scopes and the bodies of tags are the same, and ledgers and included
templates correspond. Both come to the same and leave corresponding states
(`ElementTags.Rendering.Meets`).

The scripts of tags are compared step by step (`ElementTags.Script.Alike`), also those
that depend on their surroundings. So nodes are rendered alike if their tags are, and what
stands elsewhere is rendered alike (`ElementTags.Node.paired_renderAll`). That is so on two
shelves whose look-ups come to the same (`ElementTags.Shelf.paired_renderWithin`).
-/

namespace ElementTags

/-- What behaviours see of two renderings corresponds. -/
structure Surroundings.Alike (ledgers : Ledger → Ledger → Prop) (s t : Surroundings) : Prop where
  ledgers : ledgers s.ledger t.ledger
  scope : s.scope = t.scope

/-! ## Scripts -/

namespace Script

variable {α β : Type} {ledgers : Ledger → Ledger → Prop}

/-- Two scripts do the same in surroundings that correspond, and leave them so. -/
inductive Alike (ledgers : Ledger → Ledger → Prop) {α : Type} : Script α → Script α → Prop
  | done (result : α) : Alike ledgers (.done result) (.done result)
  | look {next other : Surroundings → Script α}
      (each : ∀ s t, s.Alike ledgers t → Alike ledgers (next s) (other t)) :
      Alike ledgers (.look next) (.look other)
  | change {s t : Surroundings} {next other : Script α} (corresponds : s.Alike ledgers t)
      (behind : Alike ledgers next other) : Alike ledgers (.change s next) (.change t other)
  | askBody {next other : Body → Script α} (each : ∀ b, Alike ledgers (next b) (other b)) :
      Alike ledgers (.askBody next) (.askBody other)
  | askRendered (accessor : Accessor) {next other : Bool → Script α}
      (each : ∀ rendered, Alike ledgers (next rendered) (other rendered)) :
      Alike ledgers (.askRendered accessor next) (.askRendered accessor other)
  | callBody (accessor : Accessor) {next other : Except Fault Text → Script α}
      (each : ∀ r, Alike ledgers (next r) (other r)) :
      Alike ledgers (.callBody accessor next) (.callBody accessor other)

namespace Alike

variable {s t : Surroundings} {next other : Surroundings → Script α}
  {behind behindOther : Script α} {result resultOther : α}

theorem look_inv (alike : Alike ledgers (.look next) (.look other))
    (corresponds : s.Alike ledgers t) : Alike ledgers (next s) (other t) := by
  cases alike with
  | look each => exact each s t corresponds

theorem change_inv (alike : Alike ledgers (.change s behind) (.change t behindOther)) :
    s.Alike ledgers t ∧ Alike ledgers behind behindOther := by
  cases alike with
  | change corresponds behind => exact ⟨corresponds, behind⟩

theorem askBody_inv {next other : Body → Script α}
    (alike : Alike ledgers (.askBody next) (.askBody other)) (b : Body) :
    Alike ledgers (next b) (other b) := by
  cases alike with
  | askBody each => exact each b

theorem askRendered_inv {accessor : Accessor} {next other : Bool → Script α}
    (alike : Alike ledgers (.askRendered accessor next) (.askRendered accessor other))
    (rendered : Bool) : Alike ledgers (next rendered) (other rendered) := by
  cases alike with
  | askRendered _ each => exact each rendered

theorem callBody_inv {accessor : Accessor} {next other : Except Fault Text → Script α}
    (alike : Alike ledgers (.callBody accessor next) (.callBody accessor other))
    (r : Except Fault Text) : Alike ledgers (next r) (other r) := by
  cases alike with
  | callBody _ each => exact each r

theorem done_inv (alike : Alike ledgers (.done result) (.done resultOther)) :
    result = resultOther := by
  cases alike with
  | done => rfl

end Alike

/-- Scripts are alike if they start alike and go on alike. -/
theorem Alike.bind {script other : Script α} {f g : α → Script β}
    (first : Alike ledgers script other)
    (next : ∀ a, Alike ledgers (f a) (g a)) : Alike ledgers (script.bind f) (other.bind g) := by
  induction first with
  | done result => exact next result
  | look _ ih => exact .look ih
  | change corresponds _ ih => exact .change corresponds ih
  | askBody _ ih => exact .askBody ih
  | askRendered accessor _ ih => exact .askRendered accessor ih
  | callBody accessor _ ih => exact .callBody accessor ih

/-- An action goes on only if it has not failed. -/
theorem Alike.andThen {action other : Acting α} {f g : α → Acting β}
    (first : Alike ledgers action other)
    (next : ∀ a, Alike ledgers (f a) (g a)) :
    Alike ledgers (action >>= f : Acting β) (other >>= g : Acting β) := by
  refine Alike.bind first fun r => ?_
  cases r with
  | ok a => exact next a
  | error fault => exact .done _

end Script

/-! ## Pairings -/

/-- How two renderings are compared: which ledgers and which included templates correspond, which
property the tags have, and whether no templates are included. Logging a step and evaluating
something keep ledgers corresponding. -/
structure Pairing where
  ledgers : Ledger → Ledger → Prop
  included : List Included → List Included → Prop
  tags : Tag → Prop
  isClosed : Bool
  traced : ∀ {ledger other : Ledger} {line : LogLine}, line.level = .trace → ledgers ledger other →
    ledgers (ledger.trace line) (other.trace line)
  evaluated : ∀ {α : Type} {ledger other : Ledger} (x : Scoped α) (scope : Scope),
    ledgers ledger other → ledgers (ledger.evaluate x scope).2.1 (other.evaluate x scope).2.1

namespace Pairing

/-- Nodes may be rendered in both renderings. -/
def Fits (p : Pairing) (nodes : List Node) : Prop := Node.Fit p.tags p.isClosed nodes

/-- A tag does the same in both renderings. -/
def Performs (p : Pairing) (tag : Tag) : Prop :=
  ∀ attributes,
    (tag.behaviour tag.element attributes).Alike p.ledgers (tag.behaviour tag.element attributes)

/-- The stages of the two renderings correspond. -/
structure Stages (p : Pairing) (stage other : Stage) : Prop where
  ledgers : p.ledgers stage.ledger other.ledger
  scope : stage.scope = other.scope
  included : p.included stage.included other.included
  bodies : stage.bodies = other.bodies
  fit : ∀ cell ∈ other.bodies, p.Fits cell.nodes

variable {p : Pairing} {stage other : Stage}

theorem Stages.inScope (corresponds : p.Stages stage other) (scope : Scope) :
    p.Stages { stage with scope := scope } { other with scope := scope } :=
  { corresponds with scope := rfl }

theorem Stages.text? (corresponds : p.Stages stage other) (accessor : Accessor) :
    stage.text? accessor = other.text? accessor := by
  rw [Stage.text?, Stage.text?, corresponds.bodies]

theorem Stages.keepText (corresponds : p.Stages stage other) (accessor : Accessor) (s : Text) :
    p.Stages (stage.keepText accessor s) (other.keepText accessor s) :=
  { corresponds with
    bodies := congrArg (·.modify accessor fun cell => { cell with text? := some s })
      corresponds.bodies
    fit := Stage.forall_nodes_keepText corresponds.fit accessor s }

end Pairing

namespace Rendering

variable {α β : Type} {p : Pairing} {good : α → Prop} {next : β → Prop}

/-! ## Outcomes that correspond -/

/-- Two renderings came to the same and left stages that correspond. -/
inductive Meets (p : Pairing) (good : α → Prop) :
    Except Fault α × Stage → Except Fault α × Stage → Prop
  | ok {a : α} {stage other : Stage} (holds : good a) (corresponds : p.Stages stage other) :
      Meets p good (.ok a, stage) (.ok a, other)
  | error {fault : Fault} {stage other : Stage} (corresponds : p.Stages stage other) :
      Meets p good (.error fault, stage) (.error fault, other)

/-- Two renderings on stages that correspond. What they give has a property. -/
def Paired (p : Pairing) (good : α → Prop) (x y : Rendering α) : Prop :=
  ∀ stage other, p.Stages stage other → Meets p good (x stage) (y other)

theorem paired_pure {a : α} (holds : good a) : Paired p good (pure a) (pure a) :=
  fun _ _ corresponds => .ok holds corresponds

theorem Paired.bind {x y : Rendering α} {f g : α → Rendering β} (first : Paired p good x y)
    (behind : ∀ a, good a → Paired p next (f a) (g a)) : Paired p next (x >>= f) (y >>= g) := by
  intro stage other corresponds
  have here := first stage other corresponds
  rw [Computation.bind_eq, Computation.bind_eq]
  generalize x stage = ran, y other = also at here
  cases here with
  | ok holds corresponds => exact behind _ holds _ _ corresponds
  | error corresponds => exact .error corresponds

/-! ## Steps -/

/-- A property that everything has. -/
abbrev Any (α : Type) : α → Prop := fun _ => True

theorem paired_ofEval (result : Except EvalFault α) :
    Paired p (Any α) (ofEval result) (ofEval result) := by
  intro stage other corresponds
  cases result with
  | ok a => exact .ok trivial corresponds
  | error fault => exact .error corresponds

theorem paired_fail (fault : Fault) : Paired p good (fail fault) (fail fault) :=
  fun _ _ corresponds => .error corresponds

theorem paired_joined (outputs : List Value) :
    Paired p (Any Text) (joined outputs) (joined outputs) := paired_ofEval _

theorem paired_scope : Paired p (Any Scope) scope scope := by
  intro stage other corresponds
  rw [scope, scope, corresponds.scope]
  exact .ok trivial corresponds

theorem paired_changeScope (f : Scope → Scope) :
    Paired p (Any Unit) (changeScope f) (changeScope f) := by
  intro stage other corresponds
  rw [changeScope, changeScope, corresponds.scope]
  exact .ok trivial (corresponds.inScope _)

theorem paired_trace {line : LogLine} (level : line.level = .trace) :
    Paired p (Any Unit) (trace line) (trace line) := fun _ _ corresponds =>
  .ok trivial { corresponds with ledgers := p.traced level corresponds.ledgers }

/-- The readings of the two engines may differ, which makes no difference to what is evaluated. -/
theorem paired_ofScoped {action : Scoped α} (respects : Scoped.Respects Scope.Lent action) :
    Paired p (Any α) (ofScoped action) (ofScoped action) := by
  intro stage other corresponds
  obtain ⟨gives, left⟩ := Ledger.evaluate_congr respects stage.ledger other.ledger other.scope
  have ledgers := p.evaluated action other.scope corresponds.ledgers
  rw [ofScoped, ofScoped, corresponds.scope]
  generalize stage.ledger.evaluate action other.scope = ran,
    other.ledger.evaluate action other.scope = also at gives left ledgers
  obtain ⟨result, ledger, scope⟩ := ran
  obtain ⟨_, ledger', _⟩ := also
  cases gives
  cases left
  exact paired_ofEval _ _ _ { corresponds with ledgers := ledgers, scope := rfl }

theorem Paired.inLayer {x y : Rendering α} (inside : Paired p good x y) (layer : Layer) :
    Paired p good (inLayer layer x) (inLayer layer y) := by
  intro stage other corresponds
  have here := inside _ _ (corresponds.inScope (other.scope.push layer))
  rw [Rendering.inLayer, Rendering.inLayer, corresponds.scope]
  generalize x { stage with scope := other.scope.push layer } = ran,
    y { other with scope := other.scope.push layer } = also at here
  cases here with
  | ok holds corresponds =>
      refine .ok holds ?_
      rw [corresponds.scope]
      exact corresponds.inScope _
  | error corresponds =>
      refine .error ?_
      rw [corresponds.scope]
      exact corresponds.inScope _

/-! ## Bodies -/

theorem paired_takeUp {body : List Node} (fits : p.Fits body) :
    Paired p (Any Accessor) (takeUp body) (takeUp body) := by
  intro stage other corresponds
  rw [takeUp, takeUp, corresponds.bodies]
  exact .ok trivial { corresponds with
    bodies := congrArg (· ++ _) corresponds.bodies
    fit := Stage.forall_nodes_takeUp corresponds.fit fits }

theorem paired_nodesOf (accessor : Accessor) :
    Paired p p.Fits (nodesOf accessor) (nodesOf accessor) := by
  intro stage other corresponds
  rw [nodesOf, nodesOf, corresponds.bodies]
  split
  · rename_i cell found
    exact .ok (corresponds.fit cell (List.mem_of_getElem? found)) corresponds
  · exact .error corresponds

/-- A body is called alike if it is rendered alike. -/
theorem paired_call {inner inner' : Rendering Text} (inside : Paired p (Any Text) inner inner')
    (accessor : Accessor) : Paired p (Any Text) (call accessor inner) (call accessor inner') := by
  intro stage other corresponds
  rw [call, call, corresponds.text? accessor]
  split
  · exact .ok trivial corresponds
  · have here := inside stage other corresponds
    generalize inner stage = ran, inner' other = also at here
    cases here with
    | ok _ corresponds => exact .ok trivial (corresponds.keepText accessor _)
    | error corresponds => exact .error corresponds

/-- Scripts that are alike are performed alike if bodies are rendered alike. -/
theorem meets_perform {bodies bodies' : Accessor → Rendering Text}
    (inside : ∀ accessor, Paired p (Any Text) (bodies accessor) (bodies' accessor))
    {script script' : Script (Except Fault α)} (alike : Script.Alike p.ledgers script script')
    (own : Accessor) {stage other : Stage} (corresponds : p.Stages stage other) :
    Meets p (Any α) (perform own bodies script stage) (perform own bodies' script' other) := by
  induction alike generalizing stage other with
  | done result =>
      cases result with
      | ok a => exact .ok trivial corresponds
      | error fault => exact .error corresponds
  | look _ ih => exact ih _ _ ⟨corresponds.ledgers, corresponds.scope⟩ corresponds
  | change surround _ ih =>
      exact ih { corresponds with ledgers := surround.ledgers, scope := surround.scope }
  | askBody _ ih => exact ih _ corresponds
  | askRendered accessor _ ih =>
      rw [perform_askRendered, perform_askRendered, corresponds.text? accessor]
      exact ih _ corresponds
  | callBody accessor _ ih =>
      have here := paired_call (inside accessor) accessor stage other corresponds
      rw [perform_callBody, perform_callBody]
      generalize call accessor (bodies accessor) stage = ran,
        call accessor (bodies' accessor) other = also at here
      cases here with
      | ok _ corresponds => exact ih _ corresponds
      | error corresponds => exact ih _ corresponds

end Rendering

/-! ## Nodes -/

namespace Node

open Rendering

section

variable {p : Pairing} {elsewhere other : Elsewhere}

theorem paired_valueOf (e : FilterExpr) (missing : Value) :
    Paired p (Any _) (valueOf e missing) (valueOf e missing) :=
  paired_ofScoped ((e.respects_readings missing).bind Scope.objectsAlike_lent.adopt)

theorem paired_writtenValue (e : FilterExpr) :
    Paired p (Any _) (writtenValue e) (writtenValue e) := by
  refine paired_ofScoped ((e.respects_readings _).bind fun v => Scoped.respects_reading ?_)
  rintro a _ ⟨readings, rfl⟩
  rfl

theorem paired_holds (condition : FilterExpr) :
    Paired p (Any _) (holds condition) (holds condition) :=
  paired_ofScoped (((condition.respects_readings _).bind fun v =>
    Scoped.respects_pure v.isTruthy).recover _)

theorem paired_announceLoop (outer : Option Value) :
    Paired p (Any _) (announceLoop outer) (announceLoop outer) :=
  paired_ofScoped ((Scope.objectsAlike_lent.adopt _).bind fun state =>
    (Formula.respects_set loopVariable state).bind fun _ => Scoped.respects_pure state)

theorem paired_announcePlace (state : Value) (count index : Nat) :
    Paired p (Any _) (announcePlace state count index) (announcePlace state count index) :=
  paired_ofScoped ((Scoped.respects_current Scope.objectsAlike_lent state).bind fun _ =>
    Scoped.respects_record Scope.objectsAlike_lent state _)

theorem paired_visit {body body' : Rendering (List Value)}
    (inside : Paired p (Any _) body body') (names : List Text) (item : Value) :
    Paired p (Any _) (visit names item body) (visit names item body') := by
  unfold visit
  split
  · refine (paired_ofScoped (Scope.objectsAlike_lent.adopt item)).bind fun item _ => ?_
    exact (paired_changeScope _).bind fun _ _ => inside
  · refine (paired_ofEval _).bind fun layer _ => (paired_changeScope _).bind fun _ _ => ?_
    exact inside.bind fun outputs _ => (paired_changeScope _).bind fun _ _ => paired_pure trivial

theorem paired_visitAll {body body' : Rendering (List Value)}
    (inside : Paired p (Any _) body body') (names : List Text) (state : Value) (count index : Nat)
    (items : List Value) :
    Paired p (Any _) (visitAll names state count body index items)
      (visitAll names state count body' index items) := by
  induction items generalizing index with
  | nil => exact paired_pure trivial
  | cons item rest ih =>
      refine (paired_announcePlace _ _ _).bind fun _ _ => (paired_visit inside names item).bind ?_
      exact fun outputs _ => (ih _).bind fun more _ => paired_pure trivial

theorem paired_boundValues (bindings : List (Text × FilterExpr)) :
    Paired p (Any _) (boundValues bindings) (boundValues bindings) := by
  induction bindings with
  | nil => exact paired_pure trivial
  | cons binding rest ih =>
      exact (paired_valueOf _ _).bind fun v _ => ih.bind fun layer _ => paired_pure trivial

theorem paired_bindingLayer (bindings : List (Text × FilterExpr)) :
    Paired p (Any _) (bindingLayer bindings) (bindingLayer bindings) := by
  refine (paired_boundValues bindings).bind fun layer _ => ?_
  split
  · exact paired_fail _
  · exact paired_pure trivial

theorem paired_valueOrFault (e : FilterExpr) (missing : Value) :
    Paired p (Any _) (valueOrFault e missing) (valueOrFault e missing) :=
  paired_ofScoped (((e.respects_readings missing).bind fun v =>
    (Scope.objectsAlike_lent.adopt v).bind fun v => Scoped.respects_pure (Except.ok v)).recover _)

/-- A block of the host is rendered alike if its parts are. -/
theorem paired_woven {part part' : Nat → Rendering Text}
    (inside : ∀ index, Paired p (Any Text) (part index) (part' index)) (weave : Weave) :
    Paired p (Any Text) (woven part weave) (woven part' weave) := by
  induction weave with
  | done result =>
      intro stage other corresponds
      cases result with
      | ok s => exact .ok trivial corresponds
      | error fault => exact .error corresponds
  | look next ih => exact paired_scope.bind fun s _ => ih s
  | change s next ih => exact (paired_changeScope _).bind fun _ _ => ih
  | evaluate e missing next ih =>
      exact (paired_valueOrFault e missing).bind fun result _ => ih result
  | part index next ih => exact (inside index).bind fun s _ => ih s
  | within layer deeper next deeper_ih ih => exact (deeper_ih.inLayer layer).bind fun s _ => ih s

/-- What a tag gives is made safe. -/
theorem paired_act {inner inner' : Rendering Text} (inside : Paired p (Any _) inner inner')
    {others others' : Accessor → Rendering Text}
    (outside : ∀ accessor, Paired p (Any _) (others accessor) (others' accessor)) {tag : Tag}
    (performs : p.Performs tag) (own : Accessor) (attributes : List Value) :
    Paired p (Any _) (acting own inner others (tag.act attributes))
      (acting own inner' others' (tag.act attributes)) := by
  intro stage other corresponds
  refine meets_perform (fun accessor => ?_) ((performs _).andThen fun v => ?_) own corresponds
  · show Paired p (Any Text) (if accessor = own then _ else _) (if accessor = own then _ else _)
    split
    · exact inside
    · exact outside accessor
  · unfold Acting.ofEval
    split <;> exact .done _

/-- What stands elsewhere is rendered alike. Templates need not be if none are included. -/
structure Covered (p : Pairing) (elsewhere other : Elsewhere) : Prop where
  template : p.isClosed = false → ∀ serial origin v,
    Paired p (Any _) (elsewhere.template serial origin v) (other.template serial origin v)
  body : ∀ accessor, Paired p (Any _) (elsewhere.body accessor) (other.body accessor)

mutual

/-- A node is rendered alike if its tags are. -/
theorem paired_render (performs : ∀ tag, p.tags tag → p.Performs tag)
    (covered : Covered p elsewhere other) (node : Node) (fits : p.Fits [node]) :
    Paired p (Any _) (render elsewhere node) (render other node) := by
  match node with
  | text s => exact paired_pure trivial
  | value e => exact (paired_writtenValue e).bind fun s _ => paired_pure trivial
  | choice condition body otherwise =>
      obtain ⟨first, second⟩ := fit_choice.mp fits
      refine (paired_holds condition).bind fun held _ => ?_
      cases held with
      | true =>
          refine (paired_renderAll performs covered body first).bind fun outputs _ => ?_
          exact (paired_joined _).bind fun s _ => paired_pure trivial
      | false =>
          refine (paired_renderAll performs covered otherwise second).bind fun outputs _ => ?_
          exact (paired_joined _).bind fun s _ => paired_pure trivial
  | loop names collection backwards body whenEmpty =>
      obtain ⟨first, second⟩ := fit_loop.mp fits
      have inside := paired_renderAll performs covered body first
      have instead := paired_renderAll performs covered whenEmpty second
      refine paired_scope.bind fun scope _ => ?_
      refine Paired.bind (show Paired p (Any (List Value)) _ _ from .inLayer ?_ []) fun outputs _ =>
        (paired_joined _).bind fun s _ => paired_pure trivial
      refine (paired_valueOf _ _).bind fun v _ => (paired_ofEval _).bind fun items _ => ?_
      split
      · exact instead
      · refine (paired_ofEval _).bind fun ordered _ =>
          (paired_announceLoop _).bind fun state _ => ?_
        exact paired_visitAll inside names state _ 0 ordered
  | binding bindings body =>
      refine (paired_bindingLayer bindings).bind fun layer _ => ?_
      refine Paired.bind (show Paired p (Any Text) _ _ from .inLayer ?_ layer) fun s _ =>
        paired_pure trivial
      exact (paired_renderAll performs covered body (fit_binding.mp fits)).bind fun outputs _ =>
        paired_joined _
  | escaping on body =>
      refine paired_scope.bind fun scope _ => (paired_changeScope _).bind fun _ _ => ?_
      have inside := paired_renderAll performs covered body (fit_escaping.mp fits)
      refine inside.bind fun outputs _ => ?_
      refine (paired_joined _).bind fun s _ => (paired_changeScope _).bind fun _ _ => ?_
      exact paired_pure trivial
  | inclusion serial origin name =>
      refine (paired_ofScoped (name.respects_readings _)).bind fun v _ => ?_
      exact (covered.template fits.notClosed serial origin v).bind fun s _ => paired_pure trivial
  | group body =>
      refine (paired_renderAll performs covered body (fit_group.mp fits)).bind fun outputs _ => ?_
      exact (paired_joined _).bind fun s _ => paired_pure trivial
  | host weave parts =>
      have inside := paired_renderAt performs covered parts (fit_host.mp fits)
      exact (paired_woven inside weave).bind fun s _ => paired_pure trivial
  | element tag identifier source entries body =>
      obtain ⟨holds, inside⟩ := fit_element.mp fits
      have inner := (paired_renderAll performs covered body inside).bind fun outputs _ =>
        paired_joined outputs
      refine (paired_trace rfl).bind fun _ _ => ?_
      refine (paired_ofScoped (Entry.respects_readings entries)).bind fun attributes _ => ?_
      refine (paired_takeUp inside).bind fun own _ => ?_
      refine (paired_act inner covered.body (performs tag holds) own attributes).bind ?_
      exact fun output _ => (paired_trace rfl).bind fun _ _ => paired_pure trivial

/-- Nodes are rendered alike if their tags are. -/
theorem paired_renderAll (performs : ∀ tag, p.tags tag → p.Performs tag)
    (covered : Covered p elsewhere other) (nodes : List Node) (fits : p.Fits nodes) :
    Paired p (Any _) (renderAll elsewhere nodes) (renderAll other nodes) := by
  match nodes with
  | [] => exact paired_pure trivial
  | node :: rest =>
      obtain ⟨first, others⟩ := fit_cons.mp fits
      refine (paired_render performs covered node first).bind fun output _ => ?_
      refine (paired_renderAll performs covered rest others).bind fun outputs _ => ?_
      exact paired_pure trivial

/-- So is each of them. -/
theorem paired_renderAt (performs : ∀ tag, p.tags tag → p.Performs tag)
    (covered : Covered p elsewhere other) (nodes : List Node) (fits : p.Fits nodes) (index : Nat) :
    Paired p (Any Text) (renderAt elsewhere nodes index) (renderAt other nodes index) := by
  match nodes, index with
  | [], _ => exact paired_pure trivial
  | node :: rest, 0 =>
      refine (paired_render performs covered node (fit_cons.mp fits).1).bind fun output _ => ?_
      exact paired_joined _
  | node :: rest, index + 1 =>
      exact paired_renderAt performs covered rest (fit_cons.mp fits).2 index

end

end

end Node

/-! ## Shelves -/

open Rendering in
/-- Nodes are rendered alike on two shelves if their tags are, and those of the bodies that are
called, and if look-ups of templates come to the same nodes. -/
theorem Shelf.paired_renderWithin {p : Pairing} (performs : ∀ tag, p.tags tag → p.Performs tag)
    {shelf other : Shelf} (found : p.isClosed = false → ∀ serial names,
      Paired p p.Fits (shelf.lookUp serial names) (other.lookUp serial names)) (depth : Nat)
    {nodes : List Node} (fits : p.Fits nodes) :
    Paired p (Any Text) (shelf.renderWithin depth nodes) (other.renderWithin depth nodes) := by
  induction depth generalizing nodes with
  | zero => exact paired_fail _
  | succ depth ih =>
      have covered : Node.Covered p (shelf.elsewhere depth) (other.elsewhere depth) := by
        refine ⟨fun included serial origin v => ?_, fun accessor => ?_⟩
        · have names : Paired p (Any (List Text)) (fun stage => (namesOf origin v, stage))
              fun stage => (namesOf origin v, stage) := by
            intro stage other corresponds
            cases namesOf origin v with
            | ok names => exact .ok trivial corresponds
            | error fault => exact .error corresponds
          exact names.bind fun names _ => (found included serial names).bind
            fun nodes fits => (ih fits).inLayer []
        · exact (paired_nodesOf accessor).bind fun nodes fits => ih fits
      exact (Node.paired_renderAll performs covered nodes fits).bind fun outputs _ =>
        paired_joined outputs

end ElementTags
