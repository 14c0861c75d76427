import ElementTags.Proofs.Inclusions
import ElementTags.Proofs.Numbering

/-! # What tags do with the counter

Tags may take identifiers when they are rendered, for instance for templates of their own,
but they do not turn the counter back. How they may move it is a leeway
(`ElementTags.Leeway`). All behaviours of this library leave the counter alone, and so heed
every leeway: those that are made of plain steps (`ElementTags.Behaviour.Plain.heeds`), and the
one that counts (`ElementTags.Behaviour.heeds_count`). Rendering nodes whose tags heed a leeway
keeps whatever depends on the counter and on the included templates only, if the leeway keeps
it and what stands elsewhere does (`ElementTags.Node.steady_renderAll`).
-/

namespace ElementTags

open ElementTags.Computation

/-- How tags may move the counter of identifiers by themselves: in some number of steps, and never
back. Equality is the least leeway, and the order of numbers the greatest one. -/
structure Leeway where
  may : Nat → Nat → Prop
  refl (n : Nat) : may n n
  trans {l m n : Nat} : may l m → may m n → may l n
  forward {m n : Nat} : may m n → m ≤ n

/-- Tags leave the counter where it is. -/
def Leeway.still : Leeway := ⟨Eq, fun _ => rfl, Eq.trans, Nat.le_of_eq⟩

variable {leeway : Leeway}

/-! ## Scripts -/

namespace Script

variable {α β : Type}

/-- A script in some surroundings moves the counter within a leeway, starting again from where a
body that it calls leaves it. -/
inductive Heeds {α : Type} (leeway : Leeway) : Surroundings → Script α → Prop
  | done {s : Surroundings} (result : α) : Heeds leeway s (.done result)
  | look {s : Surroundings} {next : Surroundings → Script α} (behind : Heeds leeway s (next s)) :
      Heeds leeway s (.look next)
  | change {s t : Surroundings} {next : Script α}
      (moved : leeway.may s.ledger.tagCount t.ledger.tagCount) (behind : Heeds leeway t next) :
      Heeds leeway s (.change t next)
  | askBody {s : Surroundings} {next : Body → Script α} (each : ∀ b, Heeds leeway s (next b)) :
      Heeds leeway s (.askBody next)
  | askRendered {s : Surroundings} (accessor : Accessor) {next : Bool → Script α}
      (each : ∀ rendered, Heeds leeway s (next rendered)) :
      Heeds leeway s (.askRendered accessor next)
  | callBody {s : Surroundings} (accessor : Accessor) {next : Except Fault Text → Script α}
      (each : ∀ reply t, Heeds leeway t (next reply)) : Heeds leeway s (.callBody accessor next)

/-- Scripts one behind the other heed a leeway if each of them does. -/
theorem Heeds.bind {s : Surroundings} {script : Script α} {f : α → Script β}
    (first : script.Heeds leeway s) (next : ∀ a t, (f a).Heeds leeway t) :
    (script.bind f).Heeds leeway s := by
  induction first with
  | done result => exact next result _
  | look _ ih => exact .look ih
  | change moved _ ih => exact .change moved ih
  | askBody _ ih => exact .askBody ih
  | askRendered accessor _ ih => exact .askRendered accessor ih
  | callBody accessor _ ih => exact .callBody accessor ih

end Script

/-! ## Actions -/

namespace Acting

variable {α β : Type}

/-- An action heeds a leeway in any surroundings. -/
def Heeds (leeway : Leeway) (action : Acting α) : Prop := ∀ s, Script.Heeds leeway s action

theorem heeds_done (result : Except Fault α) : Heeds leeway (Script.done result : Acting α) :=
  fun _ => .done result

theorem Heeds.andThen {action : Acting α} {f : α → Acting β} (first : Heeds leeway action)
    (next : ∀ a, Heeds leeway (f a)) : Heeds leeway (action >>= f) := by
  refine fun s => Script.Heeds.bind (first s) fun result t => ?_
  cases result with
  | ok a => exact next a t
  | error fault => exact .done _

theorem heeds_providing {action : Acting α} (inside : Heeds leeway action) (values : Layer) :
    Heeds leeway (providing values action) := by
  rw [providing_eq]
  refine fun s => .look ?_
  split
  · exact heeds_done _ _
  · refine .change (leeway.refl _) (Script.Heeds.bind (inside _) fun result t => ?_)
    exact .look (.change (leeway.refl _) (.done _))

/-- Plain steps leave the counter alone. -/
theorem Plain.heeds {others : Prop} {action : Acting α} (plain : action.Plain others) :
    Heeds leeway action := by
  induction plain with
  | done result => exact heeds_done result
  | andThen _ _ first next => exact first.andThen next
  | scope => exact fun s => .look (.done _)
  | changeScope f => exact fun s => .look (.change (leeway.refl _) (.done _))
  | body => exact fun s => .askBody fun b => .done _
  | isRendered accessor => exact fun s => .askRendered accessor fun rendered => .done _
  | callBody =>
      rw [callBody_eq]
      refine fun s => .askBody fun b => ?_
      cases b with
      | deferred own => exact .callBody own fun reply t => .done _
      | given v => exact .done _
  | call _ accessor => exact fun s => .callBody accessor fun reply t => .done _
  | serialize attributes => exact fun s => .look (.change (leeway.refl _) (.done _))
  | providing _ values inside => exact heeds_providing inside values

end Acting

/-! ## Behaviours -/

namespace Behaviour

/-- A behaviour heeds a leeway, whatever element it writes and whatever its attributes are. -/
def Heeds (leeway : Leeway) (behaviour : Behaviour) : Prop :=
  ∀ e attributes, (behaviour e attributes).Heeds leeway

theorem Plain.heeds {others : Prop} {behaviour : Behaviour} (plain : behaviour.Plain others) :
    behaviour.Heeds leeway := fun e attributes => (plain e attributes).heeds

theorem heeds_default : default.Heeds leeway := @Plain.heeds _ False _ plain_default

theorem heeds_count : count.Heeds leeway := fun _ _ _ =>
  .look (.change (leeway.refl _) (.done _))

end Behaviour

/-- The behaviour of a tag heeds a leeway. -/
def Tag.Heeds (leeway : Leeway) (tag : Tag) : Prop := tag.behaviour.Heeds leeway

/-- What a tag gives is made safe. -/
theorem Tag.heeds_act {tag : Tag} (heeds : tag.Heeds leeway) (attributes : List Value) :
    (tag.act attributes).Heeds leeway :=
  (heeds _ _).andThen fun _ => (Acting.plain_ofEval _ : Acting.Plain False _).heeds

/-- So does a script for a tag whose body is a value. -/
theorem Script.may_runWith {α : Type} (body : Value) {script : Script α} {s : Surroundings}
    (heeds : script.Heeds leeway s) :
    leeway.may s.ledger.tagCount (script.runWith body s).2.ledger.tagCount := by
  induction heeds with
  | done result => exact leeway.refl _
  | look _ ih => exact ih
  | change moved _ ih => exact leeway.trans moved ih
  | askBody _ ih => exact ih (.given body)
  | askRendered accessor _ ih => exact ih _
  | callBody accessor _ ih => exact ih _ _

/-! ## Renderings -/

/-- Something that depends on the counter and the included templates of a stage holds, and the tags
in bodies heed a leeway. -/
structure Stage.Stands (leeway : Leeway) (holds : Nat → List Included → Prop) (stage : Stage) :
    Prop where
  here : holds stage.ledger.tagCount stage.included
  bodies : ∀ cell ∈ stage.bodies, Node.AllTags (Tag.Heeds leeway) cell.nodes

/-- Moving the counter within a leeway leaves it true. -/
def Leeway.Spares (leeway : Leeway) (holds : Nat → List Included → Prop) : Prop :=
  ∀ m n included, leeway.may m n → holds m included → holds n included

namespace Rendering

variable {α β : Type} {holds : Nat → List Included → Prop}

/-- A rendering keeps something that depends on the counter and the included templates. -/
abbrev Steady (leeway : Leeway) (holds : Nat → List Included → Prop) (x : Rendering α) : Prop :=
  Keeps (Stage.Stands leeway holds) x (Any α)

theorem steady_pure (a : α) : Steady leeway holds (pure a) := keeps_pure trivial

theorem Steady.andThen {x : Rendering α} {f : α → Rendering β} (first : Steady leeway holds x)
    (next : ∀ a, Steady leeway holds (f a)) : Steady leeway holds (x >>= f) :=
  first.bind fun a _ => next a

theorem steady_ofEval (result : Except EvalFault α) : Steady leeway holds (ofEval result) := by
  intro stage stands
  cases result with
  | ok a => exact ⟨stands, fun _ _ => trivial⟩
  | error fault => exact ⟨stands, fun _ _ => trivial⟩

theorem steady_fail (fault : Fault) : Steady leeway holds (fail fault : Rendering α) :=
  fun _ stands => ⟨stands, fun _ _ => trivial⟩

theorem steady_joined (outputs : List Value) : Steady leeway holds (joined outputs) :=
  steady_ofEval _

theorem steady_scope : Steady leeway holds scope := fun _ stands => ⟨stands, fun _ _ => trivial⟩

theorem steady_changeScope (f : Scope → Scope) : Steady leeway holds (changeScope f) :=
  fun _ stands => ⟨⟨stands.here, stands.bodies⟩, fun _ _ => trivial⟩

theorem steady_trace (line : LogLine) : Steady leeway holds (trace line) := by
  refine fun stage stands => ⟨{ stands with here := ?_ }, fun _ _ => trivial⟩
  show holds (stage.ledger.trace line).tagCount stage.included
  rw [Ledger.tagCount_trace]
  exact stands.here

theorem steady_ofScoped (action : Scoped α) : Steady leeway holds (ofScoped action) :=
  fun stage stands => steady_ofEval _ { stage with
    ledger := (stage.ledger.evaluate action stage.scope).2.1
    scope := (stage.ledger.evaluate action stage.scope).2.2 } ⟨stands.here, stands.bodies⟩

theorem Steady.inLayer {x : Rendering α} (inside : Steady leeway holds x) (layer : Layer) :
    Steady leeway holds (inLayer layer x) := fun stage stands =>
  have further := (inside { stage with scope := stage.scope.push layer }
    ⟨stands.here, stands.bodies⟩).1
  ⟨⟨further.here, further.bodies⟩, fun _ _ => trivial⟩

/-! ## Bodies -/

theorem steady_takeUp {body : List Node} (heed : Node.AllTags (Tag.Heeds leeway) body) :
    Steady leeway holds (takeUp body) := fun _ stands =>
  ⟨⟨stands.here, Stage.forall_nodes_takeUp stands.bodies heed⟩, fun _ _ => trivial⟩

theorem keeps_nodesOf (accessor : Accessor) :
    Keeps (Stage.Stands leeway holds) (nodesOf accessor)
      (Node.AllTags (Tag.Heeds leeway)) := by
  intro stage stands
  unfold nodesOf
  split
  · rename_i cell found
    refine ⟨stands, ?_⟩
    rintro _ ⟨⟩
    exact stands.bodies cell (List.mem_of_getElem? found)
  · exact ⟨stands, fun _ failed => by cases failed⟩

theorem Steady.call {inner : Rendering Text} (inside : Steady leeway holds inner)
    (accessor : Accessor) : Steady leeway holds (call accessor inner) := by
  intro stage stands
  refine ⟨?_, fun _ _ => trivial⟩
  unfold Rendering.call
  split
  · exact stands
  · have further := (inside stage stands).1
    split <;> rename_i ran <;> rw [ran] at further
    · exact ⟨further.here, Stage.forall_nodes_keepText further.bodies accessor _⟩
    · exact further

/-- A script that heeds a leeway keeps what the leeway and bodies keep. -/
theorem stands_perform (spares : leeway.Spares holds) {bodies : Accessor → Rendering Text}
    (inside : ∀ accessor, Steady leeway holds (bodies accessor)) {script : Script α}
    {s : Surroundings} (heeds : script.Heeds leeway s) (own : Accessor) {stage : Stage}
    (here : stage.surroundings = s) (stands : stage.Stands leeway holds) :
    (perform own bodies script stage).2.Stands leeway holds := by
  induction heeds generalizing stage with
  | done result => exact stands
  | look _ ih =>
      subst here
      exact ih rfl stands
  | @change s t next moved _ ih =>
      subst here
      have further : (stage.inSurroundings t).Stands leeway holds :=
        ⟨spares _ _ _ moved stands.here, stands.bodies⟩
      exact ih rfl further
  | askBody _ ih => exact ih _ here stands
  | askRendered accessor _ ih => exact ih _ here stands
  | callBody accessor _ ih =>
      rw [perform_callBody]
      exact ih _ _ rfl ((inside accessor).call accessor stage stands).1

theorem steady_act (spares : leeway.Spares holds) {inner : Rendering Text}
    (inside : Steady leeway holds inner) {others : Accessor → Rendering Text}
    (outside : ∀ accessor, Steady leeway holds (others accessor)) {tag : Tag}
    (heeds : tag.Heeds leeway) (own : Accessor) (attributes : List Value) :
    Steady leeway holds (acting own inner others (tag.act attributes)) := by
  refine fun stage stands => ⟨stands_perform spares (fun accessor => ?_)
    (Tag.heeds_act heeds attributes stage.surroundings) own rfl stands, fun _ _ => trivial⟩
  split
  · exact inside
  · exact outside accessor

end Rendering

/-! ## Nodes -/

namespace Node

open Rendering

variable {holds : Nat → List Included → Prop} {elsewhere : Elsewhere}
  {body : Rendering (List Value)}

theorem steady_visit (inside : Steady leeway holds body) (names : List Text) (item : Value) :
    Steady leeway holds (visit names item body) := by
  unfold visit
  split
  · exact (steady_ofScoped _).andThen fun item => (steady_changeScope _).andThen fun _ => inside
  · refine (steady_ofEval _).andThen fun layer => (steady_changeScope _).andThen fun _ => ?_
    exact inside.andThen fun outputs => (steady_changeScope _).andThen fun _ => steady_pure _

theorem steady_visitAll (inside : Steady leeway holds body) (names : List Text) (state : Value)
    (count index : Nat) (items : List Value) :
    Steady leeway holds (visitAll names state count body index items) := by
  induction items generalizing index with
  | nil => exact steady_pure _
  | cons item rest ih =>
      refine (steady_ofScoped _).andThen fun _ => (steady_visit inside names item).andThen ?_
      exact fun outputs => (ih _).andThen fun more => steady_pure _

theorem steady_boundValues (bindings : List (Text × FilterExpr)) :
    Steady leeway holds (boundValues bindings) := by
  induction bindings with
  | nil => exact steady_pure _
  | cons binding rest ih =>
      exact (steady_ofScoped _).andThen fun v => ih.andThen fun layer => steady_pure _

theorem steady_bindingLayer (bindings : List (Text × FilterExpr)) :
    Steady leeway holds (bindingLayer bindings) := by
  refine (steady_boundValues bindings).andThen fun layer => ?_
  split
  · exact steady_fail _
  · exact steady_pure _

theorem steady_woven {part : Nat → Rendering Text}
    (inside : ∀ index, Steady leeway holds (part index)) (weave : Weave) :
    Steady leeway holds (woven part weave) := by
  induction weave with
  | done result => exact fun _ stands => ⟨stands, fun _ _ => trivial⟩
  | look next ih => exact steady_scope.andThen ih
  | change s next ih => exact (steady_changeScope _).andThen fun _ => ih
  | evaluate e missing next ih => exact (steady_ofScoped _).andThen ih
  | part index next ih => exact (inside index).andThen ih
  | within layer deeper next deeper_ih ih => exact (deeper_ih.inLayer layer).andThen ih

/-- The text that nodes give together. -/
theorem steady_text (inside : Steady leeway holds body) : Steady leeway holds (do
    let s ← joined (← body)
    pure (Value.text s)) :=
  inside.andThen fun _ => (steady_joined _).andThen fun _ => steady_pure _

/-- What stands elsewhere keeps something. -/
structure Covers (leeway : Leeway) (holds : Nat → List Included → Prop) (elsewhere : Elsewhere) :
    Prop where
  template : ∀ serial origin v, Steady leeway holds (elsewhere.template serial origin v)
  body : ∀ accessor, Steady leeway holds (elsewhere.body accessor)

mutual

/-- A node whose tags heed a leeway keeps what the leeway and what stands elsewhere keep. -/
theorem steady_render (spares : leeway.Spares holds)
    (covered : Covers leeway holds elsewhere)
    (node : Node) (heed : ∀ o ∈ occurrences node, o.tag.Heeds leeway) :
    Steady leeway holds (render elsewhere node) := by
  match node with
  | text s => exact steady_pure _
  | value e => exact (steady_ofScoped _).andThen fun s => steady_pure _
  | choice condition body otherwise =>
      rw [occurrences, List.forall_mem_append] at heed
      refine (steady_ofScoped _).andThen fun held => ?_
      cases held with
      | true => exact steady_text (steady_renderAll spares covered body heed.1)
      | false => exact steady_text (steady_renderAll spares covered otherwise heed.2)
  | loop names collection backwards body whenEmpty =>
      rw [occurrences, List.forall_mem_append] at heed
      have inside := steady_renderAll spares covered body heed.1
      have instead := steady_renderAll spares covered whenEmpty heed.2
      refine steady_scope.andThen fun scope => ?_
      refine Steady.andThen (Steady.inLayer ?_ []) fun outputs =>
        (steady_joined _).andThen fun s => steady_pure _
      refine (steady_ofScoped _).andThen fun v => (steady_ofEval _).andThen fun items => ?_
      split
      · exact instead
      · refine (steady_ofEval _).andThen fun ordered => (steady_ofScoped _).andThen fun state => ?_
        exact steady_visitAll inside names state _ 0 ordered
  | binding bindings body =>
      refine (steady_bindingLayer bindings).andThen fun layer => ?_
      refine Steady.andThen (Steady.inLayer ?_ layer) fun s => steady_pure _
      exact (steady_renderAll spares covered body heed).andThen fun outputs => steady_joined _
  | escaping on body =>
      refine steady_scope.andThen fun scope => (steady_changeScope _).andThen fun _ => ?_
      refine (steady_renderAll spares covered body heed).andThen fun outputs => ?_
      exact (steady_joined _).andThen fun s => (steady_changeScope _).andThen fun _ =>
        steady_pure _
  | inclusion serial origin name =>
      exact (steady_ofScoped _).andThen fun v => (covered.template serial origin v).andThen fun s =>
        steady_pure _
  | group body => exact steady_text (steady_renderAll spares covered body heed)
  | host weave parts =>
      have inside := steady_renderAt spares covered parts heed
      exact (steady_woven inside weave).andThen fun s => steady_pure _
  | element tag identifier source entries body =>
      rw [occurrences, List.forall_mem_cons] at heed
      have inside := (steady_renderAll spares covered body heed.2).andThen fun outputs =>
        steady_joined outputs
      refine (steady_trace _).andThen fun _ => (steady_ofScoped _).andThen fun attributes => ?_
      refine (steady_takeUp heed.2).andThen fun own => ?_
      refine (steady_act spares inside covered.body heed.1 own attributes).andThen fun output => ?_
      exact (steady_trace _).andThen fun _ => steady_pure _

/-- Nodes whose tags heed a leeway keep what the leeway and what stands elsewhere keep. -/
theorem steady_renderAll (spares : leeway.Spares holds)
    (covered : Covers leeway holds elsewhere)
    (nodes : List Node) (heed : AllTags (Tag.Heeds leeway) nodes) :
    Steady leeway holds (renderAll elsewhere nodes) := by
  match nodes with
  | [] => exact steady_pure _
  | node :: rest =>
      rw [AllTags, occurrencesAll, List.forall_mem_append] at heed
      refine (steady_render spares covered node heed.1).andThen fun output => ?_
      exact (steady_renderAll spares covered rest heed.2).andThen fun outputs => steady_pure _

/-- So does each of them. -/
theorem steady_renderAt (spares : leeway.Spares holds) (covered : Covers leeway holds elsewhere)
    (nodes : List Node) (heed : AllTags (Tag.Heeds leeway) nodes) (index : Nat) :
    Steady leeway holds (renderAt elsewhere nodes index) := by
  match nodes, index with
  | [], _ => exact steady_pure _
  | node :: rest, 0 =>
      rw [AllTags, occurrencesAll, List.forall_mem_append] at heed
      exact (steady_render spares covered node heed.1).andThen fun output => steady_joined _
  | node :: rest, index + 1 =>
      rw [AllTags, occurrencesAll, List.forall_mem_append] at heed
      exact steady_renderAt spares covered rest heed.2 index

end

end Node
end ElementTags
