import ElementTags.Proofs.Candor
import ElementTags.Proofs.Contents
import ElementTags.Proofs.Events

/-! # What is told about renderings

Something may be told about renderings by what happens in them, for instance that the log has
the lines of what is visited, or that a rendering has nothing to do with a body that is never
called. Such a telling goes through all nodes if it can be put together from the parts of a
rendering (`ElementTags.Telling`): it is told of steps that log nothing and have nothing to do
with bodies, of renderings one after the other and in a layer, and of a tag if it is told of
its body. Then it is told of nodes (`ElementTags.Telling.renderAll`), on a shelf also with
what happens elsewhere (`ElementTags.Telling.renderWithin`).
-/

namespace ElementTags

open ElementTags.Computation Rendering Node

/-! ## Silent steps -/

namespace Rendering

variable {α β : Type}

/-- A rendering logs no step, and neither changes bodies nor depends on them. -/
structure Silent (x : Rendering α) : Prop where
  steps : ∀ stage : Stage, stage.ledger.SameSteps (x stage).2.ledger
  bodies : ∀ (stage : Stage) (bodies : List Cell),
    x { stage with bodies := bodies } = ((x stage).1, { (x stage).2 with bodies := bodies })

theorem silent_pure (a : α) : Silent (pure a) := ⟨fun _ => .refl _, fun _ _ => rfl⟩

theorem Silent.bind {x : Rendering α} {f : α → Rendering β} (first : Silent x)
    (rest : ∀ a, Silent (f a)) : Silent (x >>= f) := by
  constructor
  · intro stage
    have here := first.steps stage
    cases ran : x stage with
    | mk result after =>
        rw [ran] at here
        cases result with
        | ok a =>
            rw [bind_of_ok ran]
            exact here.trans ((rest a).steps after)
        | error fault =>
            rw [bind_of_error ran]
            exact here
  · intro stage bodies
    have here := first.bodies stage bodies
    cases ran : x stage with
    | mk result after =>
        rw [ran] at here
        cases result with
        | ok a =>
            rw [bind_of_ok ran, bind_of_ok here]
            exact (rest a).bodies after bodies
        | error fault => rw [bind_of_error ran, bind_of_error here]

theorem silent_ofEval (result : Except EvalFault α) : Silent (ofEval result) := by
  cases result <;> exact ⟨fun _ => .refl _, fun _ _ => rfl⟩

theorem silent_fail (fault : Fault) : Silent (fail fault : Rendering α) :=
  ⟨fun _ => .refl _, fun _ _ => rfl⟩

theorem silent_scope : Silent scope := ⟨fun _ => .refl _, fun _ _ => rfl⟩

theorem silent_changeScope (f : Scope → Scope) : Silent (changeScope f) :=
  ⟨fun _ => .refl _, fun _ _ => rfl⟩

/-- What is read while something is evaluated is no step. -/
theorem silent_ofScoped (action : Scoped α) : Silent (ofScoped action) := by
  let learned (stage : Stage) : Stage := { stage with
    ledger := (stage.ledger.evaluate action stage.scope).2.1
    scope := (stage.ledger.evaluate action stage.scope).2.2 }
  have gives (stage : Stage) := silent_ofEval (stage.ledger.evaluate action stage.scope).1
  constructor
  · intro stage
    have same : stage.ledger.SameSteps (learned stage).ledger := ⟨rfl, rfl⟩
    exact same.trans ((gives stage).steps (learned stage))
  · intro stage bodies
    exact (gives stage).bodies (learned stage) bodies

theorem silent_joined (outputs : List Value) : Silent (joined outputs) := silent_ofEval _

end Rendering

namespace Node

theorem silent_boundValues (bindings : List (Text × FilterExpr)) :
    Silent (boundValues bindings) := by
  induction bindings with
  | nil => exact silent_pure _
  | cons binding rest ih =>
      exact (silent_ofScoped _).bind fun v => ih.bind fun layer => silent_pure _

theorem silent_valueOrFault (e : FilterExpr) (missing : Value) :
    Silent (valueOrFault e missing) := silent_ofScoped _

theorem silent_bindingLayer (bindings : List (Text × FilterExpr)) :
    Silent (bindingLayer bindings) := by
  refine (silent_boundValues bindings).bind fun layer => ?_
  split
  · exact silent_fail _
  · exact silent_pure _

end Node

/-! ## Tellings -/

/-- What is told about renderings on a shelf by what happens in them, put together from their parts.
Of bodies that are rendered elsewhere something else may be told. Templates may be included only if
it is told of all nodes, and finding them is nothing that happens. -/
structure Telling (shelf : Shelf) where
  tags : Tag → Prop
  isClosed : Bool
  Tells : ∀ {α : Type}, Rendering α → (Stage → List Event) → Prop
  Renders : Accessor → Rendering Text → (Stage → List Event) → Prop
  silent : ∀ {α : Type} {x : Rendering α}, Silent x → Tells x fun _ => []
  bind : ∀ {α β : Type} {x : Rendering α} {f : α → Rendering β} {before : Stage → List Event}
    {next : α → Stage → List Event}, Tells x before → (∀ a, Tells (f a) (next a)) →
      Tells (x >>= f) fun stage => before stage ++ behind x next stage
  inLayer : ∀ {α : Type} {x : Rendering α} {events : Stage → List Event}, Tells x events →
    ∀ layer, Tells (Rendering.inLayer layer x) (eventsInLayer layer events)
  element : ∀ {elsewhere : Elsewhere} {past : Past} {tag : Tag} {body : List Node}, tags tag →
    Fit tags isClosed body → Tells (bodyText elsewhere body) (historyAll elsewhere past body) →
      (∀ accessor, Renders accessor (elsewhere.body accessor) (past.body accessor)) →
        ∀ identifier source entries,
          Tells (render elsewhere (.element tag identifier source entries body))
            (history elsewhere past (.element tag identifier source entries body))
  found : isClosed = false → (∀ nodes, Fit tags isClosed nodes) ∧
    ∀ serial names, Tells (shelf.lookUp serial names) fun _ => []
  elsewhere : ∀ depth, (∀ nodes, Fit tags isClosed nodes →
    Tells (shelf.renderWithin depth nodes) (shelf.historyWithin depth nodes)) → ∀ accessor,
      Renders accessor ((shelf.elsewhere depth).body accessor) ((shelf.past depth).body accessor)

namespace Telling

variable {shelf : Shelf} {T : Telling shelf} {α β : Type} {x : Rendering α} {f : α → Rendering β}

/-- A rendering may start with something in which nothing happens. -/
theorem Tells.after {next : α → Stage → List Event} (first : T.Tells x fun _ => [])
    (rest : ∀ a, T.Tells (f a) (next a)) : T.Tells (x >>= f) (behind x next) :=
  T.bind first rest

/-- A rendering may go on with silent steps. -/
theorem Tells.bind_silent {events : Stage → List Event} (first : T.Tells x events)
    (rest : ∀ a, Silent (f a)) : T.Tells (x >>= f) events := by
  have nothing : (fun stage => events stage ++ behind x (fun _ _ => []) stage) =
      events := by
    funext stage
    unfold behind
    split <;> exact List.append_nil _
  exact nothing ▸ T.bind first fun a => T.silent (rest a)

/-! ## Nodes -/

/-- What happens elsewhere is told. -/
structure Covers (T : Telling shelf) (elsewhere : Elsewhere) (past : Past) : Prop where
  template : T.isClosed = false → ∀ serial origin v,
    T.Tells (elsewhere.template serial origin v) (past.template serial origin v)
  body : ∀ accessor, T.Renders accessor (elsewhere.body accessor) (past.body accessor)

variable {elsewhere : Elsewhere} {past : Past}

theorem tells_visit {body : Rendering (List Value)} {inside : Stage → List Event}
    (tells : T.Tells body inside) (names : List Text) (item : Value) :
    T.Tells (visit names item body) (visited names item inside) := by
  have unpacked (names : List Text) : T.Tells
      (ofEval (unpack names item) >>= fun layer => do
        changeScope (·.push layer)
        let outputs ← body
        changeScope (·.dropTop)
        pure outputs)
      (behind (ofEval (unpack names item)) fun layer =>
        behind (changeScope (·.push layer)) fun _ => inside) := by
    refine (T.silent (silent_ofEval _)).after fun layer =>
      (T.silent (silent_changeScope _)).after fun _ => ?_
    exact tells.bind_silent fun outputs => (silent_changeScope _).bind fun _ => silent_pure _
  match names with
  | [] => exact unpacked []
  | [name] =>
      exact (T.silent (silent_ofScoped _)).after fun item =>
        (T.silent (silent_changeScope _)).after fun _ => tells
  | first :: second :: rest => exact unpacked (first :: second :: rest)

theorem tells_visitAll {body : Rendering (List Value)} {inside : Stage → List Event}
    (tells : T.Tells body inside) (names : List Text) (state : Value) (count index : Nat)
    (items : List Value) :
    T.Tells (visitAll names state count body index items)
      (visitedAll names state count body inside index items) := by
  induction items generalizing index with
  | nil => exact T.silent (silent_pure _)
  | cons item rest ih =>
      refine (T.silent (silent_ofScoped _)).after fun _ =>
        T.bind (tells_visit tells names item) fun _ => ?_
      exact (ih _).bind_silent fun more => silent_pure _

/-- A block of the host is told of its parts. -/
theorem tells_woven {part : Nat → Rendering Text} {inside : Nat → Stage → List Event}
    (tells : ∀ index, T.Tells (part index) (inside index)) (weave : Weave) :
    T.Tells (woven part weave) (wovenEvents part inside weave) := by
  induction weave with
  | done result => cases result <;> exact T.silent ⟨fun _ => .refl _, fun _ _ => rfl⟩
  | look next ih => exact (T.silent silent_scope).after ih
  | change s next ih => exact (T.silent (silent_changeScope _)).after fun _ => ih
  | evaluate e missing next ih => exact (T.silent (silent_valueOrFault e missing)).after ih
  | part index next ih => exact T.bind (tells index) ih
  | within layer deeper next deeper_ih ih => exact T.bind (T.inLayer deeper_ih layer) ih

/-- The text that nodes give together is put together without a step. -/
theorem tells_text {body : Rendering (List Value)} {inside : Stage → List Event}
    (tells : T.Tells body inside) :
    T.Tells (do
      let s ← joined (← body)
      pure (Value.text s)) inside :=
  tells.bind_silent fun outputs => (silent_joined outputs).bind fun _ => silent_pure _

/-- What is told of the nodes of a body is told of its text. -/
theorem Tells.bodyText {body : List Node} {events : Stage → List Event}
    (tells : T.Tells (renderAll elsewhere body) events) :
    T.Tells (bodyText elsewhere body) events :=
  tells.bind_silent fun outputs => silent_joined outputs

mutual

/-- What is told of the tags of a node is told of the node. -/
theorem tells_render (covered : T.Covers elsewhere past) (node : Node)
    (fit : Fit T.tags T.isClosed [node]) :
    T.Tells (render elsewhere node) (history elsewhere past node) := by
  match node with
  | text s =>
      rw [render, history]
      exact T.silent (silent_pure _)
  | value e =>
      rw [render, history]
      exact T.silent ((silent_ofScoped _).bind fun _ => silent_pure _)
  | choice condition body otherwise =>
      obtain ⟨first, second⟩ := fit_choice.mp fit
      have inside := tells_renderAll covered body first
      have instead := tells_renderAll covered otherwise second
      rw [render, history]
      refine (T.silent (silent_ofScoped _)).after fun held => ?_
      cases held with
      | true => exact tells_text inside
      | false => exact tells_text instead
  | loop names collection backwards body whenEmpty =>
      obtain ⟨first, second⟩ := fit_loop.mp fit
      have inside := tells_renderAll covered body first
      have instead := tells_renderAll covered whenEmpty second
      rw [render, history]
      refine (T.silent silent_scope).after fun outside => ?_
      refine Tells.bind_silent (T.inLayer ?_ []) fun outputs =>
        (silent_joined outputs).bind fun _ => silent_pure _
      refine (T.silent (silent_ofScoped _)).after fun v =>
        (T.silent (silent_ofEval _)).after fun items => ?_
      split
      · exact instead
      · exact (T.silent (silent_ofEval _)).after fun ordered =>
          (T.silent (silent_ofScoped _)).after fun state =>
            tells_visitAll inside names state _ 0 ordered
  | binding bindings body =>
      have inside := tells_renderAll covered body (fit_binding.mp fit)
      rw [render, history]
      refine (T.silent (silent_bindingLayer bindings)).after fun layer => ?_
      refine Tells.bind_silent (T.inLayer ?_ layer) fun _ => silent_pure _
      exact inside.bind_silent fun outputs => silent_joined _
  | escaping on body =>
      have inside := tells_renderAll covered body (fit_escaping.mp fit)
      rw [render, history]
      refine (T.silent silent_scope).after fun outside =>
        (T.silent (silent_changeScope _)).after fun _ => ?_
      exact inside.bind_silent fun outputs => (silent_joined outputs).bind fun s =>
        (silent_changeScope _).bind fun _ => silent_pure _
  | inclusion serial origin name =>
      rw [render, history]
      refine (T.silent (silent_ofScoped _)).after fun v => ?_
      exact (covered.template fit.notClosed serial origin v).bind_silent fun _ => silent_pure _
  | group body =>
      rw [render, history]
      exact tells_text (tells_renderAll covered body (fit_group.mp fit))
  | host weave parts =>
      have inside := tells_renderAt covered parts (fit_host.mp fit)
      rw [render, history]
      exact (tells_woven inside weave).bind_silent fun _ => silent_pure _
  | .element tag identifier source entries body =>
      obtain ⟨holds, inside⟩ := fit_element.mp fit
      exact T.element holds inside (tells_renderAll covered body inside).bodyText covered.body
        identifier source entries

/-- **What is told of their tags is told of nodes**, one after the other. -/
theorem tells_renderAll (covered : T.Covers elsewhere past) (nodes : List Node)
    (fit : Fit T.tags T.isClosed nodes) :
    T.Tells (renderAll elsewhere nodes) (historyAll elsewhere past nodes) := by
  match nodes with
  | [] =>
      rw [renderAll, historyAll]
      exact T.silent (silent_pure _)
  | node :: rest =>
      obtain ⟨first, others⟩ := fit_cons.mp fit
      rw [renderAll, historyAll]
      refine T.bind (tells_render covered node first) fun output => ?_
      exact (tells_renderAll covered rest others).bind_silent fun _ => silent_pure _

/-- So it is told of each of them. -/
theorem tells_renderAt (covered : T.Covers elsewhere past) (nodes : List Node)
    (fit : Fit T.tags T.isClosed nodes) (index : Nat) :
    T.Tells (renderAt elsewhere nodes index) (historyAt elsewhere past nodes index) := by
  match nodes, index with
  | [], _ =>
      rw [renderAt, historyAt]
      exact T.silent (silent_pure _)
  | node :: rest, 0 =>
      rw [renderAt, historyAt]
      exact (tells_render covered node (fit_cons.mp fit).1).bind_silent fun _ => silent_joined _
  | node :: rest, index + 1 =>
      rw [renderAt, historyAt]
      exact tells_renderAt covered rest (fit_cons.mp fit).2 index

end

/-! ## Shelves -/

/-- On a shelf it is told what happens elsewhere. -/
theorem covers_elsewhere {depth : Nat} (within : ∀ nodes, Fit T.tags T.isClosed nodes →
      T.Tells (shelf.renderWithin depth nodes) (shelf.historyWithin depth nodes)) :
    T.Covers (shelf.elsewhere depth) (shelf.past depth) := by
  refine ⟨fun opened serial origin v => ?_, T.elsewhere depth within⟩
  obtain ⟨fits, found⟩ := T.found opened
  have names : Silent (fun stage => (Shelf.namesOf origin v, stage) : Rendering (List Text)) :=
    ⟨fun stage => .refl stage.ledger, fun stage bodies => rfl⟩
  exact (T.silent names).after fun names => (found serial names).after fun nodes =>
    T.inLayer (within nodes (fits nodes)) []

/-- **On a shelf it is told of nodes**, with what happens in included templates and in the bodies of
other tags. -/
theorem tells_renderWithin (T : Telling shelf) (depth : Nat) {nodes : List Node}
    (fit : Fit T.tags T.isClosed nodes) :
    T.Tells (shelf.renderWithin depth nodes) (shelf.historyWithin depth nodes) := by
  induction depth generalizing nodes with
  | zero => exact T.silent (silent_fail _)
  | succ depth ih =>
      rw [Shelf.renderWithin_succ, Shelf.historyWithin_succ]
      have covered : T.Covers (shelf.elsewhere depth) (shelf.past depth) :=
        covers_elsewhere fun nodes fit => ih fit
      exact (tells_renderAll covered nodes fit).bind_silent fun outputs => silent_joined outputs

end Telling
end ElementTags
