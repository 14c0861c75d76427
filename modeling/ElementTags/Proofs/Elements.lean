import ElementTags.Proofs.Computation
import ElementTags.Proofs.Marks
import ElementTags.Proofs.Nesting
import ElementTags.Proofs.Outcome
import ElementTags.Proofs.Readings
import ElementTags.Template.Render

/-!
# What trees give

What a tree gives is defined by recursion on the tree (`ElementTags.Tree.html`): a text gives
itself, and a use of a tag an element with its written attributes around what its children give.
The attributes are resolved in the scope that everything before them has left.

Nodes mean trees if rendering them gives what the trees give, on any stage and whatever stands
elsewhere (`ElementTags.Node.Means`). The relation is kept by putting nodes one behind the other and
by the use of a tag with the default behaviour, whose body is rendered by a script. Renderings are
compared with computations on a scope step by step (`ElementTags.Rendering.Mirrors`), which do not
depend on the readings that an engine lends to the scope.
-/

namespace ElementTags

open Outcome

/-! ## The meaning of a tree -/

namespace Tree

/-- An element in HTML with its name and its attributes, and with its body if it has one. -/
def enclose (name attributes : Text) (body : Option Text) : Text :=
  ['<'] ++ name ++ (if attributes = [] then [] else [' '] ++ attributes) ++ ['>'] ++
    match body with
    | some s => s ++ ['<', '/'] ++ name ++ ['>']
    | none => []

theorem enclose_none (name attributes : Text) :
    enclose name attributes none = Behaviour.startTag name attributes := by
  simp only [enclose, Behaviour.startTag, List.isEmpty_iff, List.append_nil, List.cons_append,
    List.nil_append]

theorem enclose_some (name attributes body : Text) :
    enclose name attributes (some body) =
      Behaviour.startTag name attributes ++ body ++ Behaviour.endTag name := by
  simp only [enclose, Behaviour.startTag, Behaviour.endTag, List.isEmpty_iff, List.cons_append,
    List.nil_append, List.append_assoc]

mutual

/-- What a tree gives in a scope: a text gives itself, and a use of a tag an element with the
written attributes and, for a container, with what its children give. -/
def html (configuration : Configuration) : Tree → Scoped Text
  | text s => pure s
  | element use children => do
    let attributes ← Entry.resolveAll use.entries
    let written ← Scoped.reading fun scope =>
      (Markup.serialize configuration (attributes.map scope.current)).1
    if use.tag.hasBody then do
      let inner ← htmlAll configuration children
      pure (enclose use.tag.elementName written (some inner))
    else pure (enclose use.tag.elementName written none)

/-- What trees give, one behind the other. -/
def htmlAll (configuration : Configuration) : List Tree → Scoped Text
  | [] => pure []
  | tree :: rest => do
    let first ← html configuration tree
    let others ← htmlAll configuration rest
    pure (first ++ others)

end

end Tree

/-! ## Renderings and computations -/

/-- The current state of a list that is written down is the list of the current values. -/
theorem Scope.current_list (scope : Scope) (values : List Value) :
    scope.current (.list values) = .list (values.map scope.current) := by
  by_cases unchanged : scope.changes.isEmpty = true
  · have same : scope.current = id := by
      funext v
      rw [Scope.current, if_pos unchanged]
      rfl
    rw [same, List.map_id]
    rfl
  · have same : scope.current = Value.revised scope.changed? := by
      funext v
      rw [Scope.current, if_neg unchanged]
    rw [same, Value.revised, Value.revisedItems_eq]
    rfl

/-- Logging a step does not touch the configuration. -/
theorem Ledger.configuration_trace (ledger : Ledger) (line : LogLine) :
    (ledger.trace line).configuration = ledger.configuration := by
  unfold trace
  split <;> rfl

namespace Rendering

variable {α β γ δ : Type}

/-- A rendering on a stage came to what a computation on its scope came to, but for readings that
were lent, and did not touch the configuration. -/
structure Reflects (same : α → β → Prop) (stage : Stage) (rendered : Except Fault α × Stage)
    (computed : Except EvalFault β × Scope) : Prop where
  outcome : Related same (fun fault other => fault = .eval other) rendered.1 computed.1
  scope : Scope.Lent rendered.2.scope computed.2
  configuration : rendered.2.ledger.configuration = stage.ledger.configuration

theorem Reflects.outcome_eq {stage : Stage} {rendered : Except Fault α × Stage}
    {computed : Except EvalFault α × Scope} (reflects : Reflects Eq stage rendered computed) :
    rendered.1 = computed.1.mapError Fault.eval := by
  obtain ⟨outcome, -, -⟩ := reflects
  obtain ⟨result, after⟩ := rendered
  obtain ⟨value, reached⟩ := computed
  cases outcome with
  | ok results => exact congrArg Except.ok results
  | error faults => exact congrArg Except.error faults

/-- A rendering does what a computation does, on any stage, whatever readings are lent to the scope
of the computation. -/
def Mirrors (same : α → β → Prop) (action : Rendering α) (meaning : Configuration → Scoped β) :
    Prop :=
  ∀ stage scope, Scope.Lent stage.scope scope →
    Reflects same stage (action stage) (meaning stage.ledger.configuration scope)

theorem mirrors_pure {same : α → β → Prop} {a : α} {b : β} (results : same a b) :
    Mirrors same (pure a) fun _ => pure b := fun _ _ lent => ⟨.ok results, lent, rfl⟩

/-- What comes next goes on from the stage and the scope that were reached. -/
theorem Reflects.bind {same : α → β → Prop} {good : γ → δ → Prop} {stage other : Stage}
    {action : Rendering α} {meaning : Scoped β} {scope : Scope} {f : α → Rendering γ}
    {g : β → Scoped δ} (here : Reflects same stage (action other) (meaning scope))
    (next : ∀ a b after reached, same a b → action other = (.ok a, after) →
      Scope.Lent after.scope reached →
      after.ledger.configuration = stage.ledger.configuration →
        Reflects good after (f a after) (g b reached)) :
    Reflects good stage ((action >>= f) other) ((meaning >>= g) scope) := by
  rw [Computation.bind_eq, Computation.bind_eq]
  generalize action other = ran, meaning scope = computed at here next ⊢
  obtain ⟨outcome, left, configuration⟩ := here
  obtain ⟨result, after⟩ := ran
  obtain ⟨computed, reached⟩ := computed
  cases outcome with
  | error fault => exact ⟨.error fault, left, configuration⟩
  | ok results =>
      have further := next _ _ after reached results rfl left configuration
      exact ⟨further.outcome, further.scope, further.configuration.trans configuration⟩

theorem Mirrors.bind {same : α → β → Prop} {good : γ → δ → Prop} {action : Rendering α}
    {meaning : Configuration → Scoped β} {f : α → Rendering γ} {g : Configuration → β → Scoped δ}
    (first : Mirrors same action meaning)
    (next : ∀ a b, same a b → Mirrors good (f a) fun configuration => g configuration b) :
    Mirrors good (action >>= f) fun configuration => meaning configuration >>= g configuration :=
  fun stage scope lent => (first stage scope lent).bind
    fun a b after reached results _ left configuration =>
      configuration ▸ next a b results after reached left

theorem mirrors_ofScoped {x : Scoped α} (respects : Scoped.Respects Scope.Lent x) :
    Mirrors Eq (ofScoped x) fun _ => x := by
  intro stage scope lent
  obtain ⟨gives, left⟩ := @Ledger.evaluate_eq _ stage.ledger _ _ _ respects lent
  show Reflects Eq stage (ofScoped x stage) (x scope)
  rw [ofScoped]
  have configured : (stage.ledger.evaluate x stage.scope).2.1.configuration =
      stage.ledger.configuration := rfl
  generalize stage.ledger.evaluate x stage.scope = evaluated, x scope = computed
    at gives left configured
  obtain ⟨result, ledger, after⟩ := evaluated
  obtain ⟨computed, reached⟩ := computed
  obtain rfl : result = computed := gives
  cases result with
  | error fault => exact ⟨.error rfl, left, configured⟩
  | ok a => exact ⟨.ok rfl, left, configured⟩

theorem mirrors_trace (line : LogLine) : Mirrors Eq (trace line) fun _ => pure () :=
  fun stage _ lent => ⟨.ok rfl, lent, stage.ledger.configuration_trace line⟩

/-! ## The default behaviour -/

/-- What the default behaviour does first: it writes attributes and logs what is dropped. -/
def written (attributes : List Value) : Rendering Text := fun stage =>
  match Markup.serializeValue stage.ledger.configuration
    (stage.scope.current (.list attributes)) with
  | (result, lines) => (result, { stage with ledger := stage.ledger.log lines })

/-- What an action does that starts with writing attributes. -/
theorem perform_serialize (own : Accessor) (bodies : Accessor → Rendering Text)
    (attributes : List Value) (next : Text → Acting α) (stage : Stage) :
    perform own bodies (Acting.serialize (.list attributes) >>= next : Acting α) stage =
      match written attributes stage with
      | (.ok text, after) => perform own bodies (next text) after
      | (.error fault, after) => (.error fault, after) := by
  rw [written]
  simp only [Acting.serialize, Acting.surroundings, Acting.put, Acting.ofExcept, bind, ExceptT.bind,
    ExceptT.mk, Script.bind, ExceptT.bindCont, perform, Stage.surroundings, Stage.inSurroundings]
  rcases Markup.serializeValue stage.ledger.configuration
    (stage.scope.current (.list attributes)) with ⟨fault | text, lines⟩ <;> rfl

/-- What an action does that asks for the body first. The body is taken as it is. -/
theorem perform_ownFragment (own : Accessor) (bodies : Accessor → Rendering Text)
    (next : Text → Acting α) (stage : Stage) :
    perform own bodies (Behaviour.ownFragment >>= next : Acting α) stage =
      match call own (bodies own) stage with
      | (.ok s, after) => perform own bodies (next s) after
      | (.error fault, after) => (.error fault, after) := by
  simp only [Behaviour.ownFragment, Acting.callBody, Acting.body, Acting.call, bind, ExceptT.bind,
    ExceptT.mk, Script.bind, ExceptT.bindCont, perform]
  rcases call own (bodies own) stage with ⟨fault | s, after⟩
  · rfl
  · cases s <;> rfl

/-- The default behaviour writes the attributes, and asks for the body of a container only. What the
body gives is not escaped. -/
theorem acting_default (own : Accessor) (inner : Rendering Text)
    (others : Accessor → Rendering Text) (e : Element) (attributes : List Value) :
    acting own inner others (do
      let v ← Behaviour.default e (.list attributes)
      Acting.ofEval (Markup.safeAny v)) = (do
      let text ← written attributes
      if e.isContainer then do
        let s ← call own inner
        pure (.safe (Behaviour.startTag e.name text ++ s ++ Behaviour.endTag e.name))
      else pure (.safe (Behaviour.startTag e.name text))) := by
  funext stage
  rw [acting, Behaviour.default, Behaviour.element, bind_assoc, perform_serialize,
    Computation.bind_eq]
  rcases written attributes stage with ⟨fault | text, after⟩
  · rfl
  · cases container : e.isContainer with
    | false => rfl
    | true =>
        simp only [if_true]
        rw [bind_assoc, perform_ownFragment, if_pos rfl]
        simp only [ExceptT.bindCont]
        rw [Computation.bind_eq]
        rcases call own inner after with ⟨fault | s, further⟩ <;> rfl

theorem mirrors_written (attributes : List Value) :
    Mirrors Eq (written attributes) fun configuration => Scoped.reading fun scope =>
      (Markup.serialize configuration (attributes.map scope.current)).1 := by
  rintro stage _ ⟨readings, rfl⟩
  have lent := Scope.lent_lend stage.scope readings
  show Reflects Eq stage (written attributes stage)
    ((Markup.serialize stage.ledger.configuration (attributes.map stage.scope.current)).1,
      stage.scope.lend readings)
  rw [written, Scope.current_list, Markup.serializeValue]
  rcases Markup.serialize stage.ledger.configuration (attributes.map stage.scope.current) with
    ⟨fault | text, lines⟩
  · exact ⟨.error rfl, lent, rfl⟩
  · exact ⟨.ok rfl, lent, rfl⟩

/-- Outputs give a text together. -/
def Joins (outputs : List Value) (s : Text) : Prop := join outputs = .ok s

theorem Joins.append {front back : List Value} {s t : Text} (first : Joins front s)
    (others : Joins back t) : Joins (front ++ back) (s ++ t) := by
  unfold Joins join at *
  split at first
  · rename_i parts found
    split at others
    · rename_i further foundBehind
      rw [List.mapM_append, found, foundBehind]
      cases first
      cases others
      simp
    · cases others
  · cases first

theorem mirrors_joined {outputs : List Value} {s : Text} (joins : Joins outputs s) :
    Mirrors Eq (joined outputs) fun _ => pure s := by
  intro stage scope lent
  show Reflects Eq stage (ofEval (join outputs) stage) (.ok s, scope)
  rw [joins]
  exact ⟨.ok rfl, lent, rfl⟩

/-- A line of the log is no part of what a rendering does. -/
theorem Mirrors.traced {same : α → β → Prop} {action : Rendering α}
    {meaning : Configuration → Scoped β} (mirrors : Mirrors same action meaning) (line : LogLine) :
    Mirrors same (trace line >>= fun _ => action) meaning := by
  have both := (mirrors_trace line).bind fun _ _ _ => mirrors
  simp only [pure_bind] at both
  exact both

theorem Mirrors.thenTraced {same : α → β → Prop} {action : Rendering α}
    {meaning : Configuration → Scoped β} (mirrors : Mirrors same action meaning) (line : LogLine) :
    Mirrors same (do
      let a ← action
      trace line
      pure a) meaning := by
  have both := mirrors.bind fun a b results => (mirrors_pure results).traced line
  simp only [bind_pure] at both
  exact both

/-- A body that has no text yet is rendered when it is called. -/
theorem reflects_call {inner : Rendering Text} {meaning : Configuration → Scoped Text}
    (inside : Mirrors Eq inner meaning) {own : Accessor} {stage : Stage} {scope : Scope}
    (lent : Scope.Lent stage.scope scope) (fresh : stage.text? own = none) :
    Reflects Eq stage (call own inner stage) (meaning stage.ledger.configuration scope) := by
  have here := inside stage scope lent
  simp only [call, fresh]
  generalize inner stage = ran at here
  obtain ⟨outcome, left, configuration⟩ := here
  obtain ⟨fault | s, after⟩ := ran
  · exact ⟨outcome, left, configuration⟩
  · exact ⟨outcome, left, configuration⟩

/-- What a tag with the default behaviour does with its attributes. -/
theorem mirrors_acting {inner : Rendering Text} {meaning : Configuration → Scoped Text}
    (inside : Mirrors Eq inner meaning) {tag : Tag} (default : tag.behaviour = Behaviour.default)
    (body : List Node) (others : Accessor → Rendering Text) (attributes : List Value) :
    Mirrors (fun v s => v = .safe s) (do
      let own ← takeUp body
      acting own inner others (tag.act attributes)) fun configuration => (do
      let written ← Scoped.reading fun scope =>
        (Markup.serialize configuration (attributes.map scope.current)).1
      if tag.hasBody then do
        let s ← meaning configuration
        pure (Tree.enclose tag.elementName written (some s))
      else pure (Tree.enclose tag.elementName written none)) := by
  intro stage scope lent
  show Reflects _ stage (acting stage.bodies.length inner others (tag.act attributes)
    (stage.takeUp body)) _
  rw [Tag.act, default, acting_default]
  have first := mirrors_written attributes (stage.takeUp body) scope lent
  refine Reflects.bind ⟨first.outcome, first.scope, first.configuration⟩ ?_
  rintro written _ after reached rfl ran left configuration
  cases bodied : tag.hasBody with
  | false =>
      simp only [Tag.element, bodied, Bool.false_eq_true, if_false, Tree.enclose_none]
      exact ⟨.ok rfl, left, rfl⟩
  | true =>
      simp only [Tag.element, bodied, if_true, Tree.enclose_some]
      -- Writing the attributes leaves the bodies alone, so that the own one has no text yet.
      have fresh : after.text? stage.bodies.length = none := by
        have same := congrArg (fun ran => ran.2.text? stage.bodies.length) ran
        exact same.symm.trans (stage.text?_takeUp_fresh body)
      rw [← configuration]
      refine (reflects_call inside left fresh).bind ?_
      rintro s _ further behind rfl _ lent _
      exact ⟨.ok rfl, lent, rfl⟩

end Rendering

/-! ## Nodes and trees -/

namespace Tree

theorem htmlAll_append (configuration : Configuration) (front back : List Tree) :
    htmlAll configuration (front ++ back) = (do
      let first ← htmlAll configuration front
      let others ← htmlAll configuration back
      pure (first ++ others)) := by
  induction front with
  | nil => simp only [List.nil_append, htmlAll, pure_bind, bind_pure]
  | cons tree front ih =>
      simp only [List.cons_append, htmlAll, ih, bind_assoc, pure_bind, List.append_assoc]

theorem htmlAll_texts (configuration : Configuration) (ss : List Text) :
    htmlAll configuration (ss.map text) = pure ss.flatten := by
  induction ss with
  | nil => rfl
  | cons s ss ih => simp only [List.map_cons, htmlAll, html, ih, pure_bind, List.flatten_cons]

end Tree

namespace Node

open Rendering

variable {front back body : List Node} {before behind children : List Tree}

/-- Nodes render what trees give. -/
def Means (nodes : List Node) (trees : List Tree) : Prop :=
  ∀ elsewhere, Mirrors Joins (renderAll elsewhere nodes) fun configuration =>
    Tree.htmlAll configuration trees

theorem means_nil : Means [] [] := fun _ => mirrors_pure rfl

theorem renderAll_append (elsewhere : Elsewhere) (front back : List Node) :
    renderAll elsewhere (front ++ back) = (do
      let first ← renderAll elsewhere front
      let others ← renderAll elsewhere back
      pure (first ++ others)) := by
  induction front with
  | nil => simp only [List.nil_append, renderAll, pure_bind, bind_pure]
  | cons node front ih => simp only [List.cons_append, renderAll, ih, bind_assoc, pure_bind]

theorem Means.append (first : Means front before) (others : Means back behind) :
    Means (front ++ back) (before ++ behind) := by
  intro elsewhere
  simp only [renderAll_append, Tree.htmlAll_append]
  refine (first elsewhere).bind fun outputs s joins => ?_
  refine (others elsewhere).bind fun further t joinsBehind => ?_
  exact mirrors_pure (joins.append joinsBehind)

/-- What nodes give is joined to the text that trees give. -/
theorem Means.joined (means : Means body children) (elsewhere : Elsewhere) :
    Mirrors Eq (do joined (← renderAll elsewhere body)) fun configuration =>
      Tree.htmlAll configuration children := by
  have both := (means elsewhere).bind fun _ _ joins => mirrors_joined joins
  simp only [bind_pure] at both
  exact both

/-- Plain text as nodes. -/
def plain (s : Text) : List Node := if s.isEmpty then [] else [text s]

/-- A run of texts is rendered as one text. -/
theorem means_texts (ss : List Text) : Means (plain ss.flatten) (ss.map .text) := by
  intro elsewhere
  simp only [Tree.htmlAll_texts, plain]
  split
  · rename_i nothing
    rw [List.isEmpty_iff.mp nothing]
    exact mirrors_pure rfl
  · have joins : Joins [.text ss.flatten] ss.flatten := by
      rw [Joins, join, List.mapM_cons, List.mapM_nil]
      exact congrArg Except.ok (List.append_nil _)
    simp only [renderAll, render, pure_bind]
    exact mirrors_pure joins

/-- A use of a tag is rendered as an element, whatever it was numbered and wherever its attributes
stood. -/
theorem means_element {use : Use} (default : use.tag.behaviour = Behaviour.default)
    {entries : List Entry} (same : Entry.resolveAll entries = Entry.resolveAll use.entries)
    (inner : Means body children) (identifier source : Text) :
    Means [.element use.tag identifier source entries body] [.element use children] := by
  intro elsewhere
  have whole : Mirrors (fun v s => v = .safe s)
      (render elsewhere (.element use.tag identifier source entries body)) fun configuration =>
        Tree.html configuration (.element use children) := by
    simp only [render, Tree.html, same]
    have resolved := mirrors_ofScoped (Entry.respects_readings use.entries)
    refine Mirrors.traced (resolved.bind ?_) _
    rintro attributes _ rfl
    rw [← bind_assoc]
    exact (mirrors_acting (inner.joined elsewhere) default body _ attributes).thenTraced _
  simp only [renderAll, Tree.htmlAll, pure_bind]
  refine whole.bind ?_
  rintro _ s rfl
  exact mirrors_pure rfl

/-- On a shelf, nodes give the text that trees give, or fail as the attributes of the trees do. -/
theorem Means.render (means : Means body children) (shelf : Shelf) (stage : Stage) :
    (shelf.render body stage).1 =
      (Tree.htmlAll stage.ledger.configuration children stage.scope).1.mapError Fault.eval := by
  obtain ⟨elsewhere, unfolded⟩ : ∃ elsewhere, shelf.render body = (do
      Rendering.joined (← renderAll elsewhere body)) := ⟨_, rfl⟩
  rw [unfolded]
  exact (means.joined elsewhere stage stage.scope (.refl _)).outcome_eq

end Node
end ElementTags
