import ElementTags.Proofs.Tellings

/-! # What is recorded about renderings

Of a rendering that goes from a stage to another it may be recorded what the two stages have to
do with the events in between (`ElementTags.Recording`): for instance which lines of the log
are about them, or what they have made of the text of a body. It is composed from what is
recorded about the parts of a rendering, and does not depend on steps that log nothing and
leave bodies alone. If the scripts of tags let their calls be recorded, this is a telling
(`ElementTags.Recording.telling`), so that the history of nodes is recorded while they are
rendered.
-/

namespace ElementTags

open ElementTags.Computation Rendering Node

/-! ## Stages that are still -/

/-- From a stage to another, no step is logged and bodies stay as they are. -/
structure Stage.Still (stage after : Stage) : Prop where
  steps : stage.ledger.SameSteps after.ledger
  bodies : after.bodies = stage.bodies

namespace Stage.Still

theorem refl (stage : Stage) : stage.Still stage := ⟨.refl _, rfl⟩

theorem inScope (stage : Stage) (scope : Scope) : stage.Still { stage with scope := scope } :=
  ⟨.refl _, rfl⟩

end Stage.Still

theorem Rendering.Silent.still {α : Type} {x : Rendering α} (silent : Silent x) (stage : Stage) :
    stage.Still (x stage).2 :=
  ⟨silent.steps stage, congrArg (·.2.bodies) (silent.bodies stage stage.bodies)⟩

/-! ## Recordings -/

/-- What is recorded about a rendering that goes from a stage to another, succeeds or not, and
consists of some events. Stages have to be ready for it, which includes that the nodes of the bodies
fit. What is called as a body has to render it, which nothing can be said against for a body that is
just taken up. Templates may be included only if all nodes fit, and finding them is not recorded. -/
structure Recording where
  tags : Tag → Prop
  isClosed : Bool
  Ready : Stage → Prop
  Told : Stage → Bool → Stage → List Event → Prop
  Renders : Accessor → Rendering Text → Prop
  ready_still : ∀ {stage after : Stage}, stage.Still after → Ready stage → Ready after
  fits : ∀ {stage : Stage}, Ready stage → ∀ cell ∈ stage.bodies, Node.Fit tags isClosed cell.nodes
  nothing : ∀ {stage : Stage} (succeeds : Bool), Ready stage → Told stage succeeds stage []
  around : ∀ {stage other after last : Stage} {succeeds : Bool} {events : List Event},
    stage.Still other → Told other succeeds after events → after.Still last →
      Told stage succeeds last events
  followed : ∀ {stage middle after : Stage} {succeeds : Bool} {events further : List Event},
    Told stage true middle events → Told middle succeeds after further →
      Told stage succeeds after (events ++ further)
  ready_takeUp : ∀ {stage : Stage} {body : List Node}, Ready stage → Node.Fit tags isClosed body →
    Ready (stage.takeUp body)
  told_takeUp : ∀ {stage after : Stage} {body : List Node} {succeeds : Bool} {events : List Event},
    Told (stage.takeUp body) succeeds after events → Told stage succeeds after events
  renders_takeUp : ∀ {stage : Stage}, Ready stage → ∀ inner, Renders stage.bodies.length inner
  told_visit : ∀ {tag : Tag} {identifier : Text} {stage ready : Stage}
    {ran : Except Fault Value × Stage} {events : List Event}, Ready stage →
      (Node.announced tag identifier stage).Still ready → Told ready ran.1.toBool ran.2 events →
        Told stage (Node.reported tag identifier ran).1.toBool (Node.reported tag identifier ran).2
          [.visit tag.name identifier (Node.reported tag identifier ran).1.toBool events]
  ready_trace : ∀ {stage : Stage} (line : LogLine), Ready stage →
    Ready { stage with ledger := stage.ledger.trace line }
  found : isClosed = false → (∀ nodes, Node.Fit tags isClosed nodes) ∧
    ∀ {shelf : Shelf} {serial : Nat} {names : List Text} {stage : Stage}, Ready stage →
      Ready (shelf.lookUp serial names stage).2 ∧
        Told stage (shelf.lookUp serial names stage).1.toBool (shelf.lookUp serial names stage).2 []

namespace Recording

variable {R : Recording} {α β : Type}

/-- On any stage that is ready, a rendering consists of some events, as it is recorded, and leaves a
stage that is ready. -/
def Tells (R : Recording) (x : Rendering α) (events : Stage → List Event) : Prop :=
  ∀ stage, R.Ready stage →
    R.Ready (x stage).2 ∧ R.Told stage (x stage).1.toBool (x stage).2 (events stage)

theorem tells_silent {x : Rendering α} (silent : Silent x) : R.Tells x fun _ => [] :=
  fun stage ready => ⟨R.ready_still (silent.still stage) ready,
    R.around (.refl stage) (R.nothing _ ready) (silent.still stage)⟩

theorem Tells.bind {x : Rendering α} {f : α → Rendering β} {before : Stage → List Event}
    {next : α → Stage → List Event} (first : R.Tells x before)
    (rest : ∀ a, R.Tells (f a) (next a)) :
    R.Tells (x >>= f) fun stage => before stage ++ behind x next stage := by
  intro stage ready
  obtain ⟨here, told⟩ := first stage ready
  simp only [behind]
  cases ran : x stage with
  | mk result after =>
      rw [ran] at here told
      cases result with
      | ok a =>
          rw [bind_of_ok ran]
          obtain ⟨there, further⟩ := rest a after here
          exact ⟨there, R.followed told further⟩
      | error fault =>
          rw [bind_of_error ran, List.append_nil]
          exact ⟨here, told⟩

theorem Tells.inLayer {x : Rendering α} {events : Stage → List Event} (inside : R.Tells x events)
    (layer : Layer) : R.Tells (inLayer layer x) (eventsInLayer layer events) := by
  intro stage ready
  have pushed := Stage.Still.inScope stage (stage.scope.push layer)
  obtain ⟨there, told⟩ := inside _ (R.ready_still pushed ready)
  have popped := Stage.Still.inScope (x { stage with scope := stage.scope.push layer }).2
    (x { stage with scope := stage.scope.push layer }).2.scope.dropTop
  exact ⟨R.ready_still popped there, R.around pushed told popped⟩

/-! ## Tags -/

/-- The calls of bodies that the script of a tag makes are recorded if it is recorded what happens
in them. -/
def Performs (R : Recording) (tag : Tag) : Prop :=
  ∀ (own : Accessor) (bodies : Accessor → Rendering Text) (inside : Accessor → Stage → List Event),
    (∀ accessor, R.Tells (bodies accessor) (inside accessor)) →
      (∀ accessor, R.Renders accessor (bodies accessor)) → ∀ attributes,
        R.Tells (perform own bodies (tag.act attributes))
          (callEvents own bodies inside (tag.act attributes))

variable {elsewhere : Elsewhere} {past : Past}

theorem ready_reported {tag : Tag} {identifier : Text} {ran : Except Fault Value × Stage}
    (ready : R.Ready ran.2) : R.Ready (reported tag identifier ran).2 := by
  obtain ⟨fault | v, after⟩ := ran
  · exact ready
  · exact R.ready_trace _ ready

/-- While a tag is performed, its own body is one more that may be rendered. -/
theorem records_bodiesOf (own : Accessor) {body : List Node}
    (tells : R.Tells (bodyText elsewhere body) (historyAll elsewhere past body))
    (renders : R.Renders own (bodyText elsewhere body))
    (others : ∀ accessor, R.Tells (elsewhere.body accessor) (past.body accessor) ∧
      R.Renders accessor (elsewhere.body accessor)) (accessor : Accessor) :
    R.Tells (bodiesOf elsewhere body own accessor)
        (if accessor = own then historyAll elsewhere past body else past.body accessor) ∧
      R.Renders accessor (bodiesOf elsewhere body own accessor) := by
  unfold bodiesOf
  split
  case isTrue same => exact ⟨tells, same ▸ renders⟩
  case isFalse => exact others accessor

/-- A use of a tag is visited around the calls that its script makes. -/
theorem tells_element {tag : Tag} (performs : R.Performs tag) {body : List Node}
    (fit : Fit R.tags R.isClosed body)
    (tells : R.Tells (bodyText elsewhere body) (historyAll elsewhere past body))
    (others : ∀ accessor, R.Tells (elsewhere.body accessor) (past.body accessor) ∧
      R.Renders accessor (elsewhere.body accessor))
    (identifier source : Text) (entries : List Entry) :
    R.Tells (render elsewhere (.element tag identifier source entries body))
      (history elsewhere past (.element tag identifier source entries body)) := by
  intro stage ready
  have still := (silent_ofScoped (Entry.resolveAll entries)).still (announced tag identifier stage)
  have announces := R.ready_still still (R.ready_trace _ ready)
  rw [history_element, render_element]
  cases resolved : ofScoped (Entry.resolveAll entries) (announced tag identifier stage) with
  | mk outcome here =>
      rw [resolved] at still announces
      cases outcome with
      | error fault =>
          have failed : R.Told here (Except.error fault : Except Fault Value).toBool here [] :=
            R.nothing _ announces
          exact ⟨announces,
            @R.told_visit tag identifier _ _ (.error fault, here) _ ready still failed⟩
      | ok attributes =>
          have bodies := records_bodiesOf _ tells (R.renders_takeUp announces _) others
          obtain ⟨there, told⟩ := performs here.bodies.length _ _
            (fun accessor => (bodies accessor).1) (fun accessor => (bodies accessor).2) attributes _
            (R.ready_takeUp announces fit)
          exact ⟨ready_reported there, R.told_visit ready still (R.told_takeUp told)⟩

/-! ## The telling -/

/-- The nodes of a body of another tag fit. -/
theorem tells_elsewhere {shelf : Shelf} {depth : Nat}
    (within : ∀ nodes, Fit R.tags R.isClosed nodes →
      R.Tells (shelf.renderWithin depth nodes) (shelf.historyWithin depth nodes))
    (accessor : Accessor) :
    R.Tells ((shelf.elsewhere depth).body accessor) ((shelf.past depth).body accessor) := by
  intro stage ready
  show R.Ready ((nodesOf accessor >>= shelf.renderWithin depth) stage).2 ∧
    R.Told stage ((nodesOf accessor >>= shelf.renderWithin depth) stage).1.toBool
      ((nodesOf accessor >>= shelf.renderWithin depth) stage).2
      (behind (nodesOf accessor) (shelf.historyWithin depth) stage)
  unfold behind
  cases found : stage.bodies[accessor]? with
  | none =>
      have missing : nodesOf accessor stage = (.error (.eval .wrongType), stage) := by
        rw [nodesOf, found]
      rw [bind_of_error missing, missing]
      exact ⟨ready, R.nothing _ ready⟩
  | some cell =>
      have known : nodesOf accessor stage = (.ok cell.nodes, stage) := by rw [nodesOf, found]
      rw [bind_of_ok known, known]
      exact within cell.nodes (R.fits ready cell (List.mem_of_getElem? found)) stage ready

/-- **What happens is recorded** on a shelf, if tags let their calls be recorded. -/
def telling (R : Recording) (shelf : Shelf) (performs : ∀ tag, R.tags tag → R.Performs tag)
    (renders : ∀ depth accessor, R.Renders accessor ((shelf.elsewhere depth).body accessor)) :
    Telling shelf where
  tags := R.tags
  isClosed := R.isClosed
  Tells := R.Tells
  Renders accessor x events := R.Tells x events ∧ R.Renders accessor x
  silent := tells_silent
  bind := Tells.bind
  inLayer := Tells.inLayer
  element holds fit tells others := tells_element (performs _ holds) fit tells others
  found opened := ⟨(R.found opened).1, fun _ _ _ ready => (R.found opened).2 ready⟩
  elsewhere depth within accessor := ⟨tells_elsewhere within accessor, renders depth accessor⟩

end Recording
end ElementTags
