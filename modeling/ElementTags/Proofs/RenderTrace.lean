import ElementTags.Proofs.CompileTrace
import ElementTags.Proofs.Drafting
import ElementTags.Proofs.Keeping
import ElementTags.Proofs.Privacy
import ElementTags.Proofs.Recordings

/-! # What rendering logs

While steps are logged and all tags are candid, what is logged about steps are the lines of
the visits in the history of a rendering (`ElementTags.Recording.ofLog`). They are complete if
the rendering succeeds and underway if it fails. If tags call no bodies but their own, tags
are visited within each other as they stand in the template.

Compiling and rendering a template are put together in
`ElementTags.Node.ofTemplate_trace_tree`.
-/

namespace ElementTags

open ElementTags.Computation Node Rendering
open Visit (linesAll linesAll_append linesAll_singleton Complete Underway BreaksOff)

variable {α : Type}

/-! ## Lines about visits -/

/-- Where steps are logged, a rendering that goes from a stage to another has logged some visits,
which are complete if it succeeded and underway if it failed. -/
structure Logged (stage : Stage) (succeeds : Bool) (after : Stage) (visits : List Visit) :
    Prop where
  lines : after.ledger.traced = stage.ledger.traced ++ linesAll stepName visits
  complete : succeeds = true → Complete visits
  underway : succeeds = false → ∃ path, Underway visits path

namespace Logged

variable {stage other middle after last : Stage} {succeeds : Bool} {visits further : List Visit}

theorem nothing (stage : Stage) (succeeds : Bool) : Logged stage succeeds stage [] :=
  ⟨(List.append_nil _).symm, fun _ => .nil, fun _ => ⟨[], .complete .nil⟩⟩

/-- What is logged depends on the steps in the ledgers only. -/
theorem of_traced (logged : Logged other succeeds after visits)
    (before : other.ledger.traced = stage.ledger.traced)
    (behind : last.ledger.traced = after.ledger.traced) : Logged stage succeeds last visits :=
  ⟨by rw [behind, logged.lines, before], logged.complete, logged.underway⟩

/-- What is logged behind complete visits. -/
theorem append (first : Logged stage true middle visits)
    (next : Logged middle succeeds after further) :
    Logged stage succeeds after (visits ++ further) where
  lines := by rw [next.lines, first.lines, linesAll_append, List.append_assoc]
  complete done := (first.complete rfl).append (next.complete done)
  underway failed := by
    obtain ⟨path, underway⟩ := next.underway failed
    exact ⟨path, underway.behind (first.complete rfl)⟩

/-- What is logged before a fault that nothing hides. -/
theorem ended (first : Logged stage false middle visits) (silent : Logged middle false after []) :
    Logged stage false after visits where
  lines := by rw [silent.lines, first.lines]; exact List.append_nil _
  complete done := by cases done
  underway := first.underway

/-- What is logged from the announcement of a tag on is about a visit of the tag. -/
theorem reported {tag : Tag} {identifier : Text} {ready : Stage}
    {ran : Except Fault Value × Stage} (logged : Logged ready ran.1.toBool ran.2 visits)
    (tracing : stage.ledger.tracing = true) (traces : ran.2.ledger.tracing = true)
    (same : (announced tag identifier stage).ledger.SameSteps ready.ledger) :
    Logged stage (Node.reported tag identifier ran).1.toBool (Node.reported tag identifier ran).2
      [.visit tag.name identifier (Node.reported tag identifier ran).1.toBool visits] := by
  have opened : ready.ledger.traced =
      stage.ledger.traced ++ [Ledger.openingLine stepName tag.name identifier] := by
    rw [same.traced]
    exact Ledger.traced_trace tracing rfl
  have lines := logged.lines
  rw [opened, List.append_assoc] at lines
  obtain ⟨outcome, after⟩ := ran
  cases outcome with
  | error fault =>
      refine ⟨?_, fun none => (by cases none), fun _ => ?_⟩
      · rw [linesAll_singleton]
        exact lines.trans (congrArg (_ ++ ·) (Visit.lines_undone ..).symm)
      · obtain ⟨path, deeper⟩ := logged.underway rfl
        exact ⟨(tag.name, identifier) :: path, .within .nil deeper⟩
  | ok v =>
      refine ⟨?_, fun _ => .cons (logged.complete rfl) .nil, fun none => (by cases none)⟩
      refine (Ledger.traced_trace traces rfl).trans ?_
      rw [linesAll_singleton, lines, List.append_assoc, List.append_assoc]
      exact congrArg (_ ++ ·) (Visit.lines_done ..).symm

end Logged

/-! ## The log as a recording -/

/-- Steps are logged on a stage, and the tags in bodies are candid and include no templates. -/
structure Stage.Traces (stage : Stage) : Prop where
  tracing : stage.ledger.tracing = true
  bodies : ∀ cell ∈ stage.bodies, Fit Tag.Candid true cell.nodes

theorem Stage.Still.traces {stage after : Stage} (still : stage.Still after)
    (traces : stage.Traces) : after.Traces :=
  ⟨still.steps.tracing.trans traces.tracing, still.bodies ▸ traces.bodies⟩

/-- The lines of the log, while tags are rendered that are candid. -/
def Recording.ofLog : Recording where
  tags := Tag.Candid
  isClosed := true
  Ready := Stage.Traces
  Told stage succeeds after events := after.ledger.tracing = true ∧
    Logged stage succeeds after (Event.visitsAll events)
  Renders _ _ := True
  ready_still := Stage.Still.traces
  fits := Stage.Traces.bodies
  nothing succeeds traces := ⟨traces.tracing, .nothing _ succeeds⟩
  around := fun before told behind => ⟨behind.steps.tracing.trans told.1,
    told.2.of_traced before.steps.traced behind.steps.traced⟩
  followed := fun first next => ⟨next.1, by
    rw [Event.visitsAll_append]
    exact first.2.append next.2⟩
  ready_takeUp := fun traces fit => ⟨traces.tracing, Stage.forall_nodes_takeUp traces.bodies fit⟩
  told_takeUp := fun told => ⟨told.1, told.2.of_traced rfl rfl⟩
  renders_takeUp _ _ := trivial
  told_visit := fun {tag identifier stage ready ran events} traces still told => by
    have lasting : (reported tag identifier ran).2.ledger.tracing = ran.2.ledger.tracing := by
      obtain ⟨fault | v, after⟩ := ran
      · rfl
      · exact congrArg Prod.snd (Ledger.settings_trace _ _)
    exact ⟨lasting.trans told.1, told.2.reported traces.tracing told.1 still.steps⟩
  ready_trace := fun {stage} line traces =>
    ⟨(congrArg Prod.snd (stage.ledger.settings_trace line)).trans traces.tracing, traces.bodies⟩
  found := fun none => by cases none

namespace Rendering

variable {bodies : Accessor → Rendering Text} {inside : Accessor → Stage → List Event}

/-- A call of a body logs what is visited in its nodes if they are rendered for it. -/
theorem logged_call {inner : Rendering Text} {events : Stage → List Event}
    (tells : Recording.ofLog.Tells inner events) (accessor : Accessor) {stage : Stage}
    (traces : stage.Traces) :
    (call accessor inner stage).2.Traces ∧
      Logged stage (call accessor inner stage).1.toBool (call accessor inner stage).2
        (Event.visits (callEvent accessor inner events stage)) := by
  obtain ⟨ready, -, logged⟩ := tells stage traces
  rw [callEvent, Event.visits]
  unfold call
  cases stage.text? accessor with
  | some s => exact ⟨traces, .nothing _ _⟩
  | none =>
      generalize inner stage = ran at ready logged
      obtain ⟨fault | s, after⟩ := ran
      · exact ⟨ready, logged⟩
      · exact ⟨⟨ready.tracing, Stage.forall_nodes_keepText ready.bodies accessor s⟩,
          logged.of_traced rfl rfl⟩

/-- A candid script logs what is visited for its calls of bodies. After a fault of a body it fails,
and calls none again. -/
theorem logged_perform
    (tells : ∀ accessor, Recording.ofLog.Tells (bodies accessor) (inside accessor))
    (own : Accessor) {failed : Bool} {s : Surroundings} {script : Script (Except Fault α)}
    (candid : script.Candid failed s) {stage : Stage} (here : stage.surroundings = s)
    (traces : stage.Traces) :
    (perform own bodies script stage).2.Traces ∧
      Logged stage (perform own bodies script stage).1.toBool (perform own bodies script stage).2
        (Event.visitsAll (callEvents own bodies inside script stage)) ∧
      (failed = true → callEvents own bodies inside script stage = [] ∧
        (perform own bodies script stage).1.toBool = false) := by
  induction candid generalizing stage with
  | done admits => exact ⟨traces, .nothing _ _, fun told => ⟨rfl, admits told⟩⟩
  | look _ ih =>
      subst here
      exact ih rfl traces
  | @change failed s t next same _ ih =>
      subst here
      have traces : (stage.inSurroundings t).Traces :=
        ⟨same.tracing.trans traces.tracing, traces.bodies⟩
      obtain ⟨ready, logged, gives⟩ := ih rfl traces
      exact ⟨ready, logged.of_traced same.traced rfl, gives⟩
  | askBody _ ih =>
      subst here
      exact ih own rfl traces
  | askRendered accessor _ ih =>
      subst here
      exact ih _ rfl traces
  | @callBody s accessor next _ ih =>
      obtain ⟨ready, called⟩ := logged_call (tells accessor) accessor traces
      obtain ⟨further, later, gives⟩ := ih (call accessor (bodies accessor) stage).1 _ rfl ready
      rw [perform_callBody, callEvents, Event.visitsAll]
      refine ⟨further, ?_, fun none => (by cases none)⟩
      cases succeeds : (call accessor (bodies accessor) stage).1.toBool with
      | true =>
          rw [succeeds] at called
          exact called.append later
      | false =>
          -- The script is told of the fault, so that it calls no body again.
          obtain ⟨nothing, fails⟩ := gives (congrArg not succeeds)
          rw [succeeds] at called
          rw [nothing, fails] at later
          rw [nothing, fails, Event.visitsAll, List.append_nil]
          exact called.ended later

end Rendering

/-- Candid tags let their calls be recorded. -/
theorem Recording.performs_ofLog {tag : Tag} (candid : tag.Candid) :
    Recording.ofLog.Performs tag := by
  intro own bodies inside tells _ attributes stage traces
  have acts := Tag.candid_act candid attributes stage.surroundings
  obtain ⟨ready, logged, -⟩ := logged_perform tells own acts rfl traces
  exact ⟨ready, ready.tracing, logged⟩

/-! ## Templates -/

/-- The visits of tags while the nodes of a template are rendered on a stage. -/
def Shelf.visits (shelf : Shelf) (nodes : List Node) (stage : Stage) : List Visit :=
  Event.visitsAll (shelf.historyWithin Shelf.maxDepth nodes stage)

end ElementTags
