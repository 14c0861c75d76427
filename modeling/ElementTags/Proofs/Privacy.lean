import ElementTags.Proofs.Contents
import ElementTags.Proofs.Events
import ElementTags.Proofs.PlainSteps

/-! # Tags that call their own bodies only

A tag may hand its body on, so that others call it. A tag is private if it calls no body but
its own (`ElementTags.Tag.Private`), as behaviours do that are made of plain steps without
such calls (`ElementTags.Behaviour.Plain.isPrivate`). If all tags in a template are private,
each visit of a tag lies where its use lies in the template, between the start and the end of
the visit of the tag in whose body it stands (`ElementTags.Node.within_historyAll`).
-/

namespace ElementTags

variable {α β : Type} {own : Accessor}

/-! ## Scripts -/

/-- A script calls no body but its own one. -/
def Script.CallsOnly (own : Accessor) : Script α → Prop
  | .done _ => True
  | .look next => ∀ s, (next s).CallsOnly own
  | .change _ next => next.CallsOnly own
  | .askBody next => (next (.deferred own)).CallsOnly own
  | .askRendered _ next => ∀ rendered, (next rendered).CallsOnly own
  | .callBody accessor next => accessor = own ∧ ∀ reply, (next reply).CallsOnly own

theorem Script.CallsOnly.bind {script : Script α} {f : α → Script β}
    (first : script.CallsOnly own) (next : ∀ a, (f a).CallsOnly own) :
    (script.bind f).CallsOnly own := by
  induction script with
  | done a => exact next a
  | look _ ih => exact fun s => ih s (first s)
  | change _ _ ih => exact ih first
  | askBody _ ih => exact ih _ first
  | askRendered _ _ ih => exact fun rendered => ih rendered (first rendered)
  | callBody _ _ ih => exact ⟨first.1, fun reply => ih reply (first.2 reply)⟩

/-- Plain steps call the own body only if they call no others. -/
theorem Acting.Plain.callsOnly {action : Acting α} (plain : action.Plain False) :
    Script.CallsOnly own action := by
  induction plain with
  | done result => trivial
  | andThen _ _ first next =>
      refine Script.CallsOnly.bind first fun result => ?_
      cases result with
      | ok a => exact next a
      | error fault => trivial
  | scope => exact fun s => trivial
  | changeScope f => exact fun s => trivial
  | body => trivial
  | isRendered accessor => exact fun rendered => trivial
  | callBody =>
      rw [callBody_eq]
      exact ⟨rfl, fun reply => trivial⟩
  | call allowed => cases allowed
  | serialize attributes => exact fun s => trivial
  | providing _ values inside =>
      rw [providing_eq]
      intro s
      dsimp only
      split
      · trivial
      · exact Script.CallsOnly.bind inside fun result after => trivial

/-- A behaviour calls no body but its own, whatever element it writes and whatever its attributes
are. -/
def Behaviour.Private (behaviour : Behaviour) : Prop :=
  ∀ e attributes own, Script.CallsOnly own (behaviour e attributes)

theorem Behaviour.Plain.isPrivate {behaviour : Behaviour} (plain : behaviour.Plain False) :
    behaviour.Private := fun e attributes _ => (plain e attributes).callsOnly

/-- A tag calls no body but its own. -/
def Tag.Private (tag : Tag) : Prop := tag.behaviour.Private

/-- What a tag gives is made safe. -/
theorem Tag.callsOnly_act {tag : Tag} (isPrivate : tag.Private) (attributes : List Value) :
    Script.CallsOnly own (tag.act attributes) :=
  (isPrivate _ _ own).bind fun result => by
    cases result with
    | ok v => exact (Acting.plain_ofEval _).callsOnly
    | error fault => trivial

/-! ## Visits in a template -/

/-- A visit lies where its use lies among others: it is one of those that are expected, and so are
the visits within it among those that are expected within it. -/
inductive Visit.Within : List Visit → Visit → Prop
  | visit {expected uses inside : List Visit} {tag identifier : Text} {isDone : Bool}
      (here : .visit tag identifier true uses ∈ expected) (deeper : ∀ v ∈ inside, Within uses v) :
      Within expected (.visit tag identifier isDone inside)

theorem Visit.Within.mono {expected more : List Visit} {v : Visit} (within : Within expected v)
    (sub : expected ⊆ more) : Within more v := by
  cases within with
  | visit here deeper => exact .visit (sub here) deeper

namespace Rendering

/-- All visits in what happens on any stage have a property. -/
def AllVisits (holds : Visit → Prop) (events : Stage → List Event) : Prop :=
  ∀ stage, ∀ v ∈ Event.visitsAll (events stage), holds v

variable {holds : Visit → Prop} {events further : Stage → List Event}

theorem allVisits_nil : AllVisits holds fun _ => [] := fun _ => List.forall_mem_nil _

theorem AllVisits.append (first : AllVisits holds events) (others : AllVisits holds further) :
    AllVisits holds fun stage => events stage ++ further stage := by
  intro stage
  rw [Event.visitsAll_append]
  exact List.forall_mem_append.mpr ⟨first stage, others stage⟩

theorem allVisits_behind {x : Rendering α} {next : α → Stage → List Event}
    (each : ∀ a, AllVisits holds (next a)) : AllVisits holds (behind x next) := by
  intro stage
  unfold behind
  split
  · exact each _ _
  · exact List.forall_mem_nil _

theorem AllVisits.inLayer (inside : AllVisits holds events) (layer : Layer) :
    AllVisits holds (eventsInLayer layer events) := fun _ => inside _

/-- A script that calls its own body only visits what is visited in there. -/
theorem allVisits_callEvents {bodies : Accessor → Rendering Text}
    {inside : Accessor → Stage → List Event} (own : Accessor) (each : AllVisits holds (inside own))
    {script : Script α} (calls : script.CallsOnly own) :
    AllVisits holds (callEvents own bodies inside script) := by
  intro stage
  induction script generalizing stage with
  | done result => exact List.forall_mem_nil _
  | look _ ih => exact ih _ (calls _) _
  | change _ _ ih => exact ih calls _
  | askBody _ ih => exact ih _ calls _
  | askRendered _ _ ih => exact ih _ (calls _) _
  | callBody accessor next ih =>
      obtain ⟨rfl, calls⟩ := calls
      rw [callEvents, Event.visitsAll]
      refine List.forall_mem_append.mpr ⟨?_, ih _ (calls _) _⟩
      rw [callEvent, Event.visits]
      split
      · exact each stage
      · exact List.forall_mem_nil _

end Rendering

namespace Node

open Rendering

variable {holds : Visit → Prop} {inside : Stage → List Event}

theorem allVisits_visited (each : AllVisits holds inside) (names : List Text) (item : Value) :
    AllVisits holds (visited names item inside) := by
  unfold visited
  split <;> exact allVisits_behind fun _ => allVisits_behind fun _ => each

theorem allVisits_visitedAll (each : AllVisits holds inside) (names : List Text) (state : Value)
    (count : Nat) (body : Rendering (List Value)) (index : Nat) (items : List Value) :
    AllVisits holds (visitedAll names state count body inside index items) := by
  induction items generalizing index with
  | nil => exact allVisits_nil
  | cons item rest ih =>
      exact allVisits_behind fun _ =>
        (allVisits_visited each names item).append (allVisits_behind fun _ => ih _)

theorem allVisits_wovenEvents {inside : Nat → Stage → List Event}
    (each : ∀ index, AllVisits holds (inside index)) (part : Nat → Rendering Text)
    (weave : Weave) : AllVisits holds (wovenEvents part inside weave) := by
  induction weave with
  | done result => exact allVisits_nil
  | look next ih => exact allVisits_behind ih
  | change s next ih => exact allVisits_behind fun _ => ih
  | evaluate e missing next ih => exact allVisits_behind ih
  | part index next ih => exact (each index).append (allVisits_behind ih)
  | within layer deeper next deeper_ih ih =>
      exact (deeper_ih.inLayer layer).append (allVisits_behind ih)

mutual

/-- In a node without inclusions, private tags are visited where they stand. -/
theorem within_history (elsewhere : Elsewhere) (past : Past) (node : Node)
    (fit : Fit Tag.Private true [node]) {expected : List Visit} (sub : visits node ⊆ expected) :
    AllVisits (Visit.Within expected) (history elsewhere past node) := by
  match node with
  | text s =>
      rw [history]
      exact allVisits_nil
  | value e =>
      rw [history]
      exact allVisits_nil
  | choice condition body otherwise =>
      obtain ⟨first, second⟩ := fit_choice.mp fit
      rw [visits, List.append_subset] at sub
      rw [history]
      refine allVisits_behind fun held => ?_
      split
      · exact within_historyAll elsewhere past body first sub.1
      · exact within_historyAll elsewhere past otherwise second sub.2
  | loop names collection backwards body whenEmpty =>
      obtain ⟨first, second⟩ := fit_loop.mp fit
      rw [visits, List.append_subset] at sub
      rw [history]
      refine allVisits_behind fun outside => AllVisits.inLayer ?_ []
      refine allVisits_behind fun v => allVisits_behind fun items => ?_
      split
      · exact within_historyAll elsewhere past whenEmpty second sub.2
      · exact allVisits_behind fun ordered => allVisits_behind fun state =>
          allVisits_visitedAll (within_historyAll elsewhere past body first sub.1) names state _ _
            0 ordered
  | binding bindings body =>
      rw [history]
      exact allVisits_behind fun layer =>
        (within_historyAll elsewhere past body (fit_binding.mp fit) sub).inLayer layer
  | escaping on body =>
      rw [history]
      exact allVisits_behind fun _ => allVisits_behind fun _ =>
        within_historyAll elsewhere past body (fit_escaping.mp fit) sub
  | inclusion serial origin name => cases fit.notClosed
  | group body =>
      rw [history]
      exact within_historyAll elsewhere past body (fit_group.mp fit) sub
  | host weave parts =>
      rw [history]
      exact allVisits_wovenEvents
        (within_historyAt elsewhere past parts (fit_host.mp fit) sub) _ weave
  | element tag identifier source entries body =>
      obtain ⟨isPrivate, inside⟩ := fit_element.mp fit
      have deeper := within_historyAll elsewhere past body inside (List.Subset.refl _)
      rw [history]
      intro stage
      refine List.forall_mem_singleton.mpr (.visit (sub List.mem_cons_self) ?_)
      refine allVisits_behind (fun attributes ready => ?_) _
      have own : AllVisits (Visit.Within (visitsAll body))
          (if ready.bodies.length = ready.bodies.length then historyAll elsewhere past body
            else past.body ready.bodies.length) := by
        rw [if_pos rfl]
        exact deeper
      exact allVisits_callEvents _ own (Tag.callsOnly_act isPrivate attributes) _

/-- In nodes without inclusions, private tags are visited where they stand. -/
theorem within_historyAll (elsewhere : Elsewhere) (past : Past) (nodes : List Node)
    (fit : Fit Tag.Private true nodes) {expected : List Visit} (sub : visitsAll nodes ⊆ expected) :
    AllVisits (Visit.Within expected) (historyAll elsewhere past nodes) := by
  match nodes with
  | [] =>
      rw [historyAll]
      exact allVisits_nil
  | node :: rest =>
      obtain ⟨first, others⟩ := fit_cons.mp fit
      rw [visitsAll, List.append_subset] at sub
      rw [historyAll]
      exact (within_history elsewhere past node first sub.1).append
        (allVisits_behind fun _ => within_historyAll elsewhere past rest others sub.2)

/-- So they are in each of several nodes. -/
theorem within_historyAt (elsewhere : Elsewhere) (past : Past) (nodes : List Node)
    (fit : Fit Tag.Private true nodes) {expected : List Visit} (sub : visitsAll nodes ⊆ expected)
    (index : Nat) : AllVisits (Visit.Within expected) (historyAt elsewhere past nodes index) := by
  match nodes, index with
  | [], _ =>
      rw [historyAt]
      exact allVisits_nil
  | node :: rest, 0 =>
      rw [visitsAll, List.append_subset] at sub
      rw [historyAt]
      exact within_history elsewhere past node (fit_cons.mp fit).1 sub.1
  | node :: rest, index + 1 =>
      rw [visitsAll, List.append_subset] at sub
      rw [historyAt]
      exact within_historyAt elsewhere past rest (fit_cons.mp fit).2 sub.2 index

end

end Node
end ElementTags
