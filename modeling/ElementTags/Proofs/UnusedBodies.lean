import ElementTags.Proofs.Inclusions
import ElementTags.Proofs.Tellings

/-! # Bodies that are not called

What is rendered has nothing to do with the nodes of a body that is not rendered meanwhile
(`ElementTags.Rendering.Unaffected`): with other nodes it comes to the same, and leaves the
same stage but for these nodes. This is told of all renderings
(`ElementTags.Telling.ofUnused`), so that a tag whose body is not called might have any other
body (`ElementTags.Node.played_of_unused`).
-/

namespace ElementTags

open ElementTags.Computation Rendering Node
open Event (callsOf callsOfAll)

variable {α β : Type}

/-! ## Stages with other nodes -/

namespace Stage

/-- The stage on which a body has other nodes. -/
def withNodes (stage : Stage) (a : Accessor) (nodes : List Node) : Stage :=
  { stage with bodies := stage.bodies.modify a fun cell => { cell with nodes := nodes } }

variable {stage after : Stage} {a accessor : Accessor}

theorem length_withNodes (stage : Stage) (a : Accessor) (nodes : List Node) :
    (stage.withNodes a nodes).bodies.length = stage.bodies.length :=
  List.length_modify ..

theorem text?_withNodes (stage : Stage) (a : Accessor) (nodes : List Node) (accessor : Accessor) :
    (stage.withNodes a nodes).text? accessor = stage.text? accessor := by
  rw [text?, text?, withNodes, List.getElem?_modify]
  split <;> cases stage.bodies[accessor]? <;> rfl

theorem getElem?_withNodes (differ : accessor ≠ a) (stage : Stage) (nodes : List Node) :
    (stage.withNodes a nodes).bodies[accessor]? = stage.bodies[accessor]? := by
  rw [withNodes, List.getElem?_modify]
  cases stage.bodies[accessor]? with
  | none => rfl
  | some cell => exact congrArg some (if_neg differ.symm)

theorem withNodes_keepText (stage : Stage) (a accessor : Accessor) (nodes : List Node) (s : Text) :
    (stage.withNodes a nodes).keepText accessor s =
      (stage.keepText accessor s).withNodes a nodes := by
  have bodies (f g : Cell → Cell) (commute : f ∘ g = g ∘ f) :
      (stage.bodies.modify a f).modify accessor g =
        (stage.bodies.modify accessor g).modify a f := by
    by_cases same : a = accessor
    · rw [same, List.modify_modify_eq, List.modify_modify_eq, commute]
    · exact List.modify_modify_ne _ _ _ same
  exact congrArg (fun bodies => { stage with bodies := bodies })
    (bodies (fun cell => { cell with nodes := nodes })
      (fun cell => { cell with text? := some s }) rfl)

/-- A body that was just taken up may get other nodes. -/
theorem withNodes_takeUp_fresh (stage : Stage) (body nodes : List Node) :
    (stage.takeUp body).withNodes stage.bodies.length nodes = stage.takeUp nodes :=
  congrArg (fun bodies => { stage with bodies := bodies }) (List.modifyTailIdx_add _ 0 _ _)

theorem withNodes_takeUp (known : a < stage.bodies.length) (nodes body : List Node) :
    (stage.withNodes a nodes).takeUp body = (stage.takeUp body).withNodes a nodes := by
  have bodies (f : Cell → Cell) (cell : Cell) :
      stage.bodies.modify a f ++ [cell] = (stage.bodies ++ [cell]).modify a f := by
    obtain ⟨front, last, back, split, length, changed⟩ := List.exists_of_modify f known
    rw [changed, split, List.append_assoc, List.append_assoc, ← length]
    exact (List.modifyTailIdx_add (List.modifyHead f) 0 front (last :: (back ++ [cell]))).symm
  exact congrArg (fun bodies => { stage with bodies := bodies }) (bodies _ _)

end Stage

namespace Rendering

variable {a : Accessor} {nodes : List Node}

/-! ## Renderings that a body does not affect -/

/-- On stages on which a body is known, a rendering comes to the same if the body has other nodes,
unless they are rendered. -/
def Unaffected (a : Accessor) (nodes : List Node) (x : Rendering α)
    (events : Stage → List Event) : Prop :=
  ∀ stage : Stage, a < stage.bodies.length → a < (x stage).2.bodies.length ∧
    ((∀ made ∈ callsOfAll a (events stage), made.isRendering = false) →
      x (stage.withNodes a nodes) = ((x stage).1, (x stage).2.withNodes a nodes))

/-- What does not depend on bodies is not affected by them. -/
theorem unaffected_of_apart {x : Rendering α} (apart : ∀ (stage : Stage) (bodies : List Cell),
      x { stage with bodies := bodies } = ((x stage).1, { (x stage).2 with bodies := bodies })) :
    Unaffected a nodes x fun _ => [] := by
  intro stage known
  have same : (x stage).2.bodies = stage.bodies := congrArg (·.2.bodies) (apart stage stage.bodies)
  refine ⟨same ▸ known, fun _ => (apart stage _).trans ?_⟩
  rw [Stage.withNodes, same]

theorem Unaffected.bind {x : Rendering α} {f : α → Rendering β} {before : Stage → List Event}
    {next : α → Stage → List Event} (first : Unaffected a nodes x before)
    (rest : ∀ v, Unaffected a nodes (f v) (next v)) :
    Unaffected a nodes (x >>= f) fun stage => before stage ++ behind x next stage := by
  intro stage known
  obtain ⟨here, same⟩ := first stage known
  simp only [behind, Event.callsOfAll_append, List.forall_mem_append]
  cases ran : x stage with
  | mk result after =>
      rw [ran] at here same
      cases result with
      | ok v =>
          rw [bind_of_ok ran]
          obtain ⟨there, further⟩ := rest v after here
          refine ⟨there, fun unused => ?_⟩
          rw [bind_of_ok (same unused.1)]
          exact further unused.2
      | error fault =>
          rw [bind_of_error ran]
          exact ⟨here, fun unused => bind_of_error (same unused.1)⟩

theorem Unaffected.inLayer {x : Rendering α} {events : Stage → List Event}
    (inside : Unaffected a nodes x events) (layer : Layer) :
    Unaffected a nodes (inLayer layer x) (eventsInLayer layer events) := by
  intro stage known
  obtain ⟨there, same⟩ := inside { stage with scope := stage.scope.push layer } known
  refine ⟨there, fun unused => ?_⟩
  exact congrArg (fun ran : Except Fault α × Stage =>
    (ran.1, { ran.2 with scope := ran.2.scope.dropTop })) (same unused)

/-! ## Scripts -/

/-- What renders a body takes no body away, and is not affected by another body. -/
structure Spares (a : Accessor) (nodes : List Node) (accessor : Accessor) (render : Rendering Text)
    (events : Stage → List Event) : Prop where
  known : ∀ stage : Stage, a < stage.bodies.length → a < (render stage).2.bodies.length
  other : accessor ≠ a → Unaffected a nodes render events

/-- A call is not affected by a body that is not rendered for it. It gives the text of the body if
that is called, which has one then. -/
theorem unaffected_call {accessor : Accessor} {render instead : Rendering Text}
    {events : Stage → List Event} (spares : Spares a nodes accessor render events)
    (alike : accessor ≠ a → instead = render) {stage : Stage} (known : a < stage.bodies.length) :
    a < (call accessor render stage).2.bodies.length ∧
      ((∀ made ∈ callsOf a (callEvent accessor render events stage), made.isRendering = false) →
        call accessor instead (stage.withNodes a nodes) =
          ((call accessor render stage).1, (call accessor render stage).2.withNodes a nodes)) := by
  cases text : stage.text? accessor with
  | some s =>
      have given : (stage.withNodes a nodes).text? accessor = some s := by
        rw [Stage.text?_withNodes, text]
      rw [call_of_text text, call_of_text given]
      exact ⟨known, fun _ => rfl⟩
  | none =>
      have missing : (stage.withNodes a nodes).text? accessor = none := by
        rw [Stage.text?_withNodes, text]
      have grown (s : Text) (after : Stage) :
          (after.keepText accessor s).bodies.length = after.bodies.length := List.length_modify ..
      rw [callEvent_of_none text, callsOf]
      by_cases here : accessor = a
      · have there := spares.known stage known
        rw [if_pos here]
        refine ⟨?_, fun unused => ?_⟩
        · cases came : render stage with
          | mk reply after =>
              rw [came] at there
              cases reply with
              | ok s =>
                  rw [call_of_ok text came]
                  exact (grown s after).symm ▸ there
              | error fault =>
                  rw [call_of_error text came]
                  exact there
        · cases unused _ List.mem_cons_self
      · obtain ⟨there, same⟩ := spares.other here stage known
        rw [if_neg here, alike here]
        cases came : render stage with
        | mk reply after =>
            rw [came] at there same
            cases reply with
            | ok s =>
                rw [call_of_ok text came]
                refine ⟨(grown s after).symm ▸ there, fun unused => ?_⟩
                rw [call_of_ok missing (same unused), Stage.withNodes_keepText]
            | error fault =>
                rw [call_of_error text came]
                exact ⟨there, fun unused => call_of_error missing (same unused)⟩

/-- Nor is a script affected by a body that is not rendered for its calls. -/
theorem unaffected_perform {bodies instead : Accessor → Rendering Text}
    {inside : Accessor → Stage → List Event}
    (spares : ∀ accessor, Spares a nodes accessor (bodies accessor) (inside accessor))
    (alike : ∀ accessor, accessor ≠ a → instead accessor = bodies accessor) (own : Accessor)
    (script : Script α) {stage : Stage} (known : a < stage.bodies.length) :
    a < (perform own bodies script stage).2.bodies.length ∧
      ((∀ made ∈ callsOfAll a (callEvents own bodies inside script stage),
          made.isRendering = false) →
        perform own instead script (stage.withNodes a nodes) =
          ((perform own bodies script stage).1,
            (perform own bodies script stage).2.withNodes a nodes)) := by
  induction script generalizing stage with
  | done result => exact ⟨known, fun _ => rfl⟩
  | look _ ih => exact ih stage.surroundings known
  | change s _ ih => exact @ih (stage.inSurroundings s) known
  | askBody _ ih => exact ih (.deferred own) known
  | askRendered accessor next ih =>
      rw [perform_askRendered, perform_askRendered, Stage.text?_withNodes]
      exact ih (stage.text? accessor).isSome known
  | callBody accessor next ih =>
      obtain ⟨there, same⟩ := unaffected_call (spares accessor) (alike accessor) known
      obtain ⟨last, later⟩ := ih (call accessor (bodies accessor) stage).1 there
      rw [callEvents, callsOfAll, List.forall_mem_append]
      refine ⟨last, fun unused => ?_⟩
      rw [perform_callBody, same unused.1]
      exact later unused.2

end Rendering

/-! ## Tags -/

namespace Node

variable {elsewhere : Elsewhere} {past : Past} {a : Accessor} {body nodes : List Node}

/-- While a tag is performed, its own body is one more that may be rendered. -/
theorem spares_bodiesOf {own : Accessor}
    (known : ∀ stage : Stage, a < stage.bodies.length →
      a < (bodyText elsewhere body stage).2.bodies.length)
    (other : own ≠ a →
      Unaffected a nodes (bodyText elsewhere body) (historyAll elsewhere past body))
    (others : ∀ accessor, Spares a nodes accessor (elsewhere.body accessor) (past.body accessor))
    (accessor : Accessor) :
    Spares a nodes accessor (bodiesOf elsewhere body own accessor)
      (if accessor = own then historyAll elsewhere past body else past.body accessor) := by
  unfold bodiesOf
  split
  case isTrue same => exact ⟨known, fun differ => other (same ▸ differ)⟩
  case isFalse => exact others accessor

/-- While a tag is performed that takes up its own body, another body does not affect it. -/
theorem unaffected_played (tag : Tag) (attributes : List Value)
    (inside : Unaffected a nodes (bodyText elsewhere body) (historyAll elsewhere past body))
    (others : ∀ accessor, Spares a nodes accessor (elsewhere.body accessor) (past.body accessor))
    {ready : Stage} (known : a < ready.bodies.length) :
    a < (played elsewhere tag attributes body ready).2.bodies.length ∧
      ((∀ made ∈ callsOfAll a (playedEvents elsewhere past tag attributes body ready),
          made.isRendering = false) →
        played elsewhere tag attributes body (ready.withNodes a nodes) =
          ((played elsewhere tag attributes body ready).1,
            (played elsewhere tag attributes body ready).2.withNodes a nodes)) := by
  have spares := @spares_bodiesOf elsewhere past a body nodes ready.bodies.length
    (fun stage known => (inside stage known).1) (fun _ => inside) others
  have taken : a < (ready.takeUp body).bodies.length := by
    rw [Stage.takeUp, List.length_append]
    exact Nat.lt_add_right _ known
  rw [played, played, Stage.length_withNodes, Stage.withNodes_takeUp known]
  exact unaffected_perform spares (fun _ _ => rfl) _ _ taken

/-- A use of a tag is not affected by the body of another one. -/
theorem unaffected_element {tag : Tag}
    (inside : Unaffected a nodes (bodyText elsewhere body) (historyAll elsewhere past body))
    (others : ∀ accessor, Spares a nodes accessor (elsewhere.body accessor) (past.body accessor))
    (identifier source : Text) (entries : List Entry) :
    Unaffected a nodes (render elsewhere (.element tag identifier source entries body))
      (history elsewhere past (.element tag identifier source entries body)) := by
  intro stage known
  obtain ⟨there, same⟩ := @unaffected_of_apart _ a nodes _
    (silent_ofScoped (Entry.resolveAll entries)).bodies (announced tag identifier stage) known
  have apart := same (List.forall_mem_nil _)
  rw [history_element, render_element, render_element,
    show announced tag identifier (stage.withNodes a nodes) =
      (announced tag identifier stage).withNodes a nodes from rfl, apart]
  cases resolved : ofScoped (Entry.resolveAll entries) (announced tag identifier stage) with
  | mk outcome ready =>
      rw [resolved] at there
      cases outcome with
      | error fault => exact ⟨there, fun _ => rfl⟩
      | ok attributes =>
          obtain ⟨last, alike⟩ := unaffected_played tag attributes inside others there
          refine ⟨(bodies_reported tag identifier _).symm ▸ last, fun unused => ?_⟩
          rw [callsOfAll, callsOf, callsOfAll, List.append_nil] at unused
          dsimp only
          rw [alike unused]
          rcases played elsewhere tag attributes body ready with ⟨fault | v, after⟩ <;> rfl

end Node

/-- The body of another tag is found with its nodes. -/
theorem Rendering.spares_elsewhere {shelf : Shelf} {a : Accessor} {nodes : List Node} {depth : Nat}
    (within : ∀ body, Unaffected a nodes (shelf.renderWithin depth body)
      (shelf.historyWithin depth body)) (accessor : Accessor) :
    Spares a nodes accessor ((shelf.elsewhere depth).body accessor)
      ((shelf.past depth).body accessor) := by
  constructor
  · intro stage known
    change a < ((nodesOf accessor >>= shelf.renderWithin depth) stage).2.bodies.length
    cases found : stage.bodies[accessor]? with
    | none => rwa [bind_of_error (show nodesOf accessor stage = _ by rw [nodesOf, found])]
    | some cell =>
        rw [bind_of_ok (show nodesOf accessor stage = _ by rw [nodesOf, found])]
        exact (within cell.nodes stage known).1
  · intro differ
    have apart : Unaffected a nodes (nodesOf accessor) fun _ => [] := by
      intro stage known
      rw [nodesOf, nodesOf, Stage.getElem?_withNodes differ]
      cases stage.bodies[accessor]? <;> exact ⟨known, fun _ => rfl⟩
    exact apart.bind within

/-- That renderings are not affected by a body is told of all of them. -/
def Telling.ofUnused (shelf : Shelf) (a : Accessor) (nodes : List Node) : Telling shelf where
  tags _ := True
  isClosed := false
  Tells := Unaffected a nodes
  Renders := Spares a nodes
  silent quiet := unaffected_of_apart quiet.bodies
  bind := Unaffected.bind
  inLayer := Unaffected.inLayer
  element _ _ inside others := unaffected_element inside others
  found _ := ⟨fun _ => fit_open_iff.mpr fun _ _ => trivial, fun serial names =>
    unaffected_of_apart (shelf.lookUp_withBodies serial names)⟩
  elsewhere _ within :=
    spares_elsewhere fun body => within body (fit_open_iff.mpr fun _ _ => trivial)

/-! ## The own body of a tag -/

/-- **A body that is not called might be any other one.** If a tag is performed and nothing that
happens meanwhile is a call of its body, it comes to the same with other nodes. -/
theorem Node.played_of_unused (shelf : Shelf) (depth : Nat) (tag : Tag) (attributes : List Value)
    (body instead : List Node) (ready : Stage)
    (unused : callsOfAll ready.bodies.length
      (playedEvents (shelf.elsewhere depth) (shelf.past depth) tag attributes body ready) = []) :
    played (shelf.elsewhere depth) tag attributes instead ready =
      ((played (shelf.elsewhere depth) tag attributes body ready).1,
        (played (shelf.elsewhere depth) tag attributes body ready).2.withNodes
          ready.bodies.length instead) := by
  let T := Telling.ofUnused shelf ready.bodies.length instead
  have fit (nodes : List Node) : Fit T.tags T.isClosed nodes :=
    fit_open_iff.mpr fun _ _ => trivial
  have covered : T.Covers (shelf.elsewhere depth) (shelf.past depth) :=
    Telling.covers_elsewhere fun nodes fit => T.tells_renderWithin depth fit
  have inside := (Telling.tells_renderAll covered body (fit body)).bodyText
  have spares := @spares_bodiesOf _ _ _ _ instead ready.bodies.length
    (fun stage known => (inside stage known).1) (fun other => absurd rfl other) covered.body
  have taken : ready.bodies.length < (ready.takeUp body).bodies.length := by
    rw [Stage.takeUp, List.length_append]
    exact Nat.lt_add_one _
  have others (accessor : Accessor) (other : accessor ≠ ready.bodies.length) :
      bodiesOf (shelf.elsewhere depth) instead ready.bodies.length accessor =
        bodiesOf (shelf.elsewhere depth) body ready.bodies.length accessor := by
    rw [bodiesOf, bodiesOf, if_neg other, if_neg other]
  rw [played, ← Stage.withNodes_takeUp_fresh ready body instead]
  exact (unaffected_perform spares others _ _ taken).2 (unused ▸ List.forall_mem_nil _)

end ElementTags
