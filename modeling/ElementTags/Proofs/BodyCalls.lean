import ElementTags.Proofs.Drafting
import ElementTags.Proofs.Recordings
import ElementTags.Proofs.UnusedBodies

/-! # Calls of a body

While a tag is rendered its body may be called any number of times, by its own script or by
others that the body was handed on to, and the stage may change in between. As long as these
calls fail, the next one renders the nodes of the body anew; once a call gives a text, all later
ones give the same text and leave the stage as it is (`ElementTags.Replies`). This holds if no
call of the body lies within another one: a body that is called while it is being rendered is
rendered once more (`ElementTags.Node.not_render_once_within`).
-/

namespace ElementTags

open ElementTags.Computation Rendering Node

variable {α : Type}

namespace BodyCall

/-- The nodes of the body are rendered on a shelf, on the stage as it is at the call. -/
structure Renders (shelf : Shelf) (body : List Node) (call : BodyCall) : Prop where
  isRendering : call.isRendering = true
  ran : ∃ depth, (shelf.renderWithin depth body call.before).1 = call.reply

/-- The call gives a text that is known, and does nothing else. -/
structure Repeats (s : Text) (call : BodyCall) : Prop where
  isRendering : call.isRendering = false
  reply : call.reply = .ok s
  untouched : call.after = call.before

/-- Whether the nodes of the body are rendered to their end. -/
def completes (call : BodyCall) : Bool := call.isRendering && call.reply.toBool

end BodyCall

/-! ## Replies of a body -/

/-- The calls of a body one after the other, from a stage on which it has some text or none to one
on which it has another. While it has none, a call renders the nodes, and the body has a text
afterwards if that succeeds. When it has a text, calls repeat it. -/
inductive Replies (renders : BodyCall → Prop) :
    Option Text → List BodyCall → Option Text → Prop
  | nil (known : Option Text) : Replies renders known [] known
  | repeated {s : Text} {call : BodyCall} {calls : List BodyCall} {last : Option Text}
      (repeats : call.Repeats s) (later : Replies renders (some s) calls last) :
      Replies renders (some s) (call :: calls) last
  | failed {fault : Fault} {call : BodyCall} {calls : List BodyCall} {last : Option Text}
      (here : renders call) (reply : call.reply = .error fault)
      (later : Replies renders none calls last) : Replies renders none (call :: calls) last
  | rendered {s : Text} {call : BodyCall} {calls : List BodyCall} {last : Option Text}
      (here : renders call) (reply : call.reply = .ok s)
      (later : Replies renders (some s) calls last) : Replies renders none (call :: calls) last

namespace Replies

variable {renders : BodyCall → Prop} {known middle last : Option Text} {s : Text}
  {calls further : List BodyCall}

theorem append (first : Replies renders known calls middle)
    (next : Replies renders middle further last) :
    Replies renders known (calls ++ further) last := by
  induction first with
  | nil _ => exact next
  | repeated repeats _ ih => exact .repeated repeats (ih next)
  | failed here reply _ ih => exact .failed here reply (ih next)
  | rendered here reply _ ih => exact .rendered here reply (ih next)

theorem eq_of_nil (none : Replies renders known [] last) : last = known := by
  cases none
  rfl

/-- Once a body has a text it keeps it, and there are only repetitions. -/
theorem of_text (replies : Replies renders (some s) calls last) :
    last = some s ∧ ∀ call ∈ calls, call.Repeats s := by
  generalize given : some s = known at replies
  induction replies with
  | nil _ =>
      cases given
      exact ⟨rfl, List.forall_mem_nil _⟩
  | repeated repeats _ ih =>
      cases given
      exact ⟨(ih rfl).1, List.forall_mem_cons.mpr ⟨repeats, (ih rfl).2⟩⟩
  | failed _ _ _ _ => cases given
  | rendered _ _ _ _ => cases given

theorem countP_completes_of_repeats (repeats : ∀ call ∈ calls, call.Repeats s) :
    calls.countP BodyCall.completes = 0 := by
  refine List.countP_eq_zero.mpr fun call member => ?_
  rw [BodyCall.completes, (repeats call member).isRendering]
  exact Bool.false_ne_true

/-- The nodes are rendered to their end at most once. -/
theorem countP_completes_le_one (replies : Replies renders known calls last) :
    calls.countP BodyCall.completes ≤ 1 := by
  induction replies with
  | nil _ => exact Nat.zero_le 1
  | repeated repeats later _ =>
      refine Nat.le_trans (Nat.le_of_eq ?_) (Nat.zero_le 1)
      exact countP_completes_of_repeats (List.forall_mem_cons.mpr ⟨repeats, later.of_text.2⟩)
  | failed _ reply _ ih =>
      rw [List.countP_cons_of_neg]
      · exact ih
      · rw [BodyCall.completes, reply, Except.toBool, Bool.and_false]
        exact Bool.false_ne_true
  | rendered _ _ later _ =>
      rw [List.countP_cons, countP_completes_of_repeats later.of_text.2]
      split <;> omega

/-- Every call that gives a text gives the one that rendering the nodes gave, and which the body has
in the end. -/
theorem exists_renders (replies : Replies renders none calls last) {call : BodyCall}
    (member : call ∈ calls) (text : call.reply = .ok s) :
    last = some s ∧ ∃ first ∈ calls, renders first ∧ first.reply = .ok s := by
  generalize unknown : (none : Option Text) = known at replies
  induction replies with
  | nil _ => cases member
  | repeated _ _ _ => cases unknown
  | failed _ reply _ ih =>
      rcases List.mem_cons.mp member with rfl | member
      · rw [reply] at text
        cases text
      · obtain ⟨kept, first, inside, rest⟩ := ih member rfl
        exact ⟨kept, first, List.mem_cons_of_mem _ inside, rest⟩
  | @rendered t opening calls last here reply later _ =>
      obtain ⟨kept, repeats⟩ := later.of_text
      have same : t = s := by
        rcases List.mem_cons.mp member with rfl | member
        · exact Except.ok.inj (reply.symm.trans text)
        · exact Except.ok.inj ((repeats call member).reply.symm.trans text)
      subst same
      exact ⟨kept, opening, List.mem_cons_self, here, reply⟩

end Replies

open Event (callsOf callsOfAll areFlat isFlat)

/-! ## The replies as a recording -/

variable {shelf : Shelf} {a : Accessor} {body : List Node}

/-- A body is known on a stage, with its nodes. -/
def Stage.Knows (a : Accessor) (body : List Node) (stage : Stage) : Prop :=
  (stage.bodies.map (·.nodes))[a]? = some body

namespace Stage

variable {stage after : Stage}

theorem Knows.lt_length (knows : stage.Knows a body) : a < stage.bodies.length := by
  obtain ⟨known, -⟩ := List.getElem?_eq_some_iff.mp knows
  rwa [List.length_map] at known

theorem Knows.of_bodies (knows : stage.Knows a body) (same : after.bodies = stage.bodies) :
    after.Knows a body := by
  rw [Knows, same]
  exact knows

theorem Knows.keepText (knows : stage.Knows a body) (accessor : Accessor) (s : Text) :
    (stage.keepText accessor s).Knows a body := by
  rw [Knows, nodes_keepText]
  exact knows

theorem Knows.takeUp (knows : stage.Knows a body) (nodes : List Node) :
    (stage.takeUp nodes).Knows a body := by
  have known : a < (stage.bodies.map (·.nodes)).length := by
    rw [List.length_map]
    exact knows.lt_length
  rw [Knows, Stage.takeUp, List.map_append, List.getElem?_append_left known]
  exact knows

theorem knows_takeUp (stage : Stage) (body : List Node) :
    (stage.takeUp body).Knows stage.bodies.length body := by
  rw [Knows, takeUp, List.map_append, List.getElem?_append_right (by rw [List.length_map]),
    List.length_map, Nat.sub_self]
  rfl

theorem text?_of_bodies (same : after.bodies = stage.bodies) (accessor : Accessor) :
    after.text? accessor = stage.text? accessor := by
  rw [text?, same, text?]

end Stage

/-- Looking a template up leaves bodies alone. -/
theorem Shelf.bodies_lookUp (shelf : Shelf) (serial : Nat) (names : List Text) (stage : Stage) :
    (shelf.lookUp serial names stage).2.bodies = stage.bodies :=
  congrArg (·.2.bodies) (lookUp_withBodies serial names stage stage.bodies)

/-- The replies of a body, provided that none of its calls lies within another one. -/
def Recording.ofBody (shelf : Shelf) (a : Accessor) (body : List Node) : Recording where
  tags _ := True
  isClosed := false
  Ready := Stage.Knows a body
  Told stage _ after events := areFlat a events = true →
    Replies (BodyCall.Renders shelf body) (stage.text? a) (callsOfAll a events) (after.text? a)
  Renders accessor inner := accessor = a →
    ∃ depth, ∀ stage, stage.Knows a body → inner stage = shelf.renderWithin depth body stage
  ready_still still knows := knows.of_bodies still.bodies
  fits _ _ _ := fit_open_iff.mpr fun _ _ => trivial
  nothing _ _ _ := .nil _
  around before told behind flat := by
    rw [← Stage.text?_of_bodies before.bodies, Stage.text?_of_bodies behind.bodies]
    exact told flat
  followed first next flat := by
    rw [Event.areFlat_append, Bool.and_eq_true] at flat
    rw [Event.callsOfAll_append]
    exact (first flat.1).append (next flat.2)
  ready_takeUp knows _ := knows.takeUp _
  told_takeUp told flat := by
    rw [← Stage.text?_takeUp]
    exact told flat
  renders_takeUp knows _ same := absurd same.symm (Nat.ne_of_lt knows.lt_length)
  told_visit _ still told flat := by
    rw [areFlat, isFlat, areFlat, Bool.and_true] at flat
    rw [callsOfAll, callsOf, callsOfAll, List.append_nil,
      Stage.text?_of_bodies (bodies_reported _ _ _)]
    have same := Stage.text?_of_bodies still.bodies a
    exact same ▸ told flat
  ready_trace _ knows := knows
  found _ := ⟨fun _ => fit_open_iff.mpr fun _ _ => trivial, fun knows =>
    ⟨knows.of_bodies (Shelf.bodies_lookUp _ _ _ _), fun _ => by
      rw [Stage.text?_of_bodies (Shelf.bodies_lookUp _ _ _ _)]
      exact .nil _⟩⟩

namespace Rendering

variable {bodies : Accessor → Rendering Text} {inside : Accessor → Stage → List Event}
  {accessor : Accessor} {render : Rendering Text} {events : Stage → List Event}
  {stage after : Stage} {s : Text} {fault : Fault}

/-- The own replies of a body that has no text, where no call lies within another one. -/
theorem replies_call_self (tells : (Recording.ofBody shelf a body).Tells render events)
    (renders : (Recording.ofBody shelf a body).Renders a render) (knows : stage.Knows a body)
    (unknown : stage.text? a = none) :
    (call a render stage).2.Knows a body ∧ (isFlat a (callEvent a render events stage) = true →
      Replies (BodyCall.Renders shelf body) none (callsOf a (callEvent a render events stage))
        ((call a render stage).2.text? a)) := by
  obtain ⟨there, told⟩ := tells stage knows
  obtain ⟨depth, renders⟩ := renders rfl
  have given (reply : Except Fault Text) (came : (render stage).1 = reply) :
      (shelf.renderWithin depth body stage).1 = reply := by rw [← renders stage knows, came]
  -- No call lies within this one, so that the body has no text when its nodes are rendered.
  have alone {made : BodyCall} (flat : isFlat a (.call made (events stage)) = true)
      (here : made.accessor = a) :
      callsOfAll a (events stage) = [] ∧ (render stage).2.text? a = none := by
    rw [isFlat, here, bne_self_eq_false, Bool.false_or, Bool.and_eq_true] at flat
    have none := List.isEmpty_iff.mp flat.2
    have replies := told flat.1
    rw [none, unknown] at replies
    exact ⟨none, replies.eq_of_nil⟩
  cases came : render stage with
  | mk reply after =>
      rw [came] at there alone given
      cases reply with
      | ok s =>
          rw [callEvent_of_none unknown, call_of_ok unknown came]
          refine ⟨there.keepText a s, fun flat => ?_⟩
          rw [callsOf, if_pos rfl, (alone flat rfl).1, Stage.text?_keepText_self there.lt_length]
          exact .rendered ⟨rfl, depth, given _ rfl⟩ rfl (.nil _)
      | error fault =>
          rw [callEvent_of_none unknown, call_of_error unknown came]
          refine ⟨there, fun flat => ?_⟩
          rw [callsOf, if_pos rfl, (alone flat rfl).1, (alone flat rfl).2]
          exact .failed ⟨rfl, depth, given _ rfl⟩ rfl (.nil _)

/-- A call of another body replies what it likes to. -/
theorem replies_call_other (tells : (Recording.ofBody shelf a body).Tells render events)
    (differ : accessor ≠ a) (knows : stage.Knows a body) (unknown : stage.text? accessor = none) :
    (call accessor render stage).2.Knows a body ∧
      (isFlat a (callEvent accessor render events stage) = true →
        Replies (BodyCall.Renders shelf body) (stage.text? a)
          (callsOf a (callEvent accessor render events stage))
          ((call accessor render stage).2.text? a)) := by
  obtain ⟨there, told⟩ := tells stage knows
  cases came : render stage with
  | mk reply after =>
      rw [came] at there told
      cases reply with
      | ok s =>
          rw [callEvent_of_none unknown, call_of_ok unknown came, isFlat, callsOf, if_neg differ,
            Stage.text?_keepText_of_ne differ]
          exact ⟨there.keepText accessor s, fun flat => told (Bool.and_eq_true _ _ ▸ flat).1⟩
      | error fault =>
          rw [callEvent_of_none unknown, call_of_error unknown came, isFlat, callsOf, if_neg differ]
          exact ⟨there, fun flat => told (Bool.and_eq_true _ _ ▸ flat).1⟩

/-- A call replies the text of the body if there is one, and what rendering the nodes gives
otherwise. -/
theorem replies_call (tells : (Recording.ofBody shelf a body).Tells render events)
    (renders : (Recording.ofBody shelf a body).Renders accessor render)
    (knows : stage.Knows a body) :
    (call accessor render stage).2.Knows a body ∧
      (isFlat a (callEvent accessor render events stage) = true →
        Replies (BodyCall.Renders shelf body) (stage.text? a)
          (callsOf a (callEvent accessor render events stage))
          ((call accessor render stage).2.text? a)) := by
  cases known : stage.text? accessor with
  | none =>
      by_cases here : accessor = a
      · subst here
        rw [known]
        exact replies_call_self tells renders knows known
      · exact replies_call_other tells here knows known
  | some s =>
      rw [callEvent_of_text known, call_of_text known, callsOf]
      refine ⟨knows, fun _ => ?_⟩
      split
      case isTrue here =>
        subst here
        rw [known]
        exact .repeated ⟨rfl, rfl, rfl⟩ (.nil _)
      case isFalse => exact .nil _

/-- The replies of a body while a script is performed. -/
theorem replies_perform (tells : ∀ accessor,
      (Recording.ofBody shelf a body).Tells (bodies accessor) (inside accessor))
    (renders : ∀ accessor, (Recording.ofBody shelf a body).Renders accessor (bodies accessor))
    (own : Accessor) (script : Script α) {stage : Stage} (knows : stage.Knows a body) :
    (perform own bodies script stage).2.Knows a body ∧
      (areFlat a (callEvents own bodies inside script stage) = true →
        Replies (BodyCall.Renders shelf body) (stage.text? a)
          (callsOfAll a (callEvents own bodies inside script stage))
          ((perform own bodies script stage).2.text? a)) := by
  induction script generalizing stage with
  | done result => exact ⟨knows, fun _ => .nil _⟩
  | look _ ih => exact ih _ knows
  | change _ _ ih => exact ih knows
  | askBody _ ih => exact ih _ knows
  | askRendered _ _ ih => exact ih _ knows
  | callBody accessor next ih =>
      obtain ⟨there, here⟩ := replies_call (tells accessor) (renders accessor) knows
      obtain ⟨last, later⟩ := ih (call accessor (bodies accessor) stage).1 there
      rw [perform_callBody, callEvents, areFlat, callsOfAll]
      refine ⟨last, fun flat => ?_⟩
      obtain ⟨first, rest⟩ := Bool.and_eq_true _ _ ▸ flat
      exact (here first).append (later rest)

end Rendering

/-- All tags let the replies of a body be recorded. -/
theorem Recording.performs_ofBody (tag : Tag) : (Recording.ofBody shelf a body).Performs tag :=
  fun own _ _ tells renders _ _ knows => replies_perform tells renders own _ knows

/-- On a shelf, a body is rendered elsewhere as its nodes are. -/
theorem Recording.renders_elsewhere (depth : Nat) (accessor : Accessor) :
    (Recording.ofBody shelf a body).Renders accessor ((shelf.elsewhere depth).body accessor) := by
  rintro rfl
  refine ⟨depth, fun stage knows => ?_⟩
  rw [Stage.Knows, List.getElem?_map] at knows
  obtain ⟨cell, known, rfl⟩ := Option.map_eq_some_iff.mp knows
  exact bind_of_ok (show nodesOf accessor stage = (.ok cell.nodes, stage) by rw [nodesOf, known])

/-- An element that is no container calls no body. -/
theorem Rendering.callEvents_default (own : Accessor) (bodies : Accessor → Rendering Text)
    (inside : Accessor → Stage → List Event) {tag : Tag} (default : tag.behaviour = .default)
    (bodiless : tag.hasBody = false) (attributes : List Value) (stage : Stage) :
    callEvents own bodies inside (tag.act attributes) stage = [] := by
  have plain : tag.element.isContainer = false := bodiless
  simp only [Tag.act, default, Behaviour.default, Behaviour.element, plain, Acting.serialize,
    Acting.surroundings, Acting.put, Acting.ofExcept, bind, ExceptT.bind, ExceptT.mk, Script.bind,
    ExceptT.bindCont, callEvents, Stage.surroundings]
  rcases Markup.serializeValue stage.ledger.configuration
    (stage.scope.current (.list attributes)) with ⟨fault | text, lines⟩ <;> rfl

/-! ## Nodes and their bodies -/

namespace Node

/-- The body that a tag takes up has the replies of its nodes, where no call lies within another
one. -/
theorem replies_played (shelf : Shelf) (depth : Nat) (tag : Tag) (attributes : List Value)
    (body : List Node) (ready : Stage) :
    ready.bodies.length <
        (played (shelf.elsewhere depth) tag attributes body ready).2.bodies.length ∧
      (areFlat ready.bodies.length
        (playedEvents (shelf.elsewhere depth) (shelf.past depth) tag attributes body ready) = true →
        Replies (BodyCall.Renders shelf body) none
          (callsOfAll ready.bodies.length
            (playedEvents (shelf.elsewhere depth) (shelf.past depth) tag attributes body ready))
          ((played (shelf.elsewhere depth) tag attributes body ready).2.text?
            ready.bodies.length)) := by
  let T := (Recording.ofBody shelf ready.bodies.length body).telling shelf
    (fun tag _ => Recording.performs_ofBody tag) Recording.renders_elsewhere
  have fit (nodes : List Node) : Fit T.tags T.isClosed nodes :=
    fit_open_iff.mpr fun _ _ => trivial
  have covered : T.Covers (shelf.elsewhere depth) (shelf.past depth) :=
    Telling.covers_elsewhere fun nodes fit => T.tells_renderWithin depth fit
  have inside := (Telling.tells_renderAll covered body (fit body)).bodyText
  have bodies := Recording.records_bodiesOf ready.bodies.length inside
    (fun _ => ⟨depth + 1, fun _ _ => rfl⟩) covered.body
  obtain ⟨there, replies⟩ := replies_perform (fun accessor => (bodies accessor).1)
    (fun accessor => (bodies accessor).2) ready.bodies.length (tag.act attributes)
    (Stage.knows_takeUp ready body)
  rw [Stage.text?_takeUp_fresh] at replies
  exact ⟨there.lt_length, replies⟩

/-- **The body of a tag is rendered at most once** while the tag is rendered, whatever behaviours
do, as long as no call of the body lies within another one. If the attributes of the tag cannot be
resolved, the tag fails and nothing happens within its visit. Otherwise a body is taken up that was
not known before and has no text, so that no rendering of the tag starts with the text of another
one. Each call before the first one that succeeds renders the nodes anew, on the stage as it is
then, and so does this one. All later calls give its text and do nothing else.

A body that is never called might be any other one: the tag comes to the same, and leaves the same
stage but for the nodes of this body. No body is called if the tag is no container and has the
default behaviour. -/
theorem render_once (shelf : Shelf) (depth : Nat) (tag : Tag) (identifier source : Text)
    (entries : List Entry) (body : List Node) (stage : Stage) :
    (∃ fault after,
      ofScoped (Entry.resolveAll entries) (announced tag identifier stage) = (.error fault, after) ∧
      render (shelf.elsewhere depth) (.element tag identifier source entries body) stage =
        (.error fault, after) ∧
      history (shelf.elsewhere depth) (shelf.past depth)
        (.element tag identifier source entries body) stage =
          [.visit tag.name identifier false []]) ∨
    ∃ attributes ready own inside result after,
      ofScoped (Entry.resolveAll entries) (announced tag identifier stage) =
        (.ok attributes, ready) ∧
      render (shelf.elsewhere depth) (.element tag identifier source entries body) stage =
        reported tag identifier (result, after) ∧
      history (shelf.elsewhere depth) (shelf.past depth)
        (.element tag identifier source entries body) stage =
          [.visit tag.name identifier result.toBool inside] ∧
      own = stage.bodies.length ∧ own < after.bodies.length ∧
      (areFlat own inside = true →
        Replies (BodyCall.Renders shelf body) none (callsOfAll own inside) (after.text? own) ∧
        (callsOfAll own inside).countP BodyCall.completes ≤ 1 ∧
        ∀ call ∈ callsOfAll own inside, ∀ s, call.reply = .ok s → after.text? own = some s ∧
          ∃ first ∈ callsOfAll own inside, first.Renders shelf body ∧ first.reply = .ok s) ∧
      (callsOfAll own inside = [] → ∀ instead,
        render (shelf.elsewhere depth) (.element tag identifier source entries instead) stage =
          reported tag identifier (result, after.withNodes own instead)) ∧
      (tag.behaviour = .default → tag.hasBody = false → inside = []) := by
  have still := (silent_ofScoped (Entry.resolveAll entries)).still (announced tag identifier stage)
  rw [history_element]
  cases resolved : ofScoped (Entry.resolveAll entries) (announced tag identifier stage) with
  | mk outcome ready =>
      rw [resolved] at still
      have comes (nodes : List Node) :=
        render_element (shelf.elsewhere depth) tag identifier source entries nodes stage
      rw [resolved] at comes
      cases outcome with
      | error fault =>
          rw [comes body]
          exact .inl ⟨fault, ready, rfl, rfl, rfl⟩
      | ok attributes =>
          obtain ⟨fresh, replies⟩ := replies_played shelf depth tag attributes body ready
          rw [comes body]
          refine .inr ⟨attributes, ready, ready.bodies.length,
            playedEvents (shelf.elsewhere depth) (shelf.past depth) tag attributes body ready,
            (played (shelf.elsewhere depth) tag attributes body ready).1,
            (played (shelf.elsewhere depth) tag attributes body ready).2, rfl, rfl, ?_,
            congrArg List.length still.bodies, fresh, fun flat => ?_, fun unused instead => ?_,
            fun default bodiless => callEvents_default _ _ _ default bodiless _ _⟩
          · dsimp only
            rw [toBool_reported]
          · exact ⟨replies flat, (replies flat).countP_completes_le_one,
              fun call member s text => (replies flat).exists_renders member text⟩
          · rw [comes instead]
            exact congrArg (reported tag identifier)
              (played_of_unused shelf depth tag attributes body instead ready unused)

/-- A tag that calls its body twice, with a tag in it that counts: the nodes are rendered for the
first call, and the second one gives the same text. -/
theorem render_once_repeated :
    let twice : Tag := { Tag.simple ['b'] true with behaviour := .repeated 2 }
    let counter : Tag := { Tag.simple ['n'] false with behaviour := .count }
    let node : Node := .element twice (Ledger.identifier 1) "\x7b% b %\x7d".toList []
      [.element counter (Ledger.identifier 2) "\x7b% n %\x7d".toList [] []]
    let shelf : Shelf := ⟨{ tags := [twice, counter] }, []⟩
    let stage := Stage.start (Ledger.start .unset false) (Scope.ofData [] true)
    ∃ isDone inside, history (shelf.elsewhere 0) (shelf.past 0) node stage =
        [.visit ['b'] (Ledger.identifier 1) isDone inside] ∧
      areFlat 0 inside = true ∧
      (callsOfAll 0 inside).map (fun call => (call.isRendering, call.reply)) =
        [(true, .ok "[1]".toList), (false, .ok "[1]".toList)] ∧
      (callsOfAll 0 inside).countP BodyCall.completes ≤ 1 := by
  let twice : Tag := { Tag.simple ['b'] true with behaviour := .repeated 2 }
  let counter : Tag := { Tag.simple ['n'] false with behaviour := .count }
  let body : List Node := [.element counter (Ledger.identifier 2) "\x7b% n %\x7d".toList [] []]
  let node : Node := .element twice (Ledger.identifier 1) "\x7b% b %\x7d".toList [] body
  let shelf : Shelf := ⟨{ tags := [twice, counter] }, []⟩
  let stage := Stage.start (Ledger.start .unset false) (Scope.ofData [] true)
  have calls : (callsOfAll 0 (history (shelf.elsewhere 0) (shelf.past 0) node stage)).map
      (fun call => (call.isRendering, call.reply)) =
        [(true, .ok "[1]".toList), (false, .ok "[1]".toList)] := by
    cbv
  have flat : areFlat 0 (history (shelf.elsewhere 0) (shelf.past 0) node stage) = true := by cbv
  have resolved : (ofScoped (Entry.resolveAll [])
      (announced twice (Ledger.identifier 1) stage)).1 = .ok [] := rfl
  obtain ⟨fault, failed, none, -⟩ |
    ⟨attributes, ready, own, inside, result, after, -, -, told, first, -, replies, -⟩ :=
      render_once shelf 0 twice (Ledger.identifier 1) "\x7b% b %\x7d".toList [] body stage
  · rw [none] at resolved
    cases resolved
  · rw [told, areFlat, areFlat, isFlat, Bool.and_true] at flat
    rw [told, callsOfAll, callsOfAll, callsOf, List.append_nil] at calls
    rw [show own = 0 from first] at replies
    exact ⟨_, inside, told, flat, calls, (replies flat).2.1⟩

/-- A body that is called while it is being rendered is rendered once more. The tag `o` hands its
body on and then writes it, and the tag `i` in the body calls it. So its nodes are rendered to their
end twice, and the two calls give different texts. -/
theorem not_render_once_within :
    let outer : Tag := { Tag.simple ['o'] true with behaviour := .handingOn ['b'] .default }
    let inner : Tag := { Tag.simple ['i'] false with behaviour := .callHanded ['b'] }
    let library : Library := { tags := [outer, inner] }
    let stage := Stage.start (Ledger.start .unset false) (Scope.ofData [] true)
    ∃ nodes after, ofTemplate library none
        "\x7b% o %\x7da\x7b% i %\x7d\x7b% endo %\x7d".toList (Ledger.start .unset false) =
          (.ok nodes, after) ∧
      nodes = [.element outer (Ledger.identifier 1) "\x7b% o %\x7d".toList []
        [.text ['a'], .element inner (Ledger.identifier 2) "\x7b% i %\x7d".toList [] []]] ∧
      (Shelf.render ⟨library, []⟩ nodes stage).1 = .ok "<o>aa</o>".toList ∧
      (callsOfAll 0 (Shelf.historyWithin ⟨library, []⟩ Shelf.maxDepth nodes stage)).map
        (fun call => (call.isRendering, call.reply)) =
          [(true, .ok ['a', 'a']), (true, .ok ['a'])] ∧
      (callsOfAll 0 (Shelf.historyWithin ⟨library, []⟩ Shelf.maxDepth nodes stage)).countP
        BodyCall.completes = 2 := by
  let outer : Tag := { Tag.simple ['o'] true with behaviour := .handingOn ['b'] .default }
  let inner : Tag := { Tag.simple ['i'] false with behaviour := .callHanded ['b'] }
  let library : Library := { tags := [outer, inner] }
  let stage := Stage.start (Ledger.start .unset false) (Scope.ofData [] true)
  let source := "\x7b% o %\x7da\x7b% i %\x7d\x7b% endo %\x7d".toList
  let nodes : List Node := [.element outer (Ledger.identifier 1) "\x7b% o %\x7d".toList []
    [.text ['a'], .element inner (Ledger.identifier 2) "\x7b% i %\x7d".toList [] []]]
  have accepted : (ofTemplate library none source (Ledger.start .unset false)).1 = .ok nodes := by
    have written : ∀ f ∈ [Fragment.opener ⟨outer, [], []⟩, .text ['a'], .opener ⟨inner, [], []⟩,
        .ending ['o']], f.Written := by
      simp only [List.forall_mem_cons, Fragment.Written]
      exact ⟨⟨by decide, by decide, by decide, by decide⟩, by decide,
        ⟨by decide, by decide, by decide, by decide⟩, by decide, List.forall_mem_nil _⟩
    have unbroken : ∀ f ∈ [Fragment.opener ⟨outer, [], []⟩, .text ['a'], .opener ⟨inner, [], []⟩,
        .ending ['o']], f.Unbroken := by
      simp only [List.forall_mem_cons, Fragment.Unbroken]
      exact ⟨by decide, by decide, by decide, by decide, List.forall_mem_nil _⟩
    have pieces : Piece.ofTemplate source = [.block ⟨['o'], 1⟩, .text ['a'], .block ⟨['i'], 1⟩,
        .block ⟨"endo".toList, 1⟩] :=
      Fragment.scan_sourceAll written unbroken (List.not_mem_nil : '{' ∉ []) 1
    rw [ofTemplate, pieces]
    cbv
  have calls : (callsOfAll 0 (Shelf.historyWithin ⟨library, []⟩ Shelf.maxDepth nodes stage)).map
      (fun call => (call.isRendering, call.reply)) =
        [(true, .ok ['a', 'a']), (true, .ok ['a'])] := by
    cbv
  refine ⟨nodes, _, Prod.ext accepted rfl, rfl, ?_, calls, ?_⟩
  · cbv
  · cbv

end Node
end ElementTags
