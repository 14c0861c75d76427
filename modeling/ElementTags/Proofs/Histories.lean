import ElementTags.Proofs.Chronicle
import ElementTags.Proofs.Sessions

/-! # The identifiers of a session

The steps of a session compile templates: those that they are given, and those that are
included in what they render (`ElementTags.Session.Action.Compiles`). Every step takes its
identifiers for these templates, and hands the counter on to the next step, also if it fails
(`ElementTags.Session.Stands.step`); only tags may move it besides, within their leeway. So
all identifiers of a session have increasing numbers, and no two uses of tags have the same
one (`ElementTags.Session.identifiers_distinct`).
-/

namespace ElementTags.Session

open ElementTags.Computation Node

variable {leeway : Leeway}

/-! ## Histories -/

/-- A step of a session. -/
inductive Action
  | later (step : LaterStep)
  | store (name : Text) (scope : Scope)
  | renderStored (name scopeName : Text)
  | inject (scopeName name : Text)
  | run (name : Text) (scope : Scope) (arguments : List Value)
  | writeTag (name : Text) (scope : Scope) (attributes body : Value)
  | serialize (attributes : Value)
  | resolve (entries : List Entry) (scope : Scope)
  | takeLines

/-- The templates that can be included in a session, and the tags that they can use. -/
def shelf (session : Session) : Shelf := ⟨session.library, session.sources⟩

/-- What a template is rendered on in a session and a scope. -/
def stage (session : Session) (place : StoredScope) : Stage :=
  ⟨session.ledger, { place.scope with inTemplate := true }, place.included, place.bodies⟩

/-- What is left of it when some nodes were rendered. -/
def rendered (session : Session) (nodes : List Node) (place : StoredScope) : Stage :=
  (session.shelf.render nodes (session.stage place)).2

/-- What a rendering leaves of the stored scope. -/
def left (session : Session) (nodes : List Node) (place : StoredScope) : StoredScope :=
  ⟨{ (session.rendered nodes place).scope with inTemplate := false },
    (session.rendered nodes place).included, (session.rendered nodes place).bodies⟩

namespace Action

/-- The session after a step, also if the step fails. -/
def after : Action → Session → Session
  | later step, session => step.after session
  | store name scope, session => (Session.store name scope session).2
  | renderStored name scopeName, session => (Session.renderStored name scopeName session).2
  | inject scopeName name, session => (Session.inject scopeName name session).2
  | run name scope arguments, session => (Session.run name scope arguments session).2
  | writeTag name scope attributes body, session =>
    (Session.writeTag name scope attributes body session).2
  | serialize attributes, session => (Session.serialize attributes session).2
  | resolve entries scope, session => (Session.resolve entries scope session).2
  | takeLines, session => (Session.takeLines session).2

/-- The tags that a step makes heed a leeway. -/
def Heeds (leeway : Leeway) : Action → Prop
  | later (.define definition _) => ∀ tag, definition.make = .ok tag → tag.Heeds leeway
  | _ => True

/-- The templates that a step compiles: the one that it is given, or those that are included in what
it renders. -/
def Compiles (leeway : Leeway) (session : Session) : Action → List Compilation → Prop
  | later (.compile _ source), compilations =>
    compilations = [⟨session.library, none, source, session.ledger⟩]
  | later (.render name scope), compilations =>
    match byName? session.templates name with
    | some nodes =>
      session.shelf.Moves leeway (session.stage (.start scope)) compilations
        (session.rendered nodes (.start scope))
    | none => compilations = []
  | renderStored name scopeName, compilations =>
    match byName? session.templates name, byName? session.scopes scopeName with
    | some nodes, some place =>
      session.shelf.Moves leeway (session.stage place) compilations (session.rendered nodes place)
    | _, _ => compilations = []
  | _, compilations => compilations = []

end Action

/-- The session after some steps. -/
def afterAll (session : Session) (actions : List Action) : Session :=
  actions.foldl (fun session action => action.after session) session

/-- The templates that the steps of a session compile, in the order of time. -/
inductive History (leeway : Leeway) : Session → List Action → List Compilation → Prop
  | nil (session : Session) : History leeway session [] []
  | cons {session : Session} {action : Action} {actions : List Action}
      {now later : List Compilation} (compiles : action.Compiles leeway session now)
      (behind : History leeway (action.after session) actions later) :
      History leeway session (action :: actions) (now ++ later)

/-- A session has some nodes: as a compiled template, or included in a stored scope. -/
def Holds (session : Session) (nodes : List Node) : Prop :=
  (∃ name, (name, nodes) ∈ session.templates) ∨
    ∃ entry ∈ session.scopes, ∃ i ∈ entry.2.included, i.nodes = nodes

/-! ## What steps keep -/

/-- Some nodes, whose tags heed a leeway, are what one of some templates was compiled to. -/
def Known (leeway : Leeway) (known : List Compilation) (nodes : List Node) : Prop :=
  AllTags (Tag.Heeds leeway) nodes ∧ ∃ c ∈ known, c.result = .ok nodes

/-- The templates that were included in a stored scope are known, and the tags in bodies heed a
leeway. -/
structure Keeping (leeway : Leeway) (known : List Compilation) (place : StoredScope) : Prop where
  included : ∀ i ∈ place.included, Known leeway known i.nodes
  bodies : ∀ cell ∈ place.bodies, AllTags (Tag.Heeds leeway) cell.nodes

/-- Since its counter was at some number, a session has moved it within a leeway, which its tags
heed, and it has only nodes that are known. -/
structure Stands (leeway : Leeway) (known : List Compilation) (count : Nat) (session : Session) :
    Prop where
  counted : leeway.may count session.ledger.tagCount
  made : ∀ tag ∈ session.tags, tag.Heeds leeway
  registered : ∀ tag ∈ session.library.tags, tag.Heeds leeway
  compiled : ∀ entry ∈ session.templates, Known leeway known entry.2
  stored : ∀ entry ∈ session.scopes, Keeping leeway known entry.2

variable {known : List Compilation} {count : Nat} {session : Session} {name : Text}
  {nodes : List Node} {place : StoredScope}

theorem Known.append (here : Known leeway known nodes) (more : List Compilation) :
    Known leeway (known ++ more) nodes := by
  obtain ⟨heed, c, member, gives⟩ := here
  exact ⟨heed, c, List.mem_append_left _ member, gives⟩

theorem Keeping.append (keeping : Keeping leeway known place) (more : List Compilation) :
    Keeping leeway (known ++ more) place :=
  ⟨fun i included => (keeping.included i included).append more, keeping.bodies⟩

theorem keeping_start (scope : Scope) : Keeping leeway known (.start scope) :=
  ⟨List.forall_mem_nil _, List.forall_mem_nil _⟩

namespace Stands

theorem append (stands : Stands leeway known count session) (more : List Compilation) :
    Stands leeway (known ++ more) count session :=
  ⟨stands.counted, stands.made, stands.registered,
    fun entry member => (stands.compiled entry member).append more,
    fun entry member => (stands.stored entry member).append more⟩

theorem here (stands : Stands leeway known count session) :
    Stands leeway known session.ledger.tagCount session :=
  ⟨leeway.refl _, stands.made, stands.registered, stands.compiled, stands.stored⟩

/-- A session with another ledger. -/
theorem inLedger (stands : Stands leeway known count session) (ledger : Ledger) :
    Stands leeway known ledger.tagCount { session with ledger := ledger } :=
  ⟨leeway.refl _, stands.made, stands.registered, stands.compiled, stands.stored⟩

theorem inNextLedger (stands : Stands leeway known count session) {ledger : Ledger}
    (moved : leeway.may session.ledger.tagCount ledger.tagCount) :
    Stands leeway known count { session with ledger := ledger } :=
  ⟨leeway.trans stands.counted moved, stands.made, stands.registered, stands.compiled,
    stands.stored⟩

/-- A session that stores a scope. -/
theorem store (stands : Stands leeway known count session) (keeping : Keeping leeway known place)
    (name : Text) :
    Stands leeway known count { session with scopes := (name, place) :: session.scopes } :=
  ⟨stands.counted, stands.made, stands.registered, stands.compiled,
    List.forall_mem_cons.mpr ⟨keeping, stands.stored⟩⟩

end Stands

/-! ## Steps that compile nothing -/

theorem knowsTags_stands : KnowsTags (Tag.Heeds leeway) (Stands leeway known count) where
  made stands := stands.made
  registered stands := stands.registered
  withTags stands made :=
    ⟨stands.counted, made, stands.registered, stands.compiled, stands.stored⟩
  withLibrary stands registered :=
    ⟨stands.counted, stands.made, registered, stands.compiled, stands.stored⟩

theorem stands_inject (scopeName name : Text) :
    Keeps (Stands leeway known count) (inject scopeName name) fun _ => True := by
  have place : Keeps (Stands leeway known count) (stored scopeName) fun _ => True :=
    (@keeps_reading _ (fun _ => True) _ _ fun _ _ => trivial).bind fun _ _ =>
      keeps_found fun _ _ => trivial
  refine place.bind fun place _ => ?_
  split
  · exact keeps_pure trivial
  · exact keeps_ofExcept fun _ _ => trivial

/-- An action that heeds the leeway, with a value as the body, touches the ledger only. -/
theorem stands_act {α : Type} {action : Acting α} (heeds : action.Heeds leeway) (scope : Scope)
    (body : Value) : Keeps (Stands leeway known count) (act scope body action) fun _ => True :=
  fun session stands =>
    ⟨stands.inNextLedger (Script.may_runWith body (heeds ⟨session.ledger, scope⟩)),
      fun _ _ => trivial⟩

theorem stands_run (name : Text) (scope : Scope) (arguments : List Value) :
    Keeps (Stands leeway known count) (run name scope arguments) fun _ => True := by
  refine (knowsTags_stands.keeps_tag name).bind fun t heeds => ?_
  split
  · exact keeps_ofExcept fun _ _ => trivial
  · exact stands_act (Tag.heeds_act heeds _) scope _

theorem stands_writeTag (name : Text) (scope : Scope) (attributes body : Value) :
    Keeps (Stands leeway known count) (writeTag name scope attributes body) fun _ => True :=
  (knowsTags_stands.keeps_tag name).bind fun t _ =>
    stands_act (Behaviour.heeds_default t.element attributes) scope body

theorem stands_serialize (attributes : Value) :
    Keeps (Stands leeway known count) (serialize attributes) fun _ => True :=
  fun _ stands => ⟨stands.inNextLedger (leeway.refl _), fun _ _ => trivial⟩

theorem stands_resolve (entries : List Entry) (scope : Scope) :
    Keeps (Stands leeway known count) (resolve entries scope) fun _ => True := by
  have evaluated : Keeps (Stands leeway known count) (evaluate (Entry.resolveAll entries) scope)
      fun _ => True :=
    fun _ stands => ⟨stands.inNextLedger (leeway.refl _), fun _ _ => trivial⟩
  exact evaluated.bind fun _ _ => (stands_serialize _).bind fun _ _ => keeps_pure trivial

/-! ## Steps that compile templates -/

/-- A session knows a template when it has compiled it, and goes on with the counter if it has not.
-/
theorem Stands.compile (stands : Stands leeway known count session) (name source : Text)
    {c : Compilation} (here : c = ⟨session.library, none, source, session.ledger⟩) :
    Stands leeway (known ++ [c]) c.after.tagCount (Session.compile name source session).2 := by
  have heed : ∀ nodes, (ofTemplate session.library none source session.ledger).1 = .ok nodes →
      AllTags (Tag.Heeds leeway) nodes :=
    (Node.keeps_ofTemplate stands.registered none source session.ledger rfl).2
  have later := stands.append [c]
  have member : c ∈ known ++ [c] := List.mem_append_right _ (List.mem_singleton_self c)
  cases compiled : ofTemplate session.library none source session.ledger with
  | mk result ledger =>
      have gives : c.result = result := by rw [here, Compilation.result, compiled]
      have after : c.after = ledger := by rw [here, Compilation.after, compiled]
      rw [Session.compile, bind_eq, compiled, after]
      cases result with
      | error fault => exact later.inLedger ledger
      | ok nodes =>
          rw [compiled] at heed
          exact ⟨leeway.refl _, later.made, later.registered, List.forall_mem_cons.mpr
            ⟨⟨heed nodes rfl, c, member, gives⟩, later.compiled⟩, later.stored⟩

/-- A rendering knows the templates that it has included. -/
theorem Stands.rendered (stands : Stands leeway known count session)
    (heed : AllTags (Tag.Heeds leeway) nodes)
    (keeping : Keeping leeway known place) : ∃ compilations,
      session.shelf.Moves leeway (session.stage place) compilations (session.rendered nodes place) ∧
      Compilation.Chain leeway count compilations (session.rendered nodes place).ledger.tagCount ∧
      Keeping leeway (known ++ compilations) (session.left nodes place) := by
  have before : ∀ i ∈ (session.stage place).included, AllTags (Tag.Heeds leeway) i.nodes :=
    fun i member => (keeping.included i member).1
  obtain ⟨⟨compilations, moves⟩, bodies⟩ :=
    @Shelf.moves_render _ session.shelf _ stands.registered before keeping.bodies _ heed
  refine ⟨compilations, moves, ?_, fun i member => ?_, bodies⟩
  · exact (Compilation.Chain.nil.move stands.counted).append moves.chain
  · obtain old | ⟨c, new, gives⟩ := moves.included i member
    · exact (keeping.included i old).append compilations
    · exact ⟨moves.heed stands.registered before i member, c, List.mem_append_right _ new, gives⟩

/-- The session after a rendering on its own. -/
theorem after_render (name : Text) (scope : Scope) (session : Session) :
    (render name scope session).2 =
      match byName? session.templates name with
      | some nodes => { session with ledger := (session.rendered nodes (.start scope)).ledger }
      | none => session := by
  rw [render, bind_found]
  cases byName? session.templates name <;> rfl

/-- The session after a rendering in a stored scope. -/
theorem after_renderStored (name scopeName : Text) (session : Session) :
    (renderStored name scopeName session).2 =
      match byName? session.templates name, byName? session.scopes scopeName with
      | some nodes, some place => { session with
          ledger := (session.rendered nodes place).ledger
          scopes := (scopeName, session.left nodes place) :: session.scopes }
      | _, _ => session := by
  rw [renderStored, bind_found]
  cases byName? session.templates name with
  | none => rfl
  | some nodes =>
      simp only [stored, bind_assoc, bind_found]
      cases byName? session.scopes scopeName <;> rfl

/-! ## Steps and histories -/

/-- **Every step of a session takes identifiers for the templates that it compiles**, one after the
other, and goes on with the counter of the step before. -/
theorem Stands.step (stands : Stands leeway known count session) {action : Action}
    (heeds : action.Heeds leeway) : ∃ compilations, action.Compiles leeway session compilations ∧
      Compilation.Chain leeway count compilations (action.after session).ledger.tagCount ∧
      Stands leeway (known ++ compilations) (action.after session).ledger.tagCount
        (action.after session) := by
  have nothing {other : Session} (kept : Stands leeway known count other) : ∃ compilations,
      compilations = [] ∧ Compilation.Chain leeway count compilations other.ledger.tagCount ∧
        Stands leeway (known ++ compilations) other.ledger.tagCount other := by
    refine ⟨[], rfl, .move .nil kept.counted, ?_⟩
    rw [List.append_nil]
    exact kept.here
  cases action with
  | later step =>
      cases step with
      | define definition isKept =>
          exact nothing (knowsTags_stands.keeps_define isKept heeds session stands).1
      | register name => exact nothing (knowsTags_stands.keeps_register name session stands).1
      | unregister name =>
          exact nothing (knowsTags_stands.keeps_unregister name session stands).1
      | configure configuration => exact nothing (stands.inNextLedger (leeway.refl _))
      | compile name source =>
          have compiled := stands.compile name source rfl
          refine ⟨_, rfl, .move ?_ compiled.counted, compiled.here⟩
          exact (Compilation.Chain.nil.move stands.counted).append
            (.singleton ⟨session.library, none, source, session.ledger⟩)
      | render name scope =>
          rw [Action.after, LaterStep.after, after_render]
          cases template : byName? session.templates name with
          | none =>
              simp only [Action.Compiles, template]
              exact nothing stands
          | some nodes =>
              obtain ⟨entry, member, rfl⟩ := mem_of_byName? template
              obtain ⟨compilations, moves, chain, -⟩ :=
                stands.rendered (stands.compiled entry member).1 (keeping_start scope)
              refine ⟨compilations, ?_, chain, (stands.append compilations).inLedger _⟩
              simpa only [Action.Compiles, template] using moves
  | store name scope => exact nothing (stands.store (keeping_start scope) name)
  | renderStored name scopeName =>
      rw [Action.after, after_renderStored]
      cases template : byName? session.templates name with
      | none =>
          simp only [Action.Compiles, template]
          exact nothing stands
      | some nodes =>
          cases found : byName? session.scopes scopeName with
          | none =>
              simp only [Action.Compiles, template, found]
              exact nothing stands
          | some place =>
              obtain ⟨entry, member, rfl⟩ := mem_of_byName? template
              obtain ⟨stored, kept, rfl⟩ := mem_of_byName? found
              obtain ⟨compilations, moves, chain, keeping⟩ :=
                stands.rendered (stands.compiled entry member).1 (stands.stored stored kept)
              refine ⟨compilations, ?_, chain,
                ((stands.append compilations).inLedger _).store keeping scopeName⟩
              simpa only [Action.Compiles, template, found] using moves
  | inject scopeName name => exact nothing (stands_inject scopeName name session stands).1
  | run name scope arguments => exact nothing (stands_run name scope arguments session stands).1
  | writeTag name scope attributes body =>
      exact nothing (stands_writeTag name scope attributes body session stands).1
  | serialize attributes => exact nothing (stands_serialize attributes session stands).1
  | resolve entries scope => exact nothing (stands_resolve entries scope session stands).1
  | takeLines => exact nothing (stands.inNextLedger (leeway.refl _))

/-- So do several steps one after the other. -/
theorem Stands.steps {actions : List Action} (heed : ∀ action ∈ actions, action.Heeds leeway)
    (stands : Stands leeway known count session) : ∃ compilations,
      History leeway session actions compilations ∧
      Compilation.Chain leeway count compilations (session.afterAll actions).ledger.tagCount ∧
      Stands leeway (known ++ compilations) (session.afterAll actions).ledger.tagCount
        (session.afterAll actions) := by
  induction actions generalizing known count session with
  | nil =>
      refine ⟨[], .nil session, .move .nil stands.counted, ?_⟩
      rw [List.append_nil]
      exact stands.here
  | cons action rest ih =>
      obtain ⟨first, others⟩ := List.forall_mem_cons.mp heed
      obtain ⟨now, compiles, chain, after⟩ := stands.step first
      obtain ⟨later, behind, further, last⟩ := ih others after
      rw [List.append_assoc] at last
      exact ⟨now ++ later, .cons compiles behind, chain.append further, last⟩

/-- **No two uses of tags have the same identifier.** The steps of a session from its start on
compile some templates one after the other, also those that fail. The identifiers in all of them
differ, and spell increasing numbers; in a template that is compiled, those are the identifiers of
its uses of tags, each before those in its body. All nodes of the session come from one of these
templates. This holds for every leeway that the tags of the session heed; if they have none, no
identifier is taken but for these templates. -/
theorem identifiers_distinct (leeway : Leeway) (configuration : Configuration) (tracing : Bool)
    (sources : List (Text × Text)) (hosts : List HostTag) {actions : List Action}
    (heed : ∀ action ∈ actions, action.Heeds leeway) :
    let session := start configuration tracing sources hosts
    let last := session.afterAll actions
    ∃ compilations, History leeway session actions compilations ∧
      Compilation.Chain leeway 0 compilations last.ledger.tagCount ∧
      (compilations.flatMap Compilation.identifiers).Nodup ∧
      (∃ numbers : List Nat,
        (compilations.flatMap Compilation.identifiers).map Text.hexNumber? = numbers.map some ∧
          numbers.Pairwise (· < ·)) ∧
      (∀ c ∈ compilations, ∀ nodes, c.result = .ok nodes →
        c.identifiers = (occurrencesAll nodes).map (·.identifier)) ∧
      ∀ nodes, last.Holds nodes → ∃ c ∈ compilations, c.result = .ok nodes := by
  intro session last
  have fresh : Stands leeway [] 0 session := ⟨leeway.refl 0, List.forall_mem_nil _,
    List.forall_mem_nil _, List.forall_mem_nil _, List.forall_mem_nil _⟩
  obtain ⟨compilations, history, chain, stands⟩ := fresh.steps heed
  obtain ⟨-, numbers, taken, increasing, -⟩ := chain.numbers
  refine ⟨compilations, history, chain, chain.nodup, ⟨numbers, ?_, increasing⟩,
    fun c _ nodes compiled => Compilation.identifiers_of_ok compiled, ?_⟩
  · rw [taken, List.map_map]
    exact List.map_congr_left fun n _ => Ledger.hexNumber?_identifier n
  · rintro nodes (⟨name, member⟩ | ⟨entry, member, i, included, rfl⟩)
    · exact (stands.compiled _ member).2
    · exact ((stands.stored entry member).included i included).2

/-- A template that ends within two elements is rejected, but has taken their identifiers; the next
template goes on with the third one. -/
theorem identifiers_distinct_rejected :
    let opening := "\x7b% b %\x7d".toList
    let ending := "\x7b% endb %\x7d".toList
    let actions : List Action := [.later (.define (.plain { name := ['b'] }) true),
      .later (.compile ['m'] (opening ++ opening)),
      .later (.compile ['m'] (opening ++ opening ++ ending ++ ending))]
    let session := start .unset false []
    let last := session.afterAll actions
    (∀ action ∈ actions, action.Heeds .still) ∧
      last.templates.map (fun entry => (occurrencesAll entry.2).map (·.identifier)) =
        [["0003".toList, "0004".toList]] ∧
      ∃ compilations, History .still session actions compilations ∧
        (compilations.flatMap Compilation.identifiers).Nodup ∧
        ∀ nodes, last.Holds nodes → ∃ c ∈ compilations, c.result = .ok nodes := by
  intro opening ending actions session last
  have heed : ∀ action ∈ actions, action.Heeds .still := by
    simp only [actions, List.forall_mem_cons, Action.Heeds]
    refine ⟨?_, trivial, trivial, List.forall_mem_nil _⟩
    rintro tag ⟨⟩
    exact Behaviour.heeds_default
  have evaluated : last.templates.map (fun entry => (occurrencesAll entry.2).map (·.identifier)) =
      [["0003".toList, "0004".toList]] := by
    let b : Fragment := .opener ⟨Tag.simple ['b'] true, [], []⟩
    let fragments : List Fragment := [b, b, .ending ['b'], .ending ['b']]
    have written : ∀ f ∈ fragments, f.Written := by
      simp only [fragments, List.forall_mem_cons, Fragment.Written]
      exact ⟨⟨by decide, by decide, by decide, by decide⟩,
        ⟨by decide, by decide, by decide, by decide⟩, by decide, by decide, List.forall_mem_nil _⟩
    have unbroken : ∀ f ∈ fragments, f.Unbroken := by
      simp only [fragments, List.forall_mem_cons, Fragment.Unbroken]
      exact ⟨by decide, by decide, by decide, by decide, List.forall_mem_nil _⟩
    have opened : Piece.ofTemplate (opening ++ opening) = [.block ⟨['b'], 1⟩, .block ⟨['b'], 1⟩] :=
      @Fragment.scan_sourceAll [b, b] (fun f member => written f (List.mem_append_left _ member))
        (fun f member => unbroken f (List.mem_append_left _ member)) _
        (List.not_mem_nil : '{' ∉ []) 1
    have nested : Piece.ofTemplate (opening ++ opening ++ ending ++ ending) =
        [.block ⟨['b'], 1⟩, .block ⟨['b'], 1⟩, .block ⟨"endb".toList, 1⟩,
          .block ⟨"endb".toList, 1⟩] :=
      Fragment.scan_sourceAll written unbroken (List.not_mem_nil : '{' ∉ []) 1
    have steps : last = (compile ['m'] (opening ++ opening ++ ending ++ ending)
      (compile ['m'] (opening ++ opening)
        (define (.plain { name := ['b'] }) true session).2).2).2 := rfl
    simp only [steps, compile, bind_eq, ofTemplate, nested, opened]
    cbv
  obtain ⟨compilations, history, -, distinct, -, -, held⟩ :=
    identifiers_distinct .still .unset false [] [] heed
  exact ⟨heed, evaluated, compilations, history, distinct, held⟩

end ElementTags.Session
