import ElementTags.Proofs.Drafting
import ElementTags.Proofs.Inclusions
import ElementTags.Session

/-! # Compiled templates in a session

A compiled template keeps the tags that it was compiled with and the attributes as they
were read, so that later steps of a session do not change what it is rendered as: making,
registering and removing tags, other settings, and compiling and rendering other
templates (`ElementTags.Session.render_unaffected`). Only warnings come and go with the
settings. They make no difference, unless the handler of the log is a strict one, which demands
that a dropped value can be described where it is reported.
-/

namespace ElementTags.Session

open ElementTags.Computation Node

/-! ## Steps -/

/-- A step of a session that may follow after a template was compiled. -/
inductive LaterStep
  | define (definition : Definition) (isKept : Bool)
  | register (name : Text)
  | unregister (name : Text)
  | configure (configuration : Configuration)
  | compile (name source : Text)
  | render (name : Text) (scope : Scope)

namespace LaterStep

/-- The session after a step, also if the step fails. -/
def after : LaterStep → Session → Session
  | define definition isKept, session => (Session.define definition isKept session).2
  | register name, session => (Session.register name session).2
  | unregister name, session => (Session.unregister name session).2
  | configure configuration, session => (Session.configure configuration session).2
  | compile name source, session => (Session.compile name source session).2
  | render name scope, session => (Session.render name scope session).2

/-- A step leaves the template of a name alone: it makes tags that depend on their arguments only,
configures the engine in a way that it understands, and compiles templates under other names. -/
def Leaves (name : Text) : LaterStep → Prop
  | define definition _ => ∀ tag, definition.make = .ok tag → tag.ArgumentsOnly
  | configure configuration => configuration.WellFormed
  | compile other _ => other ≠ name
  | _ => True

end LaterStep

/-! ## What steps keep -/

/-- A session whose engine understands its configuration and whose tags depend on their arguments
only, those in compiled templates included. -/
structure Orderly (session : Session) : Prop where
  formed : session.ledger.configuration.WellFormed
  made : ∀ tag ∈ session.tags, tag.ArgumentsOnly
  registered : ∀ tag ∈ session.library.tags, tag.ArgumentsOnly
  compiled : ∀ entry ∈ session.templates, AllTags Tag.ArgumentsOnly entry.2

/-- What nobody changes of an engine by a step: whether it logs steps, and the handler of the log.
-/
def logging (session : Session) : Bool × LogHandler :=
  (session.ledger.tracing, session.ledger.configuration.handler)

/-- An orderly session with some nodes as the template of a name. -/
structure Has (name : Text) (nodes : List Node) (logging : Bool × LogHandler) (session : Session) :
    Prop where
  orderly : session.Orderly
  template : byName? session.templates name = some nodes
  logging : session.logging = logging

variable {name : Text} {nodes : List Node} {logging : Bool × LogHandler} {α : Type}
  {holds : α → Prop}

section

variable {invariant : Session → Prop}

theorem keeps_ofExcept {result : Except Fault α} (gives : ∀ a, result = .ok a → holds a) :
    Keeps invariant (ofExcept result) holds := fun _ kept => ⟨kept, gives⟩

theorem keeps_found {entry : Option α} (gives : ∀ a, entry = some a → holds a) :
    Keeps invariant (found entry) holds := by
  cases entry with
  | some a => exact keeps_pure (gives a rfl)
  | none => exact fun _ kept => ⟨kept, fun _ failed => by cases failed⟩

theorem keeps_change {f : Session → Session}
    (kept : ∀ session, invariant session → invariant (f session)) :
    Keeps invariant (change f) fun _ => True :=
  fun session here => ⟨kept session here, fun _ _ => trivial⟩

theorem keeps_reading {f : Session → α}
    (gives : ∀ session, invariant session → holds (f session)) :
    Keeps invariant (reading f) holds := by
  refine fun session kept => ⟨kept, ?_⟩
  rintro _ ⟨⟩
  exact gives session kept

/-- An invariant of sessions depends on their tags only in that all of them are good. -/
structure KnowsTags (good : Tag → Prop) (invariant : Session → Prop) : Prop where
  made {session : Session} (kept : invariant session) : ∀ t ∈ session.tags, good t
  registered {session : Session} (kept : invariant session) : ∀ t ∈ session.library.tags, good t
  withTags {session : Session} {tags : List Tag} (kept : invariant session)
    (made : ∀ t ∈ tags, good t) : invariant { session with tags := tags }
  withLibrary {session : Session} {library : Library} (kept : invariant session)
    (registered : ∀ t ∈ library.tags, good t) : invariant { session with library := library }

namespace KnowsTags

variable {good : Tag → Prop} (knows : KnowsTags good invariant)

include knows

theorem keeps_tag (name : Text) : Keeps invariant (tag name) good := by
  refine (@keeps_reading _ (fun entry => ∀ t, entry = some t → good t) _ _ ?_).bind
    fun entry gives => keeps_found gives
  exact fun session kept t found => knows.made kept t (List.mem_of_find?_eq_some found)

theorem keeps_registering {t : Tag} (here : good t) :
    Keeps invariant (change fun s => { s with library := s.library.register t }) fun _ => True :=
  keeps_change fun _ kept => knows.withLibrary kept (List.forall_mem_cons.mpr
    ⟨here, fun other member => knows.registered kept other (List.mem_filter.mp member).1⟩)

theorem keeps_define {definition : Definition} (isKept : Bool)
    (gives : ∀ t, definition.make = .ok t → good t) :
    Keeps invariant (define definition isKept) fun _ => True := by
  refine (keeps_ofExcept gives).bind fun t here => (keeps_change fun session kept => ?_).bind
    fun _ _ => ?_
  · exact knows.withTags kept (List.forall_mem_cons.mpr ⟨here, knows.made kept⟩)
  · cases isKept with
    | false => exact keeps_pure trivial
    | true => exact (knows.keeps_registering here).bind fun _ _ => keeps_pure trivial

theorem keeps_register (name : Text) : Keeps invariant (register name) fun _ => True :=
  (knows.keeps_tag name).bind fun _ here => knows.keeps_registering here

theorem keeps_unregister (name : Text) : Keeps invariant (unregister name) fun _ => True :=
  (knows.keeps_tag name).bind fun _ _ => keeps_change fun _ kept => knows.withLibrary kept
    fun other member => knows.registered kept other (List.mem_filter.mp member).1

end KnowsTags

end

theorem mem_of_byName? {entries : List (Text × α)} {a : α} (found : byName? entries name = some a) :
    ∃ entry ∈ entries, entry.2 = a := by
  obtain ⟨entry, known, same⟩ := Option.map_eq_some_iff.mp found
  exact ⟨entry, List.mem_of_find?_eq_some known, same⟩

variable {session : Session}

/-- A session after its ledger has changed, but not its settings. -/
theorem Has.inLedger (has : Has name nodes logging session) {ledger : Ledger}
    (set : ledger.Set session.ledger.settings) :
    Has name nodes logging { session with ledger := ledger } := by
  obtain ⟨configured, traced⟩ := Prod.mk.inj set
  refine ⟨⟨?_, has.orderly.made, has.orderly.registered, has.orderly.compiled⟩, has.template, ?_⟩
  · rw [configured]
    exact has.orderly.formed
  · rw [← has.logging, Session.logging, Session.logging, configured, traced]

theorem knowsTags_has : KnowsTags Tag.ArgumentsOnly (Has name nodes logging) where
  made has := has.orderly.made
  registered has := has.orderly.registered
  withTags has made := ⟨⟨has.orderly.formed, made, has.orderly.registered, has.orderly.compiled⟩,
    has.template, has.logging⟩
  withLibrary has registered := ⟨⟨has.orderly.formed, has.orderly.made, registered,
    has.orderly.compiled⟩, has.template, has.logging⟩

theorem keeps_configure {configuration : Configuration} (formed : configuration.WellFormed) :
    Keeps (Has name nodes logging) (configure configuration) fun _ => True :=
  keeps_change fun _ has => ⟨⟨formed.withHandler _, has.orderly.made, has.orderly.registered,
    has.orderly.compiled⟩, has.template, has.logging⟩

/-- The nodes of a template use registered tags. -/
theorem keeps_ofTemplate (source : Text) :
    Keeps (Has name nodes logging)
      (fun session =>
        match ofTemplate session.library none source session.ledger with
        | (result, ledger) => (result, { session with ledger := ledger }))
      (AllTags Tag.ArgumentsOnly) := by
  intro session has
  have compiled : Keeps (Ledger.Set session.ledger.settings)
      (ofTemplate session.library none source) (AllTags Tag.ArgumentsOnly) :=
    Node.keeps_ofTemplate has.orderly.registered none source
  obtain ⟨kept, tags⟩ := compiled session.ledger rfl
  exact ⟨has.inLedger kept, tags⟩

/-- Compiling another template touches the templates of its own name only. -/
theorem keeps_compile {other : Text} (apart : other ≠ name) (source : Text) :
    Keeps (Has name nodes logging) (compile other source) fun _ => True := by
  refine (keeps_ofTemplate source).bind fun compiled tags =>
    (keeps_change fun session has => ?_).bind fun _ _ => keeps_pure trivial
  refine ⟨⟨has.orderly.formed, has.orderly.made, has.orderly.registered,
    List.forall_mem_cons.mpr ⟨tags, has.orderly.compiled⟩⟩, ?_, has.logging⟩
  have behind : byName? ((other, compiled) :: session.templates) name =
      byName? session.templates name := by
    rw [byName?, List.find?_cons_of_neg (by simpa using apart), byName?]
  exact behind.trans has.template

/-- Rendering a template in a scope of its own touches the ledger only. -/
theorem keeps_renderOn {others : List Node} (tags : AllTags Tag.ArgumentsOnly others)
    (scope : Scope) :
    Keeps (Has name nodes logging) (renderOn others (.start scope)) fun _ => True := by
  refine fun session has => ⟨?_, fun _ _ => trivial⟩
  have keeps := @Shelf.keeps_renderWithin _ session.ledger.tracing
    ⟨session.library, session.sources⟩ has.orderly.formed has.orderly.registered Shelf.maxDepth _
    tags
  have rendered := keeps (.start session.ledger { scope with inTemplate := true })
    ⟨rfl, List.forall_mem_nil _, List.forall_mem_nil _⟩
  exact has.inLedger rendered.1.ledger

theorem keeps_render (other : Text) (scope : Scope) :
    Keeps (Has name nodes logging) (render other scope) fun _ => True := by
  refine (@keeps_reading _ (fun entry => ∀ ns, entry = some ns → AllTags Tag.ArgumentsOnly ns)
    _ _ ?_).bind fun entry gives => (keeps_found gives).bind fun others tags =>
      (keeps_renderOn tags scope).bind fun _ _ => keeps_ofExcept fun _ _ => trivial
  intro session has ns found
  obtain ⟨entry, known, rfl⟩ := mem_of_byName? found
  exact has.orderly.compiled entry known

/-- A step that leaves a template alone keeps it. -/
theorem LaterStep.Leaves.has {step : LaterStep} (leaves : step.Leaves name)
    (has : Has name nodes logging session) : Has name nodes logging (step.after session) := by
  cases step with
  | define definition isKept => exact (knowsTags_has.keeps_define isKept leaves session has).1
  | register other => exact (knowsTags_has.keeps_register other session has).1
  | unregister other => exact (knowsTags_has.keeps_unregister other session has).1
  | configure configuration => exact (keeps_configure leaves session has).1
  | compile other source => exact (keeps_compile leaves source session has).1
  | render other scope => exact (keeps_render other scope session has).1

/-- So do several steps one after the other. -/
theorem has_steps {steps : List LaterStep} (leave : ∀ step ∈ steps, step.Leaves name)
    (has : Has name nodes logging session) :
    Has name nodes logging (steps.foldl (fun session step => step.after session) session) := by
  induction steps generalizing session with
  | nil => exact has
  | cons step rest ih =>
      obtain ⟨first, others⟩ := List.forall_mem_cons.mp leave
      exact ih others (first.has has)

/-! ## Rendering before and after -/

/-- Whether dropped values are reported in a session. -/
def reports (session : Session) : Bool := session.ledger.configuration.reports

/-- Two sessions came to the same, and logged the same, apart from warnings if dropped values are
reported in one of them only. -/
structure Unaffected (session other : Session) (ran otherRan : Except Fault Text × Session) :
    Prop where
  result : ran.1 = otherRan.1
  news : ∃ news otherNews, ran.2.ledger.lines = news ++ session.ledger.lines ∧
    otherRan.2.ledger.lines = otherNews ++ other.ledger.lines ∧
      SameNews session.reports other.reports news otherNews

/-- A step that starts with what is found under a name. -/
theorem bind_found {β : Type} (f : Session → Option α) (g : α → Step β) (session : Session) :
    (reading f >>= fun entry => found entry >>= g) session =
      match f session with
      | some a => g a session
      | none => (.error (.eval .missingKey), session) := by
  rw [bind_of_ok (rfl : reading f session = (.ok (f session), session))]
  cases f session <;> rfl

/-- What is rendered in a session: the template of a name in a scope of its own. -/
theorem render_eq (template : byName? session.templates name = some nodes) (scope : Scope) :
    render name scope session =
      match (Shelf.mk session.library session.sources).render nodes
        (.start session.ledger { scope with inTemplate := true }) with
      | (result, stage) => (result, { session with ledger := stage.ledger }) := by
  rw [render, bind_found, template]
  rfl

/-- So it is what the nodes of the template give. -/
theorem fst_render (template : byName? session.templates name = some nodes) (scope : Scope) :
    (render name scope session).1 = ((Shelf.mk session.library session.sources).render nodes
      (.start session.ledger { scope with inTemplate := true })).1 :=
  congrArg Prod.fst (render_eq template scope)

open Rendering in
/-- Nodes without inclusions are rendered alike in two sessions. -/
theorem meets_render (twins : Twins) {shelf otherShelf : Shelf} {ledger otherLedger : Ledger}
    (ledgers : twins.Ledgers ledger otherLedger) (alone : includesAny nodes = false)
    (depend : AllTags Tag.ArgumentsOnly nodes) (scope : Scope) :
    Meets twins.pairing (Any Text) (shelf.render nodes (.start ledger scope))
      (otherShelf.render nodes (.start otherLedger scope)) := by
  refine Shelf.paired_renderWithin (fun tag depends => Twins.performs depends)
    (fun opened => by cases opened) Shelf.maxDepth ⟨depend, fun _ => alone⟩ _ _ ?_
  exact ⟨ledgers, rfl, trivial, rfl, List.forall_mem_nil _⟩

/-- A template without inclusions is rendered alike in two sessions that demand the same of dropped
values. -/
theorem unaffected_of_demands {session other : Session} (has : Has name nodes logging session)
    (otherHas : Has name nodes logging other)
    (demands : session.ledger.configuration.demands = other.ledger.configuration.demands)
    (alone : includesAny nodes = false) (scope : Scope) :
    Unaffected session other (render name scope session) (render name scope other) := by
  have depend : AllTags Tag.ArgumentsOnly nodes := by
    obtain ⟨entry, known, same⟩ := mem_of_byName? has.template
    exact same ▸ has.orderly.compiled entry known
  have traced : other.ledger.tracing = session.ledger.tracing :=
    congrArg Prod.fst (otherHas.logging.trans has.logging.symm)
  let twins : Twins := ⟨session.ledger.configuration, other.ledger.configuration,
    has.orderly.formed, otherHas.orderly.formed, demands, session.ledger.tracing,
    session.ledger.lines, other.ledger.lines⟩
  have nothing : SameNews session.reports other.reports [] [] := by
    cases session.reports <;> cases other.reports <;> rfl
  have start : twins.Ledgers session.ledger other.ledger :=
    ⟨rfl, rfl, rfl, traced, [], [], rfl, rfl, nothing⟩
  have met := @meets_render _ twins ⟨session.library, session.sources⟩
    ⟨other.library, other.sources⟩ _ _ start alone depend { scope with inTemplate := true }
  rw [render_eq has.template, render_eq otherHas.template]
  generalize Shelf.render ⟨session.library, session.sources⟩ nodes _ = ran,
    Shelf.render ⟨other.library, other.sources⟩ nodes _ = otherRan at met
  cases met with
  | ok _ corresponds => exact ⟨rfl, corresponds.ledgers.lines⟩
  | error corresponds => exact ⟨rfl, corresponds.ledgers.lines⟩

/-- A template is compiled under a name if its source is, and is found under this name then. -/
theorem compile_eq_ok_iff {session compiled : Session} {source : Text} :
    compile name source session = (.ok nodes, compiled) ↔
      (ofTemplate session.library none source session.ledger).1 = .ok nodes ∧
        compiled = { session with
          ledger := (ofTemplate session.library none source session.ledger).2
          templates := (name, nodes) :: session.templates } := by
  rw [compile, bind_eq]
  generalize ofTemplate session.library none source session.ledger = ran
  obtain ⟨fault | written, ledger⟩ := ran
  · constructor
    · rintro ⟨⟩
    · rintro ⟨⟨⟩, -⟩
  · constructor
    · rintro ⟨⟩
      exact ⟨rfl, rfl⟩
    · rintro ⟨⟨⟩, rfl⟩
      rfl

theorem byName?_cons (entries : List (Text × α)) (a : α) :
    byName? ((name, a) :: entries) name = some a := by
  rw [byName?, List.find?_cons_of_pos (by simp)]
  rfl

/-- What is compiled in an orderly session is the template of its name from then on. -/
theorem Orderly.has {session compiled : Session} (orderly : session.Orderly) {source : Text}
    (compiles : compile name source session = (.ok nodes, compiled)) :
    Has name nodes compiled.logging compiled := by
  have keeps : Keeps (Ledger.Set session.ledger.settings) (ofTemplate session.library none source)
      (AllTags Tag.ArgumentsOnly) := Node.keeps_ofTemplate orderly.registered none source
  obtain ⟨kept, tags⟩ := keeps session.ledger rfl
  obtain ⟨configured, -⟩ := Prod.mk.inj kept
  obtain ⟨accepted, rfl⟩ := compile_eq_ok_iff.mp compiles
  refine ⟨⟨?_, orderly.made, orderly.registered,
    List.forall_mem_cons.mpr ⟨tags nodes accepted, orderly.compiled⟩⟩, byName?_cons _ _, rfl⟩
  exact configured ▸ orderly.formed

/-- What a tag gives with one dropped attribute that cannot be described. -/
theorem htmlAll_undescribed {configuration : Configuration} (formed : configuration.WellFormed)
    {v : Value} (unkeyed : ∀ ps who, v ≠ .keywords ps who) (dropped : Markup.positional? v = none)
    (truthy : v.isTruthy = true) (undescribed : v.described = .error .unsuitableValue) {use : Use}
    (bodiless : use.tag.hasBody = false) (children : List Tree) {scope : Scope}
    (given : Entry.resolveAll use.entries scope = (.ok [v], scope)) (now : scope.current v = v) :
    (Tree.htmlAll configuration [.element use children] scope).1 =
      if configuration.demands then .error .unsuitableValue
      else .ok (Behaviour.startTag use.tag.elementName []) := by
  have written := Markup.serialize_undescribed formed unkeyed dropped truthy undescribed
  simp only [Tree.htmlAll, Tree.html, bodiless, Tree.enclose_none, bind_eq, given, ExceptT.bindCont,
    Scoped.reading, List.map_cons, List.map_nil, now, written]
  cases configuration.demands with
  | true => rfl
  | false => exact congrArg Except.ok (List.append_nil _)

/-- With a strict handler, a template may be rendered while dropped values are not reported, and not
later when they are. -/
theorem not_render_eq : ¬∀ (session compiled : Session) (name source : Text) (nodes : List Node)
    (steps : List LaterStep) (scope : Scope), session.Orderly →
      compile name source session = (.ok nodes, compiled) → includesAny nodes = false →
        (∀ step ∈ steps, step.Leaves name) →
          (render name scope (steps.foldl (fun s step => step.after s) compiled)).1 =
            (render name scope compiled).1 := by
  intro unaffected
  let use : Use := ⟨Tag.simple ['x'] false, ['n'],
    [.positional 0 (.plain ⟨['n'], .variable ⟨['n'], .path ['n'] []⟩, []⟩)]⟩
  let source := "\x7b% x n %\x7d".toList
  let session : Session := { start (.switches .null (.bool false)) false [] with
    library := { tags := [use.tag] } }
  let nodes : List Node := [.element use.tag (Ledger.identifier 1) source use.entries []]
  let compiled : Session := { session with
    ledger := { session.ledger with tagCount := 1 }, templates := [(['m'], nodes)] }
  have orderly : session.Orderly :=
    ⟨.switches _ _ _, List.forall_mem_nil _,
      List.forall_mem_singleton.mpr Behaviour.argumentsOnly_default, List.forall_mem_nil _⟩
  have compiles : compile ['m'] source session = (.ok nodes, compiled) := by
    have written : ∀ f ∈ [Fragment.opener use], f.Written :=
      List.forall_mem_singleton.mpr ⟨by decide, by decide, by decide, by decide⟩
    have unbroken : ∀ f ∈ [Fragment.opener use], f.Unbroken := by
      rw [List.forall_mem_singleton, Fragment.Unbroken]
      decide
    have pieces : Piece.ofTemplate source = [.block ⟨['x', ' ', 'n'], 1⟩] :=
      Fragment.scan_sourceAll written unbroken (List.not_mem_nil : '{' ∉ []) 1
    have accepted : ofTemplate session.library none source session.ledger =
        (.ok nodes, compiled.ledger) := by
      rw [ofTemplate, pieces]
      cbv
    rw [compile_eq_ok_iff, accepted]
    exact ⟨rfl, rfl⟩
  obtain ⟨n, long⟩ : ∃ n : Int, Value.tooLong ≤ n.natAbs :=
    ⟨Value.tooLong, (Int.natAbs_natCast _).ge⟩
  let scope : Scope := Scope.ofData [(['n'], .int n)] true
  have means : Means nodes [.element use []] := Node.means_element rfl rfl Node.means_nil _ _
  have rendered {other : Session} (template : byName? other.templates ['m'] = some nodes)
      (formed : other.ledger.configuration.WellFormed) : (render ['m'] scope other).1 =
        if other.ledger.configuration.demands then .error (.eval .unsuitableValue)
        else .ok "<x>".toList := by
    rw [fst_render template, means.render, Stage.start_ledger, Stage.start_scope]
    rw [htmlAll_undescribed formed (fun _ _ same => by cases same) rfl (Value.isTruthy_tooLong long)
      (Value.described_tooLong long) rfl _ rfl (Scope.current_of_changes_eq_nil rfl _)]
    cases other.ledger.configuration.demands <;> rfl
  have same := unaffected session compiled ['m'] source nodes
    [.configure (.switches .null (.bool true))] scope orderly compiles rfl
    (List.forall_mem_singleton.mpr (.switches _ _ _))
  rw [rendered rfl (.switches _ _ _), rendered rfl (.switches _ _ _)] at same
  cases same

end ElementTags.Session
