import ElementTags.Proofs.Computation
import ElementTags.Proofs.Visits
import ElementTags.Template.Draft

/-! # What compiling logs

While steps are logged, the log of an engine that compiles a template holds the lines
of the visits in its draft at any time (`ElementTags.Draft.visits`): the uses of tags
in finished nodes are done, and those that are open are not. A step that fails logs
nothing. So a compiled template has logged its uses of tags in order, and one that is
rejected those in its draft, of which the open ones are not done
(`ElementTags.Node.ofTemplate_logs`).
-/

namespace ElementTags

open ElementTags.Computation Node
open Visit (linesAll linesAll_append Complete Underway)

/-! ## Visits in a draft -/

/-- The visits in the bodies that an open block remembers. -/
def Opening.visits : Opening → List Visit
  | .element _ _ _ _ => []
  | .choice earlier _ => earlier.flatMap fun branch => visitsAll branch.2
  | .otherwise earlier => earlier.flatMap fun branch => visitsAll branch.2
  | .loop _ _ _ => []
  | .whenEmpty _ _ _ body => visitsAll body
  | .binding _ => []
  | .escaping _ => []
  | .host _ parts _ _ => visitsAll parts

/-- The use of a tag that an open block is the body of, if it is one. -/
def Opening.use? : Opening → Option (Text × Text)
  | .element tag identifier _ _ => some (tag.name, identifier)
  | _ => none

/-- The visits in an open block, where `inner` are those in the blocks within it. -/
def Frame.visits (frame : Frame) (inner : List Visit) : List Visit :=
  let own := frame.opening.visits ++ visitsAll frame.nodes ++ inner
  match frame.opening.use? with
  | some (tag, identifier) => [.visit tag identifier false own]
  | none => own

namespace Draft

/-- The visits in open blocks, the innermost first, around those within them. -/
def within : List Frame → List Visit → List Visit
  | [], inner => inner
  | frame :: outer, inner => within outer (frame.visits inner)

/-- The visits in a draft with further ones in its innermost open block. -/
def visitsWith (draft : Draft) (inner : List Visit) : List Visit :=
  visitsAll draft.nodes ++ within draft.frames inner

/-- The visits in a draft. -/
def visits (draft : Draft) : List Visit := draft.visitsWith []

/-- The uses of tags that are open, the outermost first. -/
def openUses (draft : Draft) : List (Text × Text) :=
  draft.frames.reverse.flatMap fun frame => frame.opening.use?.toList

variable {draft : Draft} {β : Type} {tell : List Visit → List β}

/-- What is further visited in the innermost open block is told behind everything else. -/
theorem tell_within (serial : Visit.Serial tell) (frames : List Frame) (inner : List Visit) :
    tell (within frames inner) = tell (within frames []) ++ tell inner := by
  induction frames generalizing inner with
  | nil => exact serial.append [] inner
  | cons frame outer ih =>
      have own : tell (frame.visits inner) = tell (frame.visits []) ++ tell inner := by
        unfold Frame.visits
        rw [List.append_nil]
        split
        · exact serial.undone ..
        · exact serial.append ..
      rw [within, within, ih, ih (frame.visits []), own, List.append_assoc]

theorem tell_visitsWith (serial : Visit.Serial tell) (draft : Draft) (inner : List Visit) :
    tell (draft.visitsWith inner) = tell draft.visits ++ tell inner := by
  rw [visits, visitsWith, visitsWith, serial.append, serial.append, tell_within serial,
    List.append_assoc]

theorem linesAll_visitsWith (step : String) (draft : Draft) (inner : List Visit) :
    linesAll step (draft.visitsWith inner) =
      linesAll step draft.visits ++ linesAll step inner :=
  tell_visitsWith (Visit.serial_linesAll step) draft inner

theorem visitsWith_add (draft : Draft) (node : Node) (inner : List Visit) :
    (draft.add node).visitsWith inner = draft.visitsWith (node.visits ++ inner) := by
  obtain ⟨nodes, frames⟩ := draft
  cases frames with
  | nil =>
      simp only [add, visitsWith, within, visitsAll_append, visitsAll_singleton, List.append_assoc]
  | cons frame outer =>
      simp only [add, visitsWith, within, Frame.visits, visitsAll_append, visitsAll_singleton,
        List.append_assoc]

theorem visitsWith_addAll (draft : Draft) (nodes : List Node) (inner : List Visit) :
    (nodes.foldl add draft).visitsWith inner = draft.visitsWith (visitsAll nodes ++ inner) := by
  induction nodes generalizing draft with
  | nil => rfl
  | cons node rest ih =>
      rw [List.foldl_cons, ih, visitsWith_add, visitsAll, List.append_assoc]

theorem tell_add (serial : Visit.Serial tell) (draft : Draft) (node : Node) :
    tell (draft.add node).visits = tell draft.visits ++ tell node.visits := by
  rw [visits, visitsWith_add, tell_visitsWith serial, List.append_nil]

theorem tell_enter (serial : Visit.Serial tell) (draft : Draft) (opening : Opening) (name : Text)
    (line : Nat) : tell (draft.enter opening name line).visits =
      tell draft.visits ++ tell (Frame.visits ⟨opening, name, line, []⟩ []) :=
  tell_visitsWith serial draft _

theorem visitsAll_choiceOf (branches : List (FilterExpr × List Node)) (otherwise : List Node) :
    visitsAll (choiceOf branches otherwise) =
      (branches.flatMap fun branch => visitsAll branch.2) ++ visitsAll otherwise := by
  induction branches with
  | nil => rfl
  | cons branch rest ih =>
      rw [List.flatMap_cons, List.append_assoc, ← ih]
      exact visitsAll_singleton _

theorem complete_branches (branches : List (FilterExpr × List Node)) :
    Complete (branches.flatMap fun branch => visitsAll branch.2) := by
  induction branches with
  | nil => exact .nil
  | cons branch rest ih => exact (complete_visitsAll branch.2).append ih

theorem complete_opening (opening : Opening) : Complete opening.visits := by
  cases opening with
  | element tag identifier source entries => exact .nil
  | choice earlier condition => exact complete_branches earlier
  | otherwise earlier => exact complete_branches earlier
  | loop names collection backwards => exact .nil
  | whenEmpty names collection backwards body => exact complete_visitsAll body
  | binding bindings => exact .nil
  | escaping on => exact .nil
  | host skips parts endings next => exact complete_visitsAll parts

/-- The visits in open blocks are underway: those of the open uses are not done. -/
theorem underway_within {inner : List Visit} {path : List (Text × Text)}
    (underway : Underway inner path) (frames : List Frame) :
    Underway (within frames inner)
      ((frames.reverse.flatMap fun frame => frame.opening.use?.toList) ++ path) := by
  induction frames generalizing inner path with
  | nil => exact underway
  | cons frame outer ih =>
      have own : Underway (frame.opening.visits ++ visitsAll frame.nodes ++ inner) path :=
        underway.behind ((complete_opening frame.opening).append (complete_visitsAll frame.nodes))
      rw [within, List.reverse_cons, List.flatMap_append, List.flatMap_singleton,
        List.append_assoc]
      cases use : frame.opening.use? with
      | none =>
          have around : frame.visits inner =
              frame.opening.visits ++ visitsAll frame.nodes ++ inner := by
            rw [Frame.visits, use]
          rw [around]
          exact ih own
      | some pair =>
          obtain ⟨tag, identifier⟩ := pair
          have around : frame.visits inner = [.visit tag identifier false
              (frame.opening.visits ++ visitsAll frame.nodes ++ inner)] := by
            rw [Frame.visits, use]
          rw [around]
          exact ih (Underway.within .nil own)

/-- The visits in a draft are underway: those of the open uses are not done. -/
theorem underway_visits (draft : Draft) : Underway draft.visits draft.openUses := by
  have within := underway_within (.complete .nil) draft.frames
  rw [List.append_nil] at within
  exact within.behind (complete_visitsAll draft.nodes)

end Draft

/-! ## Steps of compiling -/

namespace Compiling

section

variable {α : Type} {good : α → Prop} {invariant : Ledger → Prop}

theorem keeps_reject {fault : TemplateFault} : Keeps invariant (reject fault) good :=
  fun _ kept => ⟨kept, fun _ failed => by cases failed⟩

theorem keeps_ofExcept (result : Except TemplateFault α) :
    Keeps invariant (ofExcept result) fun _ => True := by
  cases result with
  | ok a => exact keeps_pure trivial
  | error fault => exact keeps_reject

theorem keeps_usesGrammar (tag : Tag) : Keeps invariant (usesGrammar tag) fun _ => True := by
  refine fun ledger kept => ⟨?_, fun _ _ => trivial⟩
  unfold usesGrammar
  split
  · exact kept
  · split <;> exact kept

end

variable {α β : Type} {told : List LogLine} {tells : α → List LogLine}

/-- While steps are logged, a computation on a log that ends with some lines leaves a log that ends
with others in their place, and with the same ones if it fails. -/
def Records (told : List LogLine) (x : Compiling α) (tells : α → List LogLine) : Prop :=
  ∀ base ledger, ledger.tracing = true → ledger.lines.reverse = base ++ told →
    (x ledger).2.tracing = true ∧
      match (x ledger).1 with
      | .ok a => (x ledger).2.lines.reverse = base ++ tells a
      | .error _ => (x ledger).2.lines.reverse = base ++ told

theorem records_pure {a : α} (same : tells a = told) : Records told (pure a) tells :=
  fun _ _ tracing lines => ⟨tracing, lines.trans (congrArg _ same.symm)⟩

theorem records_reject (fault : TemplateFault) : Records told (reject fault) tells :=
  fun _ _ tracing lines => ⟨tracing, lines⟩

/-- A computation that logs nothing may come first. -/
theorem Records.bind {x : Compiling α} {f : α → Compiling β} {tells : β → List LogLine}
    (first : Records told x fun _ => told) (next : ∀ a, Records told (f a) tells) :
    Records told (x >>= f) tells := by
  intro base ledger tracing lines
  obtain ⟨still, logged⟩ := first base ledger tracing lines
  rw [bind_eq]
  cases result : (x ledger).1 with
  | ok a =>
      rw [result] at logged
      exact next a base _ still logged
  | error fault =>
      rw [result] at logged
      exact ⟨still, logged⟩

theorem records_ofExcept (result : Except TemplateFault α) :
    Records told (ofExcept result) fun _ => told := by
  cases result with
  | ok a => exact records_pure rfl
  | error fault => exact records_reject fault

theorem records_takeIdentifier : Records told takeIdentifier fun _ => told :=
  fun _ _ tracing lines => ⟨tracing, lines⟩

theorem records_takeSerial : Records told takeSerial fun _ => told :=
  fun _ _ tracing lines => ⟨tracing, lines⟩

theorem records_usesGrammar (tag : Tag) : Records told (usesGrammar tag) fun _ => told := by
  intro base ledger tracing lines
  unfold usesGrammar
  split
  · exact ⟨tracing, lines⟩
  · split <;> exact ⟨tracing, lines⟩

/-- What is logged first stays in front of what is logged then, unless something fails. -/
theorem records_trace {line : LogLine} {x : Compiling α}
    (succeeds : ∀ ledger, ∃ a after, x ledger = (.ok a, after))
    (next : Records (told ++ [line]) x tells) :
    Records told (trace line >>= fun _ => x) tells := by
  intro base ledger tracing lines
  have logged : (ledger.trace line).lines.reverse = base ++ (told ++ [line]) := by
    rw [Ledger.trace, if_pos tracing, Ledger.log, List.reverse_append, lines, List.append_assoc]
    rfl
  have still : (ledger.trace line).tracing = true := by
    rw [Ledger.trace, if_pos tracing]
    exact tracing
  obtain ⟨a, after, ran⟩ := succeeds (ledger.trace line)
  have behind := next base _ still logged
  rw [bind_of_ok (show trace line ledger = (.ok (), ledger.trace line) from rfl)]
  rw [ran] at behind ⊢
  exact behind

end Compiling

/-- The visits in an open block that ends: it is a body that is done, or the visits in it stay as
they are. -/
def Frame.ended (frame : Frame) : List Visit :=
  let own := frame.opening.visits ++ visitsAll frame.nodes
  match frame.opening.use? with
  | some (tag, identifier) => [.visit tag identifier true own]
  | none => own

namespace Draft

open Compiling

/-- The visits in the parts of a block of the host stay in their places, whether or not a further
part follows. -/
theorem visits_proceed (name : Text) (line : Nat) (parts : List Node) (draft : Draft)
    (step : HostStep) :
    Keeps (fun _ => True) (proceed name line parts draft step) fun next =>
      next.visits = draft.visitsWith (visitsAll parts) := by
  cases step with
  | part skips endings next =>
      refine keeps_pure (congrArg draft.visitsWith ?_)
      exact (List.append_nil _).trans (List.append_nil _)
  | done weave =>
      refine keeps_pure ((visitsWith_add draft _ []).trans (congrArg draft.visitsWith ?_))
      exact List.append_nil _
  | reject fault => exact keeps_reject

theorem silent_proceed (name : Text) (line : Nat) (parts : List Node) (draft : Draft)
    (step : HostStep) (ledger : Ledger) :
    (proceed name line parts draft step ledger).2 = ledger := by
  cases step <;> rfl

/-- The visits in a block that ends or goes on with its next part stay in their places. -/
theorem visits_closeBlock (b : Block) (frame : Frame) (rest : Draft) :
    Keeps (fun _ => True) (closeBlock b frame rest) fun next =>
      next.visits = rest.visitsWith frame.ended := by
  have whole (vs : List Visit) : vs ++ [] = vs := List.append_nil vs
  have added (nodes : List Node) (same : visitsAll nodes = frame.ended) :
      (nodes.foldl add rest).visits = rest.visitsWith frame.ended := by
    rw [visits, visitsWith_addAll, whole, same]
  have reopened (opening : Opening) (other : opening.use? = none)
      (same : opening.visits = frame.ended) :
      (rest.reopen frame opening).visits = rest.visitsWith frame.ended := by
    rw [← same]
    refine congrArg (fun vs => rest.visitsWith vs) ?_
    rw [Frame.visits, other, whole]
    exact whole _
  obtain ⟨opening, name, line, nodes⟩ := frame
  cases opening with
  | element tag identifier source entries =>
      exact Keeps.bind (fun _ _ => ⟨trivial, fun _ _ => trivial⟩) fun _ _ =>
        keeps_pure (added [_] (visitsAll_singleton _))
  | choice earlier condition =>
      have branches : ((earlier ++ [(condition, nodes)]).flatMap fun branch =>
          visitsAll branch.2) = Frame.ended ⟨.choice earlier condition, name, line, nodes⟩ := by
        rw [List.flatMap_append, List.flatMap_singleton]
        rfl
      unfold closeBlock
      dsimp only
      split
      · exact (keeps_ofExcept _).bind fun next _ => keeps_pure (reopened _ rfl branches)
      · split
        · exact keeps_pure (reopened _ rfl branches)
        · split
          · refine keeps_pure (added _ ?_)
            rw [visitsAll_choiceOf, branches]
            exact whole _
          · exact keeps_reject
  | otherwise earlier =>
      unfold closeBlock
      dsimp only
      split
      · exact keeps_pure (added _ (visitsAll_choiceOf _ _))
      · exact keeps_reject
  | loop names collection backwards =>
      unfold closeBlock
      dsimp only
      split
      · exact keeps_pure (reopened _ rfl rfl)
      · refine keeps_pure (added [_] ?_)
        rw [visitsAll_singleton, Node.visits]
        exact whole _
  | whenEmpty names collection backwards body =>
      exact keeps_pure (added [_] (visitsAll_singleton _))
  | binding bindings => exact keeps_pure (added [_] (visitsAll_singleton _))
  | escaping on => exact keeps_pure (added [_] (visitsAll_singleton _))
  | host skips parts endings next =>
      have same : visitsAll (parts ++ [.group nodes]) =
          Frame.ended ⟨.host skips parts endings next, name, line, nodes⟩ := by
        rw [visitsAll_append, visitsAll_singleton]
        rfl
      exact same ▸ visits_proceed name line _ rest (next b.contents)

/-- The lines about the visits in a draft. -/
def told (draft : Draft) : List LogLine := linesAll stepName draft.visits

variable {draft rest : Draft}

theorem told_add (draft : Draft) (node : Node) :
    (draft.add node).told = draft.told ++ linesAll stepName node.visits :=
  tell_add (Visit.serial_linesAll stepName) draft node

theorem told_enter (draft : Draft) (opening : Opening) (name : Text) (line : Nat) :
    (draft.enter opening name line).told =
      draft.told ++ linesAll stepName (Frame.visits ⟨opening, name, line, []⟩ []) :=
  tell_enter (Visit.serial_linesAll stepName) draft opening name line

/-- An open block without a visit in it is not logged, unless it is the body of a tag. -/
theorem told_enter_of_statement (draft : Draft) {opening : Opening} (bodiless : opening.visits = [])
    (statement : opening.use? = none) (name : Text) (line : Nat) :
    (draft.enter opening name line).told = draft.told := by
  rw [told_enter, Frame.visits, statement, bodiless]
  exact List.append_nil _

/-- A use of a tag is logged when its attributes have been read. -/
theorem records_openElement (tag : Tag) (b : Block) (draft : Draft) :
    Records draft.told (openElement tag b draft) told := by
  refine records_takeIdentifier.bind fun identifier => (records_usesGrammar tag).bind fun _ => ?_
  refine (records_ofExcept _).bind fun head => records_trace (fun ledger => ?_) ?_
  · split <;> exact ⟨_, _, rfl⟩
  · split
    · exact records_pure (told_enter ..)
    · refine records_trace (fun ledger => ⟨_, _, rfl⟩) (records_pure ?_)
      rw [told_add, List.append_assoc]
      rfl

theorem records_openStatement (origin : Option Text) (name : Text) (line : Nat) (draft : Draft)
    (statement : Statement) :
    Records draft.told (openStatement origin name line draft statement) told := by
  cases statement with
  | choice condition => exact records_pure (told_enter_of_statement _ rfl rfl _ _)
  | loop names collection backwards => exact records_pure (told_enter_of_statement _ rfl rfl _ _)
  | binding bindings => exact records_pure (told_enter_of_statement _ rfl rfl _ _)
  | escaping on => exact records_pure (told_enter_of_statement _ rfl rfl _ _)
  | inclusion template =>
      refine records_takeSerial.bind fun serial => records_pure ?_
      rw [told_add]
      exact List.append_nil _
  | host step =>
      intro base ledger tracing lines
      rw [openStatement, silent_proceed]
      refine ⟨tracing, ?_⟩
      split
      · rename_i next gives
        rw [told, (visits_proceed name line [] draft step ledger trivial).2 next gives, lines]
        rfl
      · exact lines

theorem records_openBlock (library : Library) (origin : Option Text) (name : Text) (b : Block)
    (draft : Draft) : Records draft.told (openBlock library origin name b draft) told := by
  unfold openBlock
  split
  · exact records_openElement _ b draft
  · split
    · exact (records_ofExcept _).bind fun statement => records_openStatement origin name _ draft _
    · exact records_reject _

section

variable {frame : Frame}

/-- What is logged while the innermost block is open. -/
def toldWith (rest : Draft) (frame : Frame) : List LogLine :=
  linesAll stepName (rest.visitsWith (frame.visits []))

/-- Where a statement ends or goes on with its next part, its visits stay where they are, and
nothing is logged. -/
theorem records_of_silent {rest : Draft} (statement : frame.opening.use? = none)
    {x : Compiling Draft} (silent : ∀ ledger, (x ledger).2 = ledger)
    (same : Keeps (fun _ => True) x fun next => next.visits = rest.visitsWith frame.ended) :
    Records (toldWith rest frame) x told := by
  have open_eq : frame.visits [] = frame.ended := by
    rw [Frame.visits, Frame.ended, statement, List.append_nil]
  intro base ledger tracing lines
  rw [silent ledger]
  refine ⟨tracing, ?_⟩
  split
  · rename_i next gives
    rw [told, (same ledger trivial).2 next gives, lines, toldWith, open_eq]
  · exact lines

theorem silent_closeBlock (b : Block) (rest : Draft) (statement : frame.opening.use? = none)
    (ledger : Ledger) : (closeBlock b frame rest ledger).2 = ledger := by
  have silent {α : Type} (result : Except TemplateFault α) (f : α → Draft) :
      ((do pure (f (← ofExcept result)) : Compiling Draft) ledger).2 = ledger := by
    cases result <;> rfl
  obtain ⟨opening, name, line, nodes⟩ := frame
  unfold closeBlock
  dsimp only
  cases opening with
  | element tag identifier source entries => cases statement
  | choice earlier condition =>
      dsimp only
      split
      · exact silent _ _
      · split
        · rfl
        · split <;> rfl
  | otherwise earlier =>
      dsimp only
      split <;> rfl
  | loop names collection backwards =>
      dsimp only
      split <;> rfl
  | whenEmpty names collection backwards body => rfl
  | binding bindings => rfl
  | escaping on => rfl
  | host skips parts endings next => exact silent_proceed ..

/-- Only where the body of a tag ends something is logged: that the tag is done. -/
theorem records_closeBlock (b : Block) (frame : Frame) (rest : Draft) :
    Records (toldWith rest frame) (closeBlock b frame rest) told := by
  cases statement : frame.opening.use? with
  | none =>
      exact records_of_silent statement (silent_closeBlock b rest statement)
        (visits_closeBlock b frame rest)
  | some use =>
      obtain ⟨opening, name, line, nodes⟩ := frame
      cases opening with
      | element tag identifier source entries =>
          refine records_trace (fun ledger => ⟨_, _, rfl⟩) (records_pure ?_)
          rw [toldWith, linesAll_visitsWith, told_add, List.append_assoc]
          simp only [Frame.visits, Node.visits, Opening.use?, Opening.visits, linesAll,
            Visit.lines_done, Visit.lines_undone, List.nil_append, List.append_nil,
            List.cons_append]
          rfl
      | _ => cases statement

end

theorem records_takeBlock (library : Library) (origin : Option Text) (draft : Draft) (b : Block) :
    Records draft.told (takeBlock library origin draft b) told := by
  unfold takeBlock
  split
  · exact records_reject _
  · rename_i name frame outer _ opened
    split
    · have same : draft.told = toldWith { draft with frames := outer } frame := by
        rw [told, toldWith, visits, visitsWith, opened]
        rfl
      rw [same]
      exact records_closeBlock b frame _
    · exact records_openBlock library origin name b draft
  · exact records_openBlock library origin _ b draft

/-- After a piece has been compiled, the lines about the visits in the draft are logged, and nothing
is logged if it cannot be compiled. -/
theorem records_compile (library : Library) (origin : Option Text) (draft : Draft)
    (piece : Piece) : Records draft.told (compile library origin draft piece) told := by
  have silent {node : Node} (none : node.visits = []) : (draft.add node).told = draft.told := by
    rw [told_add, none]
    exact List.append_nil _
  cases piece with
  | text s => exact records_pure (silent rfl)
  | verbatim s => exact records_pure (silent rfl)
  | comment => exact records_pure rfl
  | value contents line =>
      rw [compile]
      split
      · exact records_reject _
      · exact (records_ofExcept _).bind fun e => records_pure (silent rfl)
  | block b => exact records_takeBlock library origin draft b

/-- So it is when a piece is taken, since nothing happens if it is skipped. -/
theorem records_take (library : Library) (origin : Option Text) (draft : Draft) (piece : Piece) :
    Records draft.told (take library origin draft piece) told := by
  unfold take
  split
  · exact records_pure rfl
  · exact records_compile library origin draft piece

/-! ## Compiling a template -/

/-- Some pieces of a template were taken into a draft when the template was rejected: the next piece
could not be taken, or there was none and a block was still open. -/
inductive Rejected (library : Library) (origin : Option Text) (pieces : List Piece)
    (ledger : Ledger) (fault : Fault) (after : Ledger) : Draft → Prop
  | piece {front behind : List Piece} {piece : Piece} {draft : Draft} {reached : Ledger}
      (split : pieces = front ++ piece :: behind)
      (taken : front.foldlM (take library origin) {} ledger = (.ok draft, reached))
      (failed : take library origin draft piece reached = (.error fault, after)) :
      Rejected library origin pieces ledger fault after draft
  | unclosed {draft : Draft}
      (taken : pieces.foldlM (take library origin) {} ledger = (.ok draft, after))
      (failed : draft.finish after = (.error fault, after)) :
      Rejected library origin pieces ledger fault after draft

/-- While pieces are taken, the lines about the visits in the draft are logged. If a piece cannot be
taken, they are those of the draft that was reached before. -/
theorem logged_take {library : Library} {origin : Option Text} {base : List LogLine}
    (pieces : List Piece) {draft : Draft} {ledger : Ledger} (tracing : ledger.tracing = true)
    (lines : ledger.lines.reverse = base ++ draft.told) :
    (∃ next after, pieces.foldlM (take library origin) draft ledger = (.ok next, after) ∧
      after.lines.reverse = base ++ next.told) ∨
    ∃ front piece behind reached between fault after, pieces = front ++ piece :: behind ∧
      front.foldlM (take library origin) draft ledger = (.ok reached, between) ∧
      take library origin reached piece between = (.error fault, after) ∧
      pieces.foldlM (take library origin) draft ledger = (.error fault, after) ∧
      after.lines.reverse = base ++ reached.told := by
  induction pieces generalizing draft ledger with
  | nil => exact .inl ⟨draft, ledger, rfl, lines⟩
  | cons piece rest ih =>
      obtain ⟨still, logged⟩ := records_take library origin draft piece base ledger tracing lines
      cases taken : take library origin draft piece ledger with
      | mk result after =>
          rw [taken] at still logged
          cases result with
          | error fault =>
              refine .inr ⟨[], piece, rest, draft, ledger, fault, after, rfl, rfl, taken, ?_,
                logged⟩
              rw [List.foldlM_cons]
              exact bind_of_error taken
          | ok next =>
              have goesOn (pieces : List Piece) :
                  (piece :: pieces).foldlM (take library origin) draft ledger =
                    pieces.foldlM (take library origin) next after := by
                rw [List.foldlM_cons]
                exact bind_of_ok taken
              rw [goesOn]
              rcases ih still logged with done |
                ⟨front, stuck, behind, reached, between, fault, last, split, before, failed, all,
                  told⟩
              · exact .inl done
              · exact .inr ⟨piece :: front, stuck, behind, reached, between, fault, last,
                  congrArg (piece :: ·) split, (goesOn front).trans before, failed, all, told⟩

end Draft

open Draft in
/-- While steps are logged, a template that is compiled logs its uses of tags in order, each around
those in its body. One that is rejected logs those in the draft that was reached before, and exactly
the open ones among them are not done. -/
theorem Node.ofTemplate_logs {library : Library} {origin : Option Text} {source : Text}
    {ledger : Ledger} (tracing : ledger.tracing = true) :
    (∀ nodes after, ofTemplate library origin source ledger = (.ok nodes, after) →
      after.lines.reverse = ledger.lines.reverse ++ linesAll stepName (visitsAll nodes)) ∧
    ∀ fault after, ofTemplate library origin source ledger = (.error fault, after) →
      ∃ draft, Rejected library origin (Piece.ofTemplate source) ledger fault after draft ∧
        after.lines.reverse = ledger.lines.reverse ++ linesAll stepName draft.visits ∧
        Underway draft.visits draft.openUses := by
  have begun : ledger.lines.reverse = ledger.lines.reverse ++ Draft.told {} :=
    (List.append_nil _).symm
  rcases @logged_take library origin _ (Piece.ofTemplate source) {} ledger tracing begun with
    ⟨draft, reached, taken, told⟩ | ⟨front, piece, behind, draft, between, fault, after, split,
      before, failed, all, told⟩
  · have finished : ofTemplate library origin source ledger = draft.finish reached :=
      bind_of_ok taken
    rw [finished]
    obtain ⟨outside, frames⟩ := draft
    cases frames with
    | nil =>
        refine ⟨fun nodes after ended => ?_, fun fault after ended => (by cases ended)⟩
        cases ended
        rw [told, Draft.told, Draft.visits, visitsWith]
        exact congrArg (fun vs => _ ++ linesAll stepName vs) (List.append_nil _)
    | cons frame outer =>
        refine ⟨fun nodes after ended => (by cases ended), fun fault after ended => ?_⟩
        have same : after = reached := (congrArg Prod.snd ended).symm
        subst same
        exact ⟨_, .unclosed taken ended, told, underway_visits _⟩
  · have rejected : ofTemplate library origin source ledger = (.error fault, after) :=
      bind_of_error all
    rw [rejected]
    refine ⟨fun nodes after ended => (by cases ended), fun fault after ended => ?_⟩
    cases ended
    exact ⟨_, .piece split before failed, told, underway_visits _⟩

end ElementTags
