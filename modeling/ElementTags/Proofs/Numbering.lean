import ElementTags.Proofs.CompileTrace
import ElementTags.Proofs.Keeping
import ElementTags.Text.Digit

/-! # The identifiers of a template

An engine counts the uses of tags that it comes to while it compiles templates, and each
takes the number of the next as its identifier. The digits of an identifier spell its
number (`ElementTags.Ledger.hexNumber?_identifier`), so that different numbers have
different identifiers.

The uses of tags in a draft have taken one number after the other, each before those in
its body (`ElementTags.Draft.Numbered`). So those of a template are numbered in the order
of the template, also as far as one got that is rejected
(`ElementTags.Compilation.numbered`).
-/

namespace ElementTags

open ElementTags.Computation Node
open Visit (identifiersAll identifiersAll_append identifiersAll_singleton serial_identifiersAll)

/-! ## Identifiers and their numbers -/

namespace Ledger

theorem hexValue?_digitChar {n : Nat} (digit : n < 16) :
    Text.hexValue? n.digitChar = some n := by
  have each : ∀ n : Fin 16, Text.hexValue? n.val.digitChar = some n.val := by decide
  exact each ⟨n, digit⟩

/-- A digit behind others counts once, and these count sixteen times as much. -/
theorem hexNumber?_append_digit {front : Text} {m n : Nat} (before : Text.hexNumber? front = some m)
    (digit : n < 16) : Text.hexNumber? (front ++ [n.digitChar]) = some (16 * m + n) := by
  unfold Text.hexNumber? at before ⊢
  rw [List.foldlM_append, before]
  simp only [List.foldlM_cons, List.foldlM_nil, hexValue?_digitChar digit, Option.map_some]
  rfl

theorem hexNumber?_toDigits (n : Nat) : Text.hexNumber? (Nat.toDigits 16 n) = some n := by
  induction n using Nat.strongRecOn with
  | ind n ih =>
      rw [Nat.toDigits_eq_if (by decide)]
      split
      · rename_i digit
        have nothing : Text.hexNumber? [] = some 0 := rfl
        exact (hexNumber?_append_digit nothing digit).trans (congrArg some (Nat.zero_add n))
      · have before := ih (n / 16) (by omega)
        rw [hexNumber?_append_digit before (Nat.mod_lt n (by decide)), Nat.div_add_mod]

/-- The digits of an identifier spell its number. -/
theorem hexNumber?_identifier (n : Nat) : Text.hexNumber? (identifier n) = some n := by
  have zeros (count : Nat) : Text.hexNumber? (List.replicate count '0') = some 0 := by
    induction count with
    | zero => rfl
    | succ count ih =>
        rw [List.replicate_succ']
        exact hexNumber?_append_digit ih (by decide : 0 < 16)
  have padded := zeros (4 - (Nat.toDigits 16 n).length)
  have digits := hexNumber?_toDigits n
  rw [identifier, Text.hexDigits, Text.padLeft]
  unfold Text.hexNumber? at padded digits ⊢
  rw [List.foldlM_append, padded]
  exact digits

theorem identifier_injective : Function.Injective identifier := fun m n same =>
  Option.some.inj ((hexNumber?_identifier m).symm.trans
    ((congrArg Text.hexNumber? same).trans (hexNumber?_identifier n)))

/-- The identifiers of the next numbers behind some number. -/
def identifiersFrom (start count : Nat) : List Text :=
  (List.range' (start + 1) count).map identifier

theorem identifiersFrom_succ (start count : Nat) : identifiersFrom start (count + 1) =
    identifiersFrom start count ++ [identifier (start + count + 1)] := by
  rw [identifiersFrom, List.range'_concat, List.map_append, Nat.one_mul, Nat.add_right_comm]
  rfl

/-- The counter of an engine is at some number. -/
def Counted (count : Nat) (ledger : Ledger) : Prop := ledger.tagCount = count

theorem tagCount_trace (ledger : Ledger) (line : LogLine) :
    (ledger.trace line).tagCount = ledger.tagCount := by
  unfold trace
  split <;> rfl

end Ledger

/-! ## Identifiers in nodes and drafts -/

namespace Node

mutual

/-- The uses of tags in a node are visited in their order. -/
theorem identifiers_visits (node : Node) :
    identifiersAll (visits node) = (occurrences node).map (·.identifier) := by
  match node with
  | text _ => rfl
  | value _ => rfl
  | choice _ body otherwise =>
      rw [visits, occurrences, identifiersAll_append, List.map_append,
        identifiers_visitsAll body, identifiers_visitsAll otherwise]
  | loop _ _ _ body whenEmpty =>
      rw [visits, occurrences, identifiersAll_append, List.map_append,
        identifiers_visitsAll body, identifiers_visitsAll whenEmpty]
  | binding _ body => exact identifiers_visitsAll body
  | escaping _ body => exact identifiers_visitsAll body
  | inclusion _ _ _ => rfl
  | group body => exact identifiers_visitsAll body
  | host _ parts => exact identifiers_visitsAll parts
  | element tag identifier _ _ body =>
      rw [visits, occurrences, identifiersAll_singleton, Visit.identifiers, List.map_cons,
        identifiers_visitsAll body]

theorem identifiers_visitsAll (nodes : List Node) :
    identifiersAll (visitsAll nodes) = (occurrencesAll nodes).map (·.identifier) := by
  match nodes with
  | [] => rfl
  | n :: rest =>
      rw [visitsAll, occurrencesAll, identifiersAll_append, List.map_append,
        identifiers_visits n, identifiers_visitsAll rest]

end

end Node

namespace Draft

open Compiling

/-- The identifiers of the uses of tags in a draft, each before those in its body. -/
def identifiers (draft : Draft) : List Text := identifiersAll draft.visits

/-- The uses of tags in a draft have some identifiers. -/
def Has (identifiers : List Text) (draft : Draft) : Prop := draft.identifiers = identifiers

section

variable {draft : Draft} {count : Nat} {ids : List Text}

theorem has_add (has : draft.Has ids) (node : Node) :
    (draft.add node).Has (ids ++ identifiersAll node.visits) := by
  rw [Has, ← has]
  exact tell_add serial_identifiersAll draft node

theorem has_enter (has : draft.Has ids) (opening : Opening) (name : Text) (line : Nat) :
    (draft.enter opening name line).Has
      (ids ++ identifiersAll (Frame.visits ⟨opening, name, line, []⟩ [])) := by
  rw [Has, ← has]
  exact tell_enter serial_identifiersAll draft opening name line

/-- Whether a block is open does not matter for the identifiers in it. -/
theorem identifiers_ended (frame : Frame) :
    identifiersAll frame.ended = identifiersAll (frame.visits []) := by
  rw [Frame.ended, Frame.visits]
  cases frame.opening.use? with
  | none => rw [List.append_nil]
  | some use => simp only [identifiersAll_singleton, Visit.identifiers, List.append_nil]

/-! ## Steps of compiling -/

theorem counted_trace (line : LogLine) :
    Keeps (Ledger.Counted count) (trace line) fun _ => True := fun ledger counted =>
  ⟨(ledger.tagCount_trace line).trans counted, fun _ _ => trivial⟩

theorem counted_takeSerial : Keeps (Ledger.Counted count) takeSerial fun _ => True :=
  fun _ counted => ⟨counted, fun _ _ => trivial⟩

/-- A statement has no identifier. -/
theorem has_openStatement (has : draft.Has ids) (origin : Option Text) (name : Text) (line : Nat)
    (statement : Statement) :
    Keeps (Ledger.Counted count) (openStatement origin name line draft statement) (Has ids) := by
  rw [← List.append_nil ids]
  cases statement with
  | choice condition => exact keeps_pure (has_enter has _ _ _)
  | loop names collection backwards => exact keeps_pure (has_enter has _ _ _)
  | binding bindings => exact keeps_pure (has_enter has _ _ _)
  | escaping on => exact keeps_pure (has_enter has _ _ _)
  | inclusion template => exact counted_takeSerial.bind fun _ _ => keeps_pure (has_add has _)
  | host step =>
      intro ledger counted
      rw [openStatement, silent_proceed, List.append_nil]
      refine ⟨counted, fun next gives => ?_⟩
      rw [Has, identifiers, (visits_proceed name line [] draft step ledger trivial).2 next gives]
      exact has

/-- A block that ends or goes on with its next part keeps its identifiers. -/
theorem has_closeBlock (b : Block) {frame : Frame} {rest : Draft}
    (same : identifiersAll (rest.visitsWith (frame.visits [])) = ids) :
    Keeps (Ledger.Counted count) (closeBlock b frame rest) (Has ids) := by
  intro ledger counted
  refine ⟨?_, fun next gives => ?_⟩
  · cases statement : frame.opening.use? with
    | none =>
        rw [silent_closeBlock b rest statement]
        exact counted
    | some use =>
        obtain ⟨opening, name, line, nodes⟩ := frame
        cases opening with
        | element tag identifier source entries =>
            exact (ledger.tagCount_trace _).trans counted
        | _ => cases statement
  · have ended := (visits_closeBlock b frame rest ledger trivial).2 next gives
    rw [Has, identifiers, ended, ← same, tell_visitsWith serial_identifiersAll,
      tell_visitsWith serial_identifiersAll, identifiers_ended]

/-- A use of a tag takes the number of the next, also if its attributes cannot be read. -/
theorem has_openElement (has : draft.Has ids) (tag : Tag) (b : Block) (ledger : Ledger) :
    (openElement tag b draft ledger).2.tagCount = ledger.tagCount + 1 ∧
      ∀ next, (openElement tag b draft ledger).1 = .ok next →
        next.Has (ids ++ [Ledger.identifier (ledger.tagCount + 1)]) := by
  have taken : takeIdentifier ledger = (.ok (Ledger.identifier (ledger.tagCount + 1)),
    { ledger with tagCount := ledger.tagCount + 1 }) := rfl
  have counted : Ledger.Counted (ledger.tagCount + 1)
      { ledger with tagCount := ledger.tagCount + 1 } := rfl
  rw [openElement, bind_of_ok taken]
  refine Keeps.bind (keeps_usesGrammar tag) (fun _ _ => (keeps_ofExcept _).bind fun head _ =>
    (counted_trace _).bind fun _ _ => ?_) _ counted
  split
  · exact keeps_pure (has_enter has (.element _ _ _ _) _ _)
  · exact (counted_trace _).bind fun _ _ => keeps_pure (has_add has (.element _ _ _ _ _))

end

/-! ## Numbered drafts -/

/-- The uses of tags in a draft have taken the numbers behind `start` one after the other. -/
def Numbered (start : Nat) (draft : Draft) (ledger : Ledger) : Prop :=
  ∃ count, draft.Has (Ledger.identifiersFrom start count) ∧ ledger.tagCount = start + count

/-- What follows on a draft leaves its uses of tags numbered, and does not turn the counter back. -/
def Numbers (draft : Draft) (x : Compiling Draft) : Prop :=
  ∀ start ledger, draft.Numbered start ledger → ledger.tagCount ≤ (x ledger).2.tagCount ∧
    ∀ next, (x ledger).1 = .ok next → next.Numbered start (x ledger).2

section

variable {draft : Draft} {x : Compiling Draft}

/-- A step that takes no number leaves the draft numbered if it keeps the identifiers. -/
theorem numbers_of_keeps
    (keeps : ∀ count, Keeps (Ledger.Counted count) x (Has draft.identifiers)) :
    Numbers draft x := by
  rintro start ledger ⟨count, has, counted⟩
  obtain ⟨still, same⟩ := keeps _ ledger counted
  exact ⟨Nat.le_of_eq (counted.trans still.symm),
    fun next gives => ⟨count, (same next gives).trans has, still⟩⟩

theorem numbers_openElement (tag : Tag) (b : Block) (draft : Draft) :
    Numbers draft (openElement tag b draft) := by
  rintro start ledger ⟨count, has, counted⟩
  obtain ⟨taken, added⟩ := has_openElement has tag b ledger
  refine ⟨Nat.le_of_lt (taken ▸ Nat.lt_succ_self _), fun next gives => ⟨count + 1, ?_, ?_⟩⟩
  · rw [Ledger.identifiersFrom_succ, ← counted]
    exact added next gives
  · rw [taken, counted, Nat.add_assoc]

theorem numbers_openBlock (library : Library) (origin : Option Text) (name : Text) (b : Block)
    (draft : Draft) : Numbers draft (openBlock library origin name b draft) := by
  unfold openBlock
  split
  · exact numbers_openElement _ b draft
  · split
    · exact numbers_of_keeps fun _ => (keeps_ofExcept _).bind fun statement _ =>
        has_openStatement rfl origin name _ _
    · exact numbers_of_keeps fun _ => keeps_reject

theorem numbers_takeBlock (library : Library) (origin : Option Text) (draft : Draft) (b : Block) :
    Numbers draft (takeBlock library origin draft b) := by
  unfold takeBlock
  split
  · exact numbers_of_keeps fun _ => keeps_reject
  · rename_i name frame outer _ opened
    split
    · refine numbers_of_keeps fun _ => has_closeBlock b (Eq.symm ?_)
      rw [identifiers, visits, visitsWith, opened]
      rfl
    · exact numbers_openBlock library origin name b draft
  · exact numbers_openBlock library origin _ b draft

/-- A piece is compiled with the next number if it is a use of a tag, and without one if it is not.
-/
theorem numbers_compile (library : Library) (origin : Option Text) (draft : Draft)
    (piece : Piece) : Numbers draft (compile library origin draft piece) := by
  have plain {node : Node} (none : node.visits = []) :
      (draft.add node).Has draft.identifiers := by
    have added := has_add (rfl : draft.Has draft.identifiers) node
    rw [none] at added
    exact added.trans (List.append_nil _)
  cases piece with
  | text s => exact numbers_of_keeps fun _ => keeps_pure (plain rfl)
  | verbatim s => exact numbers_of_keeps fun _ => keeps_pure (plain rfl)
  | comment => exact numbers_of_keeps fun _ => keeps_pure rfl
  | value contents line =>
      refine numbers_of_keeps fun _ => ?_
      rw [compile]
      split
      · exact keeps_reject
      · exact (keeps_ofExcept _).bind fun e _ => keeps_pure (plain rfl)
  | block b => exact numbers_takeBlock library origin draft b

theorem numbers_take (library : Library) (origin : Option Text) (draft : Draft) (piece : Piece) :
    Numbers draft (take library origin draft piece) := by
  unfold take
  split
  · exact numbers_of_keeps fun _ => keeps_pure rfl
  · exact numbers_compile library origin draft piece

end

/-! ## Templates -/

/-- The draft that pieces are taken into: that with all of them, or the last one before a piece that
cannot be taken. -/
def reached (library : Library) (origin : Option Text) : List Piece → Draft → Ledger → Draft
  | [], draft, _ => draft
  | piece :: rest, draft, ledger =>
    match take library origin draft piece ledger with
    | (.ok next, after) => reached library origin rest next after
    | (.error _, _) => draft

/-- The draft that is reached is numbered, also if a piece cannot be taken. -/
theorem numbered_reached {library : Library} {origin : Option Text} (pieces : List Piece)
    {start : Nat} {draft : Draft} {ledger : Ledger} (numbered : draft.Numbered start ledger) :
    (∃ between, (reached library origin pieces draft ledger).Numbered start between ∧
      between.tagCount ≤ (pieces.foldlM (take library origin) draft ledger).2.tagCount) ∧
    ∀ next, (pieces.foldlM (take library origin) draft ledger).1 = .ok next →
      reached library origin pieces draft ledger = next := by
  induction pieces generalizing draft ledger with
  | nil => exact ⟨⟨ledger, numbered, Nat.le_refl _⟩, fun next same => Except.ok.inj same⟩
  | cons piece rest ih =>
      obtain ⟨further, next⟩ := numbers_take library origin draft piece start ledger numbered
      rw [List.foldlM_cons, reached]
      cases taken : take library origin draft piece ledger with
      | mk result after =>
          rw [taken] at further next
          cases result with
          | ok following =>
              rw [bind_of_ok taken]
              exact ih (next following rfl)
          | error fault =>
              rw [bind_of_error taken]
              exact ⟨⟨ledger, numbered, further⟩, fun _ failed => by cases failed⟩

theorem finish_after (draft : Draft) (ledger : Ledger) : (draft.finish ledger).2 = ledger := by
  obtain ⟨outside, frames⟩ := draft
  cases frames <;> rfl

theorem finish_eq_ok {draft : Draft} {ledger : Ledger} {nodes : List Node}
    (finished : (draft.finish ledger).1 = .ok nodes) :
    draft.identifiers = (occurrencesAll nodes).map (·.identifier) := by
  obtain ⟨outside, frames⟩ := draft
  cases frames with
  | cons frame rest => cases finished
  | nil =>
      cases finished
      rw [identifiers, visits, visitsWith, within, List.append_nil, identifiers_visitsAll]

end Draft

/-- A template that an engine compiles, whether this succeeds or fails. -/
structure Compilation where
  library : Library
  origin : Option Text
  source : Text
  before : Ledger

namespace Compilation

/-- What the template is compiled to. -/
def result (c : Compilation) : Except Fault (List Node) :=
  (ofTemplate c.library c.origin c.source c.before).1

/-- The engine afterwards. -/
def after (c : Compilation) : Ledger := (ofTemplate c.library c.origin c.source c.before).2

/-- The identifiers of the uses of tags in the order of the template, as far as it is compiled. -/
def identifiers (c : Compilation) : List Text :=
  (Draft.reached c.library c.origin (Piece.ofTemplate c.source) {} c.before).identifiers

/-- The uses of tags in a template take one number after the other, in the order of the template. -/
theorem numbered (c : Compilation) : ∃ count,
    c.identifiers = Ledger.identifiersFrom c.before.tagCount count ∧
      c.before.tagCount + count ≤ c.after.tagCount := by
  have nothing : Draft.Numbered c.before.tagCount {} c.before := ⟨0, rfl, rfl⟩
  obtain ⟨⟨between, ⟨count, has, counted⟩, further⟩, -⟩ :=
    @Draft.numbered_reached c.library c.origin (Piece.ofTemplate c.source) _ _ _ nothing
  refine ⟨count, has, counted ▸ Nat.le_trans further (Nat.le_of_eq ?_)⟩
  rw [after, ofTemplate]
  cases taken : (Piece.ofTemplate c.source).foldlM (Draft.take c.library c.origin) {} c.before with
  | mk result reached =>
      cases result with
      | ok draft => rw [bind_of_ok taken, Draft.finish_after]
      | error fault => rw [bind_of_error taken]

/-- If the template is compiled, they are the identifiers in its nodes. -/
theorem identifiers_of_ok {c : Compilation} {nodes : List Node} (compiled : c.result = .ok nodes) :
    c.identifiers = (occurrencesAll nodes).map (·.identifier) := by
  have nothing : Draft.Numbered c.before.tagCount {} c.before := ⟨0, rfl, rfl⟩
  obtain ⟨-, whole⟩ :=
    @Draft.numbered_reached c.library c.origin (Piece.ofTemplate c.source) _ _ _ nothing
  rw [result, ofTemplate] at compiled
  cases taken : (Piece.ofTemplate c.source).foldlM (Draft.take c.library c.origin) {} c.before with
  | mk result reached =>
      rw [taken] at whole
      cases result with
      | ok draft =>
          rw [bind_of_ok taken] at compiled
          rw [identifiers, whole draft rfl]
          exact Draft.finish_eq_ok compiled
      | error fault =>
          rw [bind_of_error taken] at compiled
          cases compiled

end Compilation
end ElementTags
