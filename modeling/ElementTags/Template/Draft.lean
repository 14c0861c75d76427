import ElementTags.Ledger
import ElementTags.Template.Node
import ElementTags.Template.Piece
import ElementTags.Template.Statement

/-!
# Compiling templates

The pieces of a template are taken one after the other into a draft: the finished nodes, and the
blocks that are open. A block that ends becomes a node of the block around it. A use of a registered
tag takes its identifier before its attributes are read, and its attributes are read before its
body.
-/

namespace ElementTags

/-- A block that waits for its end. -/
inductive Opening
  | element (tag : Tag) (identifier source : Text) (entries : List Entry)
  /-- A condition, and the conditions before it with their bodies. -/
  | choice (earlier : List (FilterExpr × List Node)) (condition : FilterExpr)
  /-- What is left when none of the conditions is true. -/
  | otherwise (earlier : List (FilterExpr × List Node))
  | loop (names : List Text) (collection : FilterExpr) (backwards : Bool)
  /-- What is left when a loop has no items. -/
  | whenEmpty (names : List Text) (collection : FilterExpr) (backwards : Bool) (body : List Node)
  | binding (bindings : List (Text × FilterExpr))
  | escaping (on : Bool)
  /-- A block of the host that waits for the end of a part, and the parts before that. -/
  | host (skips : Bool) (parts : List Node) (endings : List Text) (next : Text → HostStep)

namespace Opening

/-- The block tags that an open block waits for. -/
def expected : Opening → List Text
  | element tag _ _ _ => [Tag.endNameOf tag.name]
  | choice _ _ => ["elif".toList, "else".toList, "endif".toList]
  | otherwise _ => ["endif".toList]
  | loop _ _ _ => ["empty".toList, "endfor".toList]
  | whenEmpty _ _ _ _ => ["endfor".toList]
  | binding _ => ["endwith".toList]
  | escaping _ => ["endautoescape".toList]
  | host _ _ endings _ => endings

/-- Whether an open block skips a piece: a block of the host may do so up to a block tag that it
waits for. -/
def skips : Opening → Piece → Bool
  | host true _ endings _, .block b => !endings.contains b.contents
  | host true _ _ _, _ => true
  | _, _ => false

end Opening

/-- An open block: the name and the line of the block tag that opened it, and the nodes of its body
so far. -/
structure Frame where
  opening : Opening
  name : Text
  line : Nat
  nodes : List Node

/-- A template that is being compiled: the nodes outside of all blocks, and the open blocks, the
innermost first. -/
structure Draft where
  nodes : List Node := []
  frames : List Frame := []

/-- Compiling may change the ledger, also when it fails. -/
abbrev Compiling := ExceptT Fault (StateM Ledger)

namespace Compiling

/-- Rejects the template. -/
def reject {α : Type} (fault : TemplateFault) : Compiling α := fun ledger =>
  (.error (.template fault), ledger)

/-- A result that may be a rejection. -/
def ofExcept {α : Type} : Except TemplateFault α → Compiling α
  | .ok a => pure a
  | .error fault => reject fault

/-- Logs a line about a step, if steps are logged. -/
def trace (line : LogLine) : Compiling Unit := fun ledger => (.ok (), ledger.trace line)

/-- Takes the next identifier. -/
def takeIdentifier : Compiling Text := fun ledger =>
  let (identifier, after) := ledger.takeIdentifier
  (.ok identifier, after)

/-- The number of a new inclusion. -/
def takeSerial : Compiling Nat := fun ledger =>
  (.ok ledger.inclusionCount, { ledger with inclusionCount := ledger.inclusionCount + 1 })

/-- Whether a tag reads its attributes by the attribute grammar: as the tag says, or else as it is
configured. -/
def usesGrammar (tag : Tag) : Compiling Bool := fun ledger =>
  match tag.useGrammar with
  | some b => (.ok b, ledger)
  | none =>
    match ledger.configuration.useAttributeGrammar with
    | .ok v => (.ok v.isTruthy, ledger)
    | .error fault => (.error (.eval fault), ledger)

end Compiling

namespace Draft

open Compiling

/-- The step that the log calls compiling. -/
def stepName : String := "PARSE"

/-- The block tags that the innermost open block waits for. -/
def expected (draft : Draft) : List Text :=
  match draft.frames with
  | [] => []
  | frame :: _ => frame.opening.expected

/-- A draft with one more node in its innermost open block. -/
def add (draft : Draft) (node : Node) : Draft :=
  match draft.frames with
  | [] => { draft with nodes := draft.nodes ++ [node] }
  | frame :: rest => { draft with frames := { frame with nodes := frame.nodes ++ [node] } :: rest }

/-- A draft with a new open block. -/
def enter (draft : Draft) (opening : Opening) (name : Text) (line : Nat) : Draft :=
  { draft with frames := ⟨opening, name, line, []⟩ :: draft.frames }

/-- Adds a use of a registered tag, which is open if the tag has a body. -/
def openElement (tag : Tag) (b : Block) (draft : Draft) : Compiling Draft := do
  let identifier ← takeIdentifier
  let grammar ← usesGrammar tag
  let head ← ofExcept (Tag.readHead tag.name grammar b.contents)
  trace (Ledger.openingLine stepName tag.name identifier)
  if tag.hasBody then
    pure (draft.enter (.element tag identifier head.source head.entries) tag.name b.line)
  else do
    trace (Ledger.closingLine stepName tag.name identifier)
    pure (draft.add (.element tag identifier head.source head.entries []))

/-- Adds a block of the host, which is open if it waits for the end of a part. `parts` are those
before that. -/
def proceed (name : Text) (line : Nat) (parts : List Node) (draft : Draft) :
    HostStep → Compiling Draft
  | .part skips endings next => pure (draft.enter (.host skips parts endings next) name line)
  | .done weave => pure (draft.add (.host weave parts))
  | .reject fault => reject fault

/-- Adds a statement, which is open unless it is an inclusion or a block without parts. -/
def openStatement (origin : Option Text) (name : Text) (line : Nat) (draft : Draft) :
    Statement → Compiling Draft
  | .choice condition => pure (draft.enter (.choice [] condition) name line)
  | .loop names collection backwards =>
    pure (draft.enter (.loop names collection backwards) name line)
  | .binding bindings => pure (draft.enter (.binding bindings) name line)
  | .escaping on => pure (draft.enter (.escaping on) name line)
  | .inclusion template => do
    let serial ← takeSerial
    pure (draft.add (.inclusion serial origin template))
  | .host step => proceed name line [] draft step

/-- Adds what a block tag opens. Registered tags come before statements of the same name. -/
def openBlock (library : Library) (origin : Option Text) (name : Text) (b : Block)
    (draft : Draft) : Compiling Draft :=
  match library.find? name with
  | some tag => openElement tag b draft
  | none =>
    match Statement.read? library origin name b.contents with
    | some statement => do openStatement origin name b.line draft (← ofExcept statement)
    | none => reject (.unknownBlock b.line name draft.expected)

/-- The node of several conditions with their bodies, and of what is left when none is true. -/
def choiceOf (branches : List (FilterExpr × List Node)) (otherwise : List Node) : List Node :=
  branches.foldr (fun (condition, body) rest => [Node.choice condition body rest]) otherwise

/-- Rejects a block tag that continues a choice but is not written as it has to be. -/
def rejectContinuation {α : Type} (b : Block) : Compiling α :=
  reject (.malformedBlock ("Malformed template tag at line " ++ toString b.line ++ ": \"" ++
    String.ofList b.contents ++ "\""))

/-- Replaces the innermost open block by another one. -/
def reopen (rest : Draft) (frame : Frame) (opening : Opening) : Draft :=
  rest.enter opening frame.name frame.line

/-- Ends the innermost open block, or goes on with its next part, at a block tag that it waits for.
`rest` is the draft without the block. -/
def closeBlock (b : Block) (frame : Frame) (rest : Draft) : Compiling Draft :=
  match frame.opening with
  | .element tag identifier source entries => do
    trace (Ledger.closingLine stepName tag.name identifier)
    pure (rest.add (.element tag identifier source entries frame.nodes))
  | .choice earlier condition => do
    let branches := earlier ++ [(condition, frame.nodes)]
    if "elif".toList.isPrefixOf b.contents then do
      let next ← ofExcept (Statement.readCondition b.contents)
      pure (rest.reopen frame (.choice branches next))
    else if b.contents = "else".toList then pure (rest.reopen frame (.otherwise branches))
    else if b.contents = "endif".toList then
      pure ((choiceOf branches []).foldl add rest)
    else rejectContinuation b
  | .otherwise earlier =>
    if b.contents = "endif".toList then pure ((choiceOf earlier frame.nodes).foldl add rest)
    else rejectContinuation b
  | .loop names collection backwards =>
    if b.contents = "empty".toList then
      pure (rest.reopen frame (.whenEmpty names collection backwards frame.nodes))
    else pure (rest.add (.loop names collection backwards frame.nodes []))
  | .whenEmpty names collection backwards body =>
    pure (rest.add (.loop names collection backwards body frame.nodes))
  | .binding bindings => pure (rest.add (.binding bindings frame.nodes))
  | .escaping on => pure (rest.add (.escaping on frame.nodes))
  | .host _ parts _ next =>
    proceed frame.name frame.line (parts ++ [.group frame.nodes]) rest (next b.contents)

/-- Takes a block tag into a draft: it ends the innermost open block if that waits for it, and opens
something otherwise. -/
def takeBlock (library : Library) (origin : Option Text) (draft : Draft) (b : Block) :
    Compiling Draft :=
  match b.name?, draft.frames with
  | none, _ => reject (.emptyBlock b.line)
  | some name, frame :: outer =>
    if frame.opening.expected.contains name then closeBlock b frame { draft with frames := outer }
    else openBlock library origin name b draft
  | some name, [] => openBlock library origin name b draft

/-- Whether the innermost open block skips a piece. -/
def skips (draft : Draft) (piece : Piece) : Bool :=
  match draft.frames with
  | [] => false
  | frame :: _ => frame.opening.skips piece

/-- Compiles a piece into a draft. -/
def compile (library : Library) (origin : Option Text) (draft : Draft) : Piece → Compiling Draft
  | .text s => pure (draft.add (.text s))
  | .verbatim s => pure (draft.add (.text s))
  | .comment => pure draft
  | .value contents line =>
    if contents.isEmpty then reject (.emptyVariable line)
    else do
      let e ← ofExcept (Statement.compile contents)
      pure (draft.add (.value e))
  | .block b => takeBlock library origin draft b

/-- Takes a piece into a draft, unless it is skipped. -/
def take (library : Library) (origin : Option Text) (draft : Draft) (piece : Piece) :
    Compiling Draft :=
  if draft.skips piece then pure draft else compile library origin draft piece

/-- The nodes of a draft without open blocks. -/
def finish (draft : Draft) : Compiling (List Node) :=
  match draft.frames with
  | [] => pure draft.nodes
  | frame :: _ => reject (.unclosedBlock frame.line frame.name frame.opening.expected)

end Draft

/-- The nodes of a template, which may have a name. -/
def Node.ofTemplate (library : Library) (origin : Option Text) (source : Text) :
    Compiling (List Node) := do
  let draft ← (Piece.ofTemplate source).foldlM (Draft.take library origin) {}
  draft.finish

end ElementTags
