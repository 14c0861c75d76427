import Mathlib
import ElementTags.Proofs.Elements
import ElementTags.Proofs.Lexing
import ElementTags.Proofs.Slices
import ElementTags.Template.Draft

/-!
# Compiling fragments

A template is compiled piece by piece into a draft. Fragments of tags with the default behaviour are
compiled in step with an outline: the nodes in each open block of the draft mean the trees in the
open container of the outline (`ElementTags.Sketches`), each opener and each end tag does to the
draft what it does to the outline (`ElementTags.takeBlock_opener`, `ElementTags.takeBlock_ending`),
and so do all of them one behind the other (`ElementTags.run_pieces`).

So fragments compile exactly if they are nested, and what they compile to is rendered as the trees
that they spell (`ElementTags.ofTemplate_fragments`).
-/

namespace ElementTags

open Outcome Text

/-! ## Attributes without the blanks around them -/

/-- The blanks around attributes only change where the attributes stand. -/
theorem Attribute.read_strip {source : Text} {entries : List Entry}
    (accepted : read source = .ok entries) :
    ∃ stripped, read (strip source) = .ok stripped ∧
      Entry.resolveAll stripped = Entry.resolveAll entries := by
  obtain ⟨back, inner⟩ := dropTrailingBlanks_prefix (dropBlanks source)
  have whole : source = source.takeWhile isBlank ++ (strip source ++ back) := by
    rw [strip, inner, dropBlanks, List.takeWhile_append_dropWhile]
  rw [read] at accepted
  cases scanned : Token.scan source with
  | error fault =>
      rw [scanned] at accepted
      cases accepted
  | ok tokens =>
      rw [scanned] at accepted
      obtain ⟨origin, alone, moved⟩ := (Token.segments_of_scanFrom scanned).strip.unshift
      have related := readEntries_moved (displaced_part (source.takeWhile isBlank) back alone)
        (List.Subset.refl origin)
      rw [← moved, ← whole, show readEntries source tokens = .ok entries from accepted] at related
      rw [read, Token.scan, alone.scanFrom_eq]
      cases here : readEntries (strip source) origin with
      | error fault =>
          rw [here] at related
          cases related
      | ok stripped =>
          rw [here] at related
          cases related with
          | ok same =>
              refine ⟨stripped, here, ?_⟩
              rw [same]
              exact (Entry.resolveAll_placeAt (fun entry => entry.start + _) stripped).symm

namespace Use

variable {use : Use}

/-- The entries of a use are read in its attributes: by the attribute grammar, or as words. -/
def Reads (grammar : Bool) (use : Use) : Prop :=
  (if grammar then Attribute.read use.attributes
    else Words.read use.tag.name (strip use.contents)) = .ok use.entries

/-- The attributes of a use are accepted by the grammar of its tag, which is the configured one if
the tag says nothing about it. -/
def Accepted (configuration : Configuration) (use : Use) : Prop :=
  match use.tag.useGrammar with
  | some grammar => use.Reads grammar
  | none => ∃ v, configuration.useAttributeGrammar = .ok v ∧ use.Reads v.isTruthy

/-- A tag reads its head in an opener. -/
theorem readHead_contents (word : OneWord use.tag.name) {grammar : Bool}
    (reads : use.Reads grammar) :
    ∃ head, Tag.readHead use.tag.name grammar (strip use.contents) = .ok head ∧
      Entry.resolveAll head.entries = Entry.resolveAll use.entries := by
  have some : use.tag.name.isEmpty = false := List.isEmpty_eq_false_iff.mpr word.nonempty
  simp only [Tag.readHead, splitContents_contents word, some, if_true, Bool.false_eq_true, if_false]
  cases grammar with
  | true =>
      obtain ⟨stripped, accepted, same⟩ := Attribute.read_strip reads
      simp only [if_true, accepted]
      exact ⟨_, rfl, same⟩
  | false =>
      have accepted : Words.read use.tag.name (strip use.contents) = .ok use.entries := reads
      simp only [Bool.false_eq_true, if_false, accepted]
      exact ⟨_, rfl, rfl⟩

/-- A tag decides for a grammar in which its attributes are read. -/
theorem usesGrammar_eq {ledger : Ledger} (accepted : use.Accepted ledger.configuration) :
    ∃ grammar, Compiling.usesGrammar use.tag ledger = (.ok grammar, ledger) ∧
      use.Reads grammar := by
  unfold Accepted at accepted
  unfold Compiling.usesGrammar
  cases said : use.tag.useGrammar with
  | some grammar =>
      rw [said] at accepted
      exact ⟨grammar, rfl, accepted⟩
  | none =>
      rw [said] at accepted
      obtain ⟨v, configured, reads⟩ := accepted
      simp only [configured]
      exact ⟨v.isTruthy, rfl, reads⟩

/-- A use of a registered tag with the default behaviour: the library knows the tag and nothing
under the name of its end tag, and the attributes are accepted. -/
structure Proper (library : Library) (configuration : Configuration) (use : Use) : Prop
    extends use.Written where
  registered : library.find? use.tag.name = some use.tag
  unended : library.Lacks (Tag.endNameOf use.tag.name)
  default : use.tag.behaviour = Behaviour.default
  accepted : use.Accepted configuration

end Use

/-- A fragment is used as it is meant to be: a text holds no braces, a use is proper, and the
library has nothing under the name of an end tag. -/
def Fragment.Proper (library : Library) (configuration : Configuration) : Fragment → Prop
  | text s => '{' ∉ s ∧ '}' ∉ s
  | opener use => use.Proper library configuration
  | ending name => OneWord name ∧ library.Lacks (Tag.endNameOf name)

theorem Fragment.Proper.written {library : Library} {configuration : Configuration}
    {fragment : Fragment} (proper : fragment.Proper library configuration) : fragment.Written := by
  cases fragment with
  | text s => exact proper
  | opener use => exact Use.Proper.toWritten proper
  | ending name => exact proper.1

/-! ## Drafts and outlines -/

/-- An open block is the use of a tag with the default behaviour, and its nodes mean the trees in
it. -/
inductive Opens (library : Library) : Frame → Use × List Tree → Prop
  | element {use : Use} {identifier source name : Text} {line : Nat} {entries : List Entry}
      {nodes : List Node} {children : List Tree}
      (default : use.tag.behaviour = Behaviour.default)
      (unended : library.Lacks (Tag.endNameOf use.tag.name))
      (same : Entry.resolveAll entries = Entry.resolveAll use.entries)
      (means : Node.Means nodes children) :
      Opens library ⟨.element use.tag identifier source entries, name, line, nodes⟩ (use, children)

/-- The nodes of a draft mean the trees of an outline, in each open block and outside. -/
structure Sketches (library : Library) (draft : Draft) (outline : Outline) : Prop where
  outside : Node.Means draft.nodes outline.trees
  inside : List.Forall₂ (Opens library) draft.frames outline.frames

namespace Draft

/-- A draft with several more nodes. -/
def addAll (draft : Draft) (nodes : List Node) : Draft := nodes.foldl add draft

theorem addAll_outside (front nodes : List Node) :
    addAll ⟨front, []⟩ nodes = ⟨front ++ nodes, []⟩ := by
  unfold addAll
  induction nodes generalizing front with
  | nil => rw [List.foldl_nil, List.append_nil]
  | cons node nodes ih => rw [List.foldl_cons, add, ih, List.append_assoc, List.singleton_append]

theorem addAll_inside (outside front nodes : List Node) (opening : Opening) (name : Text)
    (line : Nat) (outer : List Frame) :
    addAll ⟨outside, ⟨opening, name, line, front⟩ :: outer⟩ nodes =
      ⟨outside, ⟨opening, name, line, front ++ nodes⟩ :: outer⟩ := by
  unfold addAll
  induction nodes generalizing front with
  | nil => rw [List.foldl_nil, List.append_nil]
  | cons node nodes ih => rw [List.foldl_cons, add, ih, List.append_assoc, List.singleton_append]

end Draft

namespace Sketches

variable {library : Library} {draft : Draft} {outline : Outline}

/-- More nodes go where more trees go. -/
theorem addAll (sketches : Sketches library draft outline) {nodes : List Node} {trees : List Tree}
    (means : Node.Means nodes trees) :
    Sketches library (draft.addAll nodes) (outline.addAll trees) := by
  obtain ⟨outside, inside⟩ := sketches
  obtain ⟨front, frames⟩ := draft
  obtain ⟨before, around⟩ := outline
  cases inside with
  | nil =>
      rw [Draft.addAll_outside, Outline.addAll_outside]
      exact ⟨outside.append means, .nil⟩
  | cons opens outer =>
      cases opens with
      | element default unended same inner =>
          rw [Draft.addAll_inside, Outline.addAll_inside]
          exact ⟨outside, .cons (.element default unended same (inner.append means)) outer⟩

end Sketches

/-! ## Steps -/

/-- A draft goes on as an outline does, under the same configuration, or both stop. -/
inductive Follows (library : Library) (configuration : Configuration) :
    Except Fault Draft × Ledger → Option Outline → Prop
  | goes {draft : Draft} {outline : Outline} {ledger : Ledger}
      (sketches : Sketches library draft outline) (same : ledger.configuration = configuration) :
      Follows library configuration (.ok draft, ledger) (some outline)
  | stops (fault : Fault) (ledger : Ledger) :
      Follows library configuration (.error fault, ledger) none

section

variable {library : Library} {configuration : Configuration} {origin : Option Text} {draft : Draft}
  {outline : Outline} {ledger : Ledger}

theorem Follows.bind {x : Compiling Draft} {f : Draft → Compiling Draft} {next : Option Outline}
    {g : Outline → Option Outline} (first : Follows library configuration (x ledger) next)
    (further : ∀ draft outline ledger, Sketches library draft outline →
      ledger.configuration = configuration →
        Follows library configuration (f draft ledger) (g outline)) :
    Follows library configuration ((x >>= f) ledger) (next.bind g) := by
  generalize ran : x ledger = result at first
  cases first with
  | goes sketches same =>
      rw [Computation.bind_of_ok ran]
      exact further _ _ _ sketches same
  | stops fault after =>
      rw [Computation.bind_of_error ran]
      exact .stops fault after

/-- A proper use is added, and it is open if its tag has a body. -/
theorem openElement_follows {use : Use} (proper : use.Proper library ledger.configuration)
    (sketches : Sketches library draft outline) (line : Nat) :
    Follows library ledger.configuration
      (Draft.openElement use.tag ⟨strip use.contents, line⟩ draft ledger)
      (outline.step (.opener use)) := by
  obtain ⟨identifier, taken, took, kept⟩ : ∃ identifier taken,
      Compiling.takeIdentifier ledger = (.ok identifier, taken) ∧
        taken.configuration = ledger.configuration := ⟨_, _, rfl, rfl⟩
  have accepted : use.Accepted taken.configuration := kept ▸ proper.accepted
  obtain ⟨grammar, decided, reads⟩ := Use.usesGrammar_eq accepted
  obtain ⟨head, read, same⟩ := Use.readHead_contents proper.word reads
  have held : Compiling.ofExcept (.ok head) taken = (.ok head, taken) := rfl
  rw [Draft.openElement, Computation.bind_of_ok took, Computation.bind_of_ok decided, read,
    Computation.bind_of_ok held, Computation.bind_of_ok (show Compiling.trace _ taken = _ from rfl)]
  have logged (line : LogLine) := (taken.configuration_trace line).trans kept
  cases bodied : use.tag.hasBody with
  | true =>
      simp only [Outline.step, bodied, if_true]
      refine .goes ⟨sketches.outside, .cons ?_ sketches.inside⟩ (logged _)
      exact .element proper.default proper.unended same Node.means_nil
  | false =>
      simp only [Outline.step, bodied, Bool.false_eq_true, if_false]
      rw [Computation.bind_of_ok (show Compiling.trace _ _ = _ from rfl)]
      refine .goes (sketches.addAll (Node.means_element proper.default same Node.means_nil _ _)) ?_
      rw [Ledger.configuration_trace]
      exact logged _

/-- So it is when its opener is taken, which no open block waits for. -/
theorem takeBlock_opener {use : Use} (proper : use.Proper library ledger.configuration)
    (sketches : Sketches library draft outline) (line : Nat) :
    Follows library ledger.configuration
      (Draft.takeBlock library origin draft ⟨strip use.contents, line⟩ ledger)
      (outline.step (.opener use)) := by
  have named : Block.name? ⟨strip use.contents, line⟩ = some use.tag.name :=
    (use.startsWith_contents.strip proper.word).head?_words proper.word
  have opened : Draft.openBlock library origin use.tag.name ⟨strip use.contents, line⟩ draft =
      Draft.openElement use.tag ⟨strip use.contents, line⟩ draft := by
    rw [Draft.openBlock, proper.registered]
  have taken : Draft.takeBlock library origin draft ⟨strip use.contents, line⟩ =
      Draft.openElement use.tag ⟨strip use.contents, line⟩ draft := by
    obtain ⟨nodes, frames⟩ := draft
    obtain ⟨trees, uses⟩ := outline
    rw [Draft.takeBlock, named]
    cases sketches.inside with
    | nil => exact opened
    | cons opens outer =>
        cases opens with
        | @element around _ _ _ _ _ _ _ _ unended =>
            -- the library knows the tag of the use, but none under the name of an end tag
            have other : use.tag.name ≠ Tag.endNameOf around.tag.name := by
              intro ends
              have absent := unended.tag
              rw [← ends, proper.registered] at absent
              cases absent
            simp only [Opening.expected, List.contains_cons, List.contains_nil, Bool.or_false,
              beq_iff_eq, other, if_false]
            exact opened
  rw [taken]
  exact openElement_follows proper sketches line

/-- Nothing opens under the name of an end tag. -/
theorem openBlock_ending {name : Text} (unended : library.Lacks (Tag.endNameOf name))
    (b : Block) :
    Draft.openBlock library origin (Tag.endNameOf name) b draft =
      Compiling.reject (.unknownBlock b.line (Tag.endNameOf name) draft.expected) := by
  have none : Statement.read? library origin (Tag.endNameOf name) b.contents = none := by
    unfold Statement.read?
    rw [unended.host]
    dsimp only
    rw [if_neg (endNameOf_ne (by decide) name), if_neg (endNameOf_ne (by decide) name),
      if_neg (endNameOf_ne (by decide) name), if_neg (endNameOf_ne (by decide) name),
      if_neg (endNameOf_ne (by decide) name)]
  rw [Draft.openBlock, unended.tag, none]

/-- An end tag ends the innermost open use if that is a use of its tag, and is rejected otherwise.
-/
theorem takeBlock_ending {name : Text} (word : OneWord name)
    (unended : library.Lacks (Tag.endNameOf name))
    (sketches : Sketches library draft outline) (line : Nat) :
    Follows library ledger.configuration
      (Draft.takeBlock library origin draft ⟨strip (Tag.endNameOf name), line⟩ ledger)
      (outline.step (.ending name)) := by
  have whole := oneWord_endNameOf word
  have named : Block.name? ⟨strip (Tag.endNameOf name), line⟩ = some (Tag.endNameOf name) :=
    ((startsWith_self _).strip whole).head?_words whole
  obtain ⟨nodes, frames⟩ := draft
  obtain ⟨trees, uses⟩ := outline
  rw [Draft.takeBlock, named]
  cases sketches.inside with
  | nil =>
      simp only [openBlock_ending unended, Outline.step]
      exact .stops _ _
  | @cons _ _ frames uses opens outer =>
      cases opens with
      | @element use identifier source opened _ entries inner children default _ same means =>
          simp only [Opening.expected, List.contains_cons, List.contains_nil, Bool.or_false,
            beq_iff_eq, Outline.step]
          by_cases own : use.tag.name = name
          · subst own
            simp only [if_true, Draft.closeBlock]
            rw [Computation.bind_of_ok (show Compiling.trace _ ledger = _ from rfl)]
            have outside : Sketches library ⟨nodes, frames⟩ ⟨trees, uses⟩ :=
              ⟨sketches.outside, outer⟩
            exact .goes (outside.addAll (Node.means_element default same means _ _))
              (ledger.configuration_trace _)
          · have other : Tag.endNameOf name ≠ Tag.endNameOf use.tag.name := fun ends =>
              own (List.append_cancel_left ends).symm
            simp only [own, other, if_false]
            rw [openBlock_ending unended]
            exact .stops _ _

/-- The body of a tag skips nothing. -/
theorem Sketches.take_eq (sketches : Sketches library draft outline) (piece : Piece) :
    Draft.take library origin draft piece = Draft.compile library origin draft piece := by
  have attends : draft.skips piece = false := by
    obtain ⟨nodes, frames⟩ := draft
    obtain ⟨trees, uses⟩ := outline
    cases sketches.inside with
    | nil => rfl
    | cons opens outer => cases opens with | element default unended same means => rfl
  rw [Draft.take, attends]
  rfl

/-- A comment is a block of the host that does skip its body, so that no tag is looked for in it. -/
example (ledger : Ledger) :
    let comment : HostTag := ⟨"comment".toList, fun _ =>
      .part true ["endcomment".toList] fun _ => .done (.done (.ok []))⟩
    let pieces : List Piece := [.block ⟨"comment".toList, 1⟩, .block ⟨['x'], 1⟩,
      .block ⟨"endcomment".toList, 1⟩]
    pieces.foldlM (Draft.take { hosts := [comment] } none) {} ledger =
      (.ok { nodes := [.host (.done (.ok [])) [.group []]] }, ledger) := by
  cbv

/-- Plain text is added without opening or ending anything. -/
theorem take_plain (sketches : Sketches library draft outline) (s : Text) :
    (Piece.plain s).foldlM (Draft.take library origin) draft ledger =
      (.ok (draft.addAll (Node.plain s)), ledger) := by
  unfold Piece.plain Node.plain
  split
  · rfl
  · rw [List.foldlM_cons, sketches.take_eq]
    rfl

theorem outline_addAll_text (outline : Outline) (ss : List Text) (s : Text) :
    (outline.addAll (ss.map .text)).add (.text s) = outline.addAll ((ss ++ [s]).map .text) := by
  simp only [Outline.addAll, List.map_append, List.foldl_append, List.map_cons, List.map_nil,
    List.foldl_cons, List.foldl_nil]

/-- The pieces of proper fragments are taken as an outline goes through the fragments. The texts
`ss` have been read but are not yet part of the draft, since they are one piece with the texts that
follow. -/
theorem run_pieces {fragments : List Fragment}
    (proper : ∀ f ∈ fragments, f.Proper library configuration) (line : Nat) (ss : List Text)
    (sketches : Sketches library draft outline) (same : ledger.configuration = configuration) :
    Follows library configuration
      ((Fragment.pieces line ss.flatten fragments).foldlM (Draft.take library origin) draft ledger)
      ((outline.addAll (ss.map .text)).run fragments) := by
  induction fragments generalizing line ss draft outline ledger with
  | nil =>
      rw [Fragment.pieces, take_plain sketches]
      exact .goes (sketches.addAll (Node.means_texts ss)) same
  | cons fragment rest ih =>
      rw [List.forall_mem_cons] at proper
      subst same
      have flushed := sketches.addAll (Node.means_texts ss)
      cases fragment with
      | text s =>
          have next := ih proper.2 line (ss ++ [s]) sketches rfl
          rw [List.flatten_concat] at next
          rw [Fragment.pieces, Outline.run_cons, Outline.step, Option.bind_some,
            outline_addAll_text]
          exact next
      | opener use =>
          have own : use.Proper library ledger.configuration := proper.1
          rw [Fragment.pieces, List.foldlM_append, Computation.bind_of_ok (take_plain sketches _),
            Outline.run_cons, List.foldlM_cons, flushed.take_eq]
          exact (takeBlock_opener own flushed _).bind fun _ _ _ => ih proper.2 _ []
      | ending name =>
          rw [Fragment.pieces, List.foldlM_append, Computation.bind_of_ok (take_plain sketches _),
            Outline.run_cons, List.foldlM_cons, flushed.take_eq]
          obtain ⟨word, unended⟩ := proper.1
          exact (takeBlock_ending word unended flushed _).bind fun _ _ _ => ih proper.2 _ []

/-- Fragments are compiled as an outline goes through them from nothing. -/
theorem run_template {fragments : List Fragment}
    (proper : ∀ f ∈ fragments, f.Proper library ledger.configuration)
    (unbroken : ∀ f ∈ fragments, f.Unbroken) :
    Follows library ledger.configuration
      ((Piece.ofTemplate (Fragment.sourceAll fragments)).foldlM (Draft.take library origin) {}
        ledger) (Outline.run {} fragments) := by
  have cut := Fragment.scan_sourceAll (fun f member => (proper f member).written) unbroken
    (List.not_mem_nil : '{' ∉ []) 1
  rw [List.nil_append] at cut
  rw [Piece.ofTemplate, cut]
  exact run_pieces proper 1 [] ⟨Node.means_nil, .nil⟩ rfl

/-- A draft is finished when no block of the outline is open. -/
theorem Sketches.finish (sketches : Sketches library draft outline) (ledger : Ledger) :
    (outline.frames = [] ∧ draft.finish ledger = (.ok draft.nodes, ledger)) ∨
      (outline.frames ≠ [] ∧ ∃ fault, draft.finish ledger = (.error fault, ledger)) := by
  obtain ⟨nodes, frames⟩ := draft
  obtain ⟨trees, uses⟩ := outline
  cases sketches.inside with
  | nil => exact .inl ⟨rfl, rfl⟩
  | cons opens outer => exact .inr ⟨List.cons_ne_nil _ _, _, rfl⟩

/-- Fragments that compile are nested. -/
theorem nested_of_ofTemplate {fragments : List Fragment} {nodes : List Node}
    (proper : ∀ f ∈ fragments, f.Proper library ledger.configuration)
    (unbroken : ∀ f ∈ fragments, f.Unbroken)
    (compiled : (Node.ofTemplate library origin (Fragment.sourceAll fragments) ledger).1 =
      .ok nodes) :
    ∃ trees, Nested trees fragments := by
  have follows := @run_template _ origin _ _ proper unbroken
  rw [Node.ofTemplate] at compiled
  generalize ran : (Piece.ofTemplate (Fragment.sourceAll fragments)).foldlM
    (Draft.take library origin) {} ledger = result at follows
  generalize went : Outline.run {} fragments = next at follows
  cases follows with
  | stops fault after =>
      rw [Computation.bind_of_error ran] at compiled
      cases compiled
  | @goes draft outline after sketches same =>
      rw [Computation.bind_of_ok ran] at compiled
      obtain ⟨trees, uses⟩ := outline
      rcases sketches.finish after with ⟨closed, -⟩ | ⟨-, fault, failed⟩
      · obtain rfl : uses = [] := closed
        exact ⟨trees, Outline.run_eq_some_iff.mp went⟩
      · rw [failed] at compiled
        cases compiled

/-- Nested fragments compile to nodes that mean their trees. -/
theorem ofTemplate_of_nested {fragments : List Fragment} {trees : List Tree}
    (proper : ∀ f ∈ fragments, f.Proper library ledger.configuration)
    (unbroken : ∀ f ∈ fragments, f.Unbroken) (nested : Nested trees fragments) :
    ∃ nodes, (Node.ofTemplate library origin (Fragment.sourceAll fragments) ledger).1 = .ok nodes ∧
      Node.Means nodes trees := by
  have follows := @run_template _ origin _ _ proper unbroken
  rw [Outline.run_eq_some_iff.mpr nested] at follows
  generalize ran : (Piece.ofTemplate (Fragment.sourceAll fragments)).foldlM
    (Draft.take library origin) {} ledger = result at follows
  cases follows with
  | @goes draft _ after sketches same =>
      refine ⟨draft.nodes, ?_, sketches.outside⟩
      rcases sketches.finish after with ⟨-, finished⟩ | ⟨opened, -⟩
      · rw [Node.ofTemplate, Computation.bind_of_ok ran, finished]
      · exact absurd rfl opened

/-- **Fragments compile when they are nested, and render as their trees.** A template of proper
fragments, whose names hold no closing mark, compiles exactly if the fragments are nested. What it
compiles to gives on every stage what the trees give in the scope, and fails only where their
attributes do. -/
theorem ofTemplate_fragments {fragments : List Fragment}
    (proper : ∀ f ∈ fragments, f.Proper library ledger.configuration)
    (unbroken : ∀ f ∈ fragments, f.Unbroken) (origin : Option Text) :
    ((∃ nodes, (Node.ofTemplate library origin (Fragment.sourceAll fragments) ledger).1 =
        .ok nodes) ↔ ∃ trees, Nested trees fragments) ∧
      ∀ trees, Nested trees fragments → ∀ nodes,
        (Node.ofTemplate library origin (Fragment.sourceAll fragments) ledger).1 = .ok nodes →
          ∀ (shelf : Shelf) (stage : Stage), (shelf.render nodes stage).1 =
            (Tree.htmlAll stage.ledger.configuration trees stage.scope).1.mapError Fault.eval := by
  refine ⟨⟨?_, ?_⟩, ?_⟩
  · rintro ⟨nodes, compiled⟩
    exact nested_of_ofTemplate proper unbroken compiled
  · rintro ⟨trees, nested⟩
    obtain ⟨nodes, compiled, -⟩ := ofTemplate_of_nested proper unbroken nested
    exact ⟨nodes, compiled⟩
  · intro trees nested nodes compiled shelf stage
    obtain ⟨others, same, means⟩ := @ofTemplate_of_nested _ origin _ _ _ proper unbroken nested
    obtain rfl : others = nodes := Except.ok.inj (same.symm.trans compiled)
    exact means.render shelf stage

end

/-- A plain tag of which only the name is said, and whether it is a container. -/
def Tag.simple (name : Text) (isContainer : Bool) : Tag where
  className := TagClass.plain.className
  name := name
  elementName := name
  isContainer := some isContainer
  useGrammar := TagClass.plain.useGrammar
  behaviour := TagClass.plain.behaviour

/-- A use of such a tag is proper under a configuration that says nothing if the attribute grammar
accepts its attributes. -/
theorem Use.proper_simple {library : Library} {name attributes : Text} {isContainer : Bool}
    {entries : List Entry}
    (written : Use.Written ⟨Tag.simple name isContainer, attributes, entries⟩)
    (registered : library.find? name = some (Tag.simple name isContainer))
    (unended : library.Lacks (Tag.endNameOf name))
    (accepted : Attribute.read attributes = .ok entries) :
    Use.Proper library .unset ⟨Tag.simple name isContainer, attributes, entries⟩ :=
  ⟨written, registered, unended, rfl, _, rfl, accepted⟩

/-- A container in a container of the same tag, with a text in it and another tag behind it. -/
theorem ofTemplate_fragments_nested :
    ∃ nodes, (Node.ofTemplate { tags := [Tag.simple ['b'] true, Tag.simple ['i'] false] } none
        "x\x7b% b c=\"<\" %\x7d\x7b% b %\x7d&\x7b% endb %\x7d\x7b% i %\x7d\x7b% endb %\x7d".toList
        (Ledger.start .unset false)).1 = .ok nodes ∧
      (Shelf.render ⟨{}, []⟩ nodes (.start (Ledger.start .unset false)
        (Scope.ofData [] true))).1 = .ok "x<b c=\"&lt;\"><b>&</b><i></b>".toList := by
  let outer : Use := ⟨Tag.simple ['b'] true, "c=\"<\"".toList,
    [.keyword 0 ['c'] (.plain ⟨"\"<\"".toList, .constant (.text ['<']), []⟩)]⟩
  let inner : Use := ⟨Tag.simple ['b'] true, [], []⟩
  let single : Use := ⟨Tag.simple ['i'] false, [], []⟩
  let fragments : List Fragment := [.text ['x'], .opener outer, .opener inner, .text ['&'],
    .ending ['b'], .opener single, .ending ['b']]
  have nested : Nested [.text ['x'], .element outer
      [.element inner [.text ['&']], .element single []]] fragments :=
    Outline.run_eq_some_iff.mp rfl
  have proper : ∀ f ∈ fragments,
      f.Proper { tags := [Tag.simple ['b'] true, Tag.simple ['i'] false] } .unset := by
    simp only [fragments, List.forall_mem_cons, Fragment.Proper]
    refine ⟨by decide, ?_, ?_, by decide, ⟨by decide, rfl, rfl⟩, ?_, ⟨by decide, rfl, rfl⟩, by simp⟩
    · exact Use.proper_simple ⟨by decide, by decide, by decide, by decide⟩ rfl ⟨rfl, rfl⟩ (by cbv)
    · exact Use.proper_simple ⟨by decide, by decide, by decide, by decide⟩ rfl ⟨rfl, rfl⟩ (by cbv)
    · exact Use.proper_simple ⟨by decide, by decide, by decide, by decide⟩ rfl ⟨rfl, rfl⟩ (by cbv)
  have unbroken : ∀ f ∈ fragments, f.Unbroken := by
    simp only [fragments, List.forall_mem_cons, Fragment.Unbroken]
    refine ⟨trivial, by decide, by decide, trivial, by decide, by decide, by decide, by simp⟩
  obtain ⟨compiles, renders⟩ :=
    @ofTemplate_fragments _ (Ledger.start .unset false) fragments proper unbroken none
  obtain ⟨nodes, compiled⟩ := compiles.mpr ⟨_, nested⟩
  refine ⟨nodes, compiled, ?_⟩
  rw [renders _ nested _ compiled]
  rfl

/-- A use of a tag in whose name a closing mark stands. -/
def Use.cutShort : Use := ⟨Tag.simple "a%\x7db".toList false, [], []⟩

/-- The opener of such a tag ends within the name, so that the tag is not found. -/
theorem ofTemplate_cutShort :
    (∀ f ∈ [Fragment.opener Use.cutShort], f.Proper { tags := [Use.cutShort.tag] } .unset) ∧
      Nested [.element Use.cutShort []] [.opener Use.cutShort] ∧
      (Node.ofTemplate { tags := [Use.cutShort.tag] } none
        (Fragment.sourceAll [.opener Use.cutShort]) (Ledger.start .unset false)).1 =
          .error (.template (.unknownBlock 1 ['a'] [])) := by
  refine ⟨?_, .single rfl .nil, ?_⟩
  · rw [List.forall_mem_singleton]
    exact Use.proper_simple ⟨by decide, by decide, by decide, by decide⟩ rfl ⟨rfl, rfl⟩ (by cbv)
  · have behind : Piece.scan 1 none ("b %".toList ++ ['}']) =
        [.text ("b %".toList ++ ['}'])] := by
      rw [← List.append_nil ("b %".toList ++ ['}']), Piece.scan_plain (by decide), Piece.scan]
      rfl
    have pieces : Piece.ofTemplate (Fragment.sourceAll [.opener Use.cutShort]) =
        [.block ⟨['a'], 1⟩, .text ("b %".toList ++ ['}'])] := by
      have source : Fragment.sourceAll [.opener Use.cutShort] =
          '{' :: '%' :: ([' ', 'a'] ++ '%' :: '}' :: ("b %".toList ++ ['}'])) := rfl
      have first : Piece.pieceOf 1 none .block [' ', 'a'] = (.block ⟨['a'], 1⟩, none) := rfl
      rw [source, Piece.ofTemplate,
        Piece.scan_of_markup (Piece.markup?_closing (by decide) (by decide) _), first, behind]
    rw [Node.ofTemplate, pieces]
    rfl

end ElementTags
