import ElementTags.Library

/-!
# Nested fragments

A template that uses tags is written in fragments: texts, openers with their attributes, and end
tags. Fragments spell trees if behind the opener of each container there are the fragments of its
children and its own end tag, and if there are no other end tags (`ElementTags.Nested`).

An outline goes through the fragments from left to right with a stack of the containers that are
open. It gets through them and leaves no container open exactly when they are nested
(`ElementTags.Outline.run_eq_some_iff`).
-/

namespace ElementTags

/-- A use of a tag: its attributes as they are written, and the entries that they spell. -/
structure Use where
  tag : Tag
  attributes : Text
  entries : List Entry

/-- A fragment of a template. An end tag is given by the name of the tag that it ends. -/
inductive Fragment
  | text (s : Text)
  | opener (use : Use)
  | ending (name : Text)

/-- A text, or a use of a tag with what stands in its body. -/
inductive Tree
  | text (s : Text)
  | element (use : Use) (children : List Tree)

/-- The trees that nested fragments spell. -/
inductive Nested : List Tree → List Fragment → Prop
  | nil : Nested [] []
  | text {s : Text} {trees : List Tree} {rest : List Fragment} (others : Nested trees rest) :
      Nested (.text s :: trees) (.text s :: rest)
  | single {use : Use} {trees : List Tree} {rest : List Fragment}
      (bodiless : use.tag.hasBody = false) (others : Nested trees rest) :
      Nested (.element use [] :: trees) (.opener use :: rest)
  | container {use : Use} {children trees : List Tree} {inner rest : List Fragment}
      (bodied : use.tag.hasBody = true) (body : Nested children inner)
      (others : Nested trees rest) :
      Nested (.element use children :: trees)
        (.opener use :: (inner ++ .ending use.tag.name :: rest))

theorem Nested.append {front back : List Tree} {before behind : List Fragment}
    (nested : Nested front before) (further : Nested back behind) :
    Nested (front ++ back) (before ++ behind) := by
  induction nested with
  | nil => exact further
  | text _ ih => exact .text ih
  | single bodiless _ ih => exact .single bodiless ih
  | container bodied body _ _ ih =>
      simp only [List.cons_append, List.append_assoc]
      exact .container bodied body ih

/-- The fragments read so far: the trees outside of all open containers, and the open containers
with the trees in them, the innermost first. -/
structure Outline where
  trees : List Tree := []
  frames : List (Use × List Tree) := []

namespace Outline

variable {outline next : Outline} {trees : List Tree} {fragments : List Fragment}

/-- An outline with one more tree in its innermost open container. -/
def add (outline : Outline) (tree : Tree) : Outline :=
  match outline.frames with
  | [] => { outline with trees := outline.trees ++ [tree] }
  | (use, children) :: outer => { outline with frames := (use, children ++ [tree]) :: outer }

/-- An outline with several more trees. -/
def addAll (outline : Outline) (trees : List Tree) : Outline := trees.foldl add outline

@[simp] theorem addAll_nil (outline : Outline) : outline.addAll [] = outline := rfl

@[simp] theorem addAll_cons (outline : Outline) (tree : Tree) (trees : List Tree) :
    outline.addAll (tree :: trees) = (outline.add tree).addAll trees := rfl

theorem addAll_outside (front trees : List Tree) :
    addAll ⟨front, []⟩ trees = ⟨front ++ trees, []⟩ := by
  induction trees generalizing front with
  | nil => simp only [addAll_nil, List.append_nil]
  | cons tree trees ih => simp only [addAll_cons, add, ih, List.append_assoc, List.singleton_append]

theorem addAll_inside (outside front trees : List Tree) (use : Use)
    (outer : List (Use × List Tree)) :
    addAll ⟨outside, (use, front) :: outer⟩ trees = ⟨outside, (use, front ++ trees) :: outer⟩ := by
  induction trees generalizing front with
  | nil => simp only [addAll_nil, List.append_nil]
  | cons tree trees ih => simp only [addAll_cons, add, ih, List.append_assoc, List.singleton_append]

/-- The outline behind one more fragment, unless it is an end tag that the innermost open container
does not wait for. -/
def step (outline : Outline) : Fragment → Option Outline
  | .text s => some (outline.add (.text s))
  | .opener use =>
    if use.tag.hasBody then some { outline with frames := (use, []) :: outline.frames }
    else some (outline.add (.element use []))
  | .ending name =>
    match outline.frames with
    | [] => none
    | (use, children) :: outer =>
      if use.tag.name = name then some (add ⟨outline.trees, outer⟩ (.element use children))
      else none

/-- The outline behind several fragments. -/
def run (outline : Outline) (fragments : List Fragment) : Option Outline :=
  fragments.foldlM step outline

@[simp] theorem run_nil (outline : Outline) : outline.run [] = some outline := rfl

@[simp] theorem run_cons (outline : Outline) (fragment : Fragment) (rest : List Fragment) :
    outline.run (fragment :: rest) = (outline.step fragment).bind fun next => next.run rest := rfl

/-- An outline gets through nested fragments and adds their trees. -/
theorem run_nested (nested : Nested trees fragments) (outline : Outline) (rest : List Fragment) :
    outline.run (fragments ++ rest) = (outline.addAll trees).run rest := by
  induction nested generalizing outline rest with
  | nil => rfl
  | text _ ih =>
      rw [List.cons_append, run_cons, step, Option.bind_some, ih, addAll_cons]
  | single bodiless _ ih =>
      rw [List.cons_append, run_cons, step, bodiless, if_neg Bool.false_ne_true, Option.bind_some,
        ih, addAll_cons]
  | container bodied _ _ inner outer =>
      rw [List.cons_append, List.append_assoc, run_cons, step, bodied, if_pos rfl,
        Option.bind_some, inner, addAll_inside, List.cons_append, run_cons, step]
      simp only [List.nil_append, if_pos, Option.bind_some]
      exact outer _ _

/-- The fragments that led to an outline: the trees in each open container are nested, and so are
those outside. -/
inductive Spells : Outline → List Fragment → Prop
  | outside {trees : List Tree} {fragments : List Fragment} (nested : Nested trees fragments) :
      Spells ⟨trees, []⟩ fragments
  | inside {outline : Outline} {use : Use} {children : List Tree} {before inner : List Fragment}
      (around : Spells outline before) (bodied : use.tag.hasBody = true)
      (nested : Nested children inner) :
      Spells ⟨outline.trees, (use, children) :: outline.frames⟩ (before ++ .opener use :: inner)

/-- Nested fragments of a tree go into the innermost open container. -/
theorem Spells.add {tree : Tree} {before part : List Fragment} (spells : Spells outline before)
    (nested : Nested [tree] part) : Spells (outline.add tree) (before ++ part) := by
  cases spells with
  | outside front => exact .outside (front.append nested)
  | inside around bodied front =>
      rw [List.append_assoc, List.cons_append]
      exact .inside around bodied (front.append nested)

/-- One more fragment keeps to what an outline says. -/
theorem Spells.step {before : List Fragment} {fragment : Fragment}
    (spells : Spells outline before) (stepped : outline.step fragment = some next) :
    Spells next (before ++ [fragment]) := by
  cases fragment with
  | text s =>
      obtain rfl := Option.some.inj stepped
      exact spells.add (.text .nil)
  | opener use =>
      rw [Outline.step] at stepped
      split at stepped
      · rename_i bodied
        obtain rfl := Option.some.inj stepped
        exact .inside spells bodied .nil
      · rename_i bodiless
        obtain rfl := Option.some.inj stepped
        exact spells.add (.single (Bool.eq_false_iff.mpr bodiless) .nil)
  | ending name =>
      cases spells with
      | outside => cases stepped
      | @inside around use children before inner spells bodied nested =>
          simp only [Outline.step] at stepped
          split at stepped
          · rename_i own
            obtain rfl := own
            obtain rfl := Option.some.inj stepped
            rw [List.append_assoc, List.cons_append]
            exact spells.add (.container bodied nested .nil)
          · cases stepped

theorem Spells.run {before : List Fragment} (spells : Spells outline before)
    (ran : outline.run fragments = some next) : Spells next (before ++ fragments) := by
  induction fragments generalizing outline before with
  | nil =>
      obtain rfl := Option.some.inj ran
      rw [List.append_nil]
      exact spells
  | cons fragment rest ih =>
      rw [run_cons, Option.bind_eq_some_iff] at ran
      obtain ⟨middle, stepped, ran⟩ := ran
      rw [List.append_cons]
      exact ih (spells.step stepped) ran

/-- Fragments are nested exactly when an outline gets through them and no container stays open. -/
theorem run_eq_some_iff : run {} fragments = some ⟨trees, []⟩ ↔ Nested trees fragments := by
  constructor
  · intro ran
    have spells : Spells ⟨trees, []⟩ ([] ++ fragments) := Spells.run (.outside .nil) ran
    cases spells with
    | outside nested => exact nested
  · intro nested
    have ran := run_nested nested {} []
    rw [List.append_nil, addAll_outside] at ran
    exact ran

end Outline
end ElementTags
