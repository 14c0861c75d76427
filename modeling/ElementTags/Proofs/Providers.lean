import Mathlib.Data.List.Forall2
import ElementTags.Proofs.Blocks
import ElementTags.Proofs.Resolution

/-! # What programs see of provided values

As long as the variable of the channel is not written, it holds the values of all open
blocks, those of inner blocks before those of outer ones
(`ElementTags.Channel.Carries`). Everything else is as in the program with an empty
layer in place of every such block: both programs run side by side, in scopes whose
layers differ in the variable of the channel only (`ElementTags.Channel.Follows`).
-/

namespace ElementTags

theorem Scope.get?_set {scope : Scope} (nonempty : scope.layers ≠ []) {name other : Text}
    (different : name ≠ other) (value : Value) :
    (scope.set name value).get? other = scope.get? other := by
  obtain ⟨top, rest, layers⟩ := List.exists_cons_of_ne_nil nonempty
  rw [Scope.get?, Scope.get?, Scope.layers_set layers, layers, List.findSome?_cons,
    List.findSome?_cons, Layer.get?_set, if_neg different]

theorem Scope.get?_push {scope : Scope} {layer : Layer} {name : Text}
    (unbound : ∀ entry ∈ layer, entry.1 ≠ name) :
    (scope.push layer).get? name = scope.get? name := by
  rw [Scope.get?, Scope.push, List.findSome?_cons, Layer.get?_of_unbound unbound]
  rfl

namespace Channel

/-! ## Channels -/

/-- The value that the innermost of some blocks gives to a name. -/
def provided? (provided : List Layer) (name : Text) : Option Value :=
  provided.findSome? (·.get? name)

theorem lookup_textPairs (layer : Layer) (name : Text) :
    Value.lookup (textPairs layer) (.text name) = layer.get? name := by
  induction layer with
  | nil => rfl
  | cons p rest ih =>
      obtain ⟨key, v⟩ := p
      rw [Value.lookup, textPairs, List.map_cons, Layer.get?]
      by_cases same : key = name
      · rw [if_pos same, List.find?_cons_of_pos]
        · rfl
        · rw [Written.equal_text]
          exact decide_eq_true same
      · rw [if_neg same, List.find?_cons_of_neg]
        · exact ih
        · rw [Written.equal_text]
          exact ne_true_of_eq_false (decide_eq_false same)

theorem foldl_put_textPairs (layer values : Layer) :
    values.foldl (fun ps (name, v) => Value.put ps (.text name) v) (textPairs layer) =
      textPairs (layer.setAll values) := by
  induction values generalizing layer with
  | nil => rfl
  | cons p rest ih =>
      have further := ih (layer.set p.1 p.2)
      rw [← put_textPairs] at further
      exact further

/-- Values of different names come before what was there. -/
theorem get?_setAll (layer : Layer) {values : Layer} (distinct : (values.map (·.1)).Nodup)
    (name : Text) :
    (layer.setAll values).get? name = (values.get? name).or (layer.get? name) := by
  induction values generalizing layer with
  | nil => rfl
  | cons p rest ih =>
      obtain ⟨key, v⟩ := p
      obtain ⟨fresh, others⟩ := List.nodup_cons.mp distinct
      have further := ih (layer.set key v) others
      rw [Layer.get?_set] at further
      refine further.trans ?_
      rw [Layer.get?]
      by_cases same : key = name
      · subst same
        rw [if_pos rfl, if_pos rfl, Layer.get?_of_unbound fun entry member named =>
          fresh (List.mem_map.mpr ⟨entry, member, named⟩)]
        rfl
      · rw [if_neg same, if_neg same]

/-- The variable of the channel holds the values of some blocks, or there are none. -/
def Carries (provided : List Layer) (scope : Scope) : Prop :=
  ∃ channel : Layer, (∀ name, channel.get? name = provided? provided name) ∧
    (scope.get? variableName = some (.dict (textPairs channel)) ∨
      channel = [] ∧ scope.get? variableName = none)

namespace Carries

variable {provided : List Layer} {scope : Scope}

theorem start (hidden : scope.get? variableName = none) : Carries [] scope :=
  ⟨[], fun _ => rfl, .inr ⟨rfl, hidden⟩⟩

/-- Only the variable of the channel matters. -/
theorem of_eq {other : Scope} (carries : Carries provided scope)
    (same : other.get? variableName = scope.get? variableName) : Carries provided other := by
  rw [Carries, same]
  exact carries

theorem inject (carries : Carries provided scope) (name : Text) (default : Value) :
    Channel.inject scope name default = .ok ((provided? provided name).getD default) := by
  obtain ⟨channel, values, held | ⟨rfl, hidden⟩⟩ := carries
  · rw [Channel.inject, held]
    change Except.ok ((Value.lookup (textPairs channel) (.text name)).getD default) = _
    rw [lookup_textPairs, values]
  · rw [Channel.inject, hidden, ← values]
    rfl

theorem pairs (carries : Carries provided scope) :
    ∃ channel : Layer, (∀ name, channel.get? name = provided? provided name) ∧
      Channel.pairs scope = .ok (textPairs channel) := by
  obtain ⟨channel, values, held | ⟨rfl, hidden⟩⟩ := carries
  · exact ⟨channel, values, by rw [Channel.pairs, held]; rfl⟩
  · exact ⟨[], values, by rw [Channel.pairs, hidden]; rfl⟩

/-- A block is opened with its values before those of the blocks around it. -/
theorem provide (carries : Carries provided scope) {values : Layer}
    (distinct : (values.map (·.1)).Nodup) (allowed : reservedName ∉ values.map (·.1)) :
    ∃ channel : Value, Channel.provide scope values =
        .ok (channel, scope.push [(variableName, channel)]) ∧
      Carries (values :: provided) (scope.push [(variableName, channel)]) := by
  obtain ⟨old, known, held⟩ := carries.pairs
  have free : values.any (·.1 = reservedName) = false := by
    rw [List.any_eq_false]
    intro p member reserved
    exact allowed (List.mem_map.mpr ⟨p, member, of_decide_eq_true reserved⟩)
  refine ⟨.dict (textPairs (old.setAll values)), ?_, old.setAll values, fun name => ?_, .inl ?_⟩
  · rw [Channel.provide, free, held]
    change Except.ok _ = _
    rw [foldl_put_textPairs]
  · rw [get?_setAll old distinct, known, provided?, provided?, List.findSome?_cons]
    cases values.get? name <;> rfl
  · rw [Scope.get?, Scope.push, List.findSome?_cons, Layer.get?, if_pos rfl]

end Carries

/-! ## Two scopes side by side -/

/-- Two layers that differ in the variable of the channel only. -/
def SameOthers (layer plain : Layer) : Prop :=
  ∀ name, name ≠ variableName → layer.get? name = plain.get? name

theorem SameOthers.set {layer plain : Layer} (same : SameOthers layer plain) (name : Text)
    (value : Value) : SameOthers (layer.set name value) (plain.set name value) := by
  intro other different
  rw [Layer.get?_set, Layer.get?_set, same other different]

theorem get?_of_sameOthers {scope plain : Scope}
    (layers : List.Forall₂ SameOthers scope.layers plain.layers) {name : Text}
    (other : name ≠ variableName) : scope.get? name = plain.get? name := by
  rw [Scope.get?, Scope.get?]
  generalize scope.layers = here, plain.layers = there at layers
  induction layers with
  | nil => rfl
  | cons same _ ih => rw [List.findSome?_cons, List.findSome?_cons, same name other, ih]

/-- A scope in which some blocks are open, and the scope at the same point of a program with an
empty layer in place of every block. -/
structure Follows (provided : List Layer) (scope plain : Scope) : Prop where
  nonempty : scope.layers ≠ []
  carries : Carries provided scope
  hidden : plain.get? variableName = none
  others : List.Forall₂ SameOthers scope.layers plain.layers

namespace Follows

variable {provided : List Layer} {scope plain : Scope}

theorem nonempty_plain (follows : Follows provided scope plain) : plain.layers ≠ [] := by
  intro none
  have others := follows.others
  rw [none] at others
  cases layers : scope.layers with
  | nil => exact follows.nonempty layers
  | cons top rest =>
      rw [layers] at others
      cases others

theorem set (follows : Follows provided scope plain) {name : Text} (other : name ≠ variableName)
    (value : Value) : Follows provided (scope.set name value) (plain.set name value) := by
  have kept := Scope.get?_set follows.nonempty other value
  have keptPlain := Scope.get?_set follows.nonempty_plain other value
  have both := follows.others
  obtain ⟨top, rest, layers⟩ := List.exists_cons_of_ne_nil follows.nonempty
  obtain ⟨topPlain, restPlain, layersPlain⟩ := List.exists_cons_of_ne_nil follows.nonempty_plain
  rw [layers, layersPlain] at both
  obtain ⟨same, further⟩ := List.forall₂_cons.mp both
  refine ⟨?_, follows.carries.of_eq kept, keptPlain.trans follows.hidden, ?_⟩
  · rw [Scope.layers_set layers]
    exact List.cons_ne_nil _ _
  · rw [Scope.layers_set layers, Scope.layers_set layersPlain]
    exact .cons (same.set name value) further

theorem push (follows : Follows provided scope plain) {layer : Layer}
    (unbound : ∀ entry ∈ layer, entry.1 ≠ variableName) :
    Follows provided (scope.push layer) (plain.push layer) where
  nonempty := List.cons_ne_nil _ _
  carries := follows.carries.of_eq (Scope.get?_push unbound)
  hidden := (Scope.get?_push unbound).trans follows.hidden
  others := .cons (fun _ _ => rfl) follows.others

/-- Opening a block on one side, and an empty layer on the other. -/
theorem provide (follows : Follows provided scope plain) {values : Layer}
    (distinct : (values.map (·.1)).Nodup) (allowed : reservedName ∉ values.map (·.1)) :
    ∃ channel : Value, Channel.provide scope values =
        .ok (channel, scope.push [(variableName, channel)]) ∧
      Follows (values :: provided) (scope.push [(variableName, channel)]) (plain.push []) := by
  obtain ⟨channel, opened, carries⟩ := follows.carries.provide distinct allowed
  refine ⟨channel, opened, List.cons_ne_nil _ _, carries, follows.hidden, .cons ?_ follows.others⟩
  exact fun name other => if_neg (Ne.symm other)

end Follows

/-! ## Two runs side by side -/

/-- A program that leaves the channel to its blocks: neither an assignment nor a layer writes the
variable of the channel, and a block gives each name once and not the one that it may not give. -/
def Program.Apart : Program → Prop
  | .done => True
  | .fail _ => True
  | .set name _ next => name ≠ variableName ∧ next.Apart
  | .get _ next => next.Apart
  | .inject _ _ next => next.Apart
  | .provide values body next =>
    (values.map (·.1)).Nodup ∧ reservedName ∉ values.map (·.1) ∧ body.Apart ∧ next.Apart
  | .layered layer body next =>
    (∀ entry ∈ layer, entry.1 ≠ variableName) ∧ body.Apart ∧ next.Apart

/-- What two programs see at the same point: values of the innermost blocks, and all other variables
alike. -/
structure Sees (here plain : Moment) : Prop where
  injected : ∀ name default, inject here.scope name default =
    .ok ((provided? here.provided name).getD default)
  others : ∀ name, name ≠ variableName → here.scope.get? name = plain.scope.get? name

theorem Follows.sees {provided : List Layer} {scope plain : Scope}
    (follows : Follows provided scope plain) (others : List Layer) :
    Sees ⟨scope, provided⟩ ⟨plain, others⟩ :=
  ⟨follows.carries.inject, fun _ => get?_of_sameOthers follows.others⟩

/-- Two runs that go through the same points and end alike. -/
structure Abreast (provided : List Layer) (run plain : Run) : Prop where
  outcome : run.outcome = plain.outcome
  moments : List.Forall₂ Sees run.moments plain.moments
  ending : Follows provided run.nesting.scope plain.nesting.scope

namespace Abreast

open Run

variable {provided : List Layer} {n plain inside : Nesting} {inner innerPlain : Run}

theorem still (follows : Follows provided n.scope plain.scope) (outcome : Except Fault Unit) :
    Abreast provided (.still provided n outcome) (.still [] plain outcome) :=
  ⟨rfl, .cons (follows.sees []) .nil, follows⟩

theorem andThen {run other : Run} {next nextPlain : Nesting → Run}
    (start : Abreast provided run other)
    (further : ∀ n plain : Nesting, Follows provided n.scope plain.scope →
      Abreast provided (next n) (nextPlain plain)) :
    Abreast provided (run.andThen next) (other.andThen nextPlain) := by
  have behind := further _ _ start.ending
  rw [Run.andThen, Run.andThen, ← start.outcome]
  cases run.outcome with
  | error fault => exact start
  | ok _ => exact ⟨behind.outcome, List.rel_append start.moments behind.moments, behind.ending⟩

/-- A layer that is left on both sides. -/
theorem layered {layer : Layer} (follows : Follows provided n.scope plain.scope)
    (inside : Abreast provided inner innerPlain) (restores : Restores (n.push layer) inner)
    (restoresPlain : Restores (plain.push layer) innerPlain) :
    Abreast provided (inner.leaving provided Nesting.unlayer)
      (innerPlain.leaving [] Nesting.unlayer) := by
  rw [restores.layered follows.nonempty, restoresPlain.layered follows.nonempty_plain]
  exact ⟨inside.outcome, List.rel_append inside.moments (.cons (follows.sees []) .nil), follows⟩

/-- A block that is left on one side, and an empty layer on the other. -/
theorem passed {values : Layer} {channel : Value} (follows : Follows provided n.scope plain.scope)
    (entered : n.enter values = .ok (channel, inside))
    (within : Abreast (values :: provided) inner innerPlain) (restores : Restores inside inner)
    (restoresPlain : Restores (plain.push []) innerPlain) :
    Abreast provided (inner.passed provided n) (innerPlain.leaving [] Nesting.unlayer) := by
  rw [restores.passed follows.nonempty entered, restoresPlain.layered follows.nonempty_plain]
  exact ⟨within.outcome, List.rel_append within.moments (.cons (follows.sees []) .nil), follows⟩

end Abreast

open Run

/-- A program and its plain form keep abreast. -/
theorem Program.abreast (program : Program) :
    ∀ (provided : List Layer) (n plain : Nesting), program.Apart →
      Follows provided n.scope plain.scope →
      Abreast provided (program.run provided n) (program.plain.run [] plain) := by
  induction program with
  | done => exact fun provided n plain _ follows => .still follows _
  | fail fault => exact fun provided n plain _ follows => .still follows _
  | set name value next ih =>
      rintro provided n plain ⟨other, apart⟩ follows
      exact (Abreast.still follows _).andThen fun n plain follows =>
        ih provided (n.set name value) (plain.set name value) apart (follows.set other value)
  | get name next ih =>
      intro provided n plain apart follows
      exact (Abreast.still follows _).andThen fun n plain follows =>
        ih provided n plain apart follows
  | inject name default next ih =>
      intro provided n plain apart follows
      have answered : (n.inject name default).map (fun _ => ()) = .ok () := by
        rw [Nesting.inject, follows.carries.inject]
        rfl
      have answeredPlain : (plain.inject name default).map (fun _ => ()) = .ok () := by
        rw [Nesting.inject, Channel.inject, follows.hidden]
        rfl
      rw [Program.run, Program.plain, Program.run, answered, answeredPlain]
      exact (Abreast.still follows _).andThen fun n plain follows =>
        ih provided n plain apart follows
  | provide values body next inner ih =>
      rintro provided n plain ⟨distinct, allowed, apart, further⟩ follows
      refine (Abreast.still follows _).andThen fun n plain follows => ?_
      refine Abreast.andThen ?_ fun n plain follows => ih provided n plain further follows
      obtain ⟨channel, opened, within⟩ := follows.provide distinct allowed
      have entered : n.enter values =
          .ok (channel, ⟨n.scope.push [(variableName, channel)], n.opened + 1⟩) := by
        rw [Nesting.enter, opened]
      rw [entered]
      exact Abreast.passed follows entered (inner _ _ (plain.push []) apart within)
        (body.restores _ _ (List.cons_ne_nil _ _)) (body.plain.restores _ _ (List.cons_ne_nil _ _))
  | layered layer body next inner ih =>
      rintro provided n plain ⟨unbound, apart, further⟩ follows
      refine (Abreast.still follows _).andThen fun n plain follows => ?_
      refine Abreast.andThen ?_ fun n plain follows => ih provided n plain further follows
      exact Abreast.layered follows
        (inner provided (n.push layer) (plain.push layer) apart (follows.push unbound))
        (body.restores _ _ (List.cons_ne_nil _ _)) (body.plain.restores _ _ (List.cons_ne_nil _ _))

/-- **Programs see the innermost provider, and nothing else of the channel.** In a scope without a
channel, a program that leaves the channel to its blocks finds, at each of its points, the values of
the blocks that are open there, and all other variables as its plain form finds them. -/
theorem Program.run_provides {n : Nesting} (program : Program) (apart : program.Apart)
    (nonempty : n.scope.layers ≠ []) (hidden : n.scope.get? variableName = none) :
    (∀ moment ∈ (program.run [] n).moments, ∀ name default,
      Channel.inject moment.scope name default =
        .ok ((provided? moment.provided name).getD default)) ∧
    List.Forall₂
      (fun moment plain => ∀ name, name ≠ variableName →
        moment.scope.get? name = plain.scope.get? name)
      (program.run [] n).moments (program.plain.run [] n).moments ∧
    (program.run [] n).outcome = (program.plain.run [] n).outcome := by
  have follows : Follows [] n.scope n.scope :=
    ⟨nonempty, .start hidden, hidden, List.forall₂_same.mpr fun _ _ _ _ => rfl⟩
  obtain ⟨outcome, moments, -⟩ := program.abreast [] n n apart follows
  have both := moments.imp fun _ _ sees => And.intro sees.injected sees.others
  obtain ⟨injected, others⟩ := (List.forall₂_and_left _ _).mp both
  exact ⟨injected, others, outcome⟩

/-- A block within a block gives a null value, and a variable is set in a layer within both. -/
theorem Program.run_provides_null :
    ∃ program : Program, program.Apart ∧
      ∃ moment ∈ (program.run [] ⟨Scope.ofData [] true, 0⟩).moments,
        moment.scope.depth = 5 ∧ moment.scope.get? "y".toList = some (.int 4) ∧
          Channel.inject moment.scope "b".toList (.int 5) = .ok .null := by
  let program : Program := .provide [("a".toList, .int 1), ("b".toList, .int 2)]
    (.provide [("b".toList, .null)]
      (.layered [("x".toList, .int 3)] (.set "y".toList (.int 4) .done) .done) .done) .done
  have apart : program.Apart := by
    refine ⟨by decide, by decide, ⟨by decide, by decide, ⟨?_, ⟨by decide, trivial⟩, trivial⟩,
      trivial⟩, trivial⟩
    exact List.forall_mem_singleton.mpr (by decide)
  obtain ⟨injected, -, -⟩ := run_provides (n := ⟨Scope.ofData [] true, 0⟩) program apart
    (List.cons_ne_nil _ _) rfl
  have last : (program.run [] ⟨Scope.ofData [] true, 0⟩).moments[4]? = some _ := rfl
  have member := List.mem_of_getElem? last
  exact ⟨program, apart, _, member, rfl, rfl, injected _ member "b".toList (.int 5)⟩

end Channel
end ElementTags
