import ElementTags.Proofs.Pairing
import ElementTags.Proofs.PlainSteps
import ElementTags.Proofs.Warnings

/-! # Engines that differ in what they report

Two engines with well-formed configurations may differ in what their ledgers hold, and
one may report dropped attributes while the other one does not, as long as both demand the same
(`ElementTags.Twins`). A behaviour depends on its arguments only if it cannot tell such engines
apart (`ElementTags.Behaviour.ArgumentsOnly`). Behaviours that are made of plain steps do so
(`ElementTags.Behaviour.Plain.argumentsOnly`), and the one that counts does not
(`ElementTags.Behaviour.not_argumentsOnly_count`).
-/

namespace ElementTags

/-- Two engines with well-formed configurations, which demand the same of dropped values. The log of
each holds some lines to begin with. -/
structure Twins where
  first : Configuration
  second : Configuration
  formed : first.WellFormed
  formedToo : second.WellFormed
  demands : first.demands = second.demands
  tracing : Bool
  lines : List LogLine
  linesToo : List LogLine

namespace Twins

variable {twins : Twins}

/-- The ledgers of both engines: they are configured as they were, and log the same, apart from
warnings if only one of them reports dropped values. -/
structure Ledgers (twins : Twins) (ledger other : Ledger) : Prop where
  first : ledger.configuration = twins.first
  second : other.configuration = twins.second
  tracing : ledger.tracing = twins.tracing
  tracingToo : other.tracing = twins.tracing
  lines : ∃ news further, ledger.lines = news ++ twins.lines ∧
    other.lines = further ++ twins.linesToo ∧
      SameNews twins.first.reports twins.second.reports news further

/-- Ledgers stay so if what is logged further corresponds. -/
theorem Ledgers.log {ledger other : Ledger} (ledgers : twins.Ledgers ledger other)
    {lines further : List LogLine}
    (same : SameNews twins.first.reports twins.second.reports lines further) :
    twins.Ledgers (ledger.log lines) (other.log further) := by
  obtain ⟨first, second, tracing, tracingToo, news, others, logged, heard, alike⟩ := ledgers
  refine ⟨first, second, tracing, tracingToo, lines.reverse ++ news, further.reverse ++ others,
    ?_, ?_, same.reverse.append alike⟩
  · rw [Ledger.log, logged, List.append_assoc]
  · rw [Ledger.log, heard, List.append_assoc]

theorem Ledgers.trace {ledger other : Ledger} (ledgers : twins.Ledgers ledger other)
    {line : LogLine} (level : line.level = .trace) :
    twins.Ledgers (ledger.trace line) (other.trace line) := by
  unfold Ledger.trace
  rw [ledgers.tracing, ledgers.tracingToo]
  split
  · exact ledgers.log (.singleton level _ _)
  · exact ledgers

end Twins

/-! ## Behaviours -/

namespace Acting

open Script

variable {α : Type} {twins : Twins}

/-- Attributes are written alike. -/
theorem alike_serialize (attributes : Value) :
    Alike twins.Ledgers (serialize attributes) (serialize attributes) := by
  rw [serialize_eq]
  refine .look fun s t surround => ?_
  obtain ⟨ledgers, scope⟩ := surround
  obtain ⟨written, news⟩ := Markup.serializeValue_congr twins.formed twins.formedToo twins.demands
    (t.scope.current attributes)
  simp only [scope, ledgers.first, ledgers.second, written]
  exact .change ⟨ledgers.log news, rfl⟩ (.done _)

/-- What is done while values are provided is done alike, and so is the layer removed. -/
theorem alike_providing {action : Acting α} (inside : Alike twins.Ledgers action action)
    (values : Layer) : Alike twins.Ledgers (providing values action) (providing values action) := by
  rw [providing_eq]
  refine .look fun s t surround => ?_
  rw [surround.scope]
  split
  · exact .done _
  · refine .change ⟨surround.ledgers, rfl⟩ (inside.bind fun result => ?_)
    refine .look fun after behind surround => ?_
    rw [surround.scope]
    exact .change ⟨surround.ledgers, rfl⟩ (.done _)

/-- Plain steps are done alike in both engines. -/
theorem Plain.alike {others : Prop} {action : Acting α} (plain : action.Plain others) :
    Alike twins.Ledgers action action := by
  induction plain with
  | done result => exact .done result
  | andThen _ _ first next => exact first.andThen next
  | scope =>
      rw [scope_eq]
      refine .look fun s t surround => ?_
      rw [surround.scope]
      exact .done _
  | changeScope f =>
      rw [changeScope_eq]
      refine .look fun s t surround => ?_
      rw [surround.scope]
      exact .change ⟨surround.ledgers, rfl⟩ (.done _)
  | body => exact .askBody fun b => .done _
  | isRendered accessor => exact .askRendered accessor fun rendered => .done _
  | callBody =>
      rw [callBody_eq]
      refine .askBody fun b => ?_
      cases b with
      | deferred own => exact .callBody own fun r => .done _
      | given v => exact .done _
  | call _ accessor => exact .callBody accessor fun r => .done _
  | serialize attributes => exact alike_serialize attributes
  | providing _ values inside => exact alike_providing inside values

end Acting

namespace Behaviour

open Acting Script

variable {twins : Twins}

/-- A behaviour does the same in both engines. -/
def SameIn (twins : Twins) (behaviour : Behaviour) : Prop :=
  ∀ e attributes, Alike twins.Ledgers (behaviour e attributes) (behaviour e attributes)

/-- A behaviour depends on nothing but its arguments: it does the same in any two engines. -/
def ArgumentsOnly (behaviour : Behaviour) : Prop := ∀ twins : Twins, behaviour.SameIn twins

theorem Plain.argumentsOnly {others : Prop} {behaviour : Behaviour}
    (plain : behaviour.Plain others) : behaviour.ArgumentsOnly :=
  fun _ e attributes => (plain e attributes).alike

theorem argumentsOnly_default : default.ArgumentsOnly := @Plain.argumentsOnly False _ plain_default

/-- The behaviour that counts gives another text in an engine that has counted before. -/
theorem not_argumentsOnly_count : ¬count.ArgumentsOnly := by
  intro depends
  let twins : Twins := ⟨.unset, .unset, .switches _ _ _, .switches _ _ _, rfl, false, [], []⟩
  let fresh : Surroundings := ⟨Ledger.start .unset false, Scope.ofData [] true⟩
  let used : Surroundings := ⟨{ Ledger.start .unset false with tally := 1 }, Scope.ofData [] true⟩
  have corresponds : fresh.Alike twins.Ledgers used :=
    ⟨⟨rfl, rfl, rfl, rfl, [], [], rfl, rfl, .refl _ _⟩, rfl⟩
  have alike := depends twins ⟨[], false⟩ .null
  have texts := ((alike.look_inv corresponds).change_inv).2.done_inv
  exact absurd (Value.text.inj (Except.ok.inj texts)) (by decide)

end Behaviour

/-- The behaviour of a tag depends on its arguments only. -/
def Tag.ArgumentsOnly (tag : Tag) : Prop := tag.behaviour.ArgumentsOnly

/-- Both engines are compared, while templates without inclusions are rendered. -/
def Twins.pairing (twins : Twins) : Pairing where
  ledgers := twins.Ledgers
  included _ _ := True
  tags := Tag.ArgumentsOnly
  isClosed := true
  traced level ledgers := ledgers.trace level
  evaluated _ _ ledgers :=
    ⟨ledgers.first, ledgers.second, ledgers.tracing, ledgers.tracingToo, ledgers.lines⟩

theorem Twins.performs {twins : Twins} {tag : Tag} (depends : tag.ArgumentsOnly) :
    twins.pairing.Performs tag := fun attributes => depends twins _ attributes

end ElementTags
