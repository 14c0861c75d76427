import ElementTags.Proofs.Twins

/-! # Behaviours that hide no fault

A script is candid if it leaves alone what is logged about steps, and ends with a fault
after a body that it calls has raised one, without calling any body again
(`ElementTags.Script.Candid`). It may look at its surroundings, change its scope, log
warnings and put things in order before it gives up. All behaviours of this library are
candid: those that are made of plain steps (`ElementTags.Behaviour.Plain.candid`), and the one
that counts (`ElementTags.Behaviour.candid_count`).
-/

namespace ElementTags

open Outcome

namespace Ledger

/-- The lines about steps, in order. -/
def traced (ledger : Ledger) : List LogLine :=
  ledger.lines.reverse.filter fun line => line.level = .trace

theorem traced_trace {ledger : Ledger} (tracing : ledger.tracing = true) {line : LogLine}
    (level : line.level = .trace) : (ledger.trace line).traced = ledger.traced ++ [line] := by
  have own : [line].filter (fun line => line.level = .trace) = [line] :=
    List.filter_cons_of_pos (decide_eq_true level)
  rw [traced, trace, if_pos tracing, log, List.reverse_append, List.reverse_reverse,
    List.filter_append, own]
  rfl

/-- What is logged about steps is the same, and so is whether they are logged. -/
structure SameSteps (before after : Ledger) : Prop where
  tracing : after.tracing = before.tracing
  traced : after.traced = before.traced

theorem SameSteps.refl (ledger : Ledger) : SameSteps ledger ledger := ⟨rfl, rfl⟩

theorem SameSteps.trans {ledger other further : Ledger} (first : SameSteps ledger other)
    (second : SameSteps other further) : SameSteps ledger further :=
  ⟨second.tracing.trans first.tracing, second.traced.trans first.traced⟩

/-- Warnings are no lines about steps. -/
theorem sameSteps_log (ledger : Ledger) {lines : List LogLine}
    (warnings : ∀ line ∈ lines, line.level = .warning) : SameSteps ledger (ledger.log lines) where
  tracing := rfl
  traced := by
    have none : lines.filter (fun line => line.level = .trace) = [] := by
      refine List.filter_eq_nil_iff.mpr fun line member => ?_
      rw [warnings line member]
      decide
    rw [traced, log, List.reverse_append, List.reverse_reverse, List.filter_append, none,
      List.append_nil]
    rfl

end Ledger

/-! ## Warnings -/

namespace Markup

variable {configuration : Configuration}

/-- A step of writing attributes logs nothing but warnings. -/
theorem warnings_step {p q : Progress} {v : Value} (stepped : step configuration p v = .ok q)
    (warnings : ∀ line ∈ p.lines, line.level = .warning) :
    ∀ line ∈ q.lines, line.level = .warning := by
  unfold step at stepped
  split at stepped
  · obtain ⟨texts, -, same⟩ := bind_eq_ok.mp stepped
    cases same
    exact warnings
  · split at stepped
    · cases stepped
      exact warnings
    · split at stepped
      · obtain ⟨log, -, stepped⟩ := bind_eq_ok.mp stepped
        split at stepped
        · obtain ⟨lines, reported, same⟩ := bind_eq_ok.mp stepped
          cases same
          exact List.forall_mem_append.mpr ⟨warnings, level_of_droppedLines reported⟩
        · cases stepped
          exact warnings
      · cases stepped
        exact warnings

theorem warnings_progress (values : List Value) {p : Progress}
    (warnings : ∀ line ∈ p.lines, line.level = .warning) :
    ∀ line ∈ (progress configuration p values).1.lines, line.level = .warning := by
  induction values generalizing p with
  | nil => exact warnings
  | cons v rest ih =>
      rw [progress]
      split
      · rename_i next stepped
        exact ih (warnings_step stepped warnings)
      · exact warnings

/-- Writing attributes logs nothing but warnings. -/
theorem warnings_serializeValue (configuration : Configuration) (v : Value) :
    ∀ line ∈ (serializeValue configuration v).2, line.level = .warning := by
  have written (values : List Value) :
      ∀ line ∈ (serialize configuration values).2, line.level = .warning := by
    have all := @warnings_progress configuration values {} (List.forall_mem_nil _)
    unfold serialize
    split <;> rename_i ended <;> rw [ended] at all <;> exact all
  unfold serializeValue
  split
  · rename_i values _
    have all := written values
    split <;> rename_i ended <;> rw [ended] at all <;> exact all
  · exact List.forall_mem_nil _

end Markup

/-! ## Scripts -/

namespace Script

variable {α β : Type} {failed : Bool} {s : Surroundings} {script : Script (Except Fault α)}

/-- A script in some surroundings leaves alone what is logged about steps, and if a body raises a
fault it ends with one and does not call any body again. `failed` tells whether a body has raised
one. -/
inductive Candid {α : Type} : Bool → Surroundings → Script (Except Fault α) → Prop
  | done {failed : Bool} {s : Surroundings} {result : Except Fault α}
      (admits : failed = true → result.toBool = false) : Candid failed s (.done result)
  | look {failed : Bool} {s : Surroundings} {next : Surroundings → Script (Except Fault α)}
      (behind : Candid failed s (next s)) : Candid failed s (.look next)
  | change {failed : Bool} {s t : Surroundings} {next : Script (Except Fault α)}
      (same : s.ledger.SameSteps t.ledger) (behind : Candid failed t next) :
      Candid failed s (.change t next)
  | askBody {failed : Bool} {s : Surroundings} {next : Body → Script (Except Fault α)}
      (each : ∀ own, Candid failed s (next (.deferred own))) : Candid failed s (.askBody next)
  | askRendered {failed : Bool} {s : Surroundings} (accessor : Accessor)
      {next : Bool → Script (Except Fault α)}
      (each : ∀ rendered, Candid failed s (next rendered)) :
      Candid failed s (.askRendered accessor next)
  | callBody {s : Surroundings} (accessor : Accessor)
      {next : Except Fault Text → Script (Except Fault α)}
      (each : ∀ reply t, Candid (!reply.toBool) t (next reply)) :
      Candid false s (.callBody accessor next)

/-- What a script may do after a fault of its body it may do without one. -/
theorem Candid.mono (candid : script.Candid failed s) : script.Candid false s := by
  induction candid with
  | done _ => exact .done fun none => (by cases none)
  | look _ ih => exact .look ih
  | change same _ ih => exact .change same ih
  | askBody _ ih => exact .askBody ih
  | askRendered accessor _ ih => exact .askRendered accessor ih
  | callBody accessor each _ => exact .callBody accessor each

/-- Scripts one behind the other are candid if the second one is told of a fault of the first. -/
theorem Candid.bind {f : Except Fault α → Script (Except Fault β)}
    (first : script.Candid failed s) (next : ∀ result t, (f result).Candid (!result.toBool) t) :
    (script.bind f).Candid failed s := by
  induction first with
  | @done failed s result admits =>
      cases failed with
      | true =>
          have told := next result s
          rw [admits rfl] at told
          exact told
      | false => exact (next result s).mono
  | look _ ih => exact .look ih
  | change same _ ih => exact .change same ih
  | askBody _ ih => exact .askBody ih
  | askRendered accessor _ ih => exact .askRendered accessor ih
  | callBody accessor _ ih => exact .callBody accessor ih

end Script

/-! ## Actions -/

namespace Acting

variable {α β : Type}

/-- An action is candid in any surroundings. -/
def Candid (action : Acting α) : Prop := ∀ s, Script.Candid false s action

theorem candid_done (result : Except Fault α) : Candid (Script.done result : Acting α) :=
  fun _ => .done fun none => (by cases none)

theorem Candid.andThen {action : Acting α} {f : α → Acting β} (first : Candid action)
    (next : ∀ a, Candid (f a)) : Candid (action >>= f) := by
  refine fun s => Script.Candid.bind (first s) fun result t => ?_
  cases result with
  | ok a => exact next a t
  | error fault => exact .done fun _ => rfl

/-- Writing attributes logs warnings only. -/
theorem candid_serialize (attributes : Value) : Candid (serialize attributes) := fun _ =>
  .look (.change (Ledger.sameSteps_log _ (Markup.warnings_serializeValue _ _)) (candid_done _ _))

/-- The layer with provided values is removed also after a fault, which is passed on. -/
theorem candid_providing {action : Acting α} (inside : Candid action) (values : Layer) :
    Candid (providing values action) := by
  rw [providing_eq]
  refine fun s => .look ?_
  split
  · exact candid_done _ _
  · refine .change (.refl _) (Script.Candid.bind (inside _) fun result t => ?_)
    refine .look (.change (.refl _) (.done fun failed => ?_))
    exact (Bool.not_eq_true' _).mp failed

/-- Plain steps are candid: a fault of a body is passed on. -/
theorem Plain.candid {others : Prop} {action : Acting α} (plain : action.Plain others) :
    action.Candid := by
  induction plain with
  | done result => exact candid_done result
  | andThen _ _ first next => exact first.andThen next
  | scope => exact fun s => .look (candid_done _ _)
  | changeScope f => exact fun s => .look (.change (.refl _) (candid_done _ _))
  | body => exact fun s => .askBody fun own => candid_done _ s
  | isRendered accessor => exact fun s => .askRendered accessor fun rendered => candid_done _ s
  | callBody =>
      rw [callBody_eq]
      refine fun s => .askBody fun own => .callBody own fun reply t => .done fun failed => ?_
      cases reply with
      | ok text => cases failed
      | error fault => rfl
  | call _ accessor =>
      exact fun s => .callBody accessor fun reply t => .done (Bool.not_eq_true' _).mp
  | serialize attributes => exact candid_serialize attributes
  | providing _ values inside => exact candid_providing inside values

end Acting

/-! ## Behaviours -/

namespace Behaviour

/-- A behaviour is candid, whatever element it writes and whatever its attributes are. -/
def Candid (behaviour : Behaviour) : Prop := ∀ e attributes, (behaviour e attributes).Candid

theorem Plain.candid {others : Prop} {behaviour : Behaviour} (plain : behaviour.Plain others) :
    behaviour.Candid := fun e attributes => (plain e attributes).candid

theorem candid_default : default.Candid := @Plain.candid False _ plain_default

theorem candid_count : count.Candid := fun _ _ _ =>
  .look (.change ⟨rfl, rfl⟩ (Acting.candid_done _ _))

end Behaviour

/-- The behaviour of a tag is candid. -/
def Tag.Candid (tag : Tag) : Prop := tag.behaviour.Candid

/-- What a tag gives is made safe. -/
theorem Tag.candid_act {tag : Tag} (candid : tag.Candid) (attributes : List Value) :
    (tag.act attributes).Candid :=
  (candid _ _).andThen fun _ => (Acting.plain_ofEval _ : Acting.Plain False _).candid

end ElementTags
