import ElementTags.Proofs.Serialization

/-! # Attributes with and without warnings

A well-formed configuration decides two things about written attributes: whether dropped values are
reported, and whether they have to be described then, as a strict handler of the log demands. Two
configurations that demand the same write the same, and log the same apart from warnings
(`ElementTags.Markup.serializeValue_congr`).
-/

namespace ElementTags

open Outcome

/-! ## Configurations -/

namespace Configuration

/-- A configuration that can be understood. -/
inductive WellFormed : Configuration → Prop
  | switches (useAttributeGrammar logDropped : Value) (handler : LogHandler) :
      WellFormed ⟨.switches useAttributeGrammar logDropped, handler⟩

theorem wellFormed_switches (useAttributeGrammar logDropped : Value) :
    (switches useAttributeGrammar logDropped).WellFormed := .switches _ _ _

theorem WellFormed.withHandler {configuration : Configuration} (formed : configuration.WellFormed)
    (handler : LogHandler) : WellFormed ⟨configuration.settings, handler⟩ := by
  obtain ⟨grammar, log⟩ := formed
  exact .switches _ _ _

/-- Whether dropped values are reported. -/
def reports (configuration : Configuration) : Bool :=
  match configuration.settings with
  | .switches _ logDropped => (orTrue logDropped).isTruthy
  | .malformed => false

/-- Whether a dropped value fails that cannot be described. -/
def demands (configuration : Configuration) : Bool :=
  configuration.reports && configuration.handler = .strict

theorem WellFormed.logDropped {configuration : Configuration} (formed : configuration.WellFormed) :
    ∃ v, configuration.logDropped = .ok v ∧ v.isTruthy = configuration.reports := by
  obtain ⟨grammar, log⟩ := formed
  exact ⟨_, rfl, rfl⟩

/-- Configurations demand the same with a handler that is lenient, or if they report alike. -/
theorem demands_congr {configuration other : Configuration}
    (same : configuration.handler = other.handler)
    (alike : configuration.handler = .lenient ∨ configuration.reports = other.reports) :
    configuration.demands = other.demands := by
  unfold demands
  rw [← same]
  rcases alike with lenient | reports
  · rw [lenient]
    exact (Bool.and_false _).trans (Bool.and_false _).symm
  · rw [reports]

/-- Without reports, and with a lenient handler, nothing is demanded. -/
theorem demands_eq_false_iff {configuration : Configuration} : configuration.demands = false ↔
    configuration.reports = false ∨ configuration.handler = .lenient := by
  unfold demands
  cases configuration.reports <;> cases configuration.handler <;> decide

end Configuration

/-! ## Numbers with too many digits -/

namespace Value

variable {n : Int}

/-- A whole number with too many digits cannot be described. -/
theorem described_tooLong (long : tooLong ≤ n.natAbs) :
    (int n).described = .error .unsuitableValue := by
  rw [described, isShowable, decide_eq_false (Nat.not_lt.mpr long)]
  rfl

theorem isTruthy_tooLong (long : tooLong ≤ n.natAbs) : (int n).isTruthy = true := by
  have positive : 0 < n.natAbs := Nat.lt_of_lt_of_le (tenTo_pos _) long
  rw [isTruthy]
  exact decide_eq_true (Int.natAbs_pos.mp positive)

end Value

/-! ## News -/

/-- The new lines of two logs are the same, apart from warnings if dropped values are reported in
one of them only. -/
def SameNews : Bool → Bool → List LogLine → List LogLine → Prop
  | true, false, news, other => other = news.filter fun line => line.level = .trace
  | false, true, news, other => news = other.filter fun line => line.level = .trace
  | _, _, news, other => news = other

namespace SameNews

variable {reports otherReports : Bool} {news otherNews further otherFurther : List LogLine}

theorem refl (reports : Bool) (news : List LogLine) : SameNews reports reports news news := by
  cases reports <;> rfl

theorem append (first : SameNews reports otherReports news otherNews)
    (others : SameNews reports otherReports further otherFurther) :
    SameNews reports otherReports (news ++ further) (otherNews ++ otherFurther) := by
  cases reports <;> cases otherReports
  all_goals
    cases first
    cases others
  · rfl
  · exact (List.filter_append ..).symm
  · exact (List.filter_append ..).symm
  · rfl

theorem reverse (same : SameNews reports otherReports news otherNews) :
    SameNews reports otherReports news.reverse otherNews.reverse := by
  cases reports <;> cases otherReports
  · exact congrArg List.reverse same
  · exact (congrArg List.reverse same).trans List.filter_reverse.symm
  · exact (congrArg List.reverse same).trans List.filter_reverse.symm
  · exact congrArg List.reverse same

/-- A line about a step is news in both logs. -/
theorem singleton {line : LogLine} (level : line.level = .trace) (reports otherReports : Bool) :
    SameNews reports otherReports [line] [line] := by
  have kept : [line].filter (fun line => line.level = .trace) = [line] :=
    List.filter_cons_of_pos (decide_eq_true level)
  cases reports <;> cases otherReports
  · rfl
  · exact kept.symm
  · exact kept.symm
  · rfl

end SameNews

/-- Warnings are no news where they are not reported. -/
theorem sameNews_warnings {lines : List LogLine}
    (warnings : ∀ line ∈ lines, line.level = .warning) :
    SameNews true false lines [] ∧ SameNews false true [] lines := by
  have none : lines.filter (fun line => line.level = .trace) = [] := by
    refine List.filter_eq_nil_iff.mpr fun line member => ?_
    rw [warnings line member]
    decide
  exact ⟨none.symm, none.symm⟩

namespace Markup

variable {configuration other : Configuration} {handler : LogHandler} {reports : Bool} {v : Value}

/-! ## Reports -/

theorem droppedLines_of_ok {line : LogLine} (described : droppedLine v = .ok line)
    (handler : LogHandler) : droppedLines handler v = .ok [line] := by
  simp only [droppedLines, described]

/-- A strict handler fails if the value cannot be described. -/
theorem droppedLines_strict (v : Value) :
    droppedLines .strict v = (droppedLine v).map ([·]) := by
  unfold droppedLines
  cases droppedLine v <;> rfl

/-- A lenient handler never fails. -/
theorem exists_droppedLines_lenient (v : Value) :
    ∃ lines, droppedLines .lenient v = .ok lines := by
  unfold droppedLines
  cases droppedLine v <;> exact ⟨_, rfl⟩

/-- A report consists of a warning, if of anything. -/
theorem level_of_droppedLines {lines : List LogLine}
    (reported : droppedLines handler v = .ok lines) : ∀ line ∈ lines, line.level = .warning := by
  unfold droppedLines at reported
  split at reported
  · rename_i line described
    cases reported
    obtain ⟨description, -, rfl⟩ := map_eq_ok.mp described
    exact List.forall_mem_singleton.mpr rfl
  · cases reported
  · cases reported
    exact List.forall_mem_nil _

theorem fault_of_droppedLines {fault : EvalFault}
    (failed : droppedLines handler v = .error fault) : fault = .unsuitableValue := by
  unfold droppedLines at failed
  split at failed
  · cases failed
  · rename_i described
    cases failed
    unfold droppedLine Value.described at described
    split at described <;> cases described
    rfl
  · cases failed

/-- The lines by which a value is reported, if it is dropped and dropped values are reported. -/
def report (handler : LogHandler) (reports : Bool) : Value → Except EvalFault (List LogLine)
  | .keywords _ _ => .ok []
  | v =>
    if (positional? v).isNone && v.isTruthy && reports then droppedLines handler v else .ok []

theorem report_false (handler : LogHandler) (v : Value) : report handler false v = .ok [] := by
  unfold report
  split
  · rfl
  · rw [Bool.and_false, if_neg Bool.false_ne_true]

/-- A report consists of warnings. -/
theorem level_of_report {lines : List LogLine} (reported : report handler reports v = .ok lines) :
    ∀ line ∈ lines, line.level = .warning := by
  unfold report at reported
  split at reported
  · cases reported
    exact List.forall_mem_nil _
  · split at reported
    · exact level_of_droppedLines reported
    · cases reported
      exact List.forall_mem_nil _

/-- A report fails only if the value cannot be described. -/
theorem fault_of_report {fault : EvalFault} (failed : report handler reports v = .error fault) :
    fault = .unsuitableValue := by
  unfold report at failed
  split at failed
  · cases failed
  · split at failed
    · exact fault_of_droppedLines failed
    · cases failed

/-- A lenient handler takes every report. -/
theorem exists_report_lenient (reports : Bool) (v : Value) :
    ∃ lines, report .lenient reports v = .ok lines := by
  unfold report
  split
  · exact ⟨_, rfl⟩
  · split
    · exact exists_droppedLines_lenient v
    · exact ⟨_, rfl⟩

theorem report_of_ne_keywords (unkeyed : ∀ ps who, v ≠ .keywords ps who) (handler : LogHandler)
    (reports : Bool) :
    report handler reports v = if (positional? v).isNone && v.isTruthy && reports then
      droppedLines handler v else .ok [] := by
  unfold report
  split
  · exact absurd rfl (unkeyed _ _)
  · rfl

/-- Two reports of a value fail alike, or both are made and are news as far as they are. -/
theorem report_congr {handler' : LogHandler} {reports' : Bool}
    (same : (reports && decide (handler = .strict)) = (reports' && decide (handler' = .strict)))
    (v : Value) :
    (∃ fault, report handler reports v = .error fault ∧ report handler' reports' v = .error fault) ∨
    ∃ lines further, report handler reports v = .ok lines ∧
      report handler' reports' v = .ok further ∧ SameNews reports reports' lines further := by
  cases reports <;> cases reports'
  case false.false =>
    rw [report_false, report_false]
    exact .inr ⟨[], [], rfl, rfl, rfl⟩
  case true.true =>
    obtain rfl : handler = handler' := by
      cases handler <;> cases handler' <;> first | rfl | cases same
    cases reported : report handler true v with
    | error fault => exact .inl ⟨fault, rfl, rfl⟩
    | ok lines => exact .inr ⟨lines, lines, rfl, rfl, rfl⟩
  case true.false =>
    -- Only a lenient handler demands no more than one that is told nothing.
    obtain rfl : handler = .lenient := by cases handler <;> first | rfl | cases same
    obtain ⟨lines, reported⟩ := exists_report_lenient true v
    rw [report_false]
    exact .inr ⟨lines, [], reported, rfl, (sameNews_warnings (level_of_report reported)).1⟩
  case false.true =>
    obtain rfl : handler' = .lenient := by cases handler' <;> first | rfl | cases same
    obtain ⟨lines, reported⟩ := exists_report_lenient true v
    rw [report_false]
    exact .inr ⟨[], lines, rfl, reported, (sameNews_warnings (level_of_report reported)).2⟩

/-- A step writes the texts of its value, and reports it if it is dropped. -/
theorem step_eq (formed : configuration.WellFormed) (p : Progress) (v : Value) :
    step configuration p v = (do
      let texts ← textsOf v
      let lines ← report configuration.handler configuration.reports v
      pure ⟨texts.foldl addOnce p.written, p.lines ++ lines⟩) := by
  by_cases keyed : ∃ ps who, v = .keywords ps who
  · obtain ⟨ps, who, rfl⟩ := keyed
    simp only [step, textsOf, report, ok_bind, List.append_nil]
  · have unkeyed : ∀ ps who, v ≠ .keywords ps who := fun ps who same => keyed ⟨ps, who, same⟩
    obtain ⟨log, configured, same⟩ := formed.logDropped
    rw [textsOf_of_ne_keywords unkeyed, report_of_ne_keywords unkeyed]
    unfold step
    split
    · exact absurd rfl (unkeyed _ _)
    · cases positional? v with
      | some s =>
          show Except.ok (Progress.mk (addOnce p.written s) p.lines) =
            .ok ⟨addOnce p.written s, p.lines ++ []⟩
          rw [List.append_nil]
      | none =>
          rw [configured]
          simp only [ok_bind, same, Option.isNone_none, Bool.true_and]
          have unchanged :
              (.ok p : Except EvalFault Progress) = .ok ⟨p.written, p.lines ++ []⟩ := by
            rw [List.append_nil]
          cases v.isTruthy with
          | false => exact unchanged
          | true =>
              cases configuration.reports with
              | false => exact unchanged
              | true => cases droppedLines configuration.handler v <;> rfl

/-! ## Two configurations -/

/-- The progress under two configurations that demand the same is the same, and so is what is logged
apart from warnings. -/
theorem progress_congr (formed : configuration.WellFormed) (formed' : other.WellFormed)
    (same : configuration.demands = other.demands) {p q : Progress}
    (written : p.written = q.written) (values : List Value) :
    (progress configuration p values).2 = (progress other q values).2 ∧
      (progress configuration p values).1.written = (progress other q values).1.written ∧
      ∃ lines further, (progress configuration p values).1.lines = p.lines ++ lines ∧
        (progress other q values).1.lines = q.lines ++ further ∧
          SameNews configuration.reports other.reports lines further := by
  have nothing : SameNews configuration.reports other.reports [] [] := by
    cases configuration.reports <;> cases other.reports <;> rfl
  induction values generalizing p q with
  | nil =>
      exact ⟨rfl, written, [], [], (List.append_nil _).symm, (List.append_nil _).symm, nothing⟩
  | cons v rest ih =>
      simp only [progress, step_eq formed, step_eq formed', written]
      cases textsOf v with
      | error fault =>
          exact ⟨rfl, written, [], [], (List.append_nil _).symm, (List.append_nil _).symm, nothing⟩
      | ok texts =>
          rcases report_congr same v with ⟨fault, failed, fails⟩ |
            ⟨lines, further, reported, reports, news⟩
          · rw [failed, fails]
            exact ⟨rfl, written, [], [], (List.append_nil _).symm, (List.append_nil _).symm,
              nothing⟩
          · rw [reported, reports]
            have next : (Progress.mk (texts.foldl addOnce q.written) (p.lines ++ lines)).written =
                (Progress.mk (texts.foldl addOnce q.written) (q.lines ++ further)).written := rfl
            obtain ⟨ended, all, more, others, logged, also, later⟩ := ih next
            exact ⟨ended, all, lines ++ more, further ++ others,
              logged.trans (List.append_assoc _ _ _), also.trans (List.append_assoc _ _ _),
              news.append later⟩

/-- **Configurations that demand the same write the same**, or fail alike, and log the same apart
from warnings. -/
theorem serializeValue_congr (formed : configuration.WellFormed) (formed' : other.WellFormed)
    (same : configuration.demands = other.demands) (v : Value) :
    (serializeValue configuration v).1 = (serializeValue other v).1 ∧
      SameNews configuration.reports other.reports (serializeValue configuration v).2
        (serializeValue other v).2 := by
  unfold serializeValue
  split
  · rename_i values who
    have compared := progress_congr formed formed' same (rfl : Progress.written {} = _) values
    unfold serialize
    generalize progress configuration {} values = first, progress other {} values = second
      at compared
    obtain ⟨⟨texts, logged⟩, ended⟩ := first
    obtain ⟨⟨texts', logged'⟩, ended'⟩ := second
    obtain ⟨rfl, rfl, lines, further, rfl, rfl, news⟩ := compared
    cases ended with
    | none => exact ⟨rfl, news⟩
    | some fault => exact ⟨rfl, news⟩
  · refine ⟨rfl, ?_⟩
    cases configuration.reports <;> cases other.reports <;> rfl

/-- A dropped value that cannot be described fails exactly if its description is demanded. -/
theorem serialize_undescribed (formed : configuration.WellFormed)
    (unkeyed : ∀ ps who, v ≠ .keywords ps who) (dropped : positional? v = none)
    (truthy : v.isTruthy = true) (undescribed : v.described = .error .unsuitableValue) :
    serialize configuration [v] =
      (if configuration.demands then .error .unsuitableValue else .ok [], []) := by
  have unlogged : droppedLine v = .error .unsuitableValue := by
    unfold droppedLine
    rw [undescribed]
    rfl
  have reported (handler : LogHandler) (reports : Bool) : report handler reports v =
      if reports && handler = .strict then .error .unsuitableValue else .ok [] := by
    simp only [report_of_ne_keywords unkeyed, dropped, truthy, droppedLines, unlogged]
    cases reports <;> cases handler <;> rfl
  simp only [serialize, progress, step_eq formed, textsOf_of_ne_keywords unkeyed, dropped, reported]
  rw [← Configuration.demands]
  cases configuration.demands <;> rfl

end Markup
end ElementTags
