import ElementTags.Proofs.Underlining

/-! # Where the carets of an excerpt stand

An excerpt shows the lines from the one that holds the start of a range to the one
that holds its last position. Under each of them the carets stand exactly under the
characters of the range; a line that has none of them still gets one caret, where the
range starts or else at its first column (`ElementTags.Excerpt.explain_carets`).
-/

namespace ElementTags.Excerpt

/-! ## Lines that hold a position -/

/-- A line of a source holds the positions of its characters and that of the line end behind it, and
the last line also holds those behind the source. -/
def Line.Holds (line : Line) (source : Text) (position : Nat) : Prop :=
  line.start ≤ position ∧ (position ≤ line.start + line.content.length ∨
    line.start + line.content.length = source.length)

/-- Lines follow each other with one line end in between, and the last one ends with the text. -/
theorem number_follows {first start : Nat} {contents : List Text} {i : Nat}
    (inside : i < (number first start contents).length) :
    (∃ further : i + 1 < (number first start contents).length,
      (number first start contents)[i + 1].start = (number first start contents)[i].start +
        (number first start contents)[i].content.length + 1)
    ∨ (number first start contents)[i].start + (number first start contents)[i].content.length =
        start + (Text.join ['\n'] contents).length := by
  induction contents generalizing first start i with
  | nil => cases inside
  | cons content rest ih =>
      cases rest with
      | nil =>
          obtain rfl : i = 0 := Nat.lt_one_iff.mp inside
          exact .inr (by rw [Text.join_singleton]; rfl)
      | cons next rest =>
          cases i with
          | zero => exact .inl ⟨Nat.succ_lt_succ (Nat.succ_pos _), rfl⟩
          | succ i =>
              have within : i <
                  (number (first + 1) (start + content.length + 1) (next :: rest)).length :=
                Nat.lt_of_succ_lt_succ inside
              obtain ⟨further, same⟩ | final := ih within
              · exact .inl ⟨Nat.succ_lt_succ further, same⟩
              · refine .inr (Eq.trans final ?_)
                rw [Text.join_cons (List.cons_ne_nil _ _), List.length_append, List.length_append,
                  List.length_singleton]
                omega

theorem lines_follow {source : Text} {i : Nat} (inside : i < (lines source).length) :
    (∃ further : i + 1 < (lines source).length, (lines source)[i + 1].start =
      (lines source)[i].start + (lines source)[i].content.length + 1) ∨
    (lines source)[i].start + (lines source)[i].content.length = source.length := by
  have follows := number_follows inside
  rw [Text.join_pieces, Nat.zero_add] at follows
  exact follows

/-- The line that a position is looked up in holds it. -/
theorem holds_of_indexOf {source : Text} {position i : Nat} (inside : i < (lines source).length)
    (found : indexOf (lines source) position = i) : (lines source)[i].Holds source position := by
  refine ⟨(le_indexOf_iff source position inside).mp (Nat.le_of_eq found.symm), ?_⟩
  rcases lines_follow inside with ⟨further, same⟩ | final
  · -- The next line starts behind the position.
    have behind := mt (le_indexOf_iff source position further).mpr (by omega)
    exact .inl (by omega)
  · exact .inr final

/-! ## The carets of a line -/

/-- The characters of a line that are in a range, by their columns. -/
def Line.Within (line : Line) (start stop column : Nat) : Prop :=
  column < line.content.length ∧ start ≤ line.start + column ∧ line.start + column < stop

/-- Carets stand exactly under the characters of a line that are in a range. If there are none, one
caret stands in the column at which the range starts; this is the first column if the range started
in an earlier line. There is nothing but blanks otherwise. -/
structure Underlined.Exact (underlined : Underlined) (start stop : Nat) : Prop where
  others : ∀ c ∈ underlined.carets, c = ' ' ∨ c = '^'
  under : (∃ column, underlined.line.Within start stop column) → ∀ column,
    underlined.carets[column]? = some '^' ↔ underlined.line.Within start stop column
  alone : (¬∃ column, underlined.line.Within start stop column) → ∀ column,
    underlined.carets[column]? = some '^' ↔ column = start - underlined.line.start

/-- The columns of a line that a range touches are those of its characters in the range, or a single
one where there are none. -/
theorem columns_of_touched {line : Line} {isFirst isLast : Bool} {start stop : Nat}
    (late : isFirst = false → start < line.start)
    (ends : isLast = false → line.start + line.content.length < stop) :
    let first := (columns line isFirst isLast start stop).1
    let count := (max 1 ((columns line isFirst isLast start stop).2 - first)).toNat
    (∀ inside, line.Within start stop inside → ∀ column,
      first ≤ column ∧ column < first + count ↔ line.Within start stop column) ∧
    ((∀ inside, ¬line.Within start stop inside) → ∀ column,
      first ≤ column ∧ column < first + count ↔ column = start - line.start) := by
  intro first count
  have begins : first = start - line.start := by
    cases isFirst with
    | true => exact Int.toNat_sub _ _
    | false => exact (Nat.sub_eq_zero_of_le (Nat.le_of_lt (late rfl))).symm
  have length : count = max 1 (min line.content.length (stop - line.start) - first) := by
    cases isLast with
    | true =>
        change (max 1 (min (line.content.length : Int) (stop - line.start) - first)).toNat = _
        omega
    | false =>
        have within := ends rfl
        change (max 1 ((line.content.length : Int) - first)).toNat = _
        omega
  clear_value first count
  unfold Line.Within
  refine ⟨fun inside within column => by omega, fun none column => ?_⟩
  have nothing := none first
  omega

/-- The carets of a line in the excerpt of a range. -/
theorem exact_underlinedAt {source : Text} {start stop i : Nat}
    (inside : i < (lines source).length) (behind : indexOf (lines source) start ≤ i)
    (upTo : i ≤ indexOf (lines source) (max start (stop - 1) : Nat)) :
    (underlinedAt source start stop (lines source)[i]).Exact start stop := by
  have number : (lines source)[i].number = 1 + i := number_getElem inside
  have started := le_indexOf_iff source start inside
  have lastInside := indexOf_lt source (max start (stop - 1) : Nat)
  have last := (le_indexOf_iff source (max start (stop - 1)) lastInside).mp (Nat.le_refl _)
  obtain ⟨under, alone⟩ := @columns_of_touched (lines source)[i]
    (decide ((lines source)[i].number = indexOf (lines source) start + 1))
    (decide ((lines source)[i].number = indexOf (lines source) (max start (stop - 1) : Nat) + 1))
    start stop
    (fun later => by
      rw [decide_eq_false_iff_not, number] at later
      exact Nat.lt_of_not_le fun early => later (by have := started.mpr early; omega))
    (fun further => by
      -- A later line is in the excerpt, so that the range goes on behind this one.
      rw [decide_eq_false_iff_not, number] at further
      have between := lines_apart source lastInside (i := i) (by omega)
      have nonempty : max start (stop - 1) ≠ start := fun same => by
        rw [same] at upTo further
        omega
      omega)
  refine ⟨fun c member => ?_, fun ⟨inside, here⟩ column => ?_, fun none column => ?_⟩
  · rcases List.mem_append.mp member with blank | caret
    · exact .inl (List.eq_of_mem_replicate blank)
    · exact .inr (List.eq_of_mem_replicate caret)
  · exact caret_underlinedFrom.trans (under inside here column)
  · exact caret_underlinedFrom.trans (alone (fun inside here => none ⟨inside, here⟩) column)

/-! ## The lines of an excerpt -/

section

variable {source : Text} {start stop : Nat}

theorem indexOf_le_indexOf (source : Text) {position further : Nat} (ordered : position ≤ further) :
    indexOf (lines source) position ≤ indexOf (lines source) further := by
  have inside := indexOf_lt source (position : Int)
  have begins := (le_indexOf_iff source position inside).mp (Nat.le_refl _)
  exact (le_indexOf_iff source further inside).mpr (Nat.le_trans begins ordered)

theorem length_touched (source : Text) (start stop : Nat) : (touched source start stop).length =
    indexOf (lines source) (max start (stop - 1) : Nat) + 1 - indexOf (lines source) start := by
  rw [touched, List.length_drop, List.length_take_of_le (indexOf_lt source _)]

theorem length_touched_pos (source : Text) (start stop : Nat) :
    0 < (touched source start stop).length := by
  have upTo := indexOf_le_indexOf source (Nat.le_max_left start (stop - 1))
  rw [length_touched]
  omega

/-- The lines of an excerpt are those of the source from the first one on. -/
theorem touched_getElem {i : Nat} (inside : i < (touched source start stop).length) :
    ∃ within : indexOf (lines source) start + i < (lines source).length,
      (touched source start stop)[i] = (lines source)[indexOf (lines source) start + i] := by
  have lastInside := indexOf_lt source (max start (stop - 1) : Nat)
  rw [length_touched] at inside
  refine ⟨by omega, ?_⟩
  simp only [touched, List.getElem_drop, List.getElem_take]

end

/-- What an excerpt of a range shows: consecutive lines of the source, from the one that holds the
start of the range to the one that holds its last position, or its start if it is empty, with carets
under the range. -/
structure Shows (source : Text) (start stop : Nat) (shown : List Underlined) : Prop where
  lines : ∀ underlined ∈ shown, underlined.line.IsIn source
  consecutive : ∃ first, shown.map (·.line.number) = List.range' first shown.length
  first : ∃ underlined ∈ shown.head?, underlined.line.Holds source start
  last : ∃ underlined ∈ shown.getLast?, underlined.line.Holds source (max start (stop - 1))
  carets : ∀ underlined ∈ shown, underlined.Exact start stop

/-- **An excerpt underlines a range exactly.** A message, an empty line, and the lines that the
range touches, each with its number in front and the carets of the range under it, moved to the
right by what stands in front of the line. -/
theorem explain_carets (message source : Text) {start stop : Nat} (ordered : start ≤ stop) :
    ∃ shown, Shows source start stop shown ∧
      explain message source start stop =
        Text.join ['\n'] (message :: [] :: shown.flatMap Underlined.rows) := by
  have nonempty := length_touched_pos source start stop
  refine ⟨(touched source start stop).map (underlinedAt source start stop), ?_, ?_⟩
  · refine ⟨?_, ⟨indexOf (lines source) start + 1, ?_⟩, ?_, ?_, ?_⟩
    · refine List.forall_mem_map.mpr fun line member => ?_
      exact isIn_of_mem_lines (List.mem_of_mem_take (List.mem_of_mem_drop member))
    · rw [List.map_map]
      refine List.ext_getElem (by simp only [List.length_map, List.length_range'])
        fun i inside _ => ?_
      rw [List.length_map] at inside
      obtain ⟨within, same⟩ := touched_getElem inside
      have number : (lines source)[indexOf (lines source) start + i].number = 1 + _ :=
        number_getElem within
      rw [List.getElem_map, same, List.getElem_range']
      exact number.trans (by omega)
    · obtain ⟨within, same⟩ := touched_getElem nonempty
      refine ⟨underlinedAt source start stop (touched source start stop)[0], ?_, ?_⟩
      · rw [List.head?_map, List.head?_eq_getElem?, List.getElem?_eq_getElem nonempty]
        rfl
      · rw [same]
        exact holds_of_indexOf within rfl
    · have upTo := indexOf_le_indexOf source (Nat.le_max_left start (stop - 1))
      have final := Nat.sub_lt nonempty Nat.one_pos
      obtain ⟨within, same⟩ := touched_getElem final
      refine ⟨underlinedAt source start stop (touched source start stop)[_ - 1], ?_, ?_⟩
      · rw [List.getLast?_map, List.getLast?_eq_getElem?, List.getElem?_eq_getElem final]
        rfl
      · rw [same]
        exact holds_of_indexOf within (by rw [length_touched]; omega)
    · refine List.forall_mem_map.mpr fun line member => ?_
      obtain ⟨i, inside, rfl⟩ := List.mem_iff_getElem.mp member
      obtain ⟨within, same⟩ := touched_getElem inside
      rw [length_touched] at inside
      rw [same]
      exact exact_underlinedAt within (Nat.le_add_right _ _) (by omega)
  · rw [explain, mark_eq source ordered, List.flatMap_map]

/-- A range from a line end over an empty line and into the line behind it. The line of the first
line end has no character of the range, and neither has the empty line. -/
theorem explain_carets_lineEnds :
    (1 ≤ 4 ∧ ∃ shown, Shows "a\n\nbc".toList 1 4 shown ∧
      explain [] "a\n\nbc".toList (1 : Nat) (4 : Nat) =
        Text.join ['\n'] ([] :: [] :: shown.flatMap Underlined.rows)) ∧
    explain [] "a\n\nbc".toList (1 : Nat) (4 : Nat) =
      ("\n\n" ++ "     1 | a\n" ++ "          ^\n" ++ "     2 | \n" ++ "         ^\n" ++
        "     3 | bc\n" ++ "         ^").toList :=
  ⟨⟨by decide, explain_carets [] "a\n\nbc".toList (by decide)⟩, rfl⟩

end ElementTags.Excerpt
