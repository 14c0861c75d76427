import ElementTags.Excerpt
import ElementTags.Proofs.Joining

/-! # What an excerpt underlines

An excerpt of a range shows lines of the source with carets under them. Each caret
stands under a position of the range, and each character of the range that is no
line end has one (`ElementTags.Excerpt.underlines_mark`).
-/

namespace ElementTags

namespace Excerpt

/-! ## Lines -/

theorem length_number (first start : Nat) (contents : List Text) :
    (number first start contents).length = contents.length := by
  induction contents generalizing first start with
  | nil => rfl
  | cons content rest ih => exact congrArg (· + 1) (ih _ _)

theorem start_le_of_mem_number {first start : Nat} {contents : List Text} {line : Line}
    (member : line ∈ number first start contents) : start ≤ line.start := by
  induction contents generalizing first start with
  | nil => cases member
  | cons content rest ih =>
      rcases List.mem_cons.mp member with rfl | later
      · exact Nat.le_refl _
      · have behind := ih later
        omega

/-- The end of a line stands between it and the next one. -/
theorem pairwise_number (first start : Nat) (contents : List Text) :
    (number first start contents).Pairwise fun line later =>
      line.start + line.content.length < later.start := by
  induction contents generalizing first start with
  | nil => exact .nil
  | cons content rest ih =>
      refine .cons (fun later member => ?_) (ih _ _)
      have behind := start_le_of_mem_number member
      change start + content.length < later.start
      omega

theorem number_getElem_zero {first start : Nat} {contents : List Text}
    (inside : 0 < (number first start contents).length) :
    (number first start contents)[0].start = start := by
  cases contents with
  | nil => cases inside
  | cons content rest => rfl

theorem number_getElem {first start : Nat} {contents : List Text} {i : Nat}
    (inside : i < (number first start contents).length) :
    (number first start contents)[i].number = first + i := by
  induction contents generalizing first start i with
  | nil => cases inside
  | cons content rest ih =>
      cases i with
      | zero => rfl
      | succ i =>
          have behind := ih (Nat.lt_of_succ_lt_succ inside)
          simp only [number, List.getElem_cons_succ]
          omega

/-- A line of a source: it stands in the source where it says, between two line ends or between one
and an end of the source, no line end is in it, and its number is one more than that of the line
ends in front of it. -/
structure Line.IsIn (line : Line) (source : Text) : Prop where
  stands : ∃ before behind, source = before ++ (line.content ++ behind) ∧
    before.length = line.start ∧ line.number = before.count '\n' + 1 ∧
    (∀ c ∈ before.getLast?, c = '\n') ∧ ∀ c ∈ behind.head?, c = '\n'
  unbroken : '\n' ∉ line.content

/-- Numbered contents are lines of the text that they are joined to, if they start where lines do.
-/
theorem isIn_of_mem_number {first : Nat} {contents : List Text} {before source : Text}
    (split : source = before ++ Text.join ['\n'] contents)
    (unbroken : ∀ content ∈ contents, '\n' ∉ content) (fresh : ∀ c ∈ before.getLast?, c = '\n')
    (counted : first = before.count '\n' + 1) {line : Line}
    (member : line ∈ number first before.length contents) : line.IsIn source := by
  induction contents generalizing first before with
  | nil => cases member
  | cons content rest ih =>
      obtain ⟨whole, others⟩ := List.forall_mem_cons.mp unbroken
      cases rest with
      | nil =>
          obtain rfl := List.mem_singleton.mp member
          refine ⟨⟨before, [], ?_, rfl, counted, fresh, nofun⟩, whole⟩
          rw [split, Text.join_singleton, List.append_nil]
      | cons next rest =>
          rw [Text.join_cons (List.cons_ne_nil _ _)] at split
          rcases List.mem_cons.mp member with rfl | later
          · refine ⟨⟨before, _, split, rfl, counted, fresh, fun c first => ?_⟩, whole⟩
            exact (Option.some.inj first).symm
          · have further : source =
                before ++ (content ++ ['\n']) ++ Text.join ['\n'] (next :: rest) := by
              rw [split]
              simp only [List.append_assoc]
            rw [Nat.add_assoc, ← List.length_singleton (a := '\n'), ← List.length_append,
              ← List.length_append] at later
            refine ih further others (fun c last => ?_) ?_ later
            · rw [← List.append_assoc, List.getLast?_append, List.getLast?_singleton] at last
              exact (Option.some.inj last).symm
            · rw [counted, List.count_append, List.count_append, List.count_eq_zero.mpr whole,
                List.count_singleton_self, Nat.zero_add, List.length_singleton]

theorem isIn_of_mem_lines {source : Text} {line : Line} (member : line ∈ lines source) :
    line.IsIn source :=
  @isIn_of_mem_number 1 _ [] _ (Text.join_pieces '\n' source).symm
    (fun _ piece => Text.not_mem_of_mem_pieces piece) nofun rfl _ member

/-- A character that is no line end belongs to a line. -/
theorem exists_mem_number (first start : Nat) {contents : List Text} {position : Nat} {c : Char}
    (here : (Text.join ['\n'] contents)[position]? = some c) (visible : c ≠ '\n') :
    ∃ line ∈ number first start contents,
      line.start ≤ start + position ∧ start + position < line.start + line.content.length := by
  induction contents generalizing first start position with
  | nil => cases here
  | cons content rest ih =>
      by_cases inside : position < content.length
      · exact ⟨⟨first, start, content⟩, List.mem_cons_self, Nat.le_add_right _ _,
          Nat.add_lt_add_left inside _⟩
      cases rest with
      | nil =>
          obtain ⟨within, _⟩ := List.getElem?_eq_some_iff.mp here
          rw [Text.join_singleton] at within
          exact absurd within inside
      | cons next rest =>
          rw [Text.join_cons (List.cons_ne_nil _ _),
            List.getElem?_append_right (Nat.le_of_not_lt inside)] at here
          cases distance : position - content.length with
          | zero =>
              rw [distance] at here
              exact absurd (Option.some.inj here).symm visible
          | succ further =>
              rw [distance] at here
              obtain ⟨line, member, begins, ends⟩ :=
                ih (first + 1) (start + content.length + 1) here
              refine ⟨line, List.mem_cons_of_mem _ member, ?_, ?_⟩ <;> omega

theorem lines_apart (source : Text) {i j : Nat} (inside : j < (lines source).length)
    (earlier : i < j) :
    (lines source)[i].start + (lines source)[i].content.length < (lines source)[j].start :=
  List.pairwise_iff_getElem.mp (pairwise_number 1 0 (Text.pieces '\n' source)) i j
    (Nat.lt_trans earlier inside) inside earlier

/-! ## The line of a position -/

/-- On a list in which a property holds up to some place only, `takeWhile` stops at this place. -/
theorem lt_length_takeWhile_iff {α : Type} {p : α → Bool} {list : List α}
    (upTo : list.Pairwise fun a b => p b = true → p a = true) {i : Nat} (inside : i < list.length) :
    i < (list.takeWhile p).length ↔ p list[i] = true := by
  induction list generalizing i with
  | nil => cases inside
  | cons a list ih =>
      obtain ⟨first, others⟩ := List.pairwise_cons.mp upTo
      by_cases holds : p a = true
      · rw [List.takeWhile_cons_of_pos holds]
        cases i with
        | zero => simp only [List.length_cons, Nat.zero_lt_succ, List.getElem_cons_zero, holds]
        | succ i =>
            rw [List.length_cons, Nat.succ_lt_succ_iff, List.getElem_cons_succ]
            exact ih others (Nat.lt_of_succ_lt_succ inside)
      · rw [List.takeWhile_cons_of_neg holds]
        cases i with
        | zero => exact ⟨fun none => absurd none (Nat.not_lt_zero _), fun here => absurd here holds⟩
        | succ i =>
            rw [List.getElem_cons_succ]
            refine ⟨fun none => absurd none (Nat.not_lt_zero _), fun later => ?_⟩
            exact absurd (first _ (List.getElem_mem _) later) holds

/-- The lines up to the one that holds a position are those that start at or before it. -/
theorem le_indexOf_iff (source : Text) (position : Nat) {i : Nat}
    (inside : i < (lines source).length) :
    i ≤ indexOf (lines source) position ↔ (lines source)[i].start ≤ position := by
  have upTo : (lines source).Pairwise fun line later =>
      decide ((later.start : Int) ≤ position) = true →
        decide ((line.start : Int) ≤ position) = true := by
    refine (pairwise_number _ _ _).imp fun {line later} behind reached => ?_
    rw [decide_eq_true_eq] at reached ⊢
    omega
  have taken : ∀ {i : Nat} (inside : i < (lines source).length),
      i < ((lines source).takeWhile fun line => (line.start : Int) ≤ position).length ↔
        (lines source)[i].start ≤ position := by
    intro i inside
    rw [lt_length_takeWhile_iff upTo inside, decide_eq_true_eq, Int.ofNat_le]
  have first : 0 < ((lines source).takeWhile fun line => (line.start : Int) ≤ position).length := by
    have start : (lines source)[0].start = 0 := number_getElem_zero (Nat.zero_lt_of_lt inside)
    refine (taken (Nat.zero_lt_of_lt inside)).mpr ?_
    rw [start]
    exact Nat.zero_le _
  rw [← taken inside, indexOf]
  omega

theorem indexOf_lt (source : Text) (position : Int) :
    indexOf (lines source) position < (lines source).length := by
  have some : 0 < (lines source).length := by
    rw [lines, length_number]
    exact List.length_pos_iff.mpr (Text.pieces_ne_nil _ _)
  have taken := (List.takeWhile_prefix (fun line : Line => (line.start : Int) ≤ position)
    (l := lines source)).length_le
  rw [indexOf]
  omega

/-! ## Carets -/

/-- A line of an excerpt and the row of carets under it. -/
structure Underlined where
  line : Line
  carets : Text

/-- The two rows as they are written, behind the number of the line and as many blanks. -/
def Underlined.rows (underlined : Underlined) : List Text :=
  [ margin underlined.line ++ underlined.line.content,
    List.replicate (margin underlined.line).length ' ' ++ underlined.carets ]

/-- A caret stands under a position of the source. -/
def Underlined.Marks (underlined : Underlined) (position : Nat) : Prop :=
  ∃ column, underlined.carets[column]? = some '^' ∧ position = underlined.line.start + column

/-- Rows underline a range of a source: they show lines of it, each caret stands under a position of
the range, and each character of the range that is no line end has a caret. -/
def Underlines (rows : List Text) (source : Text) (start stop : Nat) : Prop :=
  ∃ shown : List Underlined, rows = shown.flatMap Underlined.rows ∧
    (∀ underlined ∈ shown, ∃ before behind,
      source = before ++ (underlined.line.content ++ behind) ∧
        before.length = underlined.line.start) ∧
    (∀ underlined ∈ shown, ∀ position, underlined.Marks position →
      start ≤ position ∧ position < stop) ∧
    ∀ position c, start ≤ position → position < stop → source[position]? = some c → c ≠ '\n' →
      ∃ underlined ∈ shown, underlined.Marks position

/-- A line under which carets stand from one column on. -/
def underlinedFrom (line : Line) (first count : Nat) : Underlined :=
  ⟨line, List.replicate first ' ' ++ List.replicate count '^'⟩

theorem caret_underlinedFrom {line : Line} {first count column : Nat} :
    (underlinedFrom line first count).carets[column]? = some '^' ↔
      first ≤ column ∧ column < first + count := by
  change (List.replicate first ' ' ++ List.replicate count '^')[column]? = some '^' ↔ _
  by_cases early : column < first
  · rw [List.getElem?_append_left (by rw [List.length_replicate]; exact early),
      List.getElem?_replicate, if_pos early]
    refine ⟨fun caret => absurd (Option.some.inj caret) (by decide), fun within => ?_⟩
    exact absurd within.1 (Nat.not_le.mpr early)
  · rw [List.getElem?_append_right (by rw [List.length_replicate]; omega),
      List.length_replicate, List.getElem?_replicate]
    split
    · exact ⟨fun _ => by omega, fun _ => rfl⟩
    · exact ⟨fun none => (by cases none), fun within => by omega⟩

theorem marks_underlinedFrom {line : Line} {first count position : Nat} :
    (underlinedFrom line first count).Marks position ↔
      line.start + first ≤ position ∧ position < line.start + first + count := by
  constructor
  · rintro ⟨column, caret, rfl⟩
    obtain ⟨late, within⟩ := caret_underlinedFrom.mp caret
    change line.start + first ≤ line.start + column ∧
      line.start + column < line.start + first + count
    omega
  · rintro ⟨late, within⟩
    refine ⟨position - line.start, caret_underlinedFrom.mpr (by omega), ?_⟩
    change position = line.start + _
    omega

/-- The rows of a line, with the columns of its carets. -/
theorem rows_eq (line : Line) (isFirst isLast : Bool) (start stop : Int) :
    rows line isFirst isLast start stop =
      (underlinedFrom line (columns line isFirst isLast start stop).1
        (max 1 ((columns line isFirst isLast start stop).2 -
          (columns line isFirst isLast start stop).1)).toNat).rows := by
  rw [Underlined.rows, underlinedFrom, ← List.append_assoc, List.replicate_append_replicate]
  rfl

/-- The carets of a line that a range touches, when only the first line starts at or before the
range and only the last one goes on behind it. -/
theorem marks_of_touched {line : Line} {isFirst isLast : Bool} {start stop : Nat}
    (nonempty : start < stop) (reached : line.start < stop)
    (early : isFirst = true → line.start ≤ start) (late : isFirst = false → start < line.start)
    (ends : isLast = false → line.start + line.content.length < stop) (position : Nat) :
    let underlined := underlinedFrom line (columns line isFirst isLast start stop).1
      (max 1 ((columns line isFirst isLast start stop).2 -
        (columns line isFirst isLast start stop).1)).toNat
    (underlined.Marks position → start ≤ position ∧ position < stop) ∧
      (start ≤ position → position < stop → line.start ≤ position →
        position < line.start + line.content.length → underlined.Marks position) := by
  intro underlined
  rw [marks_underlinedFrom]
  cases isFirst with
  | true =>
      have before := early rfl
      cases isLast with
      | true =>
          simp only [columns, if_true]
          omega
      | false =>
          have within := ends rfl
          simp only [columns, if_true, Bool.false_eq_true, if_false]
          omega
  | false =>
      have behind := late rfl
      cases isLast with
      | true =>
          simp only [columns, if_true, Bool.false_eq_true, if_false]
          omega
      | false =>
          have within := ends rfl
          simp only [columns, Bool.false_eq_true, if_false]
          omega

/-- A line of the source in the excerpt of a range. -/
def underlinedAt (source : Text) (start stop : Nat) (line : Line) : Underlined :=
  let isFirst := decide (line.number = indexOf (lines source) start + 1)
  let isLast := decide (line.number = indexOf (lines source) (max start (stop - 1) : Nat) + 1)
  underlinedFrom line (columns line isFirst isLast start stop).1
    (max 1 ((columns line isFirst isLast start stop).2 -
      (columns line isFirst isLast start stop).1)).toNat

/-- The lines from the one that holds the start of a range to the one that holds its last position,
which is its start if the range is empty. -/
def touched (source : Text) (start stop : Nat) : List Line :=
  ((lines source).take (indexOf (lines source) (max start (stop - 1) : Nat) + 1)).drop
    (indexOf (lines source) start)

theorem mark_eq (source : Text) {start stop : Nat} (ordered : start ≤ stop) :
    mark source start stop =
      (touched source start stop).flatMap fun line =>
        (underlinedAt source start stop line).rows := by
  have final : max (start : Int) (stop - 1) = (max start (stop - 1) : Nat) := by omega
  unfold mark
  simp only [final, rows_eq]
  rfl

/-- Between the line that holds the start of a range and the one that holds its last position, the
carets are those of the range. -/
theorem marks_of_shown {source : Text} {start stop i : Nat} (nonempty : start < stop)
    (inside : i < (lines source).length) (behind : indexOf (lines source) start ≤ i)
    (upTo : i ≤ indexOf (lines source) (max start (stop - 1) : Nat)) (position : Nat) :
    ((underlinedAt source start stop (lines source)[i]).Marks position →
      start ≤ position ∧ position < stop) ∧
    (start ≤ position → position < stop → (lines source)[i].start ≤ position →
      position < (lines source)[i].start + (lines source)[i].content.length →
      (underlinedAt source start stop (lines source)[i]).Marks position) := by
  have number : (lines source)[i].number = 1 + i := number_getElem inside
  have reached := (le_indexOf_iff source (max start (stop - 1)) inside).mp upTo
  have started := le_indexOf_iff source start inside
  refine marks_of_touched nonempty (by omega) (fun first => ?_) (fun later => ?_)
    (fun further => ?_) position
  · rw [decide_eq_true_eq, number] at first
    exact started.mp (by omega)
  · rw [decide_eq_false_iff_not, number] at later
    exact Nat.lt_of_not_le fun early => later (by have := started.mpr early; omega)
  · rw [decide_eq_false_iff_not, number] at further
    have lastInside := indexOf_lt source (max start (stop - 1) : Nat)
    have last := (le_indexOf_iff source (max start (stop - 1)) lastInside).mp (Nat.le_refl _)
    have between := lines_apart source lastInside (i := i) (by omega)
    omega

/-- An excerpt of a range underlines it. -/
theorem underlines_mark (source : Text) {start stop : Nat} (nonempty : start < stop) :
    Underlines (mark source start stop) source start stop := by
  refine ⟨(touched source start stop).map (underlinedAt source start stop), ?_, ?_, ?_, ?_⟩
  · rw [mark_eq source (Nat.le_of_lt nonempty), List.flatMap_map]
  · intro underlined member
    obtain ⟨line, shown, rfl⟩ := List.mem_map.mp member
    obtain ⟨before, behind, split, start, -⟩ :=
      (isIn_of_mem_lines (List.mem_of_mem_take (List.mem_of_mem_drop shown))).stands
    exact ⟨before, behind, split, start⟩
  · intro underlined member position marks
    obtain ⟨line, shown, rfl⟩ := List.mem_map.mp member
    obtain ⟨i, inside, rfl⟩ := List.mem_drop_iff_getElem.mp shown
    rw [List.length_take] at inside
    rw [List.getElem_take] at marks
    exact (marks_of_shown nonempty (by omega) (by omega) (by omega) position).1 marks
  · intro position c after before here visible
    rw [← Text.join_pieces '\n' source] at here
    obtain ⟨line, listed, begins, ends⟩ := exists_mem_number 1 0 here visible
    rw [Nat.zero_add] at begins ends
    obtain ⟨i, inside, rfl⟩ := List.mem_iff_getElem.mp listed
    change i < (lines source).length at inside
    change (lines source)[i].start ≤ position at begins
    change position < (lines source)[i].start + (lines source)[i].content.length at ends
    have upTo : i ≤ indexOf (lines source) (max start (stop - 1) : Nat) :=
      (le_indexOf_iff source (max start (stop - 1)) inside).mpr (by omega)
    have behind : indexOf (lines source) start ≤ i := by
      refine Nat.le_of_not_lt fun earlier => ?_
      have firstInside := indexOf_lt source start
      have first := (le_indexOf_iff source start firstInside).mp (Nat.le_refl _)
      have between := lines_apart source firstInside earlier
      omega
    refine ⟨_, List.mem_map_of_mem (List.mem_drop_iff_getElem.mpr
      ⟨i - indexOf (lines source) start, ?_, rfl⟩), ?_⟩
    · rw [List.length_take]
      omega
    · rw [List.getElem_take]
      have same : indexOf (lines source) start + (i - indexOf (lines source) start) = i := by omega
      simp only [same]
      exact (marks_of_shown nonempty inside behind upTo position).2 after before begins ends

end Excerpt
end ElementTags
