import Mathlib
import ElementTags.Proofs.Boundary
import ElementTags.Proofs.Completeness
import ElementTags.Proofs.Displacement
import ElementTags.Proofs.Soundness

/-! # Slices of an attribute list

An accepted list is cut into slices, one for each attribute, and gaps that hold at
most a comma (`ElementTags.Attribute.Sliced`). A slice on its own is read as its
attribute, because an attribute is spelled in front of the end of a source as well
as in front of anything else, and because reading does not depend on the position.
So an attribute depends on its own slice only.
-/

namespace ElementTags.Attribute

open Outcome Token Written

/-- What stands between two attributes, and its tokens: blanks, and at most one comma. -/
inductive Gap : Nat → Text → List Token → Prop
  | blank {n : Nat} {gap : Text} (blank : ∀ c ∈ gap, Text.isBlank c = true) : Gap n gap []
  | comma {n : Nat} {front back : Text} (blank : ∀ c ∈ front, Text.isBlank c = true)
      (blankBehind : ∀ c ∈ back, Text.isBlank c = true) :
      Gap n (front ++ ',' :: back) [⟨.mark, [','], n + front.length⟩]

/-- A text from a position on is cut into slices with gaps around them. A slice goes from the start
of a token to the end of one, an attribute starts where its slice does, and the slice alone is read
as this attribute. -/
inductive Sliced : Nat → Text → List Token → List ElementTags.Entry → Prop
  | last {n : Nat} {gap : Text} {separator : List Token} (separates : Gap n gap separator) :
      Sliced n gap separator []
  | cons {n : Nat} {gap slice rest : Text} {separator own others : List Token}
      {entry : ElementTags.Entry} {entries : List ElementTags.Entry}
      (separates : Gap n gap separator)
      (starts : own.head?.map Token.start = some (n + gap.length))
      (stops : own.getLast?.map Token.stop = some (n + gap.length + slice.length))
      (position : entry.start = n + gap.length) (alone : read slice = .ok [entry.placeAt 0])
      (behind : Sliced (n + gap.length + slice.length) rest others entries) :
      Sliced n (gap ++ (slice ++ rest)) (separator ++ (own ++ others)) (entry :: entries)

/-! ## Cutting -/

/-- The text of separating tokens is a gap. -/
theorem gap_of_segments {n : Nat} {gap : Text} {separator : List Token}
    (segments : Segments n gap separator) (separated : Separator separator) :
    Gap n gap separator := by
  rcases separated with rfl | ⟨comma, rfl, mark⟩
  · exact .blank segments.all_blank
  · obtain ⟨front, back, rfl, blank, start, -, -, behind⟩ := segments.uncons
    obtain ⟨kind, text, place⟩ := comma
    obtain ⟨rfl, rfl⟩ := isMark_iff.mp mark
    obtain rfl : place = n + front.length := start
    exact .comma blank behind.all_blank

/-- The blanks in front of a token may be cut off. -/
theorem drop_gap {n : Nat} {s : Text} {t : Token} {tokens : List Token}
    (segments : Segments n s (t :: tokens)) :
    ∃ blanks rest, s = blanks ++ rest ∧ (∀ c ∈ blanks, Text.isBlank c = true) ∧
      t.start = n + blanks.length ∧ Segments t.start rest (t :: tokens) := by
  obtain ⟨blanks, rest, rfl, blank, start, lexeme, whole, behind⟩ := segments.uncons
  exact ⟨blanks, t.text ++ rest, rfl, blank, start, .token lexeme whole behind⟩

/-- A part of a source is cut into a gap, a slice and the rest. -/
theorem cut_slice {n : Nat} {s : Text} {first : Token} {separator own others : List Token}
    (segments : Segments n s (separator ++ (first :: own ++ others))) :
    ∃ gap slice rest, s = gap ++ (slice ++ rest) ∧ Segments n gap separator ∧
      first.start = n + gap.length ∧ Segments (n + gap.length) slice (first :: own) ∧
      (first :: own).getLast?.map Token.stop = some (n + gap.length + slice.length) ∧
      Segments (n + gap.length + slice.length) rest others := by
  obtain ⟨a, b, rfl, front, back, -⟩ := segments.split
  rw [List.cons_append] at back
  obtain ⟨blanks, c, rfl, blank, start, behind⟩ := drop_gap back
  have place : n + (a ++ blanks).length = first.start := by
    rw [start, List.length_append]
    omega
  rw [← List.cons_append] at behind
  obtain ⟨slice, rest, rfl, inner, last, stop, -⟩ := behind.split
  refine ⟨a ++ blanks, slice, rest, by rw [List.append_assoc], front.before_blanks blank,
    place.symm, ?_, ?_, ?_⟩
  · rw [place]
    exact inner
  · rw [place, stop, List.getLast?_cons]
    rfl
  · rw [place]
    exact last

/-! ## A slice on its own -/

theorem start_of_meaning {written : Written.Entry} {start : Nat} {entry : ElementTags.Entry}
    (means : written.meaning start = .ok entry) : entry.start = start := by
  cases written with
  | positional term =>
      obtain ⟨value, _, rfl⟩ := map_eq_ok.mp means
      rfl
  | lookup name hyphens =>
      cases means
      rfl
  | keyword key term =>
      obtain ⟨value, _, rfl⟩ := map_eq_ok.mp means
      rfl

/-- The tokens of one attribute are read as this attribute alone. -/
theorem readEntries_single {source : Text} {first : Token} {own : List Token} {next : Option Token}
    {written : Written.Entry} {entry : ElementTags.Entry}
    (spelled : written.Spelled source (first :: own) next)
    (means : written.meaning first.start = .ok entry) :
    readEntries source (first :: own) = .ok [entry] := by
  have nothing : Separator [] := .inl rfl
  have alone := EntriesSpelled.cons nothing (spelled.renew (boundary_none _)) EntriesSpelled.nil
  have read := readEntries_complete alone (show none = ([] : List Token).head? from rfl)
  rw [List.nil_append, List.append_nil, List.append_nil, entriesMeaning, means, readEntries] at read
  exact read

/-- What moves from a part of a source to the source. -/
theorem displaced_part (before after : Text) {slice : Text} {tokens : List Token}
    (segments : Segments 0 slice tokens) :
    Displaced before.length slice (before ++ (slice ++ after)) tokens fun _ _ => True where
  code := by
    intro o _ c member
    have within := (part_of_scan segments.scanFrom_eq).stop_le member
    rw [shift_stop, shift_start]
    refine codeBetween_part before slice after ?_
    rw [stop] at within
    omega
  early := trivial
  complaint := fun _ _ _ => trivial
  value := fun _ => trivial

/-- A spelled attribute is read from its slice alone, at the start of it. -/
theorem read_slice {before slice after : Text} {first : Token} {own : List Token}
    {next : Option Token} {written : Written.Entry} {entry : ElementTags.Entry}
    (segments : Segments before.length slice (first :: own)) (start : first.start = before.length)
    (spelled : written.Spelled (before ++ (slice ++ after)) (first :: own) next)
    (means : written.meaning first.start = .ok entry) :
    read slice = .ok [entry.placeAt 0] := by
  rw [← Nat.zero_add before.length] at segments
  obtain ⟨origin, alone, moved⟩ := segments.unshift
  have there := readEntries_single spelled means
  have related := readEntries_moved (displaced_part before after alone)
    (List.Subset.refl origin)
  rw [moved] at there
  rw [there] at related
  rw [read, Token.scan, alone.scanFrom_eq]
  cases here : readEntries slice origin with
  | error fault =>
      rw [here] at related
      cases related
  | ok entries =>
      rw [here] at related
      cases related with
      | ok same =>
          obtain ⟨single, none, shifted⟩ := List.map_eq_singleton_iff.mp same.symm
          obtain rfl := none
          have place := start_of_meaning means
          rw [← shifted, Entry.start_shift, start] at place
          have zero : single.start = 0 := by omega
          have moved : single = entry.placeAt 0 := by
            rw [← shifted, Entry.shift, Entry.placeAt_placeAt, ← zero, Entry.placeAt_start]
          rw [moved] at here
          exact here

/-- What entries are spelled by is cut into slices. -/
theorem sliced_of_spelled {source before text : Text} {written : List (Nat × Written.Entry)}
    {own final : List Token} {next : Option Token} {entries : List ElementTags.Entry}
    (spelled : EntriesSpelled source written own next) (split : source = before ++ text)
    (segments : Segments before.length text (own ++ final)) (separated : Separator final)
    (means : entriesMeaning written = .ok entries) :
    Sliced before.length text (own ++ final) entries := by
  induction spelled generalizing before text entries with
  | nil =>
      cases means
      exact .last (gap_of_segments segments separated)
  | @cons entry rest first separator own tokens next separatedHere spelled others ih =>
      rw [entriesMeaning] at means
      obtain ⟨value, here, means⟩ := bind_eq_ok.mp means
      obtain ⟨values, behind, same⟩ := bind_eq_ok.mp means
      cases same
      rw [List.append_assoc, List.append_assoc] at segments ⊢
      obtain ⟨gap, slice, remaining, rfl, gapSegments, start, inner, stop, further⟩ :=
        cut_slice segments
      rw [← List.length_append] at start inner stop further
      have whole : source = (before ++ gap) ++ (slice ++ remaining) := by
        rw [split, List.append_assoc]
      have alone : read slice = .ok [value.placeAt 0] := by
        rw [whole] at spelled
        exact read_slice inner start spelled here
      have deeper : source = (before ++ gap ++ slice) ++ remaining := by
        rw [whole, ← List.append_assoc]
      rw [← List.length_append] at further
      have rest := ih deeper further behind
      rw [List.length_append, List.length_append] at rest
      rw [List.length_append] at start stop
      exact .cons (gap_of_segments gapSegments separatedHere) (congrArg some start) stop
        ((start_of_meaning here).trans start) alone rest

/-! ## Order -/

/-- Slices hold at least one character, so attributes start one behind the other. -/
theorem Sliced.ordered {n : Nat} {text : Text} {tokens : List Token}
    {entries : List ElementTags.Entry} (sliced : Sliced n text tokens entries) :
    (∀ entry ∈ entries, n ≤ entry.start) ∧
      entries.Pairwise fun entry later => entry.start < later.start := by
  induction sliced with
  | last => exact ⟨fun _ none => (by cases none), .nil⟩
  | @cons n gap slice rest separator own others entry entries separates starts stops position alone
      behind ih =>
      have nonempty : 0 < slice.length := by
        cases slice with
        | cons c slice => exact Nat.succ_pos _
        | nil =>
            rw [read, Token.scan, (Segments.nil 0).scanFrom_eq] at alone
            simp only [readEntries] at alone
            cases alone
      obtain ⟨bounds, ordered⟩ := ih
      constructor
      · intro other member
        rcases List.mem_cons.mp member with rfl | member
        · omega
        · have bound := bounds other member
          omega
      · refine .cons (fun other member => ?_) ordered
        have bound := bounds other member
        omega

/-- Every accepted list is cut into slices: each token belongs to a gap, as its only comma, or to
the slice of one attribute, and the attributes start one behind the other. -/
theorem read_sliced {source : Text} {tokens : List Token} {entries : List ElementTags.Entry}
    (scanned : Token.scan source = .ok tokens) (accepted : read source = .ok entries) :
    Sliced 0 source tokens entries ∧
      entries.Pairwise fun entry later => entry.start < later.start := by
  have part := part_of_scan scanned
  rw [read, scanned] at accepted
  obtain ⟨written, own, final, rfl, separated, spelled, means⟩ := readEntries_sound part accepted
  have sliced : Sliced 0 source (own ++ final) entries :=
    sliced_of_spelled spelled (List.nil_append source).symm (segments_of_scanFrom scanned)
      separated means
  exact ⟨sliced, sliced.ordered.2⟩

/-- The list `a=x, b`. -/
theorem read_sliced_pair : ∃ entries, read "a=x, b".toList = .ok entries ∧
    Sliced 0 "a=x, b".toList [⟨.name, ['a'], 0⟩, ⟨.mark, ['='], 1⟩, ⟨.name, ['x'], 2⟩,
      ⟨.mark, [','], 3⟩, ⟨.name, ['b'], 5⟩] entries ∧
    entries.Pairwise fun entry later => entry.start < later.start := by
  obtain ⟨entries, accepted⟩ : ∃ entries, read "a=x, b".toList = .ok entries :=
    ok_of_toBool (by cbv)
  exact ⟨entries, accepted, read_sliced (by cbv) accepted⟩

end ElementTags.Attribute
