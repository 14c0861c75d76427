import Mathlib
import ElementTags.Proofs.Displacement
import ElementTags.Proofs.Underlining
import ElementTags.Tag

/-! # Where faults point

A fault of the grammar of attributes names a token and its position. The token
stands in the source at this position, unless the list ends too early: then a
closing mark that is not in the source stands for it, at the end of the source
(`ElementTags.Attribute.read_placed`). The excerpt of the tag underlines the token
in the first case only, since the tag has a blank behind the attributes
(`ElementTags.Tag.pointsOut_iff`).
-/

namespace ElementTags

open Outcome Token

/-- The token of a fault stands in a source at the position of the fault. -/
def GrammarFault.StandsIn (fault : GrammarFault) (source : Text) : Prop :=
  fault.token ≠ [] ∧ ∃ before behind,
    source = before ++ (fault.token ++ behind) ∧ before.length = fault.position

theorem GrammarFault.StandsIn.position_lt {fault : GrammarFault} {source : Text}
    (stands : fault.StandsIn source) : fault.position < source.length := by
  obtain ⟨nonempty, before, behind, rfl, start⟩ := stands
  have token := List.length_pos_iff.mpr nonempty
  rw [List.length_append, List.length_append]
  omega

/-- A quoted text that is not closed stands at the end of the source. -/
theorem Token.scanFrom_fault {n : Nat} {s : Text} {fault : GrammarFault}
    (failed : scanFrom n s = .error fault) :
    fault.token ≠ [] ∧
      ∃ before, s = before ++ fault.token ∧ fault.position = n + before.length := by
  fun_induction scanFrom n s with
  | case1 n => cases failed
  | case2 n c rest blank ih =>
      obtain ⟨nonempty, before, rfl, start⟩ := ih failed
      exact ⟨nonempty, c :: before, rfl, by rw [start, List.length_cons]; omega⟩
  | case3 n c rest blank quote unclosed =>
      cases failed
      exact ⟨List.cons_ne_nil _ _, [], rfl, rfl⟩
  | case4 n c rest blank quote body behind closed ih =>
      obtain ⟨nonempty, before, rfl, start⟩ := ih (eq_error_of_bind_pure failed)
      refine ⟨nonempty, c :: body ++ before, ?_, ?_⟩
      · rw [quotedTail_eq_append closed]
        simp only [List.cons_append, List.append_assoc]
      · rw [start, List.length_append, List.length_cons]
        omega
  | case5 n c rest blank quote named name ih =>
      obtain ⟨nonempty, before, split, start⟩ := ih (eq_error_of_bind_pure failed)
      refine ⟨nonempty, name ++ before, ?_, ?_⟩
      · rw [List.append_assoc, ← split, List.cons_append, List.takeWhile_append_dropWhile]
      · rw [start, List.length_append]
        omega
  | case6 n c rest blank quote named ih =>
      obtain ⟨nonempty, before, rfl, start⟩ := ih (eq_error_of_bind_pure failed)
      exact ⟨nonempty, c :: before, rfl, by rw [start, List.length_cons]; omega⟩

namespace Attribute

/-- A fault of the grammar is about a token of the source, or the source ends too early. -/
def Placed (source : Text) : AttributeFault → Prop
  | .grammar fault => fault.StandsIn source ∨ AttributeFault.grammar fault = endsEarly source
  | _ => True

/-- A quoted text that is not closed stands in the source. -/
theorem standsIn_of_unclosed {source : Text} {fault : GrammarFault}
    (scanned : scan source = .error fault) : fault.StandsIn source := by
  obtain ⟨nonempty, before, split, start⟩ := scanFrom_fault scanned
  refine ⟨nonempty, before, [], ?_, ?_⟩
  · rw [split, List.append_nil]
  · rw [start, Nat.zero_add]

/-- Tokens are where they are. -/
theorem standsIn_of_mem {source : Text} {tokens : List Token} (scanned : scan source = .ok tokens)
    {t : Token} (member : t ∈ tokens) (complaint : Complaint) :
    GrammarFault.StandsIn ⟨complaint, t.text, t.start⟩ source := by
  have part := part_of_scan scanned
  obtain ⟨before, behind, split, start⟩ := part.slice member
  exact ⟨(part.lexeme member).ne_nil, before, behind, split, start⟩

/-- What is true of all faults that can arise is true of the fault of reading: the scanner's, the
complaint that the list ends too early, complaints about tokens, and the faults of values. -/
theorem fault_of_read {source : Text} {holds : AttributeFault → Prop}
    (unclosed : ∀ fault, scan source = .error fault → holds (.grammar fault))
    (early : holds (endsEarly source))
    (complaint : ∀ tokens, scan source = .ok tokens → ∀ t ∈ tokens, ∀ complaint,
      holds (complain complaint t))
    (value : ∀ fault, holds (.value fault)) {fault : AttributeFault}
    (refused : read source = .error fault) : holds fault := by
  unfold read at refused
  split at refused
  · rename_i scanned
    cases refused
    exact unclosed _ scanned
  · rename_i tokens scanned
    -- Tokens that stay where they are meet the faults that they meet.
    have displaced : Displaced 0 source source tokens fun fault _ => holds fault :=
      ⟨fun _ _ _ _ => rfl, early, complaint tokens scanned, value⟩
    have related := readEntries_moved displaced (List.Subset.refl tokens)
    rw [refused] at related
    generalize readEntries source (tokens.map (Token.shift 0)) = there at related
    cases related with
    | error holds => exact holds

/-- The faults of reading are placed. -/
theorem read_placed {source : Text} {fault : AttributeFault}
    (refused : read source = .error fault) : Placed source fault :=
  fault_of_read (fun _ scanned => .inl (standsIn_of_unclosed scanned)) (.inr rfl)
    (fun _ scanned _ member complaint => .inl (standsIn_of_mem scanned member complaint))
    (fun _ => trivial) refused

end Attribute

/-! ## Messages -/

/-- The first line of the message of a fault. -/
def GrammarFault.sentence (fault : GrammarFault) : Text :=
  fault.complaint.label.toList ++ " '".toList ++ fault.token ++ "' at position ".toList ++
    Text.ofInt fault.position

/-- The message of a fault points out its token in the source of a tag: the token stands there at
the position of the fault, and the excerpt underlines its characters. -/
def GrammarFault.PointsOut (fault : GrammarFault) (site : Site) : Prop :=
  ∃ start : Nat, (start : Int) = site.offset + fault.position ∧
    (site.source.drop start).take fault.token.length = fault.token ∧
    ∃ rows, fault.message (some site) = Text.join ['\n'] (fault.sentence :: [] :: rows) ∧
      Excerpt.Underlines rows site.source start (start + fault.token.length)

/-- The message underlines as many characters as the token has, from its position on. -/
theorem GrammarFault.message_underlines {fault : GrammarFault} (nonempty : fault.token ≠ [])
    (source : Text) (offset : Nat) :
    ∃ rows, fault.message (some ⟨source, offset⟩) =
        Text.join ['\n'] (fault.sentence :: [] :: rows) ∧
      Excerpt.Underlines rows source (offset + fault.position)
        (offset + fault.position + fault.token.length) := by
  have token := List.length_pos_iff.mpr nonempty
  refine ⟨_, rfl, ?_⟩
  have stop : (offset : Int) + fault.position + max 1 (fault.token.length : Int) =
      (offset + fault.position + fault.token.length : Nat) := by
    omega
  rw [stop, ← Int.natCast_add]
  exact Excerpt.underlines_mark source (by omega)

namespace Tag

/-- The attributes of a tag stand at the end of its contents. -/
theorem contents_eq_append (contents : Text) :
    ∃ front, contents = front ++ (splitContents contents).2 := by
  obtain ⟨word, first⟩ := List.dropWhile_suffix (l := contents) (!Text.isBlank ·)
  obtain ⟨blanks, rest⟩ :=
    List.dropWhile_suffix (l := contents.dropWhile (!Text.isBlank ·)) Text.isBlank
  refine ⟨word ++ blanks, ?_⟩
  change contents = word ++ blanks ++ Text.dropBlanks (contents.dropWhile (!Text.isBlank ·))
  rw [List.append_assoc, Text.dropBlanks, rest, first]

/-- A head is refused by the attribute grammar when its attributes are. -/
theorem read_of_readHead {name contents : Text} {fault : GrammarFault} {site : Option Site}
    (refused : readHead name true contents = .error (.attributes (.grammar fault) site)) :
    Attribute.read (splitContents contents).2 = .error (.grammar fault) ∧
      site = some (siteOf contents (splitContents contents).2) := by
  unfold readHead at refused
  split at refused
  rename_i first attributes split
  rw [split]
  split at refused
  · cases empty : first.isEmpty with
    | true =>
        have nothing : Attribute.read [] = .ok [] := by
          rw [Attribute.read, scan, (Segments.nil 0).scanFrom_eq]
          simp only [Attribute.readEntries]
        simp only [empty, if_true, nothing] at refused
        cases refused
    | false =>
        simp only [empty, if_true, Bool.false_eq_true, if_false] at refused
        cases read : Attribute.read attributes with
        | ok entries =>
            simp only [read] at refused
            cases refused
        | error other =>
            simp only [read] at refused
            cases refused
            exact ⟨rfl, rfl⟩
  · cases refused

/-- The source of a tag from the start of its attributes on. -/
theorem source_of_siteOf (contents : Text) :
    ∃ front, (siteOf contents (splitContents contents).2).source =
        front ++ ((splitContents contents).2 ++ closer) ∧
      (siteOf contents (splitContents contents).2).offset = (front.length : Int) := by
  obtain ⟨front, split⟩ := contents_eq_append contents
  generalize (splitContents contents).2 = attributes at split ⊢
  subst split
  refine ⟨opener ++ front, ?_, congrArg Int.ofNat ?_⟩
  · change opener ++ (front ++ attributes) ++ closer = opener ++ front ++ (attributes ++ closer)
    simp only [List.append_assoc]
  · rw [List.length_append, List.length_append, Nat.add_sub_cancel_right]

/-- A token in the attributes is pointed out. -/
theorem pointsOut_of_standsIn {fault : GrammarFault} {attributes : Text}
    (stands : fault.StandsIn attributes) (front : Text) :
    fault.PointsOut ⟨front ++ (attributes ++ closer), (front.length : Int)⟩ := by
  obtain ⟨nonempty, before, behind, rfl, position⟩ := stands
  refine ⟨front.length + fault.position, Int.natCast_add _ _, ?_,
    GrammarFault.message_underlines nonempty _ _⟩
  change ((front ++ (before ++ (fault.token ++ behind) ++ closer)).drop
    (front.length + fault.position)).take _ = _
  rw [List.drop_length_add_append, ← position, List.append_assoc, List.drop_left,
    List.append_assoc, List.take_left]

/-- Behind the attributes stands a blank, and not the mark that a list that ends too early is
reported with. -/
theorem not_pointsOut_of_endsEarly (complaint : Complaint) (front attributes : Text) :
    ¬GrammarFault.PointsOut ⟨complaint, Attribute.blockEnd, attributes.length⟩
      ⟨front ++ (attributes ++ closer), (front.length : Int)⟩ := by
  rintro ⟨start, place, token, -⟩
  obtain rfl : start = (front ++ attributes).length := by
    rw [List.length_append]
    exact Int.ofNat.inj (place.trans (Int.natCast_add _ _).symm)
  change ((front ++ (attributes ++ closer)).drop _).take _ = _ at token
  rw [← List.append_assoc, List.drop_left] at token
  change closer.take 2 = Attribute.blockEnd at token
  exact absurd token (by decide)

/-- **Faults point at their tokens, unless the attributes end too early.** The message of a fault of
the attributes of a tag points out its token exactly when the fault is not at the end of them. At
the end the mark that stands for the missing token is looked for one character too early, at the
blank in front of it. -/
theorem pointsOut_iff {name contents : Text} {fault : GrammarFault} {site : Option Site}
    (refused : readHead name true contents = .error (.attributes (.grammar fault) site)) :
    ∃ place, site = some place ∧ place.source = sourceOf contents ∧
      (fault.PointsOut place ↔ fault.position ≠ (splitContents contents).2.length) ∧
      (fault.position = (splitContents contents).2.length → fault.token = Attribute.blockEnd ∧
        ∃ before, place.source = before ++ closer ∧
          (before.length : Int) = place.offset + fault.position) := by
  obtain ⟨read, rfl⟩ := read_of_readHead refused
  obtain ⟨front, source, offset⟩ := source_of_siteOf contents
  refine ⟨_, rfl, rfl, ?_⟩
  generalize siteOf contents (splitContents contents).2 = place at source offset ⊢
  obtain ⟨whole, start⟩ := place
  obtain rfl : whole = _ := source
  obtain rfl : start = _ := offset
  generalize (splitContents contents).2 = attributes at read ⊢
  rcases Attribute.read_placed read with stands | early
  · have apart : fault.position ≠ attributes.length := Nat.ne_of_lt stands.position_lt
    exact ⟨⟨fun _ => apart, fun _ => pointsOut_of_standsIn stands front⟩,
      fun atEnd => absurd atEnd apart⟩
  · cases early
    refine ⟨⟨fun points => absurd points (not_pointsOut_of_endsEarly _ front attributes),
      fun further => absurd rfl further⟩, fun _ => ⟨rfl, front ++ attributes, ?_, ?_⟩⟩
    · rw [List.append_assoc]
    · rw [List.length_append]
      exact Int.natCast_add _ _

/-- The hyphen in `test a-=1` is pointed out. -/
theorem pointsOut_hyphen : ∃ place,
    readHead "test".toList true "test a-=1".toList =
      .error (.attributes (.grammar ⟨.unexpectedToken, ['-'], 1⟩) (some place)) ∧
    GrammarFault.PointsOut ⟨.unexpectedToken, ['-'], 1⟩ place := by
  have refused : readHead "test".toList true "test a-=1".toList =
      .error (.attributes (.grammar ⟨.unexpectedToken, ['-'], 1⟩)
        (some ⟨"\x7b% test a-=1 %\x7d".toList, 8⟩)) := by cbv
  obtain ⟨place, same, -, points, -⟩ := pointsOut_iff refused
  obtain rfl := Option.some.inj same
  exact ⟨_, refused, points.mpr (by cbv)⟩

/-- In `test a=` the mark behind the attributes is the token, but the blank in front of it is where
the fault points. -/
theorem not_pointsOut_end : ∃ fault place,
    readHead "test".toList true "test a=".toList =
      .error (.attributes (.grammar fault) (some place)) ∧
    place.source = "\x7b% test a= %\x7d".toList ∧ ¬fault.PointsOut place := by
  refine ⟨⟨.unexpectedToken, Attribute.blockEnd, 2⟩, ⟨"\x7b% test a= %\x7d".toList, 8⟩, by cbv, rfl,
    ?_⟩
  rintro ⟨start, position, token, -⟩
  obtain rfl : start = 10 := Int.ofNat.inj position
  exact absurd token (by decide)

end Tag
end ElementTags
