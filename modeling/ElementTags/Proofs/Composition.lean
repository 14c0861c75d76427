import ElementTags.Proofs.Slices

/-! # Lists of attributes one behind the other

Two lists of attributes joined by a comma are read one after the other: what was
accepted alone is accepted in front of the comma, because no attribute looks across
it, and the second list is read as it would be alone, further behind. So the result
or the fault of the second list decides. A blank does as well as a comma, unless a
minus sign follows.
-/

namespace ElementTags

open Outcome

namespace Token

@[simp] theorem shift_zero (t : Token) : t.shift 0 = t := rfl

/-- Scanning further behind finds the same tokens or the same fault, further behind. -/
theorem scanFrom_shift (n k : Nat) (s : Text) :
    Related (fun tokens moved => moved = tokens.map (Token.shift k))
      (fun fault moved => moved = fault.shift k) (scanFrom n s) (scanFrom (n + k) s) := by
  fun_induction scanFrom n s with
  | case1 n =>
      rw [scanFrom]
      exact .ok rfl
  | case2 n c rest blank ih =>
      rw [scanFrom_blank blank, Nat.add_right_comm]
      exact ih
  | case3 n c rest blank quote unclosed =>
      rw [scanFrom, if_neg blank, if_pos quote]
      split
      · exact .error rfl
      · rename_i closed
        rw [unclosed] at closed
        cases closed
  | case4 n c rest blank quote body behind closed ih =>
      rw [scanFrom, if_neg blank, if_pos quote]
      split
      · rename_i unclosed
        rw [closed] at unclosed
        cases unclosed
      · rename_i here
        rw [closed] at here
        cases here
        rw [show n + k + 1 + body.length = n + 1 + body.length + k by omega]
        refine Related.bind ih ?_
        rintro tokens _ rfl
        exact .ok rfl
  | case5 n c rest blank quote named =>
      rename_i ih
      rw [scanFrom, if_neg blank, if_neg quote, if_pos named]
      rw [Nat.add_right_comm] at ih
      refine Related.bind ih ?_
      rintro tokens _ rfl
      exact .ok rfl
  | case6 n c rest blank quote named ih =>
      rw [scanFrom, if_neg blank, if_neg quote, if_neg named]
      rw [Nat.add_right_comm] at ih
      refine Related.bind ih ?_
      rintro tokens _ rfl
      exact .ok rfl

end Token

namespace Attribute

open Token Written

/-- What is read of a list behind attributes that were accepted, when it starts at a position. -/
def joined (entries : List ElementTags.Entry) (start : Nat) :
    Reading (List ElementTags.Entry) → Reading (List ElementTags.Entry)
  | .ok others => .ok (entries ++ others.map (Entry.shift start))
  | .error fault => .error (fault.shift start)

/-- What is accepted alone is accepted in front of whatever starts something new. -/
theorem readEntries_front {source : Text} {tokens tail : List Token}
    {entries : List ElementTags.Entry} (segments : Segments 0 source tokens)
    (accepted : readEntries source tokens = .ok entries)
    (ends : ∀ t ∈ tokens.getLast?, t.isMark ',' = false) (behind : Text)
    (boundary : Boundary tokens tail.head?) :
    readEntries (source ++ behind) (tokens ++ tail) =
      (readEntries (source ++ behind) tail).map (entries ++ ·) := by
  have related := readEntries_moved (displaced_part [] behind segments)
    (List.Subset.refl tokens)
  have still : tokens.map (Token.shift 0) = tokens := List.map_id'' Token.shift_zero tokens
  have stay : entries.map (Entry.shift 0) = entries := List.map_id'' Entry.shift_zero entries
  rw [List.length_nil, still, accepted, List.nil_append] at related
  cases there : readEntries (source ++ behind) tokens with
  | error fault =>
      rw [there] at related
      cases related
  | ok found =>
      rw [there] at related
      cases related with
      | ok same =>
          rw [stay] at same
          obtain ⟨written, own, final, rfl, separated, spelled, means⟩ :=
            readEntries_sound (segments.part behind) there
          rcases separated with rfl | ⟨comma, rfl, mark⟩
          · rw [List.append_nil] at boundary ⊢
            rw [readEntries_complete (spelled.renew boundary) rfl, means, same]
            rfl
          · rw [List.getLast?_append] at ends
            rw [ends comma rfl] at mark
            cases mark

/-- A list behind another one is read as it would be alone, further behind. -/
theorem readEntries_behind (before source : Text) (tokens : List Token) :
    Related (fun entries moved => moved = entries.map (Entry.shift before.length))
      (fun fault moved => moved = fault.shift before.length) (readEntries source tokens)
      (readEntries (before ++ source) (tokens.map (Token.shift before.length))) := by
  refine readEntries_moved ⟨?_, ?_, fun _ _ _ => rfl, fun _ => rfl⟩ (List.Subset.refl tokens)
  · intro o _ c _
    rw [shift_stop, shift_start, codeBetween_behind]
  · rw [endsEarly, List.length_append, Nat.add_comm]
    rfl

/-! ## Joining two lists -/

/-- The tokens of a list, of a comma behind it, and of another list. -/
theorem scan_comma {first : Text} {tokens : List Token} (segments : Segments 0 first tokens)
    (second : Text) :
    Token.scan (first ++ ',' :: second) =
      (scanFrom (first.length + 1) second).map fun others =>
        tokens ++ ([⟨.mark, [','], first.length⟩] ++ others) := by
  have comma : Token.Lexeme .mark [','] :=
    ⟨',', rfl, by decide, by decide, by decide⟩
  rw [Token.scan, segments.scanFrom_append _ (parted_cons (by decide) _ _), Nat.zero_add,
    ← List.singleton_append, scanFrom_lexeme comma _ _ (fun named => by cases named)]
  cases scanFrom (first.length + 1) second <;> rfl

/-- The tokens of a list, and of another list behind a blank. -/
theorem scan_space {first : Text} {tokens : List Token} (segments : Segments 0 first tokens)
    (second : Text) :
    Token.scan (first ++ ' ' :: second) =
      (scanFrom (first.length + 1) second).map fun others => tokens ++ ([] ++ others) := by
  rw [Token.scan, segments.scanFrom_append _ (parted_cons (by decide) _ _), Nat.zero_add,
    scanFrom_blank (by decide)]
  rfl

/-- The second list decides when the tokens of the first one, and of the character between the
lists, are read for themselves. -/
theorem read_of_scan {first second : Text} {c : Char} {tokens separator : List Token}
    {entries : List ElementTags.Entry}
    (scanned : Token.scan (first ++ c :: second) =
      (scanFrom (first.length + 1) second).map fun others => tokens ++ (separator ++ others))
    (apart : ∀ others, Token.scan second = .ok others →
      readEntries (first ++ c :: second)
          (tokens ++ (separator ++ others.map (Token.shift (first.length + 1)))) =
        (readEntries (first ++ c :: second) (others.map (Token.shift (first.length + 1)))).map
          (entries ++ ·)) :
    read (first ++ c :: second) = joined entries (first.length + 1) (read second) := by
  have further := scanFrom_shift 0 (first.length + 1) second
  rw [Nat.zero_add] at further
  rw [read, read, scanned]
  cases alone : Token.scan second with
  | error fault =>
      rw [← Token.scan, alone] at further
      cases there : scanFrom (first.length + 1) second with
      | ok moved =>
          rw [there] at further
          cases further
      | error moved =>
          rw [there] at further
          cases further with
          | error same =>
              rw [same]
              rfl
  | ok others =>
      rw [← Token.scan, alone] at further
      cases there : scanFrom (first.length + 1) second with
      | error moved =>
          rw [there] at further
          cases further
      | ok moved =>
          rw [there] at further
          cases further with
          | ok same =>
              have behind := readEntries_behind (first ++ [c]) second others
              rw [List.length_append, List.length_singleton, List.append_assoc,
                List.singleton_append] at behind
              have reading := apart others alone
              rw [← same] at reading behind
              change readEntries (first ++ c :: second) (tokens ++ (separator ++ moved)) =
                joined entries (first.length + 1) (readEntries second others)
              rw [reading]
              generalize readEntries second others = result at behind
              generalize readEntries (first ++ c :: second) moved = result' at behind
              cases behind with
              | ok entriesMoved =>
                  rw [entriesMoved]
                  rfl
              | error faultMoved =>
                  rw [faultMoved]
                  rfl

/-! ## Where the second list starts -/

/-- A mark that is no operator and no bar, colon or equals sign continues nothing. -/
theorem continues_of_isMark {t : Token} {c : Char} (mark : t.isMark c = true)
    (other : c ∉ ['|', ':', '=', '+', '-', '*', '/', '%']) : t.continues = false := by
  have apart {d : Char} (member : d ∈ ['|', ':', '=', '+', '-', '*', '/', '%']) :
      t.isMark d = false := by
    refine isMark_of_ne mark ?_
    rintro rfl
    exact other member
  have noOperator : operator? t = none := by
    rw [Option.eq_none_iff_forall_ne_some]
    intro operator found
    have hit := operator?_eq_some_iff.mp found
    cases operator <;> exact absurd hit (ne_true_of_eq_false (apart (by decide)))
  simp only [continues, apart (d := '|') (by decide), apart (d := ':') (by decide),
    apart (d := '=') (by decide), noOperator, Option.isSome_none, Bool.or_false]

theorem continues_of_kind {t : Token} (other : t.kind ≠ .mark) : t.continues = false := by
  have noOperator : operator? t = none := by
    rw [Option.eq_none_iff_forall_ne_some]
    intro operator found
    exact other (kind_of_isMark (operator?_eq_some_iff.mp found))
  simp only [continues, isMark_of_kind other, noOperator, Option.isSome_none, Bool.or_false]

theorem boundary_comma (tokens : List Token) {comma : Token} (mark : comma.isMark ',' = true) :
    Boundary tokens (some comma) := by
  intro t same
  obtain rfl := Option.some.inj same
  exact ⟨continues_of_isMark mark (by decide), fun _ _ _ => by
    simp only [delimits, mark, Bool.true_or]⟩

/-- A list that is accepted starts with a comma, a minus sign, or what continues nothing. -/
theorem accepted_starts {source : Text} {tokens : List Token} {entries : List ElementTags.Entry}
    (part : Part source tokens) (accepted : readEntries source tokens = .ok entries) :
    ∀ t ∈ tokens.head?, t.isMark '-' = true ∨ t.continues = false := by
  have separator {separator : List Token} (separated : Separator separator) :
      ∀ t ∈ separator.head?, t.isMark '-' = true ∨ t.continues = false := by
    intro t same
    rcases separated with rfl | ⟨comma, rfl, mark⟩
    · cases same
    · obtain rfl := Option.some.inj same
      exact .inr (continues_of_isMark mark (by decide))
  obtain ⟨written, own, final, rfl, separated, spelled, -⟩ := readEntries_sound part accepted
  cases spelled with
  | nil => exact separator separated
  | @cons entry rest first front inner others _ separatedHere spelled _ =>
      intro t same
      rcases separatedHere with rfl | ⟨comma, rfl, mark⟩
      · obtain rfl := Option.some.inj same
        rcases entry_starts spelled with other | hyphen | opening
        · exact .inr (continues_of_kind other)
        · exact .inl hyphen
        · simp only [opens, Bool.or_eq_true] at opening
          rcases opening with (mark | mark) | mark <;>
            exact .inr (continues_of_isMark mark (by decide))
      · obtain rfl := Option.some.inj same
        exact .inr (continues_of_isMark mark (by decide))

/-- Behind a blank a token touches none of the tokens in front of it. -/
theorem boundary_space {first : Text} {tokens : List Token} (segments : Segments 0 first tokens)
    {t : Token} (fresh : t.continues = false) :
    Boundary tokens (some (t.shift (first.length + 1))) := by
  intro u same
  obtain rfl := Option.some.inj same
  refine ⟨fresh, fun last member touching => ?_⟩
  have within := (part_of_scan segments.scanFrom_eq).stop_le (List.mem_of_getLast? member)
  rw [touches, decide_eq_true_eq, shift_start] at touching
  omega

/-- A comma in front of a list that does not start with one changes nothing. -/
theorem readEntries_comma {source : Text} {comma : Token} {tokens : List Token}
    (mark : comma.isMark ',' = true) (starts : ∀ t ∈ tokens.head?, t.isMark ',' = false) :
    readEntries source (comma :: tokens) = readEntries source tokens := by
  cases tokens with
  | nil => rw [readEntries_final (.inr ⟨comma, rfl, mark⟩), readEntries_final (.inl rfl)]
  | cons t tokens =>
      exact readEntries_separator (.inr ⟨comma, rfl, mark⟩) (ne_true_of_eq_false (starts t rfl))

/-- **Lists compose.** Behind an accepted list that does not end with a comma, and a comma, another
list that does not start with one is read as it would be alone, further behind. When it is accepted
and does not start with a minus sign, a blank does as well. -/
theorem read_joined {first second : Text} {tokens : List Token}
    {entries : List ElementTags.Entry} (scanned : Token.scan first = .ok tokens)
    (accepted : read first = .ok entries) (ends : ∀ t ∈ tokens.getLast?, t.isMark ',' = false)
    (starts : ∀ others, Token.scan second = .ok others →
      ∀ t ∈ others.head?, t.isMark ',' = false) :
    read (first ++ ',' :: second) = joined entries (first.length + 1) (read second) ∧
      ∀ others found, Token.scan second = .ok others → read second = .ok found →
        (∀ t ∈ others.head?, t.isMark '-' = false) →
        read (first ++ ' ' :: second) = joined entries (first.length + 1) (read second) := by
  have segments := segments_of_scanFrom scanned
  rw [read, scanned] at accepted
  constructor
  · refine read_of_scan (scan_comma segments second) fun others alone => ?_
    have apart : ∀ t ∈ (others.map (Token.shift (first.length + 1))).head?,
        t.isMark ',' = false := by
      intro t same
      rw [List.head?_map] at same
      obtain ⟨u, here, rfl⟩ := Option.map_eq_some_iff.mp same
      exact starts others alone u here
    have comma : (⟨.mark, [','], first.length⟩ : Token).isMark ',' = true := rfl
    have boundary : Boundary tokens (⟨.mark, [','], first.length⟩ ::
        others.map (Token.shift (first.length + 1))).head? := boundary_comma tokens comma
    rw [List.singleton_append, readEntries_front segments accepted ends _ boundary,
      readEntries_comma comma apart]
  · intro others found alone acceptedBehind noMinus
    refine read_of_scan (scan_space segments second) fun same scannedSame => ?_
    obtain rfl := Except.ok.inj (alone.symm.trans scannedSame)
    rw [read, alone] at acceptedBehind
    have fresh := accepted_starts (part_of_scan alone) acceptedBehind
    rw [List.nil_append, readEntries_front segments accepted ends _ ?_]
    cases others with
    | nil => exact boundary_none tokens
    | cons t others =>
        rcases fresh t rfl with hyphen | fresh
        · rw [noMinus t rfl] at hyphen
          cases hyphen
        · exact boundary_space segments fresh

/-- The list `a=x` in front of the list `b-c`. -/
theorem read_joined_lookup : ∃ entries found,
    read "a=x".toList = .ok entries ∧ read "b-c".toList = .ok found ∧
      read "a=x,b-c".toList = .ok (entries ++ found.map (Entry.shift 4)) ∧
      read "a=x b-c".toList = .ok (entries ++ found.map (Entry.shift 4)) := by
  obtain ⟨entries, accepted⟩ : ∃ entries, read "a=x".toList = .ok entries := ok_of_toBool (by cbv)
  obtain ⟨found, behind⟩ : ∃ found, read "b-c".toList = .ok found := ok_of_toBool (by cbv)
  have scanned : Token.scan "a=x".toList =
      .ok [⟨.name, ['a'], 0⟩, ⟨.mark, ['='], 1⟩, ⟨.name, ['x'], 2⟩] := by cbv
  have scannedBehind : Token.scan "b-c".toList =
      .ok [⟨.name, ['b'], 0⟩, ⟨.mark, ['-'], 1⟩, ⟨.name, ['c'], 2⟩] := by cbv
  have starts : ∀ others, Token.scan "b-c".toList = .ok others →
      ∀ t ∈ others.head?, t.isMark ',' = false := by
    intro others same
    obtain rfl := Except.ok.inj (scannedBehind.symm.trans same)
    decide
  obtain ⟨comma, blank⟩ := read_joined scanned accepted (by decide) starts
  have space := blank _ found scannedBehind behind (by decide)
  rw [behind] at comma space
  exact ⟨entries, found, accepted, behind, comma, space⟩

end Attribute
end ElementTags
