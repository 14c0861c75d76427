import Mathlib
import ElementTags.Proofs.Lexing
import ElementTags.Proofs.Relocation

/-! # Blanks between tokens

Two layouts of an attribute list have the same tokens with other blanks around them
(`ElementTags.Token.Respaced`): blanks do not vanish, none are put between tokens that
belong together only when they touch, and the blanks in code stay. The tokens of the
second layout are those of the first at other places, and its attributes are the
same, each at the place of its first token
(`ElementTags.Attribute.read_respaced`).
-/

namespace ElementTags

namespace Token

open Attribute

/-- The last token in front and the next one both stand within the parentheses of code. The blanks
at the ends of the code do not count. In an accepted list the only other parentheses outside of
code are those of a localized text, and between them there is a single token. -/
def WithinCode (front : List Token) (t : Token) : Prop :=
  codeDepth front.dropLast ≠ 0 ∧ codeDepth front ≠ 0 ∧ codeDepth (front ++ [t]) ≠ 0

/-- The blanks in front of a token may become other blanks, and there may be some where there were
none. -/
structure Respaceable (front : List Token) (t : Token) (gap gap' : Text) : Prop where
  blank : ∀ c ∈ gap, Text.isBlank c = true
  blankThere : ∀ c ∈ gap', Text.isBlank c = true
  /-- Blanks between two tokens do not vanish. -/
  apart : front ≠ [] → gap' = [] → gap = []
  /-- Tokens that touch go on to touch if they may belong together. -/
  tied : ∀ last ∈ front.getLast?, Tied last t → gap = [] → gap' = []
  /-- Blanks in code stay. -/
  code : WithinCode front t → gap' = gap

instance (left right : Token) : Decidable (Tied left right) :=
  inferInstanceAs (Decidable (_ ∨ _ ∨ _))

instance (front : List Token) (t : Token) : Decidable (WithinCode front t) :=
  inferInstanceAs (Decidable (_ ∧ _ ∧ _))

/-- Two layouts of the same tokens, behind some tokens in front of them. -/
inductive Respaced : List Token → Text → Text → List Token → Prop
  | last {front : List Token} {gap gap' : Text} (blank : ∀ c ∈ gap, Text.isBlank c = true)
      (blankThere : ∀ c ∈ gap', Text.isBlank c = true) : Respaced front gap gap' []
  | token {front tokens : List Token} {t : Token} {gap gap' rest rest' : Text}
      (spaces : Respaceable front t gap gap') (behind : Respaced (front ++ [t]) rest rest' tokens) :
      Respaced front (gap ++ (t.text ++ rest)) (gap' ++ (t.text ++ rest')) (t :: tokens)

/-! ## The tokens of the second layout -/

/-- The first token of a text stands behind all blanks in front of it. -/
theorem Segments.uncons_of_blank {n : Nat} {gap rest : Text} {t : Token} {tokens : List Token}
    (segments : Segments n (gap ++ (t.text ++ rest)) (t :: tokens))
    (blank : ∀ c ∈ gap, Text.isBlank c = true) :
    t.start = n + gap.length ∧ Lexeme t.kind t.text ∧ (t.kind = .name → NoName rest) ∧
      Segments t.stop rest tokens := by
  obtain ⟨blanks, behind, same, blankHere, start, lexeme, whole, others⟩ := segments.uncons
  have tails := congrArg Text.dropBlanks same
  rw [Text.dropBlanks_behind_blanks blank, Text.dropBlanks_behind_blanks blankHere,
    Text.dropBlanks_of_head (lexeme.head_not_blank _),
    Text.dropBlanks_of_head (lexeme.head_not_blank _)] at tails
  rw [tails] at same
  obtain rfl := List.append_cancel_left tails
  obtain rfl := List.append_cancel_right same
  exact ⟨start, lexeme, whole, others⟩

theorem Segments.le_start {n : Nat} {s : Text} {tokens : List Token}
    (segments : Segments n s tokens) : ∀ t ∈ tokens, n ≤ t.start := by
  induction segments with
  | nil => exact fun t none => (by cases none)
  | blank _ _ ih => exact fun t member => Nat.le_of_succ_le (ih t member)
  | token _ _ _ ih =>
      intro t member
      rcases List.mem_cons.mp member with rfl | member
      · exact Nat.le_refl _
      · exact Nat.le_trans (Nat.le_add_right _ _) (ih t member)

/-- Where no name goes on in the first layout, none goes on in the second one. -/
theorem Respaced.noName {front tokens : List Token} {n : Nat} {s s' : Text}
    (respaced : Respaced front s s' tokens) (behind : front ≠ []) (segments : Segments n s tokens)
    (whole : NoName s) : NoName s' := by
  cases respaced with
  | last _ blankThere => exact noName_of_blank fun c first => blankThere c (List.mem_of_head? first)
  | @token _ tokens t gap gap' rest rest' spaces others =>
      cases gap' with
      | cons d gap' =>
          refine noName_of_blank fun c first => ?_
          obtain rfl := Option.some.inj first
          exact spaces.blankThere d List.mem_cons_self
      | nil =>
          obtain rfl := spaces.apart behind rfl
          obtain ⟨-, lexeme, -⟩ := segments.uncons_of_blank spaces.blank
          obtain ⟨d, text, split⟩ := List.exists_cons_of_ne_nil lexeme.ne_nil
          rw [List.nil_append, split] at whole ⊢
          exact whole

/-- The second layout has the same tokens at other places. -/
theorem Respaced.exists_place {front tokens : List Token} {n : Nat} {s s' : Text}
    (respaced : Respaced front s s' tokens) (segments : Segments n s tokens) (n' : Nat) :
    ∃ place, Segments n' s' (tokens.map (relocate place)) := by
  induction respaced generalizing n n' with
  | last _ blankThere => exact ⟨id, segments_blanks blankThere n'⟩
  | @token front tokens t gap gap' rest rest' spaces others ih =>
      obtain ⟨-, lexeme, whole, behind⟩ := segments.uncons_of_blank spaces.blank
      obtain ⟨placeBehind, there⟩ := ih behind (n' + gap'.length + t.text.length)
      -- The tokens behind this one start behind it, so that their places can be chosen apart.
      let place (p : Nat) : Nat := if p ≤ t.start then n' + gap'.length else placeBehind p
      have here : t.relocate place = ⟨t.kind, t.text, n' + gap'.length⟩ := by
        rw [relocate, show place t.start = n' + gap'.length from if_pos (Nat.le_refl _)]
      have same : tokens.map (relocate place) = tokens.map (relocate placeBehind) := by
        refine List.map_congr_left fun u member => ?_
        have further := behind.le_start u member
        have positive := List.length_pos_of_ne_nil lexeme.ne_nil
        rw [stop] at further
        rw [relocate, relocate, show place u.start = placeBehind u.start from if_neg (by omega)]
      refine ⟨place, ?_⟩
      rw [List.map_cons, here, same]
      refine Segments.behind_blanks (Segments.token lexeme (fun named => ?_) there)
        spaces.blankThere
      exact others.noName (List.append_ne_nil_of_right_ne_nil _ (List.cons_ne_nil _ _)) behind
        (whole named)

/-! ## Two layouts side by side -/

/-- Two layouts of the same tokens from a position on in each, and the places of the tokens. -/
structure Laid (place : Nat → Nat) (front : List Token) (n n' : Nat) (s s' : Text)
    (tokens : List Token) : Prop where
  respaced : Respaced front s s' tokens
  here : Segments n s tokens
  there : Segments n' s' (tokens.map (relocate place))

variable {place : Nat → Nat} {front tokens others : List Token} {n n' : Nat} {s s' : Text}
  {t : Token}

theorem Laid.uncons (laid : Laid place front n n' s s' (t :: tokens)) :
    ∃ gap gap' rest rest', s = gap ++ (t.text ++ rest) ∧ s' = gap' ++ (t.text ++ rest') ∧
      Respaceable front t gap gap' ∧ t.start = n + gap.length ∧
      (t.relocate place).start = n' + gap'.length ∧
      Laid place (front ++ [t]) t.stop (t.relocate place).stop rest rest' tokens := by
  obtain ⟨respaced, here, there⟩ := laid
  cases respaced with
  | @token _ _ _ gap gap' rest rest' spaces behind =>
      obtain ⟨start, -, -, segments⟩ := here.uncons_of_blank spaces.blank
      obtain ⟨startThere, -, -, segmentsThere⟩ :=
        Segments.uncons_of_blank (t := t.relocate place) there spaces.blankThere
      exact ⟨gap, gap', rest, rest', rfl, rfl, spaces, start, startThere,
        behind, segments, segmentsThere⟩

/-- Both layouts may be cut behind some tokens. -/
theorem Laid.behind (laid : Laid place front n n' s s' (tokens ++ others)) :
    ∃ a a' b b', s = a ++ b ∧ s' = a' ++ b' ∧
      Laid place (front ++ tokens) (n + a.length) (n' + a'.length) b b' others := by
  induction tokens generalizing front n n' s s' with
  | nil => exact ⟨[], [], s, s', rfl, rfl, by rw [List.append_nil]; exact laid⟩
  | cons t tokens ih =>
      obtain ⟨gap, gap', rest, rest', rfl, rfl, -, start, startThere, further⟩ := laid.uncons
      obtain ⟨a, a', b, b', rfl, rfl, last⟩ := ih further
      rw [List.append_assoc, List.singleton_append, stop, stop, start, startThere, relocate_text]
        at last
      refine ⟨gap ++ (t.text ++ a), gap' ++ (t.text ++ a'), b, b', ?_, ?_, ?_⟩
      · simp only [List.append_assoc]
      · simp only [List.append_assoc]
      · simp only [List.length_append, ← Nat.add_assoc]
        exact last

/-- Neighbouring tokens touch as far as the grammar asks for it. -/
theorem Laid.touches (laid : Laid place front n n' s s' tokens) {left right : Token}
    (neighbours : [left, right] <:+: tokens) :
    ((left.relocate place).touches (right.relocate place) = true → left.touches right = true) ∧
      (Tied left right → left.touches right = true →
        (left.relocate place).touches (right.relocate place) = true) := by
  induction tokens generalizing front n n' s s' with
  | nil => cases List.infix_nil.mp neighbours
  | cons t tokens ih =>
      obtain ⟨gap, gap', rest, rest', rfl, rfl, -, -, -, further⟩ := laid.uncons
      rcases List.infix_cons_iff.mp neighbours with here | later
      · obtain ⟨rest, split⟩ := here
        obtain ⟨rfl, rfl⟩ := List.cons.inj split
        obtain ⟨gap, gap', _, _, rfl, rfl, spaces, start, startThere, -⟩ := further.uncons
        have behind : front ++ [left] ≠ [] :=
          List.append_ne_nil_of_right_ne_nil _ (List.cons_ne_nil _ _)
        rw [Token.touches, Token.touches, decide_eq_true_eq, decide_eq_true_eq, start, startThere]
        constructor
        · intro touching
          have none : gap' = [] := List.length_eq_zero_iff.mp (by omega)
          rw [spaces.apart behind none]
          rfl
        · intro tied touching
          have none : gap = [] := List.length_eq_zero_iff.mp (by omega)
          rw [spaces.tied left List.getLast?_concat tied none]
          rfl
      · exact ih further later

/-! ## Code in both layouts -/

/-- Behind a token of code, the text up to the blanks in front of the closing parenthesis is the
same in both layouts. -/
theorem Laid.code {depth : Nat} {close : Token}
    (laid : Laid place (front ++ [t]) n n' s s' (tokens ++ close :: others))
    (inside : codeDepth front ≠ 0) (level : codeDepth (front ++ [t]) = depth + 1)
    (closed : Closed depth tokens) :
    ∃ code gap gap' rest rest', s = code ++ (gap ++ rest) ∧ s' = code ++ (gap' ++ rest') ∧
      (∀ c ∈ gap, Text.isBlank c = true) ∧ (∀ c ∈ gap', Text.isBlank c = true) ∧
      close.start = n + (code ++ gap).length ∧
      (close.relocate place).start = n' + (code ++ gap').length := by
  induction tokens generalizing front t depth n n' s s' with
  | nil =>
      obtain ⟨gap, gap', rest, rest', rfl, rfl, spaces, start, startThere, -⟩ := laid.uncons
      exact ⟨[], gap, gap', _, _, rfl, rfl, spaces.blank, spaces.blankThere, start, startThere⟩
  | cons u tokens ih =>
      obtain ⟨kept, kept', rest, rest', rfl, rfl, spaces, start, startThere, further⟩ := laid.uncons
      obtain ⟨next, here, behind⟩ := deepen_of_closed closed
      have deeper : codeDepth (front ++ [t] ++ [u]) = next + 1 := by
        rw [codeDepth_concat, level, here]
      have within : WithinCode (front ++ [t]) u := by
        refine ⟨?_, ?_, ?_⟩
        · rw [List.dropLast_concat]
          exact inside
        · rw [level]
          exact Nat.succ_ne_zero _
        · rw [deeper]
          exact Nat.succ_ne_zero _
      obtain rfl := spaces.code within
      obtain ⟨code, gap, gap', more, more', rfl, rfl, blank, blankThere, stops, stopsThere⟩ :=
        ih further (within.2.1) deeper behind
      refine ⟨kept' ++ (u.text ++ code), gap, gap', more, more', ?_, ?_, blank, blankThere, ?_, ?_⟩
      · simp only [List.append_assoc]
      · simp only [List.append_assoc]
      · rw [stops, stop, start]
        simp only [List.length_append]
        omega
      · rw [stopsThere, stop, startThere]
        simp only [List.length_append, relocate_text]
        omega

/-- Between the parentheses of code, the text is the same in both layouts but for the blanks at its
ends. -/
theorem Laid.parenthesized {paren close : Token} {inner : List Token}
    (laid : Laid place (front ++ [paren]) n n' s s' (inner ++ close :: others))
    (level : codeDepth (front ++ [paren]) = 1) (balanced : Balanced inner) :
    ∃ before before' code gap gap' rest rest', s = (before ++ (code ++ gap)) ++ rest ∧
      s' = (before' ++ (code ++ gap')) ++ rest' ∧
      (∀ c ∈ before, Text.isBlank c = true) ∧ (∀ c ∈ before', Text.isBlank c = true) ∧
      (∀ c ∈ gap, Text.isBlank c = true) ∧ (∀ c ∈ gap', Text.isBlank c = true) ∧
      close.start = n + (before ++ (code ++ gap)).length ∧
      (close.relocate place).start = n' + (before' ++ (code ++ gap')).length := by
  obtain closed : Closed (0 : Nat) inner := closed_zero_iff.mpr balanced
  cases inner with
  | nil =>
      obtain ⟨gap, gap', rest, rest', rfl, rfl, spaces, start, startThere, -⟩ := laid.uncons
      exact ⟨[], [], [], gap, gap', _, _, rfl, rfl, fun c none => (by cases none),
        fun c none => (by cases none), spaces.blank, spaces.blankThere, start, startThere⟩
  | cons t inner =>
      obtain ⟨before, before', rest, rest', rfl, rfl, spaces, start, startThere, further⟩ :=
        laid.uncons
      obtain ⟨depth, here, behind⟩ := deepen_of_closed closed
      have deeper : codeDepth (front ++ [paren] ++ [t]) = depth + 1 := by
        rw [codeDepth_concat, level, here]
      have inside : codeDepth (front ++ [paren]) ≠ 0 := by
        rw [level]
        exact Nat.one_ne_zero
      obtain ⟨code, gap, gap', more, more', rfl, rfl, blank, blankThere, stops, stopsThere⟩ :=
        Laid.code further inside deeper behind
      refine ⟨before, before', t.text ++ code, gap, gap', more, more', ?_, ?_, spaces.blank,
        spaces.blankThere, blank, blankThere, ?_, ?_⟩
      · simp only [List.append_assoc]
      · simp only [List.append_assoc]
      · rw [stops, stop, start]
        simp only [List.length_append]
        omega
      · rw [stopsThere, stop, startThere]
        simp only [List.length_append, relocate_text]
        omega

/-- Blanks around a text are cut off with its own. -/
theorem strip_of_blank {before after : Text} (blank : ∀ c ∈ before, Text.isBlank c = true)
    (blankBehind : ∀ c ∈ after, Text.isBlank c = true) (s : Text) :
    Text.strip (before ++ (s ++ after)) = Text.strip s := by
  rw [Text.strip, Text.dropBlanks_behind_blanks blank, ← Text.strip,
    ← Text.dropBlanks_dropTrailingBlanks, Text.dropTrailingBlanks_before_blanks blankBehind,
    Text.dropBlanks_dropTrailingBlanks]

/-- The code between two positions. -/
theorem codeBetween_split {front inner : Text} (behind : Text) {start close : Nat}
    (starts : start = front.length) (stops : close = start + inner.length) :
    codeBetween (front ++ (inner ++ behind)) start close = Text.strip inner := by
  have whole : codeBetween inner 0 inner.length = Text.strip inner := by
    rw [codeBetween, List.take_length, List.drop_zero]
  rw [← whole, ← codeBetween_part front inner behind (Nat.le_refl inner.length), Nat.zero_add,
    ← starts, Nat.add_comm inner.length, ← stops]

/-- The tokens of a layout belong together at their places in the other one as they did. -/
theorem Laid.relocated {source target : Text} (laid : Laid place [] 0 0 source target tokens) :
    Relocated place source target tokens where
  apart _ _ neighbours := (laid.touches neighbours).1
  tied _ _ neighbours := (laid.touches neighbours).2
  code := by
    rintro front paren inner close others rfl outside mark balanced closeMark
    obtain ⟨a, a', b, b', rfl, rfl, behind⟩ := laid.behind
    rw [List.nil_append, Nat.zero_add, Nat.zero_add] at behind
    obtain ⟨gap, gap', rest, rest', rfl, rfl, -, start, startThere, inside⟩ := behind.uncons
    have level : codeDepth (front ++ [paren]) = 1 := by
      rw [codeDepth_append outside]
      exact if_pos mark
    obtain ⟨before, before', code, last, last', more, more', rfl, rfl, blank, blankThere,
      blankBehind, blankBehindThere, stops, stopsThere⟩ := inside.parenthesized level balanced
    have opens : paren.stop = (a ++ (gap ++ paren.text)).length := by
      rw [stop, start]
      simp only [List.length_append]
      omega
    have opensThere : (paren.relocate place).stop = (a' ++ (gap' ++ paren.text)).length := by
      rw [stop, startThere]
      simp only [List.length_append, relocate_text]
      omega
    have here := codeBetween_split more opens stops
    have there := codeBetween_split more' opensThere stopsThere
    rw [strip_of_blank blank blankBehind] at here
    rw [strip_of_blank blankThere blankBehindThere] at there
    simp only [List.append_assoc] at here there ⊢
    rw [here, there]

end Token

namespace Attribute

open Outcome Token

/-- **Layout does not change meaning.** In another layout of an accepted attribute list the same
tokens are read as the same attributes, each at the place of the token with which it starts. -/
theorem read_respaced {source target : Text} {tokens : List Token}
    {entries : List ElementTags.Entry} (scanned : Token.scan source = .ok tokens)
    (accepted : read source = .ok entries) (respaced : Respaced [] source target tokens) :
    ∃ place : Nat → Nat,
      Token.scan target = .ok (tokens.map (Token.relocate place)) ∧
      read target = .ok (entries.map (Entry.relocate place)) ∧
      (entries.map (·.start)).Sublist (tokens.map (·.start)) := by
  have segments := segments_of_scanFrom scanned
  obtain ⟨place, there⟩ := respaced.exists_place segments 0
  have laid : Laid place [] 0 0 source target tokens := ⟨respaced, segments, there⟩
  have scannedThere : Token.scan target = .ok (tokens.map (Token.relocate place)) :=
    there.scanFrom_eq
  rw [read, scanned] at accepted
  obtain ⟨entriesThere, starts⟩ :=
    readEntries_relocated (part_of_scan scanned) accepted laid.relocated
  refine ⟨place, scannedThere, ?_, starts⟩
  rw [read, scannedThere]
  exact entriesThere

/-- The list `-1 (p +q)` with more blanks around its tokens. -/
theorem read_respaced_code : ∃ entries, read "-1 (p +q)".toList = .ok entries ∧
    ∃ place : Nat → Nat,
      Token.scan " -1\n( p +q )".toList =
        .ok ([⟨.mark, ['-'], 0⟩, ⟨.name, ['1'], 1⟩, ⟨.mark, ['('], 3⟩, ⟨.name, ['p'], 4⟩,
          ⟨.mark, ['+'], 6⟩, ⟨.name, ['q'], 7⟩, ⟨.mark, [')'], 8⟩].map (Token.relocate place)) ∧
      read " -1\n( p +q )".toList = .ok (entries.map (Entry.relocate place)) := by
  obtain ⟨entries, accepted⟩ : ∃ entries, read "-1 (p +q)".toList = .ok entries :=
    ok_of_toBool (by cbv)
  have characters : "-1 (p +q)".toList = ['-', '1', ' ', '(', 'p', ' ', '+', 'q', ')'] := by decide
  have charactersThere : " -1\n( p +q )".toList =
      [' ', '-', '1', '\n', '(', ' ', 'p', ' ', '+', 'q', ' ', ')'] := by decide
  have none : ∀ c ∈ ([] : Text), Text.isBlank c = true := fun c member => (by cases member)
  have space : ∀ c ∈ [' '], Text.isBlank c = true := List.forall_mem_singleton.mpr rfl
  have line : ∀ c ∈ ['\n'], Text.isBlank c = true := List.forall_mem_singleton.mpr rfl
  have spaced {front tokens : List Token} (t : Token) {gap gap' : Text} {rest rest' : Text}
      (spaces : Respaceable front t gap gap') (behind : Respaced (front ++ [t]) rest rest' tokens) :
      Respaced front (gap ++ (t.text ++ rest)) (gap' ++ (t.text ++ rest')) (t :: tokens) :=
    .token spaces behind
  have respaced : Respaced [] "-1 (p +q)".toList " -1\n( p +q )".toList
      [⟨.mark, ['-'], 0⟩, ⟨.name, ['1'], 1⟩, ⟨.mark, ['('], 3⟩, ⟨.name, ['p'], 4⟩,
        ⟨.mark, ['+'], 6⟩, ⟨.name, ['q'], 7⟩, ⟨.mark, [')'], 8⟩] := by
    rw [characters, charactersThere]
    refine spaced ⟨.mark, ['-'], 0⟩ ⟨none, space, by decide, by decide, by decide⟩ ?_
    refine spaced ⟨.name, ['1'], 1⟩ ⟨none, none, by decide, by decide, by decide⟩ ?_
    refine spaced ⟨.mark, ['('], 3⟩ ⟨space, line, by decide, by decide, by decide⟩ ?_
    refine spaced ⟨.name, ['p'], 4⟩ ⟨none, space, by decide, by decide, by decide⟩ ?_
    refine spaced ⟨.mark, ['+'], 6⟩ ⟨space, space, by decide, by decide, by decide⟩ ?_
    refine spaced ⟨.name, ['q'], 7⟩ ⟨none, none, by decide, by decide, by decide⟩ ?_
    refine spaced ⟨.mark, [')'], 8⟩ ⟨none, space, by decide, by decide, by decide⟩ ?_
    exact .last none none
  obtain ⟨place, scanned, there, -⟩ := read_respaced (by cbv) accepted respaced
  exact ⟨entries, accepted, place, scanned, there⟩

end Attribute
end ElementTags
