import Mathlib.Data.List.TakeWhile
import ElementTags.Attribute.Words
import ElementTags.Proofs.Rereading

/-! # Texts that are one word

Blanks separate words, but not within a literal. A text of literals and of characters
outside of quotes is one word wherever a blank or nothing follows
(`ElementTags.Words.word_solid`), so texts of this kind with blanks in front of each
are the words of the whole (`ElementTags.Words.splitWithin_lined`), unless the
first of them starts a localized text (`ElementTags.Words.joinLocalized_plain`).
-/

namespace ElementTags

namespace Text

/-- Texts one behind the other, with blanks in front of each and perhaps behind the last one. -/
inductive Lined : List Text → Text → Prop
  | last {gap : Text} (blank : ∀ c ∈ gap, isBlank c = true) : Lined [] gap
  | cons {gap s rest : Text} {texts : List Text} (nonempty : gap ≠ [])
      (blank : ∀ c ∈ gap, isBlank c = true) (others : Lined texts rest) :
      Lined (s :: texts) (gap ++ (s ++ rest))

variable {texts : List Text} {rest : Text}

/-- A blank or nothing stands in front of the first text. -/
theorem Lined.head_blank (lined : Lined texts rest) : ∀ c ∈ rest.head?, isBlank c = true := by
  cases lined with
  | last blank => exact fun c first => blank c (List.mem_of_head? first)
  | @cons gap s rest texts nonempty blank others =>
      obtain ⟨d, gap, rfl⟩ := List.exists_cons_of_ne_nil nonempty
      intro c first
      obtain rfl := Option.some.inj first
      exact blank d List.mem_cons_self

theorem Lined.length_le (lined : Lined texts rest) : texts.length ≤ rest.length := by
  induction lined with
  | last blank => exact Nat.zero_le _
  | @cons gap s rest texts nonempty blank others ih =>
      have some := List.length_pos_of_ne_nil nonempty
      simp only [List.length_cons, List.length_append]
      omega

end Text

namespace FilterExpr

/-- What stands behind a literal does not matter. -/
theorem literalTail_append {quote : Char} (noBackslash : quote ≠ '\\') {s body rest : Text}
    (read : literalTail quote s = some (body, rest)) (more : Text) :
    literalTail quote (s ++ more) = some (body, rest ++ more) := by
  fun_induction literalTail quote s generalizing body rest with
  | case1 => cases read
  | case2 => cases read
  | case3 c s sameLine ih =>
      obtain ⟨⟨inner, behind⟩, found, same⟩ := Option.map_eq_some_iff.mp read
      cases same
      rw [List.cons_append, List.cons_append, literalTail, if_neg sameLine, ih found]
      rfl
  | case4 s noEscape =>
      cases read
      rw [List.cons_append, Written.literalTail_cons noBackslash, if_pos rfl]
  | case5 => cases read
  | case6 c s noEscape other plain ih =>
      obtain ⟨⟨inner, behind⟩, found, same⟩ := Option.map_eq_some_iff.mp read
      cases same
      rw [List.cons_append, Written.literalTail_cons plain, if_neg other, ih found]
      rfl

/-- A text that the host reads as one literal. -/
def Literal (s : Text) : Prop := literal? s = some (s, [])

variable {s : Text}

theorem Literal.append (literal : Literal s) (more : Text) :
    literal? (s ++ more) = some (s, more) := by
  cases s with
  | nil => cases literal
  | cons quote s =>
      rw [Literal, literal?] at literal
      split at literal
      · rename_i isQuote
        obtain ⟨⟨body, rest⟩, found, same⟩ := Option.map_eq_some_iff.mp literal
        cases same
        have behind := literalTail_append (Written.ne_backslash_of_isQuote isQuote) found more
        rw [List.cons_append, literal?, if_pos isQuote, behind]
        rfl
      · cases literal

theorem Literal.head (literal : Literal s) : ∃ quote rest, s = quote :: rest ∧
    Text.isQuote quote = true := by
  cases s with
  | nil => cases literal
  | cons quote s =>
      rw [Literal, literal?] at literal
      split at literal
      · rename_i isQuote
        exact ⟨quote, s, rfl, isQuote⟩
      · cases literal

end FilterExpr

namespace Words

open FilterExpr (Literal)
open Text (isBlank Lined)
open Written (takeWhile_append_of_head)

/-! ## One word -/

/-- Literals, each with characters outside of quotes behind it. -/
inductive Quoted : Text → Prop
  | nil : Quoted []
  | cons {literal bare s : Text} (isLiteral : Literal literal)
      (outside : ∀ c ∈ bare, isBare c = true) (others : Quoted s) : Quoted (literal ++ (bare ++ s))

/-- Characters outside of quotes, with literals behind them. -/
def Solid (s : Text) : Prop :=
  ∃ bare quoted, s = bare ++ quoted ∧ (∀ c ∈ bare, isBare c = true) ∧ Quoted quoted

variable {s t rest : Text}

theorem solid_of_bare (outside : ∀ c ∈ s, isBare c = true) : Solid s :=
  ⟨s, [], (List.append_nil s).symm, outside, .nil⟩

theorem Solid.behind_bare (solid : Solid t) (outside : ∀ c ∈ s, isBare c = true) :
    Solid (s ++ t) := by
  obtain ⟨bare, quoted, rfl, more, literals⟩ := solid
  refine ⟨s ++ bare, quoted, (List.append_assoc _ _ _).symm, fun c member => ?_, literals⟩
  rcases List.mem_append.mp member with front | back
  · exact outside c front
  · exact more c back

theorem Solid.behind_literal (solid : Solid t) (literal : Literal s) : Solid (s ++ t) := by
  obtain ⟨bare, quoted, rfl, more, literals⟩ := solid
  exact ⟨[], s ++ (bare ++ quoted), rfl, fun c none => (by cases none), .cons literal more literals⟩

theorem isBlank_of_isBare {c : Char} (bare : isBare c = true) : isBlank c = false := by
  rw [isBare, Bool.and_eq_true, Bool.and_eq_true, Bool.not_eq_true'] at bare
  exact bare.1.1

theorem isBare_of_isBlank {c : Char} (blank : isBlank c = true) : isBare c = false := by
  rw [isBare, blank]
  rfl

theorem isBare_of_isQuote {c : Char} (isQuote : Text.isQuote c = true) : isBare c = false := by
  rw [Text.isQuote, Bool.or_eq_true, decide_eq_true_eq, decide_eq_true_eq] at isQuote
  rcases isQuote with rfl | rfl <;> decide +kernel

theorem isBare_eq {c : Char} : isBare c = (!isBlank c && !Text.isQuote c) := by
  rw [isBare, Text.isQuote, Bool.not_or, ← Bool.and_assoc, decide_not, decide_not]

/-- No character outside of quotes stands in front of literals, where a blank or nothing follows. -/
theorem Quoted.head (quoted : Quoted s) (ended : ∀ c ∈ rest.head?, isBlank c = true) :
    ∀ c ∈ (s ++ rest).head?, isBare c = false := by
  cases quoted with
  | nil => exact fun c first => isBare_of_isBlank (ended c first)
  | cons isLiteral outside others =>
      obtain ⟨quote, body, rfl, isQuote⟩ := isLiteral.head
      intro c first
      obtain rfl := Option.some.inj first
      exact isBare_of_isQuote isQuote

/-- No literal starts with a blank. -/
theorem literal?_of_blank (ended : ∀ c ∈ rest.head?, isBlank c = true) :
    FilterExpr.literal? rest = none := by
  cases rest with
  | nil => rfl
  | cons c rest =>
      rw [FilterExpr.literal?, if_neg]
      intro isQuote
      have other := Text.isBlank_of_isQuote isQuote
      rw [ended c rfl] at other
      cases other

theorem quotedParts_quoted (quoted : Quoted s) (ended : ∀ c ∈ rest.head?, isBlank c = true)
    {limit : Nat} (enough : s.length ≤ limit) : quotedParts limit (s ++ rest) = (s, rest) := by
  induction quoted generalizing limit with
  | nil =>
      cases limit with
      | zero => rfl
      | succ limit => rw [List.nil_append, quotedParts, literal?_of_blank ended]
  | @cons literal bare s isLiteral outside others ih =>
      obtain ⟨quote, body, split, isQuote⟩ := isLiteral.head
      rw [List.length_append, List.length_append, split, List.length_cons] at enough
      cases limit with
      | zero => omega
      | succ limit =>
          have stop := takeWhile_append_of_head outside (others.head ended)
          rw [List.append_assoc, List.append_assoc, quotedParts, isLiteral.append]
          dsimp only
          rw [stop.1, stop.2, ih (by omega)]
          simp only [List.append_assoc]

/-- A text of literals and characters outside of quotes is one word. -/
theorem word_solid (solid : Solid s) (ended : ∀ c ∈ rest.head?, isBlank c = true) :
    word (s ++ rest) = (s, rest) := by
  obtain ⟨bare, quoted, rfl, outside, literals⟩ := solid
  have stop := takeWhile_append_of_head outside (literals.head ended)
  have enough : quoted.length ≤ (bare ++ (quoted ++ rest)).length := by
    simp only [List.length_append]
    omega
  have parts := quotedParts_quoted literals ended enough
  rw [word, List.append_assoc, stop.1, stop.2, parts]
  dsimp only
  cases quoted with
  | nil =>
      have notBlank : ∀ c ∈ bare, (!isBlank c) = true := fun c member => by
        rw [isBlank_of_isBare (outside c member)]
        rfl
      have blank : ∀ c ∈ rest.head?, (!isBlank c) = false := fun c first => by
        rw [ended c first]
        rfl
      have whole := takeWhile_append_of_head notBlank blank
      rw [List.nil_append, List.append_nil, whole.1, whole.2]
      rfl
  | cons c quoted => rfl

/-! ## Many words -/

/-- A word of a list is a text of literals and characters outside of quotes, but not an empty
one. -/
structure Proper (s : Text) : Prop where
  nonempty : s ≠ []
  solid : Solid s

theorem Proper.head_not_blank (proper : Proper s) :
    ∃ c rest, s = c :: rest ∧ isBlank c = false := by
  obtain ⟨nonempty, bare, quoted, rfl, outside, literals⟩ := proper
  cases bare with
  | cons c bare => exact ⟨c, _, rfl, isBlank_of_isBare (outside c List.mem_cons_self)⟩
  | nil =>
      cases literals with
      | nil => exact absurd rfl nonempty
      | cons isLiteral _ _ =>
          obtain ⟨quote, body, rfl, isQuote⟩ := isLiteral.head
          exact ⟨quote, _, rfl, Text.isBlank_of_isQuote isQuote⟩

theorem Proper.head?_append (proper : Proper s) :
    ∀ c ∈ (s ++ rest).head?, isBlank c = false := by
  obtain ⟨c, more, rfl, notBlank⟩ := proper.head_not_blank
  intro d first
  obtain rfl := Option.some.inj first
  exact notBlank

theorem splitWithin_of_blank {gap : Text} (blank : ∀ c ∈ gap, isBlank c = true) (limit : Nat) :
    splitWithin limit gap = [] := by
  cases limit with
  | zero => rfl
  | succ limit =>
      have nothing : Text.dropBlanks gap = [] := List.dropWhile_eq_nil_iff.mpr blank
      rw [splitWithin, nothing]

theorem splitWithin_word {gap : Text} (proper : Proper s) (blank : ∀ c ∈ gap, isBlank c = true)
    (ended : ∀ c ∈ rest.head?, isBlank c = true) (limit : Nat) :
    splitWithin (limit + 1) (gap ++ (s ++ rest)) = s :: splitWithin limit rest := by
  obtain ⟨c, more, split, notBlank⟩ := proper.head_not_blank
  have front : Text.dropBlanks (gap ++ (s ++ rest)) = c :: (more ++ rest) := by
    rw [Text.dropBlanks_behind_blanks blank, Text.dropBlanks_of_head proper.head?_append, split]
    rfl
  have taken := word_solid proper.solid ended
  rw [split, List.cons_append] at taken
  rw [splitWithin, front]
  dsimp only
  rw [taken, split]

/-- Words with blanks in front of each are taken apart again. -/
theorem splitWithin_lined {texts : List Text} (lined : Lined texts rest)
    (proper : ∀ s ∈ texts, Proper s) {limit : Nat} (enough : texts.length ≤ limit) :
    splitWithin limit rest = texts := by
  induction lined generalizing limit with
  | last blank => exact splitWithin_of_blank blank limit
  | @cons gap s rest texts nonempty blank others ih =>
      obtain ⟨first, further⟩ := List.forall_mem_cons.mp proper
      cases limit with
      | zero => cases enough
      | succ limit =>
          rw [splitWithin_word first blank others.head_blank,
            ih further (Nat.le_of_succ_le_succ enough)]

/-- Words of which none starts a localized text stay apart. -/
theorem joinLocalized_plain {texts : List Text} (plain : ∀ s ∈ texts, localizedQuote? s = none) :
    joinLocalized texts = .ok texts := by
  induction texts with
  | nil => rw [joinLocalized]
  | cons s texts ih =>
      obtain ⟨first, further⟩ := List.forall_mem_cons.mp plain
      rw [joinLocalized, first]
      dsimp only
      rw [ih further]
      rfl

end Words
end ElementTags
