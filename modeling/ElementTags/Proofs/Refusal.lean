import ElementTags.Proofs.FaultPosition
import ElementTags.Proofs.Soundness

/-! # How malformed attributes are refused

An attribute list is read, or it is refused with one of two kinds of fault: the host
does not accept a value or a filter, or the grammar does not accept a token. The
complaint about a token tells it and its position, and where the list ends too early
it tells the closing mark and the end (`ElementTags.Attribute.read_outcome`).

The readers look at the first character of tokens and operands, and drop the quotes
of texts in quotes. Neither has a meaning for every text, but tokens and operands
have a first character, and quotes where they are dropped.
-/

namespace ElementTags

open Outcome Token

/-- The text that a literal stands for, if it is one: a text in a pair of the same quotes. -/
def Text.unquote? (s : Text) : Option Text := if isEnclosed s then some (unquote s) else none

theorem Text.unquote?_of_isEnclosed {s : Text} (enclosed : isEnclosed s = true) :
    unquote? s = some (unquote s) := if_pos enclosed

/-- A token has a first character, and one in quotes has quotes. -/
structure Token.Complete (t : Token) : Prop where
  first : t.text.head?.isSome = true
  quotes : t.kind = .quoted → Text.unquote? t.text = some (Text.unquote t.text)

/-- An operand has a first character, which is a quote for literals only, and literals have
quotes. -/
structure Attribute.WrittenOperand.Complete (operand : Attribute.WrittenOperand) : Prop where
  first : operand.text.head?.map Text.isQuote = some operand.isLiteral
  quotes : operand.isLiteral = true → Text.unquote? operand.text = some (Text.unquote operand.text)

/-- The position of a complaint is one of the source or its end, and the token stands there, unless
the source ends too early. -/
def GrammarFault.Faithful (fault : GrammarFault) (source : Text) : Prop :=
  fault.position ≤ source.length ∧
    ((fault.token ≠ [] ∧ (source.drop fault.position).take fault.token.length = fault.token) ∨
      (fault.token = Attribute.blockEnd ∧ fault.position = source.length))

/-- The fault of a value or filter, or a complaint at a faithful position. -/
def AttributeFault.Faithful (source : Text) : AttributeFault → Prop
  | .value _ => True
  | .grammar fault => fault.Faithful source
  | _ => False

theorem GrammarFault.StandsIn.faithful {fault : GrammarFault} {source : Text}
    (stands : fault.StandsIn source) : fault.Faithful source := by
  refine ⟨Nat.le_of_lt stands.position_lt, .inl ⟨stands.1, ?_⟩⟩
  obtain ⟨-, before, behind, rfl, start⟩ := stands
  rw [← start, List.drop_left, List.take_left]

namespace Token

/-- A quoted text ends with its closing quote. -/
theorem getLast?_of_quotedTail {quote : Char} {s body rest : Text}
    (closed : quotedTail quote s = some (body, rest)) : body.getLast? = some quote := by
  fun_induction quotedTail quote s generalizing body rest with
  | case1 => cases closed
  | case2 => cases closed
  | case3 c s ih =>
      obtain ⟨⟨b, r⟩, inner, same⟩ := Option.map_eq_some_iff.mp closed
      obtain ⟨rfl, rfl⟩ := Prod.mk.inj same
      rw [List.getLast?_cons, List.getLast?_cons, ih inner]
      rfl
  | case4 s =>
      obtain ⟨rfl, rfl⟩ := Prod.mk.inj (Option.some.inj closed)
      rfl
  | case5 c s _ _ _ ih =>
      obtain ⟨⟨b, r⟩, inner, same⟩ := Option.map_eq_some_iff.mp closed
      obtain ⟨rfl, rfl⟩ := Prod.mk.inj same
      rw [List.getLast?_cons, ih inner]
      rfl

theorem Lexeme.isEnclosed {s : Text} (lexeme : Lexeme .quoted s) : Text.isEnclosed s = true := by
  obtain ⟨quote, body, rfl, isQuote, closed⟩ := lexeme
  rw [Text.isEnclosed, isQuote, getLast?_of_quotedTail closed, Bool.true_and, beq_self_eq_true]

theorem Lexeme.exists_head {kind : TokenKind} {s : Text} (lexeme : Lexeme kind s) :
    ∃ c rest, s = c :: rest := List.exists_cons_of_ne_nil lexeme.ne_nil

theorem Part.complete {source : Text} {tokens : List Token} (part : Part source tokens) {t : Token}
    (member : t ∈ tokens) : t.Complete where
  first := by
    obtain ⟨c, rest, shape⟩ := (part.lexeme member).exists_head
    rw [shape]
    rfl
  quotes := by
    intro quoted
    have lexeme := part.lexeme member
    rw [quoted] at lexeme
    exact Text.unquote?_of_isEnclosed lexeme.isEnclosed

end Token

namespace Attribute

open Written

/-- Every operand is complete. -/
theorem complete_operand (operand : Written.Operand) : operand.operand.Complete := by
  cases operand with
  | literal word =>
      refine ⟨?_, fun _ => Text.unquote?_of_isEnclosed word.lexeme.isEnclosed⟩
      obtain ⟨quote, body, shape, isQuote, -⟩ := word.lexeme
      change word.text.head?.map Text.isQuote = some true
      rw [shape, List.head?_cons, Option.map_some, isQuote]
  | name word =>
      refine ⟨?_, fun literal => by cases literal⟩
      obtain ⟨c, rest, shape⟩ := word.lexeme.exists_head
      have named := word.lexeme.2 c (shape ▸ List.mem_cons_self)
      change word.text.head?.map Text.isQuote = some false
      rw [shape, List.head?_cons, Option.map_some, Text.isQuote_of_isNameChar named]
  | negative number => exact ⟨rfl, fun literal => by cases literal⟩
  | localized word => exact ⟨rfl, fun literal => by cases literal⟩

/-- Reading fails with faithful faults only. -/
theorem faithful_of_read {source : Text} {fault : AttributeFault}
    (refused : read source = .error fault) : fault.Faithful source :=
  fault_of_read (fun _ scanned => (standsIn_of_unclosed scanned).faithful)
    ⟨Nat.le_refl _, .inr ⟨rfl, rfl⟩⟩
    (fun _ scanned _ member complaint => (standsIn_of_mem scanned member complaint).faithful)
    (fun _ => trivial) refused

/-- **Malformed attributes are refused as such, at a faithful position.** Every attribute list is
read, or refused since the host does not accept a value or a filter, or since the grammar does not
accept a token, and then the position of the token is faithful. On the way, every token has the
characters that the readers ask for, and so has every operand and every argument of a filter that
is read from the tokens behind those that were read before. -/
theorem read_outcome (source : Text) :
    ((∃ entries, read source = .ok entries) ∨ (∃ fault, read source = .error (.value fault)) ∨
      ∃ fault, read source = .error (.grammar fault) ∧ fault.Faithful source) ∧
    ∀ tokens, scan source = .ok tokens →
      (∀ t ∈ tokens, t.Complete) ∧ ∀ ts, ts <:+ tokens →
        (∀ r, readOperand source ts = .ok r → r.value.Complete) ∧
        ∀ r, readCalls source ts = .ok r →
          ∀ call ∈ r.value, ∀ operand ∈ call.argument, operand.Complete := by
  refine ⟨?_, fun tokens scanned => ?_⟩
  · cases result : read source with
    | ok entries => exact .inl ⟨entries, rfl⟩
    | error fault =>
        have faithful := faithful_of_read result
        cases fault with
        | value f => exact .inr (.inl ⟨f, rfl⟩)
        | grammar f => exact .inr (.inr ⟨f, rfl, faithful⟩)
        | repeatedKeyword tag key => cases faithful
        | positionalAfterKeyword tag => cases faithful
        | openLocalized => cases faithful
  · have part := part_of_scan scanned
    refine ⟨fun t => part.complete, ?_⟩
    rintro ts ⟨front, rfl⟩
    refine ⟨?_, ?_⟩
    · rintro ⟨value, rest, within⟩ found
      obtain ⟨operand, -, -, -, rfl⟩ := readOperand_sound part.behind found
      exact complete_operand operand
    · rintro ⟨value, rest, within⟩ found call member operand argument
      obtain ⟨calls, -, -, -, rfl⟩ := readCalls_sound part.behind found
      obtain ⟨written, -, rfl⟩ := List.mem_map.mp member
      obtain ⟨own, -, rfl⟩ := Option.mem_map.mp argument
      exact complete_operand own

/-- A quote that is not closed is complained about where it stands, and the tokens of a closed one
are complete. -/
theorem read_outcome_quoted :
    (∃ fault, read "a='b".toList = .error (.grammar fault) ∧ fault.Faithful "a='b".toList) ∧
      ∃ tokens, scan "a='b'".toList = .ok tokens ∧ tokens.length = 3 ∧
        ∀ t ∈ tokens, t.Complete := by
  constructor
  · have refused : read "a='b".toList =
        .error (.grammar ⟨.unexpectedToken, "'b".toList, 2⟩) := by cbv
    obtain ⟨entries, result⟩ | ⟨fault, result⟩ | faithful := (read_outcome "a='b".toList).1
    · rw [refused] at result
      cases result
    · rw [refused] at result
      cases result
    · exact faithful
  · have scanned : scan "a='b'".toList = .ok [⟨.name, ['a'], 0⟩, ⟨.mark, ['='], 1⟩,
        ⟨.quoted, "'b'".toList, 2⟩] := by cbv
    exact ⟨_, scanned, rfl, ((read_outcome "a='b'".toList).2 _ scanned).1⟩

end Attribute
end ElementTags
