import ElementTags.Proofs.Lookahead
import ElementTags.Proofs.Spelling

/-! # Boundaries behind attributes

No form of the grammar looks across the boundary of an attribute: what spells an
attribute in front of one token spells it in front of any token that starts
something new (`ElementTags.Written.Boundary`). That token continues no value and no
key, and it touches the attribute only if it ends an item wherever it stands.
-/

namespace ElementTags

namespace Token

open Attribute

/-- Whether a token may continue a value or a key in front of it. -/
def continues (t : Token) : Bool :=
  t.isMark '|' || t.isMark ':' || t.isMark '=' || (operator? t).isSome

/-- Whether a token ends an item or an attribute, wherever it stands. -/
def delimits (t : Token) : Bool := t.isMark ',' || t.isMark ']' || t.isMark '\x7d'

theorem isMark_of_delimits {t : Token} (delimiter : t.delimits = true) {c : Char}
    (other : c ≠ ',' ∧ c ≠ ']' ∧ c ≠ '\x7d') : t.isMark c = false := by
  simp only [delimits, Bool.or_eq_true] at delimiter
  rcases delimiter with (mark | mark) | mark
  · exact isMark_of_ne mark (Ne.symm other.1)
  · exact isMark_of_ne mark (Ne.symm other.2.1)
  · exact isMark_of_ne mark (Ne.symm other.2.2)

theorem kind_of_delimits {t : Token} (delimiter : t.delimits = true) : t.kind = .mark := by
  simp only [delimits, Bool.or_eq_true] at delimiter
  rcases delimiter with (mark | mark) | mark <;> exact kind_of_isMark mark

end Token

namespace Written

open Attribute Token

/-- What stands next starts something new behind some tokens. -/
def Boundary (tokens : List Token) (next : Option Token) : Prop :=
  ∀ t ∈ next, t.continues = false ∧ ∀ last ∈ tokens.getLast?, last.touches t = true →
    t.delimits = true

variable {source : Text} {own tokens : List Token} {next next' : Option Token}

theorem boundary_none (tokens : List Token) : Boundary tokens none := by
  intro t none
  cases none

theorem Boundary.suffix (boundary : Boundary (own ++ tokens) next) : Boundary tokens next := by
  intro t same
  obtain ⟨fresh, apart⟩ := boundary t same
  refine ⟨fresh, fun last final => apart last ?_⟩
  rw [Option.mem_def] at final ⊢
  rw [List.getLast?_append, final, Option.some_or]

theorem Boundary.tail {t : Token} (boundary : Boundary (t :: tokens) next) : Boundary tokens next :=
  Boundary.suffix (show Boundary ([t] ++ tokens) next from boundary)

theorem Boundary.noMark (boundary : Boundary tokens next) {c : Char}
    (continuing : c = '|' ∨ c = ':' ∨ c = '=') : NoMark c next := by
  intro t same
  have fresh := (boundary t same).1
  simp only [continues, Bool.or_eq_false_iff] at fresh
  rcases continuing with rfl | rfl | rfl
  · exact fresh.1.1.1
  · exact fresh.1.1.2
  · exact fresh.1.2

theorem Boundary.noOperator (boundary : Boundary tokens next) : NoOperator next := by
  intro t same
  have fresh := (boundary t same).1
  simp only [continues, Bool.or_eq_false_iff, Option.isSome_eq_false_iff,
    Option.isNone_iff_eq_none] at fresh
  exact fresh.2

/-- What holds of the next token holds of another one in its place. -/
theorem ahead_or {P : Token → Prop} (here : ∀ t ∈ tokens.head?.or next, P t)
    (there : ∀ t ∈ next', P t) : ∀ t ∈ tokens.head?.or next', P t := by
  cases tokens with
  | nil => exact there
  | cons t tokens => exact here

theorem Operand.Spelled.renew {operand : Operand} (spelled : operand.Spelled own next)
    (boundary : Boundary own next') : operand.Spelled own next' := by
  cases spelled with
  | literal kind text => exact .literal kind text
  | name kind text _ =>
      refine .name kind text fun _ paren same mark => ?_
      refine eq_false_of_ne_true fun touching => ?_
      have delimiter := (boundary paren same).2 _ rfl touching
      rw [isMark_of_delimits delimiter (by decide)] at mark
      cases mark
  | negative mark kind text adjacent => exact .negative mark kind text adjacent
  | localized nameKind nameText opening adjacent kind text closing =>
      exact .localized nameKind nameText opening adjacent kind text closing

/-- An operand stands in front of other tokens or at the boundary. -/
theorem Operand.Spelled.renewBehind {operand : Operand}
    (spelled : operand.Spelled own (tokens.head?.or next))
    (boundary : Boundary (own ++ tokens) next') :
    operand.Spelled own (tokens.head?.or next') := by
  cases tokens with
  | nil =>
      rw [List.append_nil] at boundary
      exact spelled.renew boundary
  | cons t tokens => exact spelled

theorem CallsSpelled.renew {calls : List Call} (spelled : CallsSpelled calls tokens next)
    (boundary : Boundary tokens next') : CallsSpelled calls tokens next' := by
  induction spelled with
  | nil => exact .nil (boundary.noMark (.inl rfl))
  | @plain word calls bar name tokens next mark kind text noArgument others ih =>
      have further : Boundary tokens next' := boundary.tail.tail
      exact .plain mark kind text (ahead_or noArgument (further.noMark (.inr (.inl rfl))))
        (ih further)
  | @argument word operand calls bar name colon own tokens next mark kind text colonMark spelled
      others ih =>
      have further : Boundary (own ++ tokens) next' := boundary.tail.tail.tail
      exact .argument mark kind text colonMark (spelled.renewBehind further) (ih further.suffix)

theorem OperationsSpelled.renew {others : List (Operator × Operand)}
    (spelled : OperationsSpelled others tokens next) (boundary : Boundary tokens next') :
    OperationsSpelled others tokens next' := by
  induction spelled with
  | nil => exact .nil boundary.noOperator
  | @cons operator operand rest t own tokens next mark spelled others ih =>
      have further : Boundary (own ++ tokens) next' := boundary.tail
      exact .cons mark (spelled.renewBehind further) (ih further.suffix)

/-- Operators stand in front of filters or at the boundary. -/
theorem OperationsSpelled.renewBehind {others : List (Operator × Operand)}
    (spelled : OperationsSpelled others own (tokens.head?.or next))
    (boundary : Boundary (own ++ tokens) next') :
    OperationsSpelled others own (tokens.head?.or next') := by
  cases tokens with
  | nil =>
      rw [List.append_nil] at boundary
      exact spelled.renew boundary
  | cons t tokens => exact spelled

/-- A term is spelled in front of whatever starts something new. -/
theorem Term.Spelled.renew {term : Term} (spelled : term.Spelled source own next)
    (boundary : Boundary own next') : term.Spelled source own next' := by
  cases spelled with
  | plain spelled single others =>
      exact .plain (spelled.renewBehind boundary)
        (ahead_or single boundary.suffix.noOperator) (others.renew boundary.suffix)
  | joined spelled operations others =>
      exact .joined spelled (operations.renewBehind boundary.suffix)
        (others.renew boundary.suffix.suffix)
  | list openMark spelled closeMark others =>
      exact .list openMark spelled closeMark (others.renew boundary.tail.suffix.tail)
  | dict openMark spelled closeMark others =>
      exact .dict openMark spelled closeMark (others.renew boundary.tail.suffix.tail)
  | parenthesized openMark balanced closeMark text others =>
      exact .parenthesized openMark balanced closeMark text
        (others.renew boundary.tail.suffix.tail)

/-! ## Keys and entries -/

theorem HyphensSpelled.getLast? {last final : Token} {words : List (Word .name)}
    (spelled : HyphensSpelled last words tokens final) :
    (last :: tokens).getLast? = some final := by
  induction spelled with
  | nil => rfl
  | cons _ _ _ _ _ _ ih =>
      rw [List.getLast?_cons_cons, List.getLast?_cons_cons]
      exact ih

theorem Hyphenated.Spelled.renew {name : Hyphenated} (spelled : name.Spelled own next)
    (boundary : Boundary own next') : name.Spelled own next' := by
  cases spelled with
  | mk kind text others ended =>
      refine .mk kind text others fun t same touching => ?_
      have delimiter := (boundary t same).2 _ others.getLast? touching
      exact ⟨isMark_of_delimits delimiter (by decide),
        kind_ne (kind_of_delimits delimiter) (by decide)⟩

/-- An attribute is spelled in front of whatever starts something new. -/
theorem Entry.Spelled.renew {entry : Entry} (spelled : entry.Spelled source own next)
    (boundary : Boundary own next') : entry.Spelled source own next' := by
  cases spelled with
  | @positional value first tokens _ spelled noKey =>
      refine .positional (spelled.renew boundary) ?_
      cases tokens with
      | cons t tokens => exact noKey
      | nil =>
          intro _ t same
          refine ⟨boundary.noMark (.inr (.inr rfl)) t same, fun touching => ?_⟩
          have delimiter := (boundary t same).2 first rfl touching
          have kind := kind_of_delimits delimiter
          exact ⟨isMark_of_delimits delimiter (by decide), kind_ne kind (by decide), fun _ => kind⟩
  | lookup spelled noKey =>
      exact .lookup (spelled.renew boundary) (boundary.noMark (.inr (.inr rfl)))
  | keyword keySpelled mark spelled =>
      exact .keyword keySpelled mark (spelled.renew boundary.suffix.tail)

/-- Attributes are spelled in front of whatever starts something new. -/
theorem EntriesSpelled.renew {entries : List (Nat × Entry)}
    (spelled : EntriesSpelled source entries own next) (boundary : Boundary own next') :
    EntriesSpelled source entries own next' := by
  induction spelled with
  | nil => exact .nil
  | @cons entry rest first separator own tokens next separated spelled others ih =>
      refine .cons separated ?_ (ih boundary.suffix.suffix)
      cases tokens with
      | nil =>
          have here := boundary.suffix
          rw [List.append_nil] at here
          exact spelled.renew here
      | cons t tokens => exact spelled

end Written
end ElementTags
