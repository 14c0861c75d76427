import Mathlib
import ElementTags.Proofs.Quoting
import ElementTags.Proofs.Soundness

/-! # The host reads what was read before

A plain value is read twice: the grammar of attribute lists takes an operand and its
filters apart, and the host reads the text that is put together from them again, with
rules of its own. The two disagree on points in the names of filters, on backslashes at
the end of a line, on digits, numbers and what may stand behind them. Wherever they do,
the host stops in front of a character with which no filter starts
(`ElementTags.Written.Stuck`), or finds nothing at all, and rejects the text. So what it
accepts has the operand and the filters that were read before
(`ElementTags.Written.ofText_rereads`), and an accepted source loses nothing on the way
(`ElementTags.Attribute.read_rereads`).
-/

namespace ElementTags

theorem Variable.text_ofText {s : Text} {v : Variable} (read : Variable.ofText s = .ok v) :
    v.text = s := by
  unfold Variable.ofText at read
  split at read
  · cases read
    rfl
  · split at read
    · cases read
    · cases read
      rfl

theorem Filter.name_of_ofName? {s : Text} {f : Filter} (known : Filter.ofName? s = some f) :
    f.name.toList = s := by
  obtain ⟨⟨n, g⟩, found, rfl⟩ := Option.map_eq_some_iff.mp known
  have all : ∀ entry ∈ Filter.registry, entry.2.name = entry.1 := by decide
  have named := all _ (List.mem_of_find?_eq_some found)
  have same := List.find?_some found
  rw [decide_eq_true_eq] at same
  exact (congrArg String.toList named).trans same

namespace Written

open Attribute Outcome

/-! ## The part that an operand is -/

/-- The part that the host should find where an operand stands. -/
def Operand.part : Operand → FilterExpr.Part
  | .literal word => .literal word.text
  | .name word => .name word.text
  | .negative number => .name ('-' :: number.text)
  | .localized word => .localized word.text

/-- Nothing stands here, or a filter. -/
def Ended (rest : Text) : Prop := ∀ c ∈ rest.head?, c = '|'

/-- What stands here is no filter. -/
def Stuck (rest : Text) : Prop :=
  ∃ c more, rest = c :: more ∧ c ≠ '|' ∧ Text.isBlank c = false

theorem stuck_of_isNameChar {c : Char} (named : Text.isNameChar c = true) (more : Text) :
    Stuck (c :: more) := by
  refine ⟨c, more, rfl, ?_, Text.isBlank_of_isNameChar named⟩
  rintro rfl
  exact absurd named (by decide)

theorem ended_calls (calls : List Call) : Ended (callsText calls) := by
  intro c first
  cases calls with
  | nil => cases first
  | cons call rest => exact (Option.some.inj first).symm

theorem Ended.noName {rest : Text} (ended : Ended rest) :
    ∀ c ∈ rest.head?, Text.isNameChar c = false := by
  intro c first
  rw [ended c first]
  decide

/-- The host rejects what it is stuck at. -/
theorem readFilters_stuck {rest : Text} (stuck : Stuck rest) (text : Text) :
    FilterExpr.readFilters text rest = .error (FilterExpr.unreadableFrom text rest) := by
  obtain ⟨c, more, rfl, noFilter, noBlank⟩ := stuck
  have none : FilterExpr.writtenFilter? (c :: more) = none := by
    have kept : Text.dropBlanks (c :: more) = c :: more := by
      refine Text.dropBlanks_of_head fun d first => ?_
      obtain rfl := Option.some.inj first
      exact noBlank
    rw [FilterExpr.writtenFilter?, kept]
    split
    · rename_i same
      exact absurd (List.cons.inj same).1 noFilter
    · rfl
  rw [FilterExpr.readFilters, if_neg (by rw [List.isEmpty_cons]; exact Bool.false_ne_true)]
  split
  · rfl
  · rename_i found
    rw [none] at found
    cases found

theorem takeWhile_append_of_head {p : Char → Bool} {s rest : Text} (each : ∀ c ∈ s, p c = true)
    (other : ∀ c ∈ rest.head?, p c = false) :
    (s ++ rest).takeWhile p = s ∧ (s ++ rest).dropWhile p = rest := by
  have stops : rest.takeWhile p = [] ∧ rest.dropWhile p = rest := by
    cases rest with
    | nil => exact ⟨rfl, rfl⟩
    | cons c rest =>
        rw [List.takeWhile_cons, List.dropWhile_cons, other c rfl]
        exact ⟨rfl, rfl⟩
  rw [List.takeWhile_append_of_pos each, List.dropWhile_append_of_pos each, stops.1, stops.2,
    List.append_nil]
  exact ⟨rfl, rfl⟩

/-- A run of characters ends with the text, or in front of a character of the text. -/
theorem dropWhile_append_cases {p : Char → Bool} (s : Text) {rest : Text}
    (other : ∀ c ∈ rest.head?, p c = false) :
    ((s ++ rest).takeWhile p = s ∧ (s ++ rest).dropWhile p = rest) ∨
      ∃ c ∈ s, p c = false ∧ ∃ more, (s ++ rest).dropWhile p = c :: more := by
  by_cases all : ∀ c ∈ s, p c = true
  · exact .inl (takeWhile_append_of_head all other)
  · right
    induction s with
    | nil => exact absurd (fun c none => absurd none List.not_mem_nil) all
    | cons c s ih =>
        by_cases first : p c = true
        · have others : ¬∀ c ∈ s, p c = true := fun others =>
            all (List.forall_mem_cons.mpr ⟨first, others⟩)
          obtain ⟨d, member, stops, more, dropped⟩ := ih others
          refine ⟨d, List.mem_cons_of_mem _ member, stops, more, ?_⟩
          rw [List.cons_append, List.dropWhile_cons, if_pos first, dropped]
        · refine ⟨c, List.mem_cons_self, Bool.not_eq_true _ ▸ first, s ++ rest, ?_⟩
          rw [List.cons_append, List.dropWhile_cons, if_neg first]

/-- A literal that the host reads where a token in quotes stands is the token. -/
theorem literal?_word (word : Word .quoted) {rest body behind : Text}
    (read : FilterExpr.literal? (word.text ++ rest) = some (body, behind)) :
    body = word.text ∧ behind = rest := by
  obtain ⟨quote, inner, text, isQuote, closed⟩ := word.lexeme
  rw [text, List.cons_append, FilterExpr.literal?, if_pos isQuote] at read
  obtain ⟨⟨found, left⟩, tail, same⟩ := Option.map_eq_some_iff.mp read
  have again := quotedTail_of_literalTail (ne_backslash_of_isQuote isQuote) tail
  rw [Token.quotedTail_append closed] at again
  cases again
  cases same
  exact ⟨text.symm, rfl⟩

theorem name?_of_isQuote {quote : Char} (isQuote : Text.isQuote quote = true) (rest : Text) :
    FilterExpr.name? (quote :: rest) = none := by
  have noName : Text.isNameChar quote = false := by
    cases named : Text.isNameChar quote with
    | false => rfl
    | true =>
        rw [Text.isQuote_of_isNameChar named] at isQuote
        cases isQuote
  have noSign : (quote = '-' || quote = '+') = false := by
    rw [Bool.or_eq_false_iff, decide_eq_false_iff_not, decide_eq_false_iff_not]
    constructor <;> rintro rfl <;> cases isQuote
  rw [FilterExpr.name?, noName, if_neg Bool.false_ne_true]
  unfold FilterExpr.signed?
  split
  · rename_i sign digit more same
    obtain ⟨rfl, -⟩ := List.cons.inj same
    rw [noSign, Bool.false_and, if_neg Bool.false_ne_true]
  · rfl

variable {rest behind : Text} {part : FilterExpr.Part}

theorem part?_literal {word : Word .quoted}
    (read : FilterExpr.part? (word.text ++ rest) = some (part, behind)) :
    part = .literal word.text ∧ behind = rest := by
  cases found : FilterExpr.literal? (word.text ++ rest) with
  | some pair =>
      obtain ⟨body, left⟩ := pair
      obtain ⟨rfl, rfl⟩ := literal?_word word found
      rw [part?_of_literal? found] at read
      cases read
      exact ⟨rfl, rfl⟩
  | none =>
      obtain ⟨quote, inner, text, isQuote, -⟩ := word.lexeme
      have noMark : quote ≠ '_' := by
        rintro rfl
        cases isQuote
      rw [FilterExpr.part?, found, text, List.cons_append, localized?_of_ne noMark,
        name?_of_isQuote isQuote] at read
      cases read

/-- A name is no localized literal, since no parenthesis stands in it or behind it. -/
theorem localized?_name {s : Text} (named : ∀ c ∈ s, Text.isNameChar c = true)
    (ended : Ended rest) : FilterExpr.localized? (s ++ rest) = none := by
  have noParenthesis : '(' ∉ s := fun member => absurd (named _ member) (by decide)
  unfold FilterExpr.localized?
  split
  · rename_i same
    rcases List.append_eq_cons_iff.mp same with ⟨-, bar⟩ | ⟨more, split, here⟩
    · exact absurd (ended '_' (by rw [bar]; rfl)) (by decide)
    · rcases List.append_eq_cons_iff.mp here.symm with ⟨-, bar⟩ | ⟨others, inside, -⟩
      · exact absurd (ended '(' (by rw [bar]; rfl)) (by decide)
      · rw [split, inside] at noParenthesis
        exact absurd (List.mem_cons_of_mem _ List.mem_cons_self) noParenthesis
  · rfl

theorem part?_name {word : Word .name} (ended : Ended rest)
    (read : FilterExpr.part? (word.text ++ rest) = some (part, behind)) :
    part = .name word.text ∧ behind = rest := by
  obtain ⟨nonempty, named⟩ := word.lexeme
  obtain ⟨taken, dropped⟩ := takeWhile_append_of_head named ended.noName
  have noMark := localized?_name named ended
  cases text : word.text with
  | nil => exact absurd text nonempty
  | cons c more =>
      rw [text, List.cons_append] at read taken dropped noMark
      have first := named c (by rw [text]; exact List.mem_cons_self)
      have noLiteral : FilterExpr.literal? (c :: (more ++ rest)) = none := by
        rw [FilterExpr.literal?, Text.isQuote_of_isNameChar first, if_neg Bool.false_ne_true]
      rw [FilterExpr.part?, noMark, noLiteral, FilterExpr.name?, if_pos first, taken, dropped]
        at read
      cases read
      exact ⟨rfl, rfl⟩

/-- The host stops in a negative number where a character stands that belongs to no number. -/
theorem part?_negative {number : Number} (ended : Ended rest)
    (read : FilterExpr.part? ('-' :: (number.text ++ rest)) = some (part, behind)) :
    (part = .name ('-' :: number.text) ∧ behind = rest) ∨ Stuck behind := by
  have noNumber : ∀ c ∈ rest.head?, FilterExpr.isNumberChar c = false := by
    intro c first
    rw [ended c first]
    decide
  have noLiteral : FilterExpr.literal? ('-' :: (number.text ++ rest)) = none := rfl
  have signed : FilterExpr.name? ('-' :: (number.text ++ rest)) =
      FilterExpr.signed? ('-' :: (number.text ++ rest)) := rfl
  rw [FilterExpr.part?, localized?_of_ne (by decide), noLiteral, signed] at read
  obtain ⟨nonempty, named⟩ := number.lexeme
  cases text : number.text with
  | nil => exact absurd text nonempty
  | cons d more =>
      rw [text, List.cons_append, FilterExpr.signed?] at read
      obtain ⟨⟨found, left⟩, signed, same⟩ := Option.map_eq_some_iff.mp read
      cases same
      split at signed
      · obtain ⟨rfl, rfl⟩ := Prod.mk.inj (Option.some.inj signed)
        rcases dropWhile_append_cases more noNumber with
          ⟨taken, dropped⟩ | ⟨c, member, -, others, dropped⟩
        · left
          rw [taken, dropped]
          exact ⟨rfl, rfl⟩
        · right
          rw [dropped]
          exact stuck_of_isNameChar (named c (by rw [text]; exact List.mem_cons_of_mem _ member)) _
      · cases signed

/-- Where the host cannot read the literal in parentheses, it reads the underscore alone. -/
theorem part?_localized {word : Word .quoted}
    (read : FilterExpr.part? ('_' :: '(' :: (word.text ++ ')' :: rest)) = some (part, behind)) :
    (part = .localized word.text ∧ behind = rest) ∨ Stuck behind := by
  rw [FilterExpr.part?] at read
  split at read
  · rename_i body left found
    cases read
    left
    simp only [FilterExpr.localized?] at found
    split at found
    · rename_i inner closed literal
      cases found
      obtain ⟨rfl, same⟩ := literal?_word word literal
      exact ⟨rfl, (List.cons.inj same).2⟩
    · cases found
  · right
    have mark : Text.isNameChar '_' = true := by decide
    have parenthesis : Text.isNameChar '(' = false := by decide
    have noLiteral : FilterExpr.literal? ('_' :: '(' :: (word.text ++ ')' :: rest)) = none := rfl
    rw [noLiteral, FilterExpr.name?, if_pos mark] at read
    simp only [List.takeWhile_cons, List.dropWhile_cons, mark, parenthesis, ↓reduceIte,
      Bool.false_eq_true, Option.map_some, Option.some.injEq, Prod.mk.injEq] at read
    rw [← read.2]
    exact ⟨'(', _, rfl, by decide, by decide⟩

/-- Where an operand stands, the host finds the operand and nothing more, or it is stuck behind what
it finds. -/
theorem part?_operand {operand : Operand} (ended : Ended rest)
    (read : FilterExpr.part? (operand.text ++ rest) = some (part, behind)) :
    (part = operand.part ∧ behind = rest) ∨ Stuck behind := by
  cases operand with
  | literal word => exact .inl (part?_literal read)
  | name word => exact .inl (part?_name ended read)
  | negative number => exact part?_negative ended read
  | localized word =>
      have text : (Operand.localized word).text ++ rest =
          '_' :: '(' :: (word.text ++ ')' :: rest) := by
        simp only [Operand.text, Operand.operand, List.cons_append, List.append_assoc,
          List.nil_append]
      rw [text] at read
      exact part?_localized read

/-! ## The filter that a call is -/

theorem writtenArgument_of_ne {s : Text} (noColon : ∀ c ∈ s.head?, c ≠ ':') :
    FilterExpr.writtenArgument s = (none, s) := by
  unfold FilterExpr.writtenArgument
  split
  · exact absurd rfl (noColon ':' rfl)
  · rfl

/-- The text of an argument behind the name of a filter. -/
def argumentText : Option Operand → Text
  | some operand => ':' :: operand.text
  | none => []

theorem text_call (call : Call) :
    call.text = '|' :: (call.name.text ++ argumentText call.argument) := by
  rw [Call.text, Call.call, WrittenCall.text]
  cases call.argument <;> rfl

/-- Where an argument stands, or none, the host finds just this, or it is stuck. -/
theorem writtenArgument_argument {argument : Option Operand} (ended : Ended rest) :
    FilterExpr.writtenArgument (argumentText argument ++ rest) =
        (argument.map Operand.part, rest) ∨
      Stuck (FilterExpr.writtenArgument (argumentText argument ++ rest)).2 := by
  cases argument with
  | none =>
      left
      refine writtenArgument_of_ne fun c first => ?_
      rw [ended c first]
      decide
  | some operand =>
      have text : argumentText (some operand) ++ rest = ':' :: (operand.text ++ rest) := rfl
      rw [text, FilterExpr.writtenArgument]
      split
      · rename_i part behind found
        rcases part?_operand ended found with ⟨rfl, rfl⟩ | stuck
        · exact .inl rfl
        · exact .inr stuck
      · exact .inr ⟨':', _, rfl, by decide, by decide⟩

/-- No character of a word stands behind the name of a filter. -/
theorem noWord_argument {argument : Option Operand} (ended : Ended rest) :
    ∀ c ∈ (argumentText argument ++ rest).head?, Text.isWord c = false := by
  intro c first
  cases argument with
  | none =>
      rw [ended c first]
      decide
  | some operand =>
      obtain rfl := Option.some.inj first
      decide

/-- The host takes the name of a filter as far as the characters of words go, and looks for an
argument behind them. -/
theorem writtenFilter?_text (call : Call) (rest : Text) :
    FilterExpr.writtenFilter? (call.text ++ rest) =
      let behind := call.name.text ++ (argumentText call.argument ++ rest)
      if (behind.takeWhile Text.isWord).isEmpty then none
      else
        let found := FilterExpr.writtenArgument (behind.dropWhile Text.isWord)
        some (⟨behind.takeWhile Text.isWord, found.1⟩, found.2) := by
  obtain ⟨nonempty, named⟩ := call.name.lexeme
  have bar : Text.dropBlanks (call.text ++ rest) =
      '|' :: (call.name.text ++ (argumentText call.argument ++ rest)) := by
    rw [text_call, List.cons_append, List.append_assoc]
    refine Text.dropBlanks_of_head fun c first => ?_
    obtain rfl := Option.some.inj first
    decide
  have name : Text.dropBlanks (call.name.text ++ (argumentText call.argument ++ rest)) =
      call.name.text ++ (argumentText call.argument ++ rest) := by
    refine Text.dropBlanks_of_head fun c first => ?_
    rw [List.head?_append_of_ne_nil _ nonempty] at first
    exact Text.isBlank_of_isNameChar (named c (List.mem_of_head? first))
  rw [FilterExpr.writtenFilter?, bar]
  simp only [name]

/-- Where a filter stands, the host finds the filter and nothing more, or it is stuck behind what it
finds. -/
theorem writtenFilter?_call {call : Call} {written : FilterExpr.WrittenFilter} (ended : Ended rest)
    (read : FilterExpr.writtenFilter? (call.text ++ rest) = some (written, behind)) :
    (written = ⟨call.name.text, call.argument.map Operand.part⟩ ∧ behind = rest) ∨
      Stuck behind := by
  rw [writtenFilter?_text] at read
  dsimp only at read
  split at read
  · cases read
  · obtain ⟨rfl, rfl⟩ := Prod.mk.inj (Option.some.inj read)
    rcases dropWhile_append_cases call.name.text (noWord_argument ended) with
      ⟨taken, dropped⟩ | ⟨c, member, -, others, dropped⟩
    · rw [taken, dropped]
      rcases @writtenArgument_argument _ call.argument ended with found | stuck
      · rw [found]
        exact .inl ⟨rfl, rfl⟩
      · exact .inr stuck
    · right
      have char := call.name.lexeme.2 c member
      rw [dropped, writtenArgument_of_ne]
      · exact stuck_of_isNameChar char others
      · intro d first
        obtain rfl := Option.some.inj first
        rintro rfl
        exact absurd char (by decide)

/-! ## What the host accepts -/

/-- An operand stands for a variable or number with its text, which means what the text means, for
the text of its literal, or for the text that is put off. -/
inductive Operand.Stands (plain : Text → Value) : Operand → ElementTags.Operand → Prop
  | literal {word : Word .quoted} : Stands plain (.literal word) (.constant (plain word.text))
  | name {word : Word .name} {v : Variable} (text : v.text = word.text)
      (means : Variable.ofText v.text = .ok v) : Stands plain (.name word) (.variable v)
  | negative {number : Number} {v : Variable} (text : v.text = '-' :: number.text)
      (means : Variable.ofText v.text = .ok v) : Stands plain (.negative number) (.variable v)
  | localized {word : Word .quoted} :
      Stands plain (.localized word) (.constant (FilterExpr.localizedValue word.text))

/-- The filter that a call names, with the argument of the call or none. -/
structure Call.Calls (call : Call) (found : FilterCall) : Prop where
  name : found.filter.name.toList = call.name.text
  argument : Option.Rel (Operand.Stands FilterExpr.literalValue) call.argument found.argument

/-- An expression has the text, the operand and the filters that were read, in their order. -/
structure Rereads (plain : Text → Value) (operand : Operand) (calls : List Call) (e : FilterExpr) :
    Prop where
  text : e.text = operand.text ++ callsText calls
  operand : operand.Stands plain e.operand
  filters : List.Forall₂ Call.Calls calls e.filters

theorem stands_of_part {operand : Operand} {found : ElementTags.Operand}
    (read : operand.part.operand = .ok found) :
    operand.Stands FilterExpr.literalValue found := by
  have reads {s : Text}
      (named : (Variable.ofText s).map ElementTags.Operand.variable = .ok found) :
      ∃ v, found = .variable v ∧ v.text = s ∧ Variable.ofText v.text = .ok v := by
    obtain ⟨v, means, same⟩ := map_eq_ok.mp named
    have text := Variable.text_ofText means
    exact ⟨v, same.symm, text, by rw [text]; exact means⟩
  cases operand with
  | literal word =>
      cases read
      exact .literal
  | name word =>
      obtain ⟨v, rfl, text, means⟩ := reads read
      exact .name text means
  | negative number =>
      obtain ⟨v, rfl, text, means⟩ := reads read
      exact .negative text means
  | localized word =>
      cases read
      exact .localized

theorem calls_of_written {call : Call} {found : FilterCall}
    (read : FilterExpr.WrittenFilter.call ⟨call.name.text, call.argument.map Operand.part⟩ =
      .ok found) : call.Calls found := by
  obtain ⟨argument, reads, read⟩ := bind_eq_ok.mp read
  split at read
  · cases read
  · rename_i f known
    by_cases takes : f.accepts (if argument.isSome = true then 1 else 0) = true
    · rw [if_pos takes] at read
      cases read
      refine ⟨Filter.name_of_ofName? known, ?_⟩
      cases written : call.argument with
      | none =>
          rw [written] at reads
          cases reads
          exact .none
      | some operand =>
          rw [written] at reads
          obtain ⟨value, stands, same⟩ := map_eq_ok.mp reads
          cases same
          exact .some (stands_of_part stands)
    · rw [if_neg takes] at read
      cases read

/-- The host reads the filters that were read, in their order. -/
theorem readFilters_rereads {calls : List Call} {text : Text} {found : List FilterCall}
    (read : FilterExpr.readFilters text (callsText calls) = .ok found) :
    List.Forall₂ Call.Calls calls found := by
  induction calls generalizing found with
  | nil =>
      rw [show callsText [] = [] from rfl, readFilters_nil] at read
      cases read
      exact .nil
  | cons call rest ih =>
      have split : callsText (call :: rest) = call.text ++ callsText rest := List.flatMap_cons
      have nonempty : (call.text ++ callsText rest).isEmpty = false := by
        rw [text_call]
        rfl
      rw [split, FilterExpr.readFilters, nonempty, if_neg Bool.false_ne_true] at read
      split at read
      · cases read
      · rename_i written behind here
        obtain ⟨first, called, read⟩ := bind_eq_ok.mp read
        obtain ⟨others, further, same⟩ := bind_eq_ok.mp read
        cases same
        rcases writtenFilter?_call (ended_calls rest) here with ⟨rfl, rfl⟩ | stuck
        · exact .cons (calls_of_written called) (ih further)
        · rw [readFilters_stuck stuck] at further
          cases further

/-- **The host re-reads what was read.** A text that is put together from an operand and filters is
rejected by the host, or has just this operand and these filters for it. -/
theorem ofText_rereads {operand : Operand} {calls : List Call} {e : FilterExpr}
    (accepted : FilterExpr.ofText (operand.text ++ callsText calls) = .ok e) :
    Rereads FilterExpr.literalValue operand calls e := by
  unfold FilterExpr.ofText at accepted
  split at accepted
  · split at accepted <;> cases accepted
  · rename_i part behind found
    obtain ⟨value, stands, accepted⟩ := bind_eq_ok.mp accepted
    obtain ⟨filters, read, same⟩ := bind_eq_ok.mp accepted
    cases same
    rcases part?_operand (ended_calls calls) found with ⟨rfl, rfl⟩ | stuck
    · exact ⟨rfl, stands_of_part stands, readFilters_rereads read⟩
    · rw [readFilters_stuck stuck] at read
      cases read

/-- The plain text that a literal of an attribute stands for. -/
def plainLiteral (s : Text) : Value := .text (Text.unquote s)

/-- What is compiled differs from what the host reads in the text of a literal only. -/
theorem compile_rereads {operand : Operand} {calls : List Call} {e : FilterExpr}
    (compiled : compile operand.operand (callsText calls) = .ok e) :
    Rereads plainLiteral operand calls e := by
  unfold compile at compiled
  split at compiled
  · cases compiled
  · rename_i host accepted
    obtain ⟨text, stands, filters⟩ := @ofText_rereads operand calls host accepted
    obtain ⟨whole, found, others⟩ := host
    split at compiled
    · rename_i isLiteral
      cases compiled
      cases operand with
      | literal word => exact ⟨text, .literal, filters⟩
      | name word => cases isLiteral
      | negative number => cases isLiteral
      | localized word => cases isLiteral
    · rename_i noLiteral
      cases compiled
      refine ⟨text, ?_, filters⟩
      cases stands with
      | literal => exact absurd rfl noLiteral
      | name own means => exact .name own means
      | negative own means => exact .negative own means
      | localized => exact .localized

/-! ## Whole attributes -/

/-- A filter behind something else than a plain value, with the argument of the call or none. -/
structure Call.Applies (call : Call) (found : AppliedFilter) : Prop where
  name : found.filter.name.toList = call.name.text
  argument : Option.Rel (Rereads plainLiteral · []) call.argument found.argument

mutual

/-- A term has the operands and filters of a written one. -/
inductive Term.Rereads : Term → ElementTags.Term → Prop
  | plain {operand : Operand} {calls : List Call} {e : FilterExpr}
      (same : Written.Rereads plainLiteral operand calls e) :
      Term.Rereads (.plain operand calls) (.plain e)
  | joined {first : Operand} {others : List (Operator × Operand)} {several : others ≠ []}
      {calls : List Call} {e : FilterExpr} {es : List (Operator × FilterExpr)}
      {applied : List AppliedFilter} (same : Written.Rereads plainLiteral first [] e)
      (operands : List.Forall₂ (fun o v => v.1 = o.1 ∧ Written.Rereads plainLiteral o.2 [] v.2)
        others es) (filters : List.Forall₂ Call.Applies calls applied) :
      Term.Rereads (.joined first others several calls) (.joined e es applied)
  | list {items : List Term} {calls : List Call} {ts : List ElementTags.Term}
      {applied : List AppliedFilter} (inner : ItemsReread items ts)
      (filters : List.Forall₂ Call.Applies calls applied) :
      Term.Rereads (.list items calls) (.list ts applied)
  | dict {pairs : List (PairKey × Term)} {calls : List Call} {ts : List (Text × ElementTags.Term)}
      {applied : List AppliedFilter} (inner : PairsReread pairs ts)
      (filters : List.Forall₂ Call.Applies calls applied) :
      Term.Rereads (.dict pairs calls) (.dict ts applied)
  | parenthesized {code : Code} {calls : List Call} {applied : List AppliedFilter}
      (filters : List.Forall₂ Call.Applies calls applied) :
      Term.Rereads (.parenthesized code calls) (.parenthesized code.text applied)

/-- The items of a list have the operands and filters of written ones. -/
inductive ItemsReread : List Term → List ElementTags.Term → Prop
  | nil : ItemsReread [] []
  | cons {item : Term} {rest : List Term} {t : ElementTags.Term} {ts : List ElementTags.Term}
      (same : item.Rereads t) (others : ItemsReread rest ts) :
      ItemsReread (item :: rest) (t :: ts)

/-- The values of a dictionary have the operands and filters of written ones. -/
inductive PairsReread : List (PairKey × Term) → List (Text × ElementTags.Term) → Prop
  | nil : PairsReread [] []
  | cons {key : PairKey} {item : Term} {rest : List (PairKey × Term)} {t : ElementTags.Term}
      {ts : List (Text × ElementTags.Term)} (same : item.Rereads t)
      (others : PairsReread rest ts) : PairsReread ((key, item) :: rest) ((key.key, t) :: ts)

end

/-- An entry has the position, the key, the operands and the filters of a written one. -/
inductive Entry.Rereads (start : Nat) : Entry → ElementTags.Entry → Prop
  | positional {value : Term} {t : ElementTags.Term} (same : value.Rereads t) :
      Rereads start (.positional value) (.positional start t)
  | lookup {name : Hyphenated} {hyphens : name.others ≠ []} :
      Rereads start (.lookup name hyphens) (.positional start (.hyphenated name.text))
  | keyword {key : Key} {value : Term} {t : ElementTags.Term} (same : value.Rereads t) :
      Rereads start (.keyword key value) (.keyword start key.key t)

theorem operations_reread {others : List (Operator × Operand)} {es : List (Operator × FilterExpr)}
    (means : operations others = .ok es) :
    List.Forall₂ (fun o v => v.1 = o.1 ∧ Rereads plainLiteral o.2 [] v.2) others es := by
  induction others generalizing es with
  | nil =>
      cases means
      exact .nil
  | cons operation rest ih =>
      obtain ⟨value, compiled, means⟩ := bind_eq_ok.mp means
      obtain ⟨values, further, same⟩ := bind_eq_ok.mp means
      cases same
      exact .cons ⟨rfl, compile_rereads compiled⟩ (ih further)

/-- The argument of a filter is read as it was. -/
theorem argument_rereads {call : Call} {found : Option FilterExpr}
    (compiled : call.call.compileArgument = .ok found) :
    Option.Rel (Rereads plainLiteral · []) call.argument found := by
  rw [WrittenCall.compileArgument, Call.call] at compiled
  cases written : call.argument with
  | none =>
      rw [written] at compiled
      cases compiled
      exact .none
  | some operand =>
      rw [written] at compiled
      obtain ⟨value, inner, same⟩ := map_eq_ok.mp compiled
      cases same
      exact .some (compile_rereads inner)

theorem filters_reread {calls : List Call} {applied : List AppliedFilter}
    (means : filters calls = .ok applied) : List.Forall₂ Call.Applies calls applied := by
  induction calls generalizing applied with
  | nil =>
      cases means
      exact .nil
  | cons call rest ih =>
      obtain ⟨arguments, compiled, means⟩ := bind_eq_ok.mp means
      rw [List.map_cons, List.mapM_cons] at compiled
      obtain ⟨argument, here, compiled⟩ := bind_eq_ok.mp compiled
      obtain ⟨others, behind, same⟩ := bind_eq_ok.mp compiled
      cases same
      rw [List.map_cons, List.zip_cons_cons, List.mapM_cons] at means
      obtain ⟨found, known, means⟩ := bind_eq_ok.mp means
      obtain ⟨more, further, same⟩ := bind_eq_ok.mp means
      cases same
      refine .cons ?_ (ih (bind_eq_ok.mpr ⟨others, behind, further⟩))
      unfold knownFilter at known
      split at known
      · rename_i f named
        cases known
        exact ⟨Filter.name_of_ofName? named, argument_rereads here⟩
      · cases known

mutual

theorem term_rereads {term : Term} {t : ElementTags.Term} (means : term.meaning = .ok t) :
    term.Rereads t := by
  match term with
  | .plain operand calls =>
      rw [Term.meaning] at means
      obtain ⟨value, compiled, same⟩ := bind_eq_ok.mp means
      cases same
      exact .plain (compile_rereads compiled)
  | .joined first others several calls =>
      rw [Term.meaning] at means
      obtain ⟨value, compiled, means⟩ := bind_eq_ok.mp means
      obtain ⟨values, operands, means⟩ := bind_eq_ok.mp means
      obtain ⟨applied, known, same⟩ := bind_eq_ok.mp means
      cases same
      exact .joined (compile_rereads compiled) (operations_reread operands) (filters_reread known)
  | .list items calls =>
      rw [Term.meaning] at means
      obtain ⟨values, inner, means⟩ := bind_eq_ok.mp means
      obtain ⟨applied, known, same⟩ := bind_eq_ok.mp means
      cases same
      exact .list (items_reread inner) (filters_reread known)
  | .dict pairs calls =>
      rw [Term.meaning] at means
      obtain ⟨values, inner, means⟩ := bind_eq_ok.mp means
      obtain ⟨applied, known, same⟩ := bind_eq_ok.mp means
      cases same
      exact .dict (pairs_reread inner) (filters_reread known)
  | .parenthesized code calls =>
      rw [Term.meaning] at means
      obtain ⟨applied, known, same⟩ := bind_eq_ok.mp means
      cases same
      exact .parenthesized (filters_reread known)

theorem items_reread {items : List Term} {ts : List ElementTags.Term}
    (means : itemsMeaning items = .ok ts) : ItemsReread items ts := by
  match items with
  | [] =>
      cases means
      exact .nil
  | item :: rest =>
      rw [itemsMeaning] at means
      obtain ⟨value, first, means⟩ := bind_eq_ok.mp means
      obtain ⟨others, behind, same⟩ := bind_eq_ok.mp means
      cases same
      exact .cons (term_rereads first) (items_reread behind)

theorem pairs_reread {pairs : List (PairKey × Term)} {ts : List (Text × ElementTags.Term)}
    (means : pairsMeaning pairs = .ok ts) : PairsReread pairs ts := by
  match pairs with
  | [] =>
      cases means
      exact .nil
  | (key, item) :: rest =>
      rw [pairsMeaning] at means
      obtain ⟨value, first, means⟩ := bind_eq_ok.mp means
      obtain ⟨others, behind, same⟩ := bind_eq_ok.mp means
      cases same
      exact .cons (term_rereads first) (pairs_reread behind)

end

theorem entry_rereads {start : Nat} {entry : Entry} {found : ElementTags.Entry}
    (means : entry.meaning start = .ok found) : entry.Rereads start found := by
  cases entry with
  | positional value =>
      obtain ⟨t, inner, rfl⟩ := map_eq_ok.mp means
      exact .positional (term_rereads inner)
  | lookup name hyphens =>
      cases means
      exact .lookup
  | keyword key value =>
      obtain ⟨t, inner, rfl⟩ := map_eq_ok.mp means
      exact .keyword (term_rereads inner)

theorem entries_reread {written : List (Nat × Entry)} {found : List ElementTags.Entry}
    (means : entriesMeaning written = .ok found) :
    List.Forall₂ (fun w e => w.2.Rereads w.1 e) written found := by
  induction written generalizing found with
  | nil =>
      cases means
      exact .nil
  | cons w rest ih =>
      obtain ⟨start, entry⟩ := w
      obtain ⟨value, first, means⟩ := bind_eq_ok.mp means
      obtain ⟨others, behind, same⟩ := bind_eq_ok.mp means
      cases same
      exact .cons (entry_rereads first) (ih behind)

end Written

namespace Attribute

open Written

/-- **Nothing is lost in the second reading.** Whenever the host accepts the text of an operand with
filters, it finds just this operand and just these filters, in their order, with the same names and
the same arguments or none. So the entries of an accepted source have the operands, filters and
arguments that the tokens of the source spell, with plain texts for the literals that are
operands. -/
theorem read_rereads :
    (∀ (operand : Written.Operand) (calls : List Call) (e : FilterExpr),
      FilterExpr.ofText (operand.text ++ callsText calls) = .ok e →
        Rereads FilterExpr.literalValue operand calls e) ∧
    ∀ (source : Text) (entries : List ElementTags.Entry), read source = .ok entries →
      ∃ written own final, Token.scan source = .ok (own ++ final) ∧ Separator final ∧
        EntriesSpelled source written own final.head? ∧
          List.Forall₂ (fun w e => w.2.Rereads w.1 e) written entries := by
  refine ⟨fun operand calls e => ofText_rereads, fun source entries accepted => ?_⟩
  unfold read at accepted
  split at accepted
  · cases accepted
  · rename_i tokens scanned
    obtain ⟨written, own, final, rfl, separated, spelled, means⟩ :=
      readEntries_sound (Token.part_of_scan scanned) accepted
    exact ⟨written, own, final, scanned, separated, spelled, entries_reread means⟩

/-- A filter with an argument in quotes. -/
theorem read_rereads_filtered : ∃ entries written own final,
    read "a=x|default:\"b\"".toList = .ok entries ∧
      Token.scan "a=x|default:\"b\"".toList = .ok (own ++ final) ∧ Separator final ∧
        EntriesSpelled "a=x|default:\"b\"".toList written own final.head? ∧
          List.Forall₂ (fun w e => w.2.Rereads w.1 e) written entries := by
  obtain ⟨entries, accepted⟩ : ∃ entries, read "a=x|default:\"b\"".toList = .ok entries :=
    Outcome.ok_of_toBool (by cbv)
  obtain ⟨written, own, final, scanned, separated, spelled, same⟩ :=
    read_rereads.2 _ entries accepted
  exact ⟨entries, written, own, final, accepted, scanned, separated, spelled, same⟩

end Attribute
end ElementTags
