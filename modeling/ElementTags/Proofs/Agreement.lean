import Mathlib
import ElementTags.Proofs.Lexing
import ElementTags.Proofs.Placement
import ElementTags.Proofs.Printing
import ElementTags.Proofs.Words

/-! # Where both grammars agree

Bits are values of a name or a number with filters, and behind them such values with
keys of word characters (`ElementTags.Written.Bits`). The attribute grammar finds them
in their tokens, whatever blanks stand between them
(`ElementTags.Written.bits_printed`), and the other grammar finds them as words
(`ElementTags.Words.readOnto_bits`). Both give the same text to the host, and so they
agree on what is refused, and why, and on the values of what is accepted
(`ElementTags.Tag.readHead_agree`).
-/

namespace ElementTags

namespace Written

open Attribute Outcome Token

/-! ## Bits -/

/-- The host reads the literal in an operand, if there is one. -/
def Operand.Hosted : Operand → Prop
  | .literal word => FilterExpr.Literal word.text
  | .localized word => FilterExpr.Literal word.text
  | .name _ => True
  | .negative _ => True

/-- A name or a number with filters, whose literals the host reads. -/
structure Simple where
  operand : Word .name
  calls : List Call
  hosted : ∀ call ∈ calls, ∀ argument ∈ call.argument, argument.Hosted

/-- A key of word characters. -/
structure SimpleKey extends Word .name where
  plain : ∀ c ∈ text, Text.isWord c = true

namespace Simple

def term (v : Simple) : Term := .plain (.name v.operand) v.calls

def text (v : Simple) : Text := v.operand.text ++ callsText v.calls

/-- The attribute without a key. -/
def entry (v : Simple) : Entry := .positional v.term

/-- The attribute with a key. -/
def entryOf (key : SimpleKey) (v : Simple) : Entry := .keyword (.bare ⟨key.toWord, []⟩) v.term

theorem text_entry (v : Simple) : v.entry.text = v.text := rfl

theorem text_entryOf (key : SimpleKey) (v : Simple) :
    (v.entryOf key).text = key.text ++ '=' :: v.text := by
  have alone : (Key.bare ⟨key.toWord, []⟩).text = key.text := List.append_nil _
  rw [entryOf, Entry.text, alone]
  rfl

end Simple

/-- Bits behind some keys: values, and behind all of them values with keys, of which none comes
twice. A value with a key stands on one line. -/
inductive Bits : List Text → List Entry → Prop
  | nil {keys : List Text} : Bits keys []
  | value {rest : List Entry} (v : Simple) (others : Bits [] rest) : Bits [] (v.entry :: rest)
  | keyed {keys : List Text} {rest : List Entry} (key : SimpleKey) (v : Simple)
      (fresh : key.text ∉ keys) (sameLine : '\n' ∉ v.text) (others : Bits (key.text :: keys) rest) :
      Bits keys (v.entryOf key :: rest)

/-! ## Words of bits -/

/-- What is left of bits without the first one are bits. -/
theorem Bits.tail {keys : List Text} {entry : Entry} {entries : List Entry}
    (bits : Bits keys (entry :: entries)) : ∃ keys, Bits keys entries := by
  cases bits with
  | value _ others => exact ⟨_, others⟩
  | keyed _ _ _ _ others => exact ⟨_, others⟩

theorem isBare_of_isNameChar {c : Char} (named : Text.isNameChar c = true) :
    Words.isBare c = true := by
  rw [Words.isBare_eq, Text.isBlank_of_isNameChar named, Text.isQuote_of_isNameChar named]
  rfl

theorem Word.bare (word : Word .name) : ∀ c ∈ word.text, Words.isBare c = true :=
  fun c member => isBare_of_isNameChar (word.lexeme.2 c member)

variable {rest : Text}

theorem solid_cons {c : Char} (solid : Words.Solid rest) (bare : Words.isBare c = true) :
    Words.Solid (c :: rest) :=
  solid.behind_bare (s := [c]) (List.forall_mem_singleton.mpr bare)

theorem Operand.Hosted.solid {operand : Operand} (hosted : operand.Hosted)
    (solid : Words.Solid rest) : Words.Solid (operand.text ++ rest) := by
  cases operand with
  | literal word => exact solid.behind_literal hosted
  | name word => exact solid.behind_bare word.bare
  | negative number => exact solid_cons (solid.behind_bare number.bare) (by decide)
  | localized word =>
      have inner := (solid_cons (c := ')') solid (by decide)).behind_literal hosted
      have text : (Operand.localized word).text ++ rest =
          '_' :: '(' :: (word.text ++ ')' :: rest) := by
        simp only [Operand.text, Operand.operand, List.cons_append, List.append_assoc,
          List.nil_append]
      rw [text]
      exact solid_cons (solid_cons inner (by decide)) (by decide)

theorem solid_calls {calls : List Call}
    (hosted : ∀ call ∈ calls, ∀ argument ∈ call.argument, argument.Hosted) :
    Words.Solid (callsText calls) := by
  induction calls with
  | nil => exact Words.solid_of_bare fun c none => (by cases none)
  | cons call calls ih =>
      obtain ⟨first, others⟩ := List.forall_mem_cons.mp hosted
      have further := ih others
      rw [callsText, List.flatMap_cons, text_call, List.cons_append, List.append_assoc]
      refine solid_cons (Words.Solid.behind_bare ?_ call.name.bare) (by decide)
      cases argument : call.argument with
      | none => exact further
      | some operand =>
          exact solid_cons ((first operand argument).solid further) (by decide)

theorem Simple.solid (v : Simple) : Words.Solid v.text :=
  (solid_calls v.hosted).behind_bare v.operand.bare

/-- A bit is a word. -/
theorem Bits.proper_head {keys : List Text} {entry : Entry} {entries : List Entry}
    (bits : Bits keys (entry :: entries)) : Words.Proper entry.text := by
  cases bits with
  | value v _ =>
      exact ⟨List.append_ne_nil_of_left_ne_nil v.operand.lexeme.1 _, v.solid⟩
  | keyed key v _ _ _ =>
      rw [v.text_entryOf]
      exact ⟨List.append_ne_nil_of_left_ne_nil key.lexeme.1 _,
        (solid_cons v.solid (by decide)).behind_bare key.bare⟩

theorem localizedQuote?_word (word : Word .name) (other : ∀ c ∈ rest.head?, c ≠ '(') :
    Words.localizedQuote? (word.text ++ rest) = none := by
  obtain ⟨nonempty, named⟩ := word.lexeme
  unfold Words.localizedQuote?
  split
  · rename_i q more same
    cases text : word.text with
    | nil => exact absurd text nonempty
    | cons c inner =>
        rw [text, List.cons_append] at same
        have behind := (List.cons.inj same).2
        cases inner with
        | nil =>
            rw [List.nil_append] at behind
            exact absurd rfl (other '(' (by rw [behind]; rfl))
        | cons d inner =>
            obtain rfl := (List.cons.inj behind).1
            have paren := named '(' (by rw [text]; exact List.mem_cons_of_mem _ List.mem_cons_self)
            exact absurd paren (by decide)
  · rfl

theorem head_calls (calls : List Call) : ∀ c ∈ (callsText calls).head?, c = '|' := by
  cases calls with
  | nil => exact fun c none => (by cases none)
  | cons call calls => exact fun c first => (Option.some.inj first).symm

/-- A bit starts no localized text. -/
theorem Bits.localizedQuote?_head {keys : List Text} {entry : Entry} {entries : List Entry}
    (bits : Bits keys (entry :: entries)) : Words.localizedQuote? entry.text = none := by
  cases bits with
  | value v _ =>
      refine localizedQuote?_word v.operand fun c first => ?_
      rw [head_calls v.calls c first]
      decide
  | keyed key v _ _ _ =>
      rw [v.text_entryOf]
      refine localizedQuote?_word key.toWord fun c first => ?_
      obtain rfl := Option.some.inj first
      decide

theorem Bits.proper {keys : List Text} {entries : List Entry} (bits : Bits keys entries) :
    ∀ s ∈ entries.map Entry.text, Words.Proper s ∧ Words.localizedQuote? s = none := by
  induction entries generalizing keys with
  | nil => exact fun s none => (by cases none)
  | cons entry entries ih =>
      obtain ⟨keysBehind, others⟩ := bits.tail
      exact List.forall_mem_cons.mpr
        ⟨⟨bits.proper_head, bits.localizedQuote?_head⟩, ih others⟩

/-- A value without a key shows none. -/
theorem Simple.keyed?_text (v : Simple) : Words.keyed? v.text = none := by
  have other : ∀ c ∈ (callsText v.calls).head?, Text.isWord c = false := fun c first => by
    rw [head_calls v.calls c first]
    decide
  have stops : ∀ c ∈ (v.text.dropWhile Text.isWord).head?, c ≠ '=' := by
    rcases dropWhile_append_cases v.operand.text other with ⟨-, here⟩ | ⟨d, inside, -, more, here⟩
    · rw [Simple.text, here]
      intro c first
      rw [head_calls v.calls c first]
      decide
    · rw [Simple.text, here]
      intro c first
      obtain rfl := Option.some.inj first
      rintro rfl
      exact absurd (v.operand.lexeme.2 _ inside) (by decide)
  unfold Words.keyed?
  split
  · rename_i same
    exact absurd rfl (stops '=' (by rw [same]; rfl))
  · rfl

theorem Simple.keyed?_textOf (key : SimpleKey) {v : Simple} (sameLine : '\n' ∉ v.text) :
    Words.keyed? (key.text ++ '=' :: v.text) = some (key.text, v.text) := by
  have noWord : ∀ c ∈ ('=' :: v.text).head?, Text.isWord c = false := fun c first => by
    obtain rfl := Option.some.inj first
    decide
  have stops := takeWhile_append_of_head key.plain noWord
  have whole : v.text.takeWhile (· ≠ '\n') = v.text := by
    refine List.takeWhile_eq_self_iff.mpr fun c member => decide_eq_true ?_
    rintro rfl
    exact sameLine member
  have some : v.text ≠ [] := List.append_ne_nil_of_left_ne_nil v.operand.lexeme.1 _
  rw [Words.keyed?, stops.2]
  simp only [stops.1, whole, List.isEmpty_eq_false_iff.mpr key.lexeme.1,
    List.isEmpty_eq_false_iff.mpr some, Bool.or_self, Bool.false_eq_true, if_false]

/-! ## What bits mean -/

/-- Both grammars hand the same text to the host. -/
theorem compile_word (word : Word .name) (filters : Text) :
    Attribute.compile (Operand.name word).operand filters =
      Words.compile (word.text ++ filters) := by
  have text : (Operand.name word).operand.text = word.text := rfl
  rw [Attribute.compile, Words.compile, text]
  cases FilterExpr.ofText (word.text ++ filters) <;> rfl

theorem Simple.meaning_term (v : Simple) :
    v.term.meaning = (Words.compile v.text).map ElementTags.Term.plain := by
  rw [Simple.term, Term.meaning, compile_word, Simple.text]
  cases Words.compile (v.operand.text ++ callsText v.calls) <;> rfl

theorem entriesMeaning_cons (start : Nat) (entry : Entry) (rest : List (Nat × Entry)) :
    entriesMeaning ((start, entry) :: rest) = (do
      let value ← entry.meaning start
      (entriesMeaning rest).map (value :: ·)) := rfl

theorem Simple.meaning_entry (v : Simple) (start : Nat) :
    v.entry.meaning start = (Words.compile v.text).map (.positional start ∘ .plain) := by
  rw [Simple.entry, Entry.meaning, v.meaning_term]
  cases Words.compile v.text <;> rfl

theorem Simple.meaning_entryOf (key : SimpleKey) (v : Simple) (start : Nat) :
    (v.entryOf key).meaning start =
      (Words.compile v.text).map (.keyword start key.text ∘ .plain) := by
  have alone : (Key.bare ⟨key.toWord, []⟩).key = key.text := List.append_nil _
  rw [Simple.entryOf, Entry.meaning, v.meaning_term, alone]
  cases Words.compile v.text <;> rfl

/-- The value of a bit is what the host makes of its text. -/
theorem Bits.meaning_head {keys : List Text} {entry : Entry} {entries : List Entry}
    (bits : Bits keys (entry :: entries)) : ∃ (text : Text) (place : Nat → FilterExpr → _),
      ∀ start, entry.meaning start = (Words.compile text).map (place start) := by
  cases bits with
  | value v _ => exact ⟨v.text, fun start => .positional start ∘ .plain, v.meaning_entry⟩
  | keyed key v _ _ _ =>
      exact ⟨v.text, fun start => .keyword start key.text ∘ .plain, v.meaning_entryOf key⟩

theorem exists_concat_iff {before : List ElementTags.Entry} {last : ElementTags.Entry}
    {key : Text} : (∃ entry ∈ before ++ [last], entry.key? = some key) ↔
      (∃ entry ∈ before, entry.key? = some key) ∨ last.key? = some key := by
  simp only [List.mem_append, List.mem_singleton, or_and_right, exists_or, exists_eq_left]

/-- The other grammar finds bits in their words. -/
theorem readOnto_bits (tag : Text) {keys : List Text} {entries : List Entry}
    (bits : Bits keys entries) (before : List ElementTags.Entry)
    (known : ∀ key, (∃ entry ∈ before, entry.key? = some key) ↔ key ∈ keys) :
    Words.readOnto tag before (entries.map Entry.text) =
      (entriesMeaning (entries.map fun entry => (0, entry))).map (before ++ ·) := by
  induction bits generalizing before with
  | nil =>
      rw [List.map_nil, Words.readOnto]
      exact congrArg Except.ok (List.append_nil before).symm
  | @value rest v others ih =>
      have keyless : before.any (·.key?.isSome) = false := by
        rw [List.any_eq_false]
        intro entry member keyed
        obtain ⟨key, keyed⟩ := Option.isSome_iff_exists.mp keyed
        exact absurd ((known key).mp ⟨entry, member, keyed⟩) List.not_mem_nil
      rw [List.map_cons, List.map_cons, v.text_entry, Words.readOnto, v.keyed?_text,
        entriesMeaning_cons, v.meaning_entry]
      simp only [keyless, Bool.false_eq_true, if_false]
      cases Words.compile v.text with
      | error fault => rfl
      | ok e =>
          rw [ok_bind, ih]
          · cases entriesMeaning (rest.map fun entry => (0, entry)) with
            | error fault => rfl
            | ok values => exact congrArg Except.ok (List.append_assoc _ _ _)
          · intro key
            rw [exists_concat_iff, known key]
            exact or_iff_left fun keyed => by cases keyed
  | @keyed keys rest key v fresh sameLine others ih =>
      have unknown : ¬before.any (fun entry => entry.key? = some key.text) = true := by
        rw [List.any_eq_true]
        rintro ⟨entry, member, keyed⟩
        exact fresh ((known key.text).mp ⟨entry, member, of_decide_eq_true keyed⟩)
      rw [List.map_cons, List.map_cons, v.text_entryOf, Words.readOnto,
        v.keyed?_textOf key sameLine, entriesMeaning_cons, v.meaning_entryOf]
      dsimp only
      cases Words.compile v.text with
      | error fault => rfl
      | ok e =>
          rw [ok_bind, if_neg unknown, ih]
          · cases entriesMeaning (rest.map fun entry => (0, entry)) with
            | error fault => rfl
            | ok values => exact congrArg Except.ok (List.append_assoc _ _ _)
          · intro other
            rw [exists_concat_iff, known other, List.mem_cons, or_comm]
            exact or_congr_left
              ⟨fun same => (Option.some.inj same).symm, fun same => by rw [same]; rfl⟩

/-! ## Tokens of bits -/

variable {next next' : Option Token}

/-- What an operand spells stays the same while no mark comes next. -/
theorem Operand.Spelled.ahead {operand : Operand} {own : List Token}
    (spelled : operand.Spelled own next) (plain : ∀ t ∈ next', t.kind ≠ .mark) :
    operand.Spelled own next' := by
  cases spelled with
  | literal kind text => exact .literal kind text
  | name kind text _ =>
      exact .name kind text fun _ paren same mark => absurd (kind_of_isMark mark) (plain paren same)
  | negative mark kind text adjacent => exact .negative mark kind text adjacent
  | localized nameKind nameText opening adjacent kind text closing =>
      exact .localized nameKind nameText opening adjacent kind text closing

theorem noMark_of_kind (plain : ∀ t ∈ next, t.kind ≠ .mark) (c : Char) : NoMark c next :=
  fun t same => isMark_of_kind (plain t same) c

theorem CallsSpelled.ahead {calls : List Call} {tokens : List Token}
    (spelled : CallsSpelled calls tokens next) (plain : ∀ t ∈ next', t.kind ≠ .mark) :
    CallsSpelled calls tokens next' := by
  induction spelled with
  | nil _ => exact .nil (noMark_of_kind plain '|')
  | @plain word calls bar name tokens next mark kind text noArgument others ih =>
      refine .plain mark kind text ?_ ih
      cases tokens with
      | nil => exact noMark_of_kind plain ':'
      | cons t tokens => exact noArgument
  | @argument word operand calls bar name colon own tokens next mark kind text colonMark spelled
      others ih =>
      refine .argument mark kind text colonMark ?_ ih
      cases tokens with
      | nil => exact spelled.ahead plain
      | cons t tokens => exact spelled

/-- The tokens of a value that is printed at a position. -/
theorem simple_printed (v : Simple) (source : Text) (n : Nat) :
    ∃ behind, Segments n v.text (⟨.name, v.operand.text, n⟩ :: behind) ∧
      ∀ next : Option Token, (∀ t ∈ next, t.kind = .name) →
        v.term.Spelled source (⟨.name, v.operand.text, n⟩ :: behind) next ∧
          NotKey ⟨.name, v.operand.text, n⟩ (behind.head?.or next) := by
  obtain ⟨tokens, segments, spelled⟩ := calls_printed v.calls (n + v.operand.text.length)
  have noName := noName_calls v.calls noName_nil
  rw [List.append_nil] at noName
  refine ⟨tokens, segments_word v.operand (fun _ => noName) segments, fun next named => ?_⟩
  have plain : ∀ t ∈ next, t.kind ≠ .mark := fun t same => kind_ne (named t same) (by decide)
  have calls := spelled none (among_none _)
  have ahead := among_calls calls (among_none [])
  have noParenthesis : NoMark '(' (tokens.head?.or next) := by
    cases tokens with
    | nil => exact noMark_of_kind plain '('
    | cons t tokens => exact ahead.noMark (by decide)
  have noOperator : NoOperator (tokens.head?.or next) := by
    cases tokens with
    | nil =>
        intro t same
        rw [Option.eq_none_iff_forall_ne_some]
        intro operator found
        exact plain t same (kind_of_isMark (operator?_eq_some_iff.mp found))
    | cons t tokens =>
        refine ahead.noOperator fun operator => ?_
        cases operator <;> decide
  constructor
  · have operand : Operand.Spelled (.name v.operand) [⟨.name, v.operand.text, n⟩]
        (tokens.head?.or next) := by
      refine .name rfl rfl fun _ paren same mark => ?_
      rw [noParenthesis paren same] at mark
      cases mark
    exact .plain operand noOperator (calls.ahead plain)
  · cases tokens with
    | nil =>
        intro _ t same
        refine ⟨isMark_of_kind (plain t same) '=', fun _ => ⟨isMark_of_kind (plain t same) '-', ?_,
          fun quoted => by cases quoted⟩⟩
        exact kind_ne (named t same) (by decide)
    | cons t tokens => exact (ahead.aside (by decide) (by decide) _).notKey rfl

/-- The tokens of a bit that is printed at a position: a name comes first. -/
theorem bit_printed {keys : List Text} {entry : Entry} {entries : List Entry}
    (bits : Bits keys (entry :: entries)) (source : Text) (n : Nat) :
    ∃ first behind, Segments n entry.text (first :: behind) ∧ first.kind = .name ∧
      ∀ next : Option Token, (∀ t ∈ next, t.kind = .name) →
        entry.Spelled source (first :: behind) next := by
  cases bits with
  | value v _ =>
      obtain ⟨behind, segments, spelled⟩ := simple_printed v source n
      exact ⟨_, behind, segments, rfl, fun next named =>
        .positional (spelled next named).1 (spelled next named).2⟩
  | keyed key v _ _ _ =>
      obtain ⟨behind, segments, spelled⟩ := simple_printed v source (n + key.text.length + 1)
      have all := segments_word key.toWord (n := n) (fun _ => noName_cons (by decide))
        (segments_mark (c := '=') (lexeme_mark (by decide)) segments)
      rw [v.text_entryOf]
      refine ⟨_, _, all, rfl, fun next named => ?_⟩
      have keySpelled : (Key.bare ⟨key.toWord, []⟩).Spelled [⟨.name, key.text, n⟩]
          (some ⟨.mark, ['='], n + key.text.length⟩) :=
        .bare (.mk rfl rfl .nil ((among_some (c := '=') rfl (by decide)).nameEnds _))
      exact .keyword keySpelled rfl (spelled next named).1

/-- The tokens of bits with blanks between them. -/
theorem bits_printed {keys : List Text} {entries : List Entry} (bits : Bits keys entries)
    {layout : Text} (lined : Text.Lined (entries.map Entry.text) layout) (source : Text) (n : Nat) :
    ∃ tokens placed, Segments n (Text.dropBlanks layout) tokens ∧
      (∀ t ∈ tokens.head?, t.kind = .name) ∧
      placed.map (·.2) = entries ∧ EntriesSpelled source placed tokens none := by
  induction entries generalizing keys layout n with
  | nil =>
      cases lined with
      | last blank =>
          rw [show Text.dropBlanks layout = [] from List.dropWhile_eq_nil_iff.mpr blank]
          exact ⟨[], [], .nil n, fun t none => (by cases none), rfl, .nil⟩
  | cons entry entries ih =>
      obtain ⟨keysBehind, others⟩ := bits.tail
      cases lined with
      | @cons gap _ rest _ nonempty blank behind =>
          obtain ⟨first, own, segments, kind, spelled⟩ := bit_printed bits source n
          obtain ⟨tokens, placed, segmentsRest, named, same, spelledRest⟩ :=
            ih others behind (n + entry.text.length + (rest.takeWhile Text.isBlank).length)
          have further := segmentsRest.behind_blanks fun c member => List.mem_takeWhile_imp member
          rw [Text.dropBlanks, List.takeWhile_append_dropWhile] at further
          have parted : Parted entry.text rest := fun _ _ _ => noName_of_blank behind.head_blank
          rw [Text.dropBlanks_behind_blanks blank,
            Text.dropBlanks_of_head bits.proper_head.head?_append]
          refine ⟨first :: own ++ tokens, (first.start, entry) :: placed,
            segments.append further parted, ?_, ?_, ?_⟩
          · intro t head
            obtain rfl := Option.some.inj head
            exact kind
          · rw [List.map_cons, same]
          · refine .cons (.inl rfl) (spelled _ ?_) spelledRest
            rw [Option.or_none]
            exact named

/-- The attribute grammar reads bits as they are meant, whatever blanks stand around them. -/
theorem read_bits {entries : List Entry} (bits : Bits [] entries) {layout : Text}
    (lined : Text.Lined (entries.map Entry.text) layout) :
    ∃ placed : List (Nat × Entry), placed.map (·.2) = entries ∧
      Attribute.read (Text.dropBlanks layout) = entriesMeaning placed := by
  obtain ⟨tokens, placed, segments, -, same, spelled⟩ :=
    bits_printed bits lined (Text.dropBlanks layout) 0
  exact ⟨placed, same, read_of_spelled segments spelled⟩

/-! ## Both grammars -/

/-- Where bits stand does not matter for what they mean. -/
theorem entriesMeaning_placeAt (placed : List (Nat × Entry)) :
    entriesMeaning ((placed.map (·.2)).map fun entry => (0, entry)) =
      (entriesMeaning placed).map (List.map fun entry => entry.placeAt 0) := by
  induction placed with
  | nil => rfl
  | cons p placed ih =>
      obtain ⟨start, entry⟩ := p
      have moved : entry.meaning 0 = (entry.meaning start).map (·.placeAt 0) := by
        cases entry with
        | positional value =>
            rw [Entry.meaning, Entry.meaning]
            cases value.meaning <;> rfl
        | lookup name hyphens => rfl
        | keyword key value =>
            rw [Entry.meaning, Entry.meaning]
            cases value.meaning <;> rfl
      rw [List.map_cons, List.map_cons, entriesMeaning_cons, entriesMeaning_cons, ih, moved]
      cases entry.meaning start with
      | error fault => rfl
      | ok value => cases entriesMeaning placed <;> rfl

theorem compile_eq_error {s : Text} {fault : AttributeFault}
    (refused : Words.compile s = .error fault) : ∃ inner, fault = .value inner := by
  unfold Words.compile at refused
  split at refused
  · cases refused
  · cases refused
    exact ⟨_, rfl⟩

/-- Only values are refused in bits. -/
theorem Bits.fault {keys : List Text} {entries : List Entry} (bits : Bits keys entries)
    {placed : List (Nat × Entry)} (same : placed.map (·.2) = entries) {fault : AttributeFault}
    (refused : entriesMeaning placed = .error fault) : ∃ inner, fault = .value inner := by
  induction placed generalizing keys entries with
  | nil => cases refused
  | cons p placed ih =>
      obtain ⟨start, entry⟩ := p
      subst same
      rw [entriesMeaning_cons] at refused
      cases here : entry.meaning start with
      | ok value =>
          obtain ⟨_, others⟩ := bits.tail
          rw [here, ok_bind] at refused
          cases behind : entriesMeaning placed with
          | ok values =>
              rw [behind] at refused
              cases refused
          | error inner =>
              rw [behind] at refused
              cases refused
              exact ih others rfl behind
      | error inner =>
          rw [here] at refused
          cases refused
          obtain ⟨text, place, means⟩ := bits.meaning_head
          rw [means] at here
          cases compiled : Words.compile text with
          | ok e =>
              rw [compiled] at here
              cases here
          | error inner =>
              rw [compiled] at here
              cases here
              exact compile_eq_error compiled

end Written

namespace Words

open Written

/-- The other grammar reads bits as they are meant at the start. -/
theorem read_bits {name : Text} (word : Text.OneWord name)
    (quoteless : ∀ c ∈ name, Text.isQuote c = false) {entries : List Written.Entry}
    (bits : Bits [] entries) {layout : Text}
    (lined : Text.Lined (entries.map Written.Entry.text) layout) :
    read name (name ++ layout) = entriesMeaning (entries.map fun entry => (0, entry)) := by
  have proper : Proper name := by
    refine ⟨word.nonempty, solid_of_bare fun c member => ?_⟩
    rw [isBare_eq, word.unbroken c member, quoteless c member]
    rfl
  have plain : localizedQuote? name = none := by
    unfold localizedQuote?
    split
    · exact if_neg (ne_true_of_eq_false (quoteless _ (by simp)))
    · rfl
  have words : splitWithin (name ++ layout).length (name ++ layout) =
      name :: entries.map Written.Entry.text := by
    obtain ⟨limit, enough⟩ : ∃ limit, (name ++ layout).length = limit + 1 + layout.length := by
      have some := List.length_pos_of_ne_nil word.nonempty
      exact ⟨name.length - 1, by rw [List.length_append]; omega⟩
    rw [enough, Nat.add_right_comm]
    have none : ∀ c ∈ ([] : Text), Text.isBlank c = true := fun c member => by cases member
    have first := splitWithin_word proper none lined.head_blank (limit + layout.length)
    rw [List.nil_append] at first
    rw [first, splitWithin_lined lined (fun s member => (bits.proper s member).1)]
    exact Nat.le_trans lined.length_le (Nat.le_add_left _ _)
  have apart : split (name ++ layout) = .ok (name :: entries.map Written.Entry.text) := by
    rw [split, words]
    exact joinLocalized_plain (List.forall_mem_cons.mpr
      ⟨plain, fun s member => (bits.proper s member).2⟩)
  rw [read, apart]
  change readOnto name [] (entries.map Written.Entry.text) = _
  rw [readOnto_bits name bits []]
  · cases entriesMeaning (entries.map fun entry => (0, entry)) <;> rfl
  · exact fun key => ⟨fun ⟨_, member, _⟩ => absurd member List.not_mem_nil,
      fun member => absurd member List.not_mem_nil⟩

end Words

namespace Tag

open Outcome Written

/-- **Both grammars agree on bits.** Behind the name of a tag, which is one word without quotes,
they refuse the bits for the same value, or accept them with the same values in every scope. -/
theorem readHead_agree {name : Text} (word : Text.OneWord name)
    (quoteless : ∀ c ∈ name, Text.isQuote c = false) {entries : List Written.Entry}
    (bits : Bits [] entries) {layout : Text}
    (lined : Text.Lined (entries.map Written.Entry.text) layout) :
    (∃ fault site,
      readHead name true (name ++ layout) = .error (.attributes (.value fault) site) ∧
      readHead name false (name ++ layout) = .error (.attributes (.value fault) site)) ∨
    ∃ custom native,
      readHead name true (name ++ layout) = .ok custom ∧
      readHead name false (name ++ layout) = .ok native ∧
      custom.source = native.source ∧
      Entry.resolveAll custom.entries = Entry.resolveAll native.entries := by
  obtain ⟨placed, rfl, custom⟩ := Written.read_bits bits lined
  have native := Words.read_bits word quoteless bits lined
  have unbroken : ∀ c ∈ name, (!Text.isBlank c) = true := fun c member => by
    rw [word.unbroken c member]
    rfl
  have ended : ∀ c ∈ layout.head?, (!Text.isBlank c) = false := fun c first => by
    rw [lined.head_blank c first]
    rfl
  have stops := takeWhile_append_of_head unbroken ended
  have cut : splitContents (name ++ layout) = (name, Text.dropBlanks layout) := by
    rw [splitContents, stops.1, stops.2]
  have some : name.isEmpty = false := List.isEmpty_eq_false_iff.mpr word.nonempty
  rw [entriesMeaning_placeAt] at native
  simp only [readHead, cut, some, if_true, if_false, Bool.false_eq_true, custom, native]
  cases meant : entriesMeaning placed with
  | error fault =>
      obtain ⟨inner, rfl⟩ := bits.fault rfl meant
      exact .inl ⟨inner, _, rfl, rfl⟩
  | ok read =>
      exact .inr ⟨_, _, rfl, rfl, rfl, (Entry.resolveAll_placeAt (fun _ => 0) read).symm⟩

/-- A blank in a literal, and a value with a key behind it. -/
theorem readHead_agree_literal : ∃ custom native,
    readHead "test".toList true "test x|default:\"a b\"  k=1".toList = .ok custom ∧
    readHead "test".toList false "test x|default:\"a b\"  k=1".toList = .ok native ∧
    custom.source = native.source ∧
    Entry.resolveAll custom.entries = Entry.resolveAll native.entries := by
  have letter {c : Char} (named : Text.isNameChar c = true) : Token.Lexeme .name [c] :=
    ⟨List.cons_ne_nil _ _, List.forall_mem_singleton.mpr named⟩
  let filter : Call := ⟨⟨"default".toList, by decide, List.all_eq_true.mp (by decide)⟩,
    some (.literal ⟨literal "a b".toList, lexeme_literal _⟩)⟩
  let value : Simple := ⟨⟨['x'], letter (by decide)⟩, [filter], by
    refine List.forall_mem_singleton.mpr fun argument same => ?_
    obtain rfl := Option.some.inj same
    rfl⟩
  let number : Simple := ⟨⟨['1'], letter (by decide)⟩, [], fun call none => (by cases none)⟩
  let key : SimpleKey := ⟨⟨['k'], letter (by decide)⟩,
    List.forall_mem_singleton.mpr (by decide)⟩
  have bits : Bits [] [value.entry, number.entryOf key] :=
    .value value (.keyed key number List.not_mem_nil
      (fun member => absurd (List.mem_singleton.mp member) (by decide)) .nil)
  have space : ∀ c ∈ [' '], Text.isBlank c = true := List.forall_mem_singleton.mpr rfl
  have spaces : ∀ c ∈ [' ', ' '], Text.isBlank c = true :=
    List.forall_mem_cons.mpr ⟨rfl, space⟩
  have lined : Text.Lined ([value.entry, number.entryOf key].map Written.Entry.text)
      ([' '] ++ (value.entry.text ++ ([' ', ' '] ++ ((number.entryOf key).text ++ [])))) :=
    .cons (List.cons_ne_nil _ _) space (.cons (List.cons_ne_nil _ _) spaces
      (.last fun c none => (by cases none)))
  have contents : "test x|default:\"a b\"  k=1".toList = "test".toList ++
      ([' '] ++ (value.entry.text ++ ([' ', ' '] ++ ((number.entryOf key).text ++ [])))) := rfl
  have accepted : (readHead "test".toList true
      "test x|default:\"a b\"  k=1".toList).toBool = true := by cbv
  rw [contents] at accepted ⊢
  have word : Text.OneWord "test".toList := by decide
  have quoteless : ∀ c ∈ "test".toList, Text.isQuote c = false :=
    fun c member => Text.isQuote_of_isNameChar (List.all_eq_true.mp (by decide) c member)
  rcases readHead_agree word quoteless bits lined with ⟨fault, site, refused, -⟩ | agreed
  · rw [refused] at accepted
    cases accepted
  · exact agreed

/-- The grammars do not agree on a literal with a line break in a value with a key, nor on what
stands behind the name of a tag that opens a quote. Where a backslash stands at the end of a line
in a literal, both refuse the literal, but the words are looked at first. -/
theorem readHead_disagree :
    (∃ head, readHead "test".toList true "test k=x|default:\"a\nb\"".toList = .ok head) ∧
    (∃ fault, readHead "test".toList false "test k=x|default:\"a\nb\"".toList = .error fault) ∧
    (∃ head, readHead "a\"".toList true "a\" x|default:\"c\"".toList = .ok head) ∧
    (∃ fault, readHead "a\"".toList false "a\" x|default:\"c\"".toList = .error fault) ∧
    (∃ fault site, readHead "test".toList true "test x|default:\"a\\\n_('b\"".toList =
      .error (.attributes (.value fault) site)) ∧
    ∃ site, readHead "test".toList false "test x|default:\"a\\\n_('b\"".toList =
      .error (.attributes .openLocalized site) := by
  refine ⟨ok_of_toBool (by cbv), error_of_toBool (by cbv), ok_of_toBool (by cbv),
    error_of_toBool (by cbv), ⟨.argumentCount "default".toList 2 1, ?_⟩, ?_⟩
  all_goals
    exact ⟨some (siteOf "test x|default:\"a\\\n_('b\"".toList
      "x|default:\"a\\\n_('b\"".toList), by cbv⟩

end Tag
end ElementTags
