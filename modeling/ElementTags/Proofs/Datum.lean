import ElementTags.Proofs.Joining
import ElementTags.Proofs.Numerals
import ElementTags.Proofs.Printing
import ElementTags.Value.Basic

/-! # Data written as literals

Texts, whole numbers, the three constants, and lists and mappings of them are
written with literals: a text in quotes of either kind, the items of a list and the
pairs of a mapping with a comma and a blank between each two, and keys in quotes.
What is written so is cut into tokens that spell a term without filters
(`ElementTags.Written.datum_written`).
-/

namespace ElementTags.Written

open Token

/-- A text and the quotes in which it is written. -/
structure Quotation where
  quote : Char
  isQuote : Text.isQuote quote = true
  text : Text

/-- The text in its quotes. -/
def Quotation.spelling (q : Quotation) : Text := quotedIn q.quote q.text

/-- The token of a text in quotes. -/
def Quotation.word (q : Quotation) : Word .quoted := ⟨q.spelling, lexeme_quotedIn q.isQuote q.text⟩

/-- Data that can be written with literals. -/
inductive Datum
  | null
  | bool (b : Bool)
  | number (n : Int)
  | text (quotation : Quotation)
  | list (items : List Datum)
  | dict (pairs : List (Quotation × Datum))

namespace Datum

mutual

/-- What is written for a datum. -/
def spelling : Datum → Text
  | null => "None".toList
  | bool b => if b then "True".toList else "False".toList
  | number n => Text.ofInt n
  | text q => q.spelling
  | list items => '[' :: Text.join ", ".toList (itemSpellings items) ++ [']']
  | dict pairs => '\x7b' :: Text.join ", ".toList (pairSpellings pairs) ++ ['\x7d']

/-- What is written for each item of a list. -/
def itemSpellings : List Datum → List Text
  | [] => []
  | item :: rest => item.spelling :: itemSpellings rest

/-- What is written for each pair of a mapping. -/
def pairSpellings : List (Quotation × Datum) → List Text
  | [] => []
  | (key, item) :: rest => (key.spelling ++ ": ".toList ++ item.spelling) :: pairSpellings rest

end

mutual

/-- The value that a datum is. -/
def value : Datum → Value
  | null => .null
  | bool b => .bool b
  | number n => .int n
  | text q => .text q.text
  | list items => .list (itemValues items)
  | dict pairs => .dict (pairValues pairs)

/-- The values of the items of a list. -/
def itemValues : List Datum → List Value
  | [] => []
  | item :: rest => item.value :: itemValues rest

/-- The keys and values of a mapping. -/
def pairValues : List (Quotation × Datum) → List (Value × Value)
  | [] => []
  | (key, item) :: rest => (.text key.text, item.value) :: pairValues rest

end

mutual

/-- Numbers have no more digits than are read, and the keys of a mapping are all different. -/
def Proper : Datum → Prop
  | null => True
  | bool _ => True
  | number n => (Text.ofNat n.natAbs).length ≤ Text.maxDigits
  | text _ => True
  | list items => ItemsProper items
  | dict pairs => (pairs.map (·.1.text)).Nodup ∧ PairsProper pairs

/-- All items of a list are proper. -/
def ItemsProper : List Datum → Prop
  | [] => True
  | item :: rest => item.Proper ∧ ItemsProper rest

/-- All values of a mapping are proper. -/
def PairsProper : List (Quotation × Datum) → Prop
  | [] => True
  | (_, item) :: rest => item.Proper ∧ PairsProper rest

end

theorem itemSpellings_ne_nil (item : Datum) (rest : List Datum) :
    itemSpellings (item :: rest) ≠ [] := by
  rw [itemSpellings]
  exact List.cons_ne_nil _ _

theorem pairSpellings_ne_nil (pair : Quotation × Datum) (rest : List (Quotation × Datum)) :
    pairSpellings (pair :: rest) ≠ [] := by
  rw [pairSpellings]
  exact List.cons_ne_nil _ _

/-! ## Written forms -/

/-- The name of the absent value. -/
def nullWord : Word .name :=
  ⟨"None".toList, List.cons_ne_nil _ _, Text.forall_mem_of_all (by decide)⟩

/-- The names of the truth values. -/
def boolWord (b : Bool) : Word .name where
  text := if b then "True".toList else "False".toList
  lexeme := by
    cases b with
    | false => exact ⟨List.cons_ne_nil _ _, Text.forall_mem_of_all (by decide)⟩
    | true => exact ⟨List.cons_ne_nil _ _, Text.forall_mem_of_all (by decide)⟩

/-- The digits of a number, which are a name that starts with a digit. -/
def digitsWord (n : Nat) : Number where
  text := Text.ofNat n
  lexeme := by
    have all : ∀ c ∈ Text.commonDigits, Text.isNameChar c = true :=
      Text.forall_mem_of_all (by decide)
    exact ⟨Text.ofNat_ne_nil n, fun c member => all c (Text.mem_commonDigits_of_mem_ofNat member)⟩
  digit := by
    have all : ∀ c ∈ Text.commonDigits, Text.isDigit c = true :=
      Text.forall_mem_of_all (by decide)
    cases shape : Text.ofNat n with
    | nil => exact absurd shape (Text.ofNat_ne_nil n)
    | cons c s =>
        have first : c ∈ Text.ofNat n := shape ▸ List.mem_cons_self
        exact all c (Text.mem_commonDigits_of_mem_ofNat first)

/-- A whole number as an operand. -/
def integerOperand : Int → Operand
  | .ofNat n => .name (digitsWord n).toWord
  | .negSucc n => .negative (digitsWord (n + 1))

mutual

/-- The written form of a datum. -/
def term : Datum → Term
  | null => .plain (.name nullWord) []
  | bool b => .plain (.name (boolWord b)) []
  | number n => .plain (integerOperand n) []
  | text q => .plain (.literal q.word) []
  | list items => .list (itemTerms items) []
  | dict pairs => .dict (pairTerms pairs) []

/-- The written forms of the items of a list. -/
def itemTerms : List Datum → List Term
  | [] => []
  | item :: rest => item.term :: itemTerms rest

/-- The written forms of the pairs of a mapping. -/
def pairTerms : List (Quotation × Datum) → List (PairKey × Term)
  | [] => []
  | (key, item) :: rest => (.quoted key.text, item.term) :: pairTerms rest

end

end Datum

/-! ## Tokens -/

/-- The tokens of a plain value without filters. -/
theorem operand_written (operand : Operand) (source : Text) (n : Nat) :
    ∃ first behind, Segments n operand.text (first :: behind) ∧ first.start = n ∧
      ∀ next, Among delimiters next →
        Term.Spelled source (.plain operand []) (first :: behind) next ∧
          NotKey first (behind.head?.or next) := by
  have plain := plain_printed operand [] source n
  rw [show callsText [] = [] from rfl, List.append_nil] at plain
  exact plain

theorem text_integerOperand (n : Int) : (Datum.integerOperand n).text = Text.ofInt n := by
  cases n <;> rfl

mutual

/-- The tokens of a datum that is written at a position. -/
theorem datum_written (source : Text) (d : Datum) (n : Nat) :
    ∃ first behind, Segments n d.spelling (first :: behind) ∧ first.start = n ∧
      ∀ next, Among delimiters next →
        d.term.Spelled source (first :: behind) next ∧ NotKey first (behind.head?.or next) := by
  match d with
  | .null => exact operand_written (.name Datum.nullWord) source n
  | .bool b => exact operand_written (.name (Datum.boolWord b)) source n
  | .number k =>
      rw [Datum.spelling, Datum.term, ← text_integerOperand]
      exact operand_written (Datum.integerOperand k) source n
  | .text q => exact operand_written (.literal q.word) source n
  | .list items =>
      rw [Datum.spelling, Datum.term]
      obtain ⟨inner, segments, spelled⟩ := items_written source items (n + 1)
      have closing := segments.append (segments_mark (c := ']') (lexeme_mark (by decide))
        (.nil _)) (parted_cons (by decide +kernel) _ _)
      refine ⟨_, _, segments_mark (lexeme_mark (by decide)) closing, rfl, fun next among => ?_⟩
      exact ⟨.list rfl (spelled _ rfl) rfl (.nil (among.noMark (by decide))),
        fun other => absurd rfl other⟩
  | .dict pairs =>
      rw [Datum.spelling, Datum.term]
      obtain ⟨inner, segments, spelled⟩ := pairs_written source pairs (n + 1)
      have closing := segments.append (segments_mark (c := '\x7d') (lexeme_mark (by decide))
        (.nil _)) (parted_cons (by decide +kernel) _ _)
      refine ⟨_, _, segments_mark (lexeme_mark (by decide)) closing, rfl, fun next among => ?_⟩
      exact ⟨.dict rfl (spelled _ rfl) rfl (.nil (among.noMark (by decide))),
        fun other => absurd rfl other⟩

/-- The tokens of the items of a list that are written at a position. -/
theorem items_written (source : Text) (items : List Datum) (n : Nat) :
    ∃ tokens, Segments n (Text.join ", ".toList (Datum.itemSpellings items)) tokens ∧
      ∀ closing, closing.isMark ']' = true →
        ItemsSpelled source (Datum.itemTerms items) tokens closing := by
  match items with
  | [] => exact ⟨[], .nil _, fun closing mark => .nil⟩
  | [item] =>
      obtain ⟨first, behind, segments, -, spelled⟩ := datum_written source item n
      rw [Datum.itemSpellings, Datum.itemSpellings, Text.join_singleton]
      exact ⟨_, segments, fun closing mark => .last (spelled _ (among_some mark (by decide))).1⟩
  | item :: second :: rest =>
      obtain ⟨first, behind, segments, -, spelled⟩ := datum_written source item n
      obtain ⟨tokens, further, spelledRest⟩ :=
        items_written source (second :: rest) (n + item.spelling.length + 1 + 1)
      rw [Datum.itemSpellings, Text.join_cons (Datum.itemSpellings_ne_nil second rest)]
      have behindItem := segments_mark (c := ',') (lexeme_mark (by decide))
        (.blank (c := ' ') (by decide +kernel) further)
      refine ⟨_, segments.append behindItem (parted_cons (by decide +kernel) _ _),
        fun closing mark => ?_⟩
      exact .cons (spelled _ (among_some (c := ',') rfl (by decide))).1 rfl
        (spelledRest closing mark)

/-- The tokens of the pairs of a mapping that are written at a position. -/
theorem pairs_written (source : Text) (pairs : List (Quotation × Datum)) (n : Nat) :
    ∃ tokens, Segments n (Text.join ", ".toList (Datum.pairSpellings pairs)) tokens ∧
      ∀ closing, closing.isMark '\x7d' = true →
        PairsSpelled source (Datum.pairTerms pairs) tokens closing := by
  match pairs with
  | [] => exact ⟨[], .nil _, fun closing mark => .nil⟩
  | [(key, item)] =>
      obtain ⟨first, behind, segments, -, spelled⟩ :=
        datum_written source item (n + key.spelling.length + 1 + 1)
      rw [Datum.pairSpellings, Datum.pairSpellings, Text.join_singleton, List.append_assoc]
      exact ⟨_, segments_keyed key.word n segments, fun closing mark =>
        .last (.quoted rfl (unquote_quotedIn key.isQuote key.text)) rfl
          (spelled _ (among_some mark (by decide))).1⟩
  | (key, item) :: second :: rest =>
      obtain ⟨first, behind, segments, -, spelled⟩ :=
        datum_written source item (n + key.spelling.length + 1 + 1)
      obtain ⟨tokens, further, spelledRest⟩ := pairs_written source (second :: rest)
        (n + key.spelling.length + 1 + 1 + item.spelling.length + 1 + 1)
      rw [Datum.pairSpellings, Text.join_cons (Datum.pairSpellings_ne_nil second rest),
        List.append_assoc, List.append_assoc]
      have behindItem := segments.append (segments_mark (c := ',') (lexeme_mark (by decide))
        (.blank (c := ' ') (by decide +kernel) further)) (parted_cons (by decide +kernel) _ _)
      exact ⟨_, segments_keyed key.word n behindItem, fun closing mark =>
        .cons (.quoted rfl (unquote_quotedIn key.isQuote key.text)) rfl
          (spelled _ (among_some (c := ',') rfl (by decide))).1 rfl (spelledRest closing mark)⟩

end

end ElementTags.Written
