import Mathlib.Data.List.TakeWhile
import ElementTags.Attribute.Resolve
import ElementTags.Proofs.Computation
import ElementTags.Proofs.Datum

/-! # Literals denote the data that they spell

The host reads what is written for a datum without rejecting any part of it, and in
every scope in which the constants have their meaning it stands for the datum. So an
attribute with such a value, and a text in quotes as the key of an attribute or as an
attribute of its own, is resolved to the data that was written
(`ElementTags.Attribute.resolve_written`).
-/

namespace ElementTags

/-- The names of the absent value and of the truth values have their meaning. -/
def Scope.KnowsConstants (scope : Scope) : Prop :=
  ∀ entry ∈ Scope.constants, scope.get? entry.1 = some entry.2

theorem Layer.get?_of_unbound {layer : Layer} {name : Text}
    (unbound : ∀ entry ∈ layer, entry.1 ≠ name) : layer.get? name = none := by
  induction layer with
  | nil => rfl
  | cons entry rest ih =>
      obtain ⟨first, others⟩ := List.forall_mem_cons.mp unbound
      rw [Layer.get?, if_neg first, ih others]

/-- Data that do not bind the names of the constants leave them their meaning. -/
theorem Scope.knowsConstants_ofData {data : Layer} (autoescape : Bool)
    (unbound : ∀ entry ∈ data, entry.1 ∉ constants.map (·.1)) :
    (ofData data autoescape).KnowsConstants := by
  intro constant member
  have free : (identifiedData data).get? constant.1 = none := by
    refine Layer.get?_of_unbound fun entry inside => ?_
    obtain ⟨given, here, rfl⟩ := List.mem_map.mp inside
    rintro same
    exact unbound given here (List.mem_map.mpr ⟨constant, member, same.symm⟩)
  have all : ∀ entry ∈ constants, Layer.get? constants entry.1 = some entry.2 := by
    simp only [constants, List.forall_mem_cons]
    exact ⟨rfl, rfl, rfl, fun _ none => absurd none List.not_mem_nil⟩
  rw [get?, ofData, List.findSome?_cons, free, List.findSome?_cons, all constant member]

namespace Written

open Attribute (compile)
open Outcome

/-! ## Reading by the host -/

/-- The host reads a literal as a safe text. -/
theorem ofText_literal {s : Text} (read : FilterExpr.literal? s = some (s, [])) :
    FilterExpr.ofText s = .ok ⟨s, .constant (.safe (Text.unquote s)), []⟩ := by
  rw [FilterExpr.ofText, part?_of_literal? read]
  simp only [FilterExpr.Part.operand, FilterExpr.literalValue, readFilters_nil]
  rfl

/-- The host reads a name as the variable of the name. -/
theorem ofText_name {s : Text} {v : Variable} (lexeme : Token.Lexeme .name s)
    (read : Variable.ofText s = .ok v) : FilterExpr.ofText s = .ok ⟨s, .variable v, []⟩ := by
  obtain ⟨nonempty, named⟩ := lexeme
  have noParenthesis : '(' ∉ s := fun member => absurd (named _ member) (by decide)
  have part : FilterExpr.part? s = some (.name s, []) := by
    have notLocalized : FilterExpr.localized? s = none := by
      unfold FilterExpr.localized?
      split
      · exact absurd (List.mem_cons_of_mem _ List.mem_cons_self) noParenthesis
      · rfl
    rw [FilterExpr.part?, notLocalized]
    cases s with
    | nil => exact absurd rfl nonempty
    | cons c rest =>
        have first := named c List.mem_cons_self
        have noLiteral : FilterExpr.literal? (c :: rest) = none := by
          rw [FilterExpr.literal?, Text.isQuote_of_isNameChar first, if_neg Bool.false_ne_true]
        have name : FilterExpr.name? (c :: rest) = some (c :: rest, []) := by
          rw [FilterExpr.name?, if_pos first, List.takeWhile_eq_self_iff.mpr named,
            List.dropWhile_eq_nil_iff.mpr named]
        rw [noLiteral, name]
        rfl
  rw [FilterExpr.ofText, part]
  simp only [FilterExpr.Part.operand, read, readFilters_nil]
  rfl

/-- The host reads a negative number as a variable, too. -/
theorem ofText_negative {n : Nat} {v : Variable}
    (read : Variable.ofText ('-' :: Text.ofNat n) = .ok v) :
    FilterExpr.ofText ('-' :: Text.ofNat n) = .ok ⟨'-' :: Text.ofNat n, .variable v, []⟩ := by
  have digits : ∀ c ∈ Text.ofNat n, c ∈ Text.commonDigits :=
    fun c => Text.mem_commonDigits_of_mem_ofNat
  have numeric : ∀ c ∈ Text.commonDigits,
      Text.isDecimal c = true ∧ FilterExpr.isNumberChar c = true :=
    Text.forall_mem_of_all (by decide)
  have part : FilterExpr.part? ('-' :: Text.ofNat n) = some (.name ('-' :: Text.ofNat n), []) := by
    have noLiteral : FilterExpr.literal? ('-' :: Text.ofNat n) = none := rfl
    have signed : FilterExpr.name? ('-' :: Text.ofNat n) =
        FilterExpr.signed? ('-' :: Text.ofNat n) := rfl
    rw [FilterExpr.part?, localized?_of_ne (by decide), noLiteral, signed]
    cases shape : Text.ofNat n with
    | nil => exact absurd shape (Text.ofNat_ne_nil n)
    | cons c rest =>
        rw [shape] at digits
        obtain ⟨first, others⟩ := List.forall_mem_cons.mp digits
        have behind : ∀ d ∈ rest, FilterExpr.isNumberChar d = true :=
          fun d member => (numeric d (others d member)).2
        rw [FilterExpr.signed?, (numeric c first).1, List.takeWhile_eq_self_iff.mpr behind,
          List.dropWhile_eq_nil_iff.mpr behind]
        rfl
  rw [FilterExpr.ofText, part]
  simp only [FilterExpr.Part.operand, read, readFilters_nil]
  rfl

/-! ## Resolving -/

/-- An expression stands for a value in every scope that knows the constants, and leaves the scope
as it is. -/
def Gives (e : FilterExpr) (v : Value) : Prop :=
  ∀ scope : Scope, scope.KnowsConstants → e.resolve .null scope = (.ok v, scope)

/-- A term stands for a value in every scope that knows the constants, and leaves the scope as it
is. -/
def Denotes (t : ElementTags.Term) (v : Value) : Prop :=
  ∀ scope : Scope, scope.KnowsConstants → t.resolve scope = (.ok v, scope)

theorem denotes_plain {e : FilterExpr} {v : Value} (gives : Gives e v) : Denotes (.plain e) v := by
  intro scope known
  rw [ElementTags.Term.resolve]
  exact gives scope known

/-- A literal that the host reads is compiled to the plain text that it stands for. -/
theorem compile_literal {word : Word .quoted}
    (read : FilterExpr.literal? word.text = some (word.text, [])) :
    compile (Operand.literal word).operand [] =
      .ok ⟨word.text, .constant (.text (Text.unquote word.text)), []⟩ := by
  unfold compile
  simp only [Operand.operand, List.append_nil, if_true, ofText_literal read]

theorem compile_quotation (q : Quotation) :
    compile (Operand.literal q.word).operand [] =
      .ok ⟨q.spelling, .constant (.text q.text), []⟩ := by
  have read := literal?_quotedIn q.isQuote q.text []
  rw [List.append_nil] at read
  have meant : Text.unquote q.word.text = q.text := unquote_quotedIn q.isQuote q.text
  rw [compile_literal read, meant]
  rfl

/-- The name of a constant stands for the constant, which is neither called nor changed. -/
theorem gives_constant {name : Text} {v : Value} (constant : (name, v) ∈ Scope.constants) :
    Gives ⟨name, .variable ⟨name, .path name []⟩, []⟩ v := by
  intro scope known
  obtain ⟨noArguments, noCall, unchanged⟩ : Variable.needsArguments scope v = false ∧
      Variable.canBeCalled v = false ∧ scope.current v = v := by
    simp only [Scope.constants, List.mem_cons, Prod.mk.injEq, List.not_mem_nil, or_false]
      at constant
    rcases constant with ⟨-, rfl⟩ | ⟨-, rfl⟩ | ⟨-, rfl⟩ <;> exact ⟨rfl, rfl, ite_self _⟩
  have start : scope.value? name = some v := by
    rw [Scope.value?, known _ constant, Option.map_some, unchanged]
  have needs : Scoped.reading (fun scope => .ok (Variable.needsArguments scope v)) scope =
      (.ok false, scope) := by
    rw [Scoped.reading, noArguments]
  have called : Variable.called v scope = (.ok v, scope) := by
    rw [Variable.called, Computation.bind_of_ok needs, if_neg Bool.false_ne_true,
      if_neg (ne_true_of_eq_false noCall)]
    rfl
  have found : Variable.found (some v) scope = (.ok v, scope) := by
    rw [Variable.found, Computation.bind_of_ok called, Scoped.current, Scoped.reading, unchanged]
  have resolved : Variable.resolve ⟨name, .path name []⟩ scope = (.ok v, scope) := by
    have first : Scoped.reading (fun scope => .ok (scope.value? name)) scope =
        (.ok (some v), scope) := by rw [Scoped.reading, start]
    simp only [Variable.resolve]
    rw [Computation.bind_of_ok first, Computation.bind_of_ok found]
    rfl
  have initial : FilterExpr.initialValue .null (.variable ⟨name, .path name []⟩) scope =
      (.ok v, scope) := by
    rw [FilterExpr.initialValue, Scoped.recover, resolved]
  rw [FilterExpr.resolve, Computation.bind_of_ok initial]
  rfl

/-- What is compiled for a name is what the host reads. -/
theorem compile_name {word : Word .name} {v : Variable} (read : Variable.ofText word.text = .ok v) :
    compile (Operand.name word).operand [] = .ok ⟨word.text, .variable v, []⟩ := by
  unfold compile
  simp only [Operand.operand, List.append_nil, ofText_name word.lexeme read]
  rfl

theorem compile_constant {word : Word .name} {v : Value}
    (constant : (word.text, v) ∈ Scope.constants) :
    compile (Operand.name word).operand [] =
      .ok ⟨word.text, .variable ⟨word.text, .path word.text []⟩, []⟩ := by
  have all : ∀ entry ∈ Scope.constants,
      Variable.ofText entry.1 = .ok ⟨entry.1, .path entry.1 []⟩ := by
    simp only [Scope.constants, List.forall_mem_cons]
    exact ⟨rfl, rfl, rfl, fun _ none => absurd none List.not_mem_nil⟩
  exact compile_name (all _ constant)

/-- A number is compiled to itself. -/
theorem compile_integer {n : Int} (short : (Text.ofNat n.natAbs).length ≤ Text.maxDigits) :
    compile (Datum.integerOperand n).operand [] =
      .ok ⟨Text.ofInt n, .variable ⟨Text.ofInt n, .number (.int n)⟩, []⟩ := by
  have read := Variable.ofText_ofInt short
  cases n with
  | ofNat n => exact @compile_name (Datum.digitsWord n).toWord _ read
  | negSucc n =>
      unfold compile
      simp only [Datum.integerOperand, Operand.operand, List.append_nil]
      rw [show (Datum.digitsWord (n + 1)).text = Text.ofNat (n + 1) from rfl, ofText_negative read]
      rfl

/-- A plain value without filters means what is compiled for its operand. -/
theorem meaning_plain {operand : Operand} {e : FilterExpr}
    (compiled : compile operand.operand [] = .ok e) :
    (Term.plain operand []).meaning = .ok (.plain e) := by
  rw [Term.meaning, show callsText [] = [] from rfl, compiled]
  rfl

theorem put_of_new {pairs : List (Value × Value)} {key : Text} {v : Value}
    (new : ∀ p ∈ pairs, p.1.equal (.text key) = false) :
    Value.put pairs (.text key) v = pairs ++ [(.text key, v)] := by
  induction pairs with
  | nil => rfl
  | cons p rest ih =>
      obtain ⟨first, others⟩ := List.forall_mem_cons.mp new
      rw [Value.put, first, if_neg Bool.false_ne_true, ih others]
      rfl

theorem equal_text (s t : Text) : (Value.text s).equal (.text t) = decide (s = t) := by
  simp only [Value.equal, Value.equalAtoms, Value.numeric?, Value.anyChars?]

mutual

/-- A proper datum means a term that stands for the datum. -/
theorem exists_denotes (d : Datum) (proper : d.Proper) :
    ∃ t, d.term.meaning = .ok t ∧ Denotes t d.value := by
  match d with
  | .null =>
      have constant : (Datum.nullWord.text, Value.null) ∈ Scope.constants := by
        exact List.mem_cons_of_mem _ (List.mem_cons_of_mem _ List.mem_cons_self)
      exact ⟨_, meaning_plain (compile_constant constant), denotes_plain (gives_constant constant)⟩
  | .bool b =>
      have constant : ((Datum.boolWord b).text, Value.bool b) ∈ Scope.constants := by
        cases b with
        | false => exact List.mem_cons_of_mem _ List.mem_cons_self
        | true => exact List.mem_cons_self
      exact ⟨_, meaning_plain (compile_constant constant), denotes_plain (gives_constant constant)⟩
  | .number n =>
      exact ⟨_, meaning_plain (compile_integer proper), denotes_plain fun scope _ => rfl⟩
  | .text q => exact ⟨_, meaning_plain (compile_quotation q), denotes_plain fun scope _ => rfl⟩
  | .list items =>
      obtain ⟨ts, meaning, denoted⟩ := exists_items_denoted items proper
      refine ⟨.list ts [], ?_, fun scope known => ?_⟩
      · rw [Datum.term, Term.meaning, meaning]
        rfl
      · rw [ElementTags.Term.resolve, Computation.bind_of_ok (denoted scope known), Datum.value]
        rfl
  | .dict pairs =>
      rw [Datum.Proper] at proper
      obtain ⟨ts, meaning, denoted⟩ := exists_pairs_denoted pairs proper.2
      refine ⟨.dict ts [], ?_, fun scope known => ?_⟩
      · rw [Datum.term, Term.meaning, meaning]
        rfl
      · have all : ElementTags.Term.resolvePairs [] ts scope =
            (.ok (Datum.pairValues pairs), scope) := denoted scope known [] proper.1
        rw [ElementTags.Term.resolve, Computation.bind_of_ok all, Datum.value]
        rfl

/-- Proper items mean terms that stand for the items. -/
theorem exists_items_denoted (items : List Datum) (proper : Datum.ItemsProper items) :
    ∃ ts, itemsMeaning (Datum.itemTerms items) = .ok ts ∧
      ∀ scope : Scope, scope.KnowsConstants →
        ElementTags.Term.resolveItems ts scope = (.ok (Datum.itemValues items), scope) := by
  match items with
  | [] => exact ⟨[], rfl, fun scope _ => rfl⟩
  | item :: rest =>
      rw [Datum.ItemsProper] at proper
      obtain ⟨t, first, denotes⟩ := exists_denotes item proper.1
      obtain ⟨ts, others, denoted⟩ := exists_items_denoted rest proper.2
      refine ⟨t :: ts, ?_, fun scope known => ?_⟩
      · rw [Datum.itemTerms, itemsMeaning, first, ok_bind, others]
        rfl
      · rw [ElementTags.Term.resolveItems, Computation.bind_of_ok (denotes scope known),
          Computation.bind_of_ok (denoted scope known), Datum.itemValues]
        rfl

/-- Proper pairs with different keys mean pairs of terms that stand for them, which are added behind
those with other keys. -/
theorem exists_pairs_denoted (pairs : List (Quotation × Datum)) (proper : Datum.PairsProper pairs) :
    ∃ ts, pairsMeaning (Datum.pairTerms pairs) = .ok ts ∧
      ∀ scope : Scope, scope.KnowsConstants → ∀ before : List (Text × Value),
        (before.map (·.1) ++ pairs.map (·.1.text)).Nodup →
          ElementTags.Term.resolvePairs (before.map fun p => (.text p.1, p.2)) ts scope =
            (.ok ((before.map fun p => (.text p.1, p.2)) ++ Datum.pairValues pairs), scope) := by
  match pairs with
  | [] =>
      refine ⟨[], rfl, fun scope _ before _ => ?_⟩
      rw [ElementTags.Term.resolvePairs, Datum.pairValues, List.append_nil]
      rfl
  | (key, item) :: rest =>
      rw [Datum.PairsProper] at proper
      obtain ⟨t, first, denotes⟩ := exists_denotes item proper.1
      obtain ⟨ts, others, denoted⟩ := exists_pairs_denoted rest proper.2
      refine ⟨(key.text, t) :: ts, ?_, fun scope known before distinct => ?_⟩
      · rw [Datum.pairTerms, pairsMeaning, first, ok_bind, others]
        rfl
      · have new : ∀ p ∈ before.map fun p => (Value.text p.1, p.2),
            p.1.equal (.text key.text) = false := by
          intro p member
          obtain ⟨q, here, rfl⟩ := List.mem_map.mp member
          rw [equal_text, decide_eq_false_iff_not]
          intro same
          exact (List.nodup_append.mp distinct).2.2 _ (List.mem_map_of_mem here) _
            List.mem_cons_self same
        have further := denoted scope known (before ++ [(key.text, item.value)]) (by
          rw [List.map_append, List.append_assoc]
          exact distinct)
        rw [ElementTags.Term.resolvePairs, Computation.bind_of_ok (denotes scope known),
          put_of_new new, Datum.pairValues]
        rw [List.map_append, List.append_assoc] at further
        exact further

end

/-! ## The value in a scope -/

mutual

/-- Nothing in a datum has an identity, so that no change reaches it. -/
theorem revised_value (find : Label → Option Value) (d : Datum) :
    d.value.revised find = d.value := by
  match d with
  | .null => rfl
  | .bool _ => rfl
  | .number _ => rfl
  | .text _ => rfl
  | .list items =>
      rw [Datum.value, Value.revised, revisedItems_values find items]
      rfl
  | .dict pairs =>
      rw [Datum.value, Value.revised, revisedPairs_values find pairs]
      rfl

theorem revisedItems_values (find : Label → Option Value) (items : List Datum) :
    Value.revisedItems find (Datum.itemValues items) = Datum.itemValues items := by
  match items with
  | [] => rfl
  | item :: rest =>
      rw [Datum.itemValues, Value.revisedItems, revised_value find item,
        revisedItems_values find rest]

theorem revisedPairs_values (find : Label → Option Value) (pairs : List (Quotation × Datum)) :
    Value.revisedPairs find (Datum.pairValues pairs) = Datum.pairValues pairs := by
  match pairs with
  | [] => rfl
  | (key, item) :: rest =>
      rw [Datum.pairValues, Value.revisedPairs, revised_value find item,
        revisedPairs_values find rest]
      rfl

end

theorem current_value (scope : Scope) (d : Datum) : scope.current d.value = d.value := by
  rw [Scope.current, revised_value, ite_self]

theorem current_keywords (scope : Scope) (key : Text) (d : Datum) :
    scope.current (.keywords [(.text key, d.value)]) = .keywords [(.text key, d.value)] := by
  have revised (find : Label → Option Value) :
      (Value.keywords [(.text key, d.value)]).revised find = .keywords [(.text key, d.value)] := by
    simp only [Value.revised, Value.revisedPairs, revised_value]
    rfl
  rw [Scope.current, revised, ite_self]

end Written

namespace Attribute

open Written Outcome Token

/-- An attribute list is read, and resolved to some values in a scope. -/
def ResolvesTo (source : Text) (scope : Scope) (values : List Value) : Prop :=
  ∃ entries, read source = .ok entries ∧ (Entry.resolveAll entries scope).1 = .ok values

/-- The only attribute of a source is read as it is meant. -/
theorem read_single {source : Text} {entry : Written.Entry} {first : Token} {own : List Token}
    (segments : Segments 0 source (first :: own)) (start : first.start = 0)
    (spelled : entry.Spelled source (first :: own) none) :
    read source = entriesMeaning [(0, entry)] := by
  have all : EntriesSpelled source [(first.start, entry)] ([] ++ (first :: own ++ [])) none :=
    .cons (.inl rfl) spelled .nil
  rw [start, List.nil_append, List.append_nil] at all
  exact read_of_spelled segments all

/-- A key with a literal behind it. -/
theorem resolvesTo_keyword {keyText : Text} {key : Key} {first : Token} {own : List Token}
    (segments : Segments 0 keyText (first :: own)) (start : first.start = 0)
    (spelled : ∀ next, Among boundaries next → key.Spelled (first :: own) next)
    {d : Datum} (proper : d.Proper) {scope : Scope} (known : scope.KnowsConstants) :
    ResolvesTo (keyText ++ '=' :: d.spelling) scope [.keywords [(.text key.key, d.value)]] := by
  obtain ⟨t, behind, valueSegments, -, valueSpelled⟩ :=
    datum_written (keyText ++ '=' :: d.spelling) d (0 + keyText.length + 1)
  have all := segments.append (segments_mark (c := '=') (lexeme_mark (by decide)) valueSegments)
    (parted_cons (by decide +kernel) _ _)
  have readAs := read_single all start (.keyword (spelled _ (among_some (c := '=') rfl (by decide)))
    rfl (valueSpelled none (among_none _)).1)
  obtain ⟨term, meaning, denotes⟩ := exists_denotes d proper
  refine ⟨[.keyword 0 key.key term], ?_, ?_⟩
  · rw [readAs, entriesMeaning, Written.Entry.meaning, meaning]
    rfl
  · have onto : Entry.resolveOnto [] [] [.keyword 0 key.key term] scope =
        (.ok ([], [(.text key.key, d.value)]), scope) := by
      rw [Entry.resolveOnto, Computation.bind_of_ok (denotes scope known)]
      rfl
    rw [Entry.resolveAll, Computation.bind_of_ok onto]
    exact congrArg (fun v => Except.ok [v]) (current_keywords scope key.key d)

/-- A literal of its own. -/
theorem resolvesTo_positional {d : Datum} (proper : d.Proper) {scope : Scope}
    (known : scope.KnowsConstants) : ResolvesTo d.spelling scope [d.value] := by
  obtain ⟨first, own, segments, start, spelled⟩ := datum_written d.spelling d 0
  obtain ⟨value, noKey⟩ := spelled none (among_none _)
  have readAs := read_single segments start (.positional value noKey)
  obtain ⟨term, meaning, denotes⟩ := exists_denotes d proper
  refine ⟨[.positional 0 term], ?_, ?_⟩
  · rw [readAs, entriesMeaning, Written.Entry.meaning, meaning]
    rfl
  · have onto : Entry.resolveOnto [] [] [.positional 0 term] scope =
        (.ok ([d.value], []), scope) := by
      rw [Entry.resolveOnto, Computation.bind_of_ok (denotes scope known)]
      rfl
    rw [Entry.resolveAll, Computation.bind_of_ok onto]
    exact congrArg (fun v => Except.ok [v]) (current_value scope d)

/-- What is written for a datum is resolved to the datum, whatever else the scope holds: behind a
key that is names joined by hyphens, behind a key in quotes, which is the text in the quotes, and
on its own. -/
theorem resolve_written {d : Datum} (proper : d.Proper) {scope : Scope}
    (known : scope.KnowsConstants) :
    (∀ name : Hyphenated, ResolvesTo (name.text ++ '=' :: d.spelling) scope
      [.keywords [(.text name.text, d.value)]]) ∧
    (∀ key : Quotation, ResolvesTo (key.spelling ++ '=' :: d.spelling) scope
      [.keywords [(.text key.text, d.value)]]) ∧
    ResolvesTo d.spelling scope [d.value] := by
  refine ⟨fun name => ?_, fun key => ?_, resolvesTo_positional proper known⟩
  · obtain ⟨first, own, segments, start, spelled⟩ := key_printed (.bare name) 0
    exact resolvesTo_keyword segments start spelled proper known
  · have spelled : ∀ next, Among boundaries next →
        (Key.quoted key.text).Spelled [⟨.quoted, key.spelling, 0⟩] next :=
      fun _ _ => .quoted rfl (unquote_quotedIn key.isQuote key.text)
    exact resolvesTo_keyword (segments_single key.word 0) rfl spelled proper known

/-- A list with a number, and a mapping with an apostrophe in its key and a backslash at the end of
its value. -/
theorem resolve_written_nested :
    ResolvesTo "k=[-5, \x7b'it\\'s': \"a\\\\\", \"n\": None\x7d]".toList
      (.ofData [("x".toList, .safe "<b>".toList)] true)
      [.keywords [(.text "k".toList, .list [.int (-5), .dict
        [(.text "it's".toList, .text "a\\".toList), (.text "n".toList, .null)]])]] := by
  have known : (Scope.ofData [("x".toList, .safe "<b>".toList)] true).KnowsConstants :=
    Scope.knowsConstants_ofData true (by decide)
  have short : (Text.ofNat (-5 : Int).natAbs).length ≤ Text.maxDigits := by decide
  have proper : (Datum.list [.number (-5), .dict [(⟨'\'', rfl, "it's".toList⟩,
      .text ⟨'"', rfl, "a\\".toList⟩), (⟨'"', rfl, "n".toList⟩, .null)]]).Proper :=
    ⟨short, ⟨by decide, trivial, trivial, trivial⟩, trivial⟩
  have named : Token.Lexeme .name "k".toList :=
    ⟨List.cons_ne_nil _ _, Text.forall_mem_of_all (by decide)⟩
  exact (resolve_written proper known).1 ⟨⟨"k".toList, named⟩, []⟩

end Attribute
end ElementTags
