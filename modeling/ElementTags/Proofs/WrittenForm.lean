import ElementTags.Proofs.Balance

/-! # Written forms of attributes

Attributes as the grammar sees them, before values and filters are looked up:
operands in their four forms, calls of filters, terms and entries. The parts that
stand for one token carry the proof that they are a lexeme, and code carries the
proof that its quotes and brackets close, so that every written form can be
printed. A form is printed in one way (`ElementTags.Written.Entry.text`) and means
an entry (`ElementTags.Written.Entry.meaning`) when the host accepts its values and
filters (`ElementTags.Written.Entry.Accepted`).
-/

namespace ElementTags

namespace Written

open Attribute (compile)

/-- The text of a token of some kind. -/
structure Word (kind : TokenKind) where
  text : Text
  lexeme : Token.Lexeme kind text

/-- A name that starts with a digit. -/
structure Number extends Word .name where
  digit : (text.head?.map Text.isDigit).getD false = true

/-- An operand: a literal in quotes, a name, a negative number or a localized literal. -/
inductive Operand
  | literal (word : Word .quoted)
  | name (word : Word .name)
  | negative (number : Number)
  | localized (word : Word .quoted)

/-- The operand as it is handed on. -/
def Operand.operand : Operand → Attribute.WrittenOperand
  | literal word => ⟨word.text, true⟩
  | name word => ⟨word.text, false⟩
  | negative number => ⟨'-' :: number.text, false⟩
  | localized word => ⟨'_' :: '(' :: word.text ++ [')'], false⟩

def Operand.text (operand : Operand) : Text := operand.operand.text

/-- A filter with its argument. -/
structure Call where
  name : Word .name
  argument : Option Operand

/-- The call as it is handed on. -/
def Call.call (call : Call) : Attribute.WrittenCall :=
  ⟨call.name.text, call.argument.map Operand.operand⟩

def Call.text (call : Call) : Text := call.call.text

/-- The text of a chain of filters. -/
def callsText (calls : List Call) : Text := calls.flatMap Call.text

/-- Code in parentheses: neither empty nor with blanks around it, and with all of its quotes and
brackets closed. -/
structure Code where
  text : Text
  nonempty : text ≠ []
  stripped : Text.strip text = text
  tokens : List Token
  scanned : Token.scan text = .ok tokens
  balanced : Token.Balanced tokens

/-- The key of a pair in a dictionary. -/
inductive PairKey
  | quoted (key : Text)
  | bare (word : Word .name)

/-- A value. -/
inductive Term
  | plain (operand : Operand) (calls : List Call)
  | joined (first : Operand) (others : List (Operator × Operand)) (several : others ≠ [])
      (calls : List Call)
  | list (items : List Term) (calls : List Call)
  | dict (pairs : List (PairKey × Term)) (calls : List Call)
  | parenthesized (code : Code) (calls : List Call)

/-- Names joined by hyphens. -/
structure Hyphenated where
  first : Word .name
  others : List (Word .name)

def Hyphenated.text (name : Hyphenated) : Text :=
  name.first.text ++ name.others.flatMap ('-' :: ·.text)

/-- The key of an attribute. -/
inductive Key
  | quoted (key : Text)
  | bare (name : Hyphenated)

/-- An attribute. -/
inductive Entry
  | positional (value : Term)
  | lookup (name : Hyphenated) (hyphens : name.others ≠ [])
  | keyword (key : Key) (value : Term)

/-! ## Meaning -/

/-- The filters that some calls mean: all arguments are looked at before the names. -/
def filters (calls : List Call) : Attribute.Reading (List AppliedFilter) := do
  let arguments ← (calls.map Call.call).mapM Attribute.WrittenCall.compileArgument
  ((calls.map Call.call).zip arguments).mapM Attribute.knownFilter

/-- Operands with the operators in front of them. -/
def operations : List (Operator × Operand) → Attribute.Reading (List (Operator × FilterExpr))
  | [] => pure []
  | (operator, operand) :: rest => do
    let value ← compile operand.operand []
    let others ← operations rest
    pure ((operator, value) :: others)

def PairKey.key : PairKey → Text
  | quoted key => key
  | bare word => word.text

mutual

/-- The term that a written one means, if its values and filters are accepted. -/
def Term.meaning : Term → Attribute.Reading ElementTags.Term
  | .plain operand calls => do
    let value ← compile operand.operand (callsText calls)
    pure (.plain value)
  | .joined first others _ calls => do
    let value ← compile first.operand []
    let values ← operations others
    let applied ← filters calls
    pure (.joined value values applied)
  | .list items calls => do
    let values ← itemsMeaning items
    let applied ← filters calls
    pure (.list values applied)
  | .dict pairs calls => do
    let values ← pairsMeaning pairs
    let applied ← filters calls
    pure (.dict values applied)
  | .parenthesized code calls => do
    let applied ← filters calls
    pure (.parenthesized code.text applied)

/-- The items that written ones mean. -/
def itemsMeaning : List Term → Attribute.Reading (List ElementTags.Term)
  | [] => pure []
  | item :: rest => do
    let value ← item.meaning
    let others ← itemsMeaning rest
    pure (value :: others)

/-- The pairs that written ones mean. -/
def pairsMeaning : List (PairKey × Term) → Attribute.Reading (List (Text × ElementTags.Term))
  | [] => pure []
  | (key, item) :: rest => do
    let value ← item.meaning
    let others ← pairsMeaning rest
    pure ((key.key, value) :: others)

end

def Key.key : Key → Text
  | quoted key => key
  | bare name => name.text

/-- The entry at a position that a written one means. -/
def Entry.meaning (start : Nat) : Entry → Attribute.Reading ElementTags.Entry
  | positional value => value.meaning.map (.positional start)
  | lookup name _ => .ok (.positional start (.hyphenated name.text))
  | keyword key value => value.meaning.map (.keyword start key.key)

/-- The entries that written ones at some positions mean. -/
def entriesMeaning : List (Nat × Entry) → Attribute.Reading (List ElementTags.Entry)
  | [] => pure []
  | (start, entry) :: rest => do
    let value ← entry.meaning start
    let others ← entriesMeaning rest
    pure (value :: others)

/-! ## Acceptance -/

/-- The host reads the text of a value. -/
def Readable (text : Text) : Prop := ∃ e, FilterExpr.ofText text = .ok e

/-- The filter is registered, and the host reads its argument. -/
def Call.Accepted (call : Call) : Prop :=
  (∃ filter, Filter.ofName? call.name.text = some filter) ∧
    ∀ operand ∈ call.argument, Readable operand.text

mutual

/-- The host reads every plain value in a term, and the filters of every other one are
registered. -/
def Term.Accepted : Term → Prop
  | .plain operand calls => Readable (operand.text ++ callsText calls)
  | .joined first others _ calls =>
    Readable first.text ∧ (∀ operation ∈ others, Readable operation.2.text) ∧
      ∀ call ∈ calls, call.Accepted
  | .list items calls => ItemsAccepted items ∧ ∀ call ∈ calls, call.Accepted
  | .dict pairs calls => PairsAccepted pairs ∧ ∀ call ∈ calls, call.Accepted
  | .parenthesized _ calls => ∀ call ∈ calls, call.Accepted

/-- The host accepts the items of a list. -/
def ItemsAccepted : List Term → Prop
  | [] => True
  | item :: rest => item.Accepted ∧ ItemsAccepted rest

/-- The host accepts the values of a dictionary. -/
def PairsAccepted : List (PairKey × Term) → Prop
  | [] => True
  | (_, item) :: rest => item.Accepted ∧ PairsAccepted rest

end

/-- The host accepts the value of an entry; names with hyphens are not shown to it. -/
def Entry.Accepted : Entry → Prop
  | positional value => value.Accepted
  | lookup _ _ => True
  | keyword _ value => value.Accepted

/-! ## Printing -/

/-- A character in double quotes: quotes and backslashes stand behind a backslash. -/
def escaped (c : Char) : Text := if c = '"' || c = '\\' then ['\\', c] else [c]

/-- A text in double quotes. -/
def literal (s : Text) : Text := '"' :: s.flatMap escaped ++ ['"']

/-- Operands with the operators in front of them, between blanks. -/
def operationsText (others : List (Operator × Operand)) : Text :=
  others.flatMap fun (operator, operand) => ' ' :: operator.mark :: ' ' :: operand.text

def PairKey.text : PairKey → Text
  | quoted key => literal key
  | bare word => word.text

mutual

/-- The text of a term. -/
def Term.text : Term → Text
  | .plain operand calls => operand.text ++ callsText calls
  | .joined first others _ calls => first.text ++ operationsText others ++ callsText calls
  | .list items calls => '[' :: itemsText items ++ ']' :: callsText calls
  | .dict pairs calls => '\x7b' :: pairsText pairs ++ '\x7d' :: callsText calls
  | .parenthesized code calls => '(' :: code.text ++ ')' :: callsText calls

/-- The text of the items of a list. -/
def itemsText : List Term → Text
  | [] => []
  | [item] => item.text
  | item :: rest => item.text ++ ", ".toList ++ itemsText rest

/-- The text of the pairs of a dictionary. -/
def pairsText : List (PairKey × Term) → Text
  | [] => []
  | [(key, item)] => key.text ++ ": ".toList ++ item.text
  | (key, item) :: rest => key.text ++ ": ".toList ++ item.text ++ ", ".toList ++ pairsText rest

end

def Key.text : Key → Text
  | quoted key => literal key
  | bare name => name.text

/-- The text of an entry. -/
def Entry.text : Entry → Text
  | positional value => value.text
  | lookup name _ => name.text
  | keyword key value => key.text ++ '=' :: value.text

/-- The text of the entries behind the first one. -/
def othersText (entries : List Entry) : Text :=
  entries.flatMap fun entry => ',' :: ' ' :: entry.text

/-- The text of entries. -/
def entriesText : List Entry → Text
  | [] => []
  | entry :: rest => entry.text ++ othersText rest

/-- Entries with the positions at which they are printed, when the first one stands at a
position. -/
def placed (start : Nat) : List Entry → List (Nat × Entry)
  | [] => []
  | entry :: rest => (start, entry) :: placed (start + entry.text.length + 2) rest

end Written
end ElementTags
