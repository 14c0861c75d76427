import ElementTags.Proofs.WrittenForm

/-! # Tokens that spell written forms

A relation between written forms and the tokens that spell them, with the token
that comes next where the grammar looks ahead. It leaves open what the grammar
leaves open: blanks between tokens, commas behind the last item of a list, and the
quotes of a key. What is read is spelled (`ElementTags.Written` in the module on
reading), and what is spelled is read.

The next token matters only for what it is and for whether it touches the last
one.
-/

namespace ElementTags

namespace Written

open Attribute

/-- The next token is not a certain mark. -/
def NoMark (c : Char) (next : Option Token) : Prop := ∀ t ∈ next, t.isMark c = false

/-- The next token is not an operator. -/
def NoOperator (next : Option Token) : Prop := ∀ t ∈ next, operator? t = none

/-- A name is not the start of a localized literal. -/
def NotLocalized (t : Token) (next : Option Token) : Prop :=
  t.text = ['_'] → ∀ paren ∈ next, paren.isMark '(' = true → t.touches paren = false

/-- The tokens of an operand, and the one behind them. -/
inductive Operand.Spelled : Operand → List Token → Option Token → Prop
  | literal {word : Word .quoted} {t : Token} {next : Option Token} (kind : t.kind = .quoted)
      (text : t.text = word.text) : Spelled (.literal word) [t] next
  | name {word : Word .name} {t : Token} {next : Option Token} (kind : t.kind = .name)
      (text : t.text = word.text) (plain : NotLocalized t next) : Spelled (.name word) [t] next
  | negative {number : Number} {sign t : Token} {next : Option Token}
      (mark : sign.isMark '-' = true) (kind : t.kind = .name) (text : t.text = number.text)
      (adjacent : sign.touches t = true) : Spelled (.negative number) [sign, t] next
  | localized {word : Word .quoted} {name paren t close : Token} {next : Option Token}
      (nameKind : name.kind = .name) (nameText : name.text = ['_'])
      (opening : paren.isMark '(' = true) (adjacent : name.touches paren = true)
      (kind : t.kind = .quoted) (text : t.text = word.text) (closing : close.isMark ')' = true) :
      Spelled (.localized word) [name, paren, t, close] next

/-- The tokens of a chain of filters, and the one behind them. -/
inductive CallsSpelled : List Call → List Token → Option Token → Prop
  | nil {next : Option Token} (ended : NoMark '|' next) : CallsSpelled [] [] next
  | plain {word : Word .name} {calls : List Call} {bar name : Token} {tokens : List Token}
      {next : Option Token} (mark : bar.isMark '|' = true) (kind : name.kind = .name)
      (text : name.text = word.text) (noArgument : NoMark ':' (tokens.head?.or next))
      (others : CallsSpelled calls tokens next) :
      CallsSpelled (⟨word, none⟩ :: calls) (bar :: name :: tokens) next
  | argument {word : Word .name} {operand : Operand} {calls : List Call}
      {bar name colon : Token} {own tokens : List Token} {next : Option Token}
      (mark : bar.isMark '|' = true) (kind : name.kind = .name) (text : name.text = word.text)
      (colonMark : colon.isMark ':' = true) (spelled : operand.Spelled own (tokens.head?.or next))
      (others : CallsSpelled calls tokens next) :
      CallsSpelled (⟨word, some operand⟩ :: calls) (bar :: name :: colon :: (own ++ tokens)) next

/-- The tokens of operators with operands behind them, and the one behind them. -/
inductive OperationsSpelled : List (Operator × Operand) → List Token → Option Token → Prop
  | nil {next : Option Token} (ended : NoOperator next) : OperationsSpelled [] [] next
  | cons {operator : Operator} {operand : Operand} {rest : List (Operator × Operand)} {t : Token}
      {own tokens : List Token} {next : Option Token} (mark : operator? t = some operator)
      (spelled : operand.Spelled own (tokens.head?.or next))
      (others : OperationsSpelled rest tokens next) :
      OperationsSpelled ((operator, operand) :: rest) (t :: (own ++ tokens)) next

/-- The token of the key of a pair. -/
inductive PairKey.Spelled : PairKey → Token → Prop
  | quoted {key : Text} {t : Token} (kind : t.kind = .quoted) (text : Text.unquote t.text = key) :
      Spelled (.quoted key) t
  | bare {word : Word .name} {t : Token} (kind : t.kind = .name) (text : t.text = word.text) :
      Spelled (.bare word) t

mutual

/-- The tokens of a term, and the one behind them. -/
inductive Term.Spelled (source : Text) : Term → List Token → Option Token → Prop
  | plain {operand : Operand} {calls : List Call} {own tokens : List Token} {next : Option Token}
      (spelled : operand.Spelled own (tokens.head?.or next))
      (single : NoOperator (tokens.head?.or next)) (others : CallsSpelled calls tokens next) :
      Term.Spelled source (.plain operand calls) (own ++ tokens) next
  | joined {first : Operand} {rest : List (Operator × Operand)} {some : rest ≠ []}
      {calls : List Call} {own middle tokens : List Token} {next : Option Token}
      (spelled : first.Spelled own middle.head?)
      (operations : OperationsSpelled rest middle (tokens.head?.or next))
      (others : CallsSpelled calls tokens next) :
      Term.Spelled source (.joined first rest some calls) (own ++ (middle ++ tokens)) next
  | list {items : List Term} {calls : List Call} {opening closing : Token}
      {inner tokens : List Token} {next : Option Token} (openMark : opening.isMark '[' = true)
      (spelled : ItemsSpelled source items inner closing) (closeMark : closing.isMark ']' = true)
      (others : CallsSpelled calls tokens next) :
      Term.Spelled source (.list items calls) (opening :: (inner ++ closing :: tokens)) next
  | dict {pairs : List (PairKey × Term)} {calls : List Call} {opening closing : Token}
      {inner tokens : List Token} {next : Option Token} (openMark : opening.isMark '\x7b' = true)
      (spelled : PairsSpelled source pairs inner closing)
      (closeMark : closing.isMark '\x7d' = true) (others : CallsSpelled calls tokens next) :
      Term.Spelled source (.dict pairs calls) (opening :: (inner ++ closing :: tokens)) next
  | parenthesized {code : Code} {calls : List Call} {opening closing : Token}
      {inner tokens : List Token} {next : Option Token} (openMark : opening.isMark '(' = true)
      (balanced : Token.Balanced inner) (closeMark : closing.isMark ')' = true)
      (text : codeBetween source opening.stop closing.start = code.text)
      (others : CallsSpelled calls tokens next) :
      Term.Spelled source (.parenthesized code calls) (opening :: (inner ++ closing :: tokens)) next

/-- The tokens of the items of a list in front of the closing bracket, with an optional comma behind
the last item. -/
inductive ItemsSpelled (source : Text) : List Term → List Token → Token → Prop
  | nil {closing : Token} : ItemsSpelled source [] [] closing
  | last {item : Term} {own : List Token} {closing : Token}
      (spelled : item.Spelled source own (some closing)) : ItemsSpelled source [item] own closing
  | cons {item : Term} {rest : List Term} {own tokens : List Token} {comma closing : Token}
      (spelled : item.Spelled source own (some comma)) (mark : comma.isMark ',' = true)
      (others : ItemsSpelled source rest tokens closing) :
      ItemsSpelled source (item :: rest) (own ++ comma :: tokens) closing

/-- The tokens of the pairs of a dictionary in front of the closing brace, with an optional comma
behind the last pair. -/
inductive PairsSpelled (source : Text) : List (PairKey × Term) → List Token → Token → Prop
  | nil {closing : Token} : PairsSpelled source [] [] closing
  | last {key : PairKey} {item : Term} {keyToken colon : Token} {own : List Token} {closing : Token}
      (keySpelled : key.Spelled keyToken) (colonMark : colon.isMark ':' = true)
      (spelled : item.Spelled source own (some closing)) :
      PairsSpelled source [(key, item)] (keyToken :: colon :: own) closing
  | cons {key : PairKey} {item : Term} {rest : List (PairKey × Term)} {keyToken colon : Token}
      {own tokens : List Token} {comma closing : Token} (keySpelled : key.Spelled keyToken)
      (colonMark : colon.isMark ':' = true) (spelled : item.Spelled source own (some comma))
      (mark : comma.isMark ',' = true) (others : PairsSpelled source rest tokens closing) :
      PairsSpelled source ((key, item) :: rest) (keyToken :: colon :: (own ++ comma :: tokens))
        closing

end

/-- Neither a hyphen nor a text in quotes touches a name. -/
def NameEnds (last : Token) (next : Option Token) : Prop :=
  ∀ t ∈ next, last.touches t = true → t.isMark '-' = false ∧ t.kind ≠ .quoted

/-- The tokens of the names behind the first one of a key, each with a hyphen in front of it and no
blanks in between, and the last token of the key. -/
inductive HyphensSpelled : Token → List (Word .name) → List Token → Token → Prop
  | nil {last : Token} : HyphensSpelled last [] [] last
  | cons {word : Word .name} {rest : List (Word .name)} {last hyphen part final : Token}
      {tokens : List Token} (mark : hyphen.isMark '-' = true) (left : last.touches hyphen = true)
      (right : hyphen.touches part = true) (kind : part.kind = .name) (text : part.text = word.text)
      (others : HyphensSpelled part rest tokens final) :
      HyphensSpelled last (word :: rest) (hyphen :: part :: tokens) final

/-- The tokens of names joined by hyphens, and the one behind them. -/
inductive Hyphenated.Spelled : Hyphenated → List Token → Option Token → Prop
  | mk {name : Hyphenated} {t final : Token} {tokens : List Token} {next : Option Token}
      (kind : t.kind = .name) (text : t.text = name.first.text)
      (others : HyphensSpelled t name.others tokens final) (ended : NameEnds final next) :
      Spelled name (t :: tokens) next

/-- The tokens of a key, and the one behind them. -/
inductive Key.Spelled : Key → List Token → Option Token → Prop
  | quoted {key : Text} {t : Token} {next : Option Token} (kind : t.kind = .quoted)
      (text : Text.unquote t.text = key) : Spelled (.quoted key) [t] next
  | bare {name : Hyphenated} {tokens : List Token} {next : Option Token}
      (spelled : name.Spelled tokens next) : Spelled (.bare name) tokens next

/-- What could start with a key does not: no equals sign follows, and nothing touches the first
token that would belong to a key. -/
def NotKey (first : Token) (second : Option Token) : Prop :=
  first.kind ≠ .mark → ∀ t ∈ second, t.isMark '=' = false ∧
    (first.touches t = true → t.isMark '-' = false ∧ t.kind ≠ .quoted ∧
      (first.kind = .quoted → t.kind = .mark))

/-- The tokens of an entry, and the one behind them. -/
inductive Entry.Spelled (source : Text) : Entry → List Token → Option Token → Prop
  | positional {value : Term} {first : Token} {tokens : List Token} {next : Option Token}
      (spelled : value.Spelled source (first :: tokens) next)
      (noKey : NotKey first (tokens.head?.or next)) :
      Spelled source (.positional value) (first :: tokens) next
  | lookup {name : Hyphenated} {hyphens : name.others ≠ []} {tokens : List Token}
      {next : Option Token} (spelled : name.Spelled tokens next) (noKey : NoMark '=' next) :
      Spelled source (.lookup name hyphens) tokens next
  | keyword {key : Key} {value : Term} {own tokens : List Token} {equals : Token}
      {next : Option Token} (keySpelled : key.Spelled own (some equals))
      (mark : equals.isMark '=' = true) (spelled : value.Spelled source tokens next) :
      Spelled source (.keyword key value) (own ++ equals :: tokens) next

/-- At most one comma. -/
def Separator (tokens : List Token) : Prop :=
  tokens = [] ∨ ∃ comma : Token, tokens = [comma] ∧ comma.isMark ',' = true

/-- The tokens of entries at some positions, and the one behind them: at most one comma stands in
front of each entry. -/
inductive EntriesSpelled (source : Text) : List (Nat × Entry) → List Token → Option Token → Prop
  | nil {next : Option Token} : EntriesSpelled source [] [] next
  | cons {entry : Entry} {rest : List (Nat × Entry)} {first : Token}
      {separator own tokens : List Token} {next : Option Token} (separated : Separator separator)
      (spelled : entry.Spelled source (first :: own) (tokens.head?.or next))
      (others : EntriesSpelled source rest tokens next) :
      EntriesSpelled source ((first.start, entry) :: rest) (separator ++ (first :: own ++ tokens))
        next

end Written
end ElementTags
