import ElementTags.Fault
import ElementTags.Value.Basic
import ElementTags.Number.Shortest
import ElementTags.Text.Quoted

/-!
# How values are shown

A value has a text, which a template writes, and a description, which logs and the texts of
containers show. They differ for texts, objects and decimals, whose text is their content, and for
read-only views of mappings, whose text is that of the mapping. A whole number with too many digits
cannot be shown, and neither can a value that holds one.
-/

namespace ElementTags.Value

/-- The text of a floating-point number. -/
def spellFloat (x : Float) : Text := Number.spellFloat .plain x

/-- The text of a complex number: both parts in parentheses, or the imaginary part alone if the real
one is a zero without a sign. -/
def spellComplex (re im : Float) : Text :=
  let part := Number.spellFloat ⟨-4, 16, false⟩
  if re.toBits = 0 then part im ++ ['j']
  else
    let shown := part im
    let joined := if shown.head? = some '-' then shown else '+' :: shown
    '(' :: part re ++ joined ++ ['j', ')']

/-- An octet of a description that is enclosed in `quote`. -/
def describeOctet (quote : Char) (octet : UInt8) : Text :=
  let c := Char.ofNat octet.toNat
  if octet < 0x80 then
    if octet < 0x20 && c ≠ '\n' && c ≠ '\r' && c ≠ '\t' || octet = 0x7F then
      '\\' :: 'x' :: Text.hexDigits 2 octet.toNat
    else Text.quotedChar quote c
  else '\\' :: 'x' :: Text.hexDigits 2 octet.toNat

/-- The description of a sequence of octets. -/
def describeBytes (octets : List UInt8) : Text :=
  let quote := Text.quotationMark (octets.map fun o => Char.ofNat o.toNat)
  'b' :: quote :: octets.flatMap (describeOctet quote) ++ [quote]

mutual

/-- The description of a value, as logs show it. -/
def describe : Value → Text
  | null => "None".toList
  | ellipsis => "Ellipsis".toList
  | bool b => (if b then "True" else "False").toList
  | int n => Text.ofInt n
  | float x => spellFloat x
  | notANumber _ => "nan".toList
  | complex re im => spellComplex re im
  | decimal s => "Decimal('".toList ++ s ++ "')".toList
  | text s => Text.quote s
  | safe s => Text.quote s
  | lazy s _ => Text.quote s
  | bytes octets => describeBytes octets
  | list items _ => '[' :: Text.join ", ".toList (describeItems items) ++ [']']
  | tuple items _ => match describeItems items with
    | [item] => '(' :: item ++ ",)".toList
    | shown => '(' :: Text.join ", ".toList shown ++ [')']
  | set items _ => match describeItems items with
    | [] => "set()".toList
    | shown => '{' :: Text.join ", ".toList shown ++ ['}']
  | dict ps _ => '{' :: Text.join ", ".toList (describePairs ps) ++ ['}']
  | keywords ps _ =>
    "KeywordAttrs(\x7b".toList ++ Text.join ", ".toList (describePairs ps) ++ "\x7d)".toList
  | mapping ps _ =>
    "mappingproxy(\x7b".toList ++ Text.join ", ".toList (describePairs ps) ++ "\x7d)".toList
  | view kind owner => describeView kind owner
  | stream _ _ => "<generator object <genexpr>>".toList
  | bounds start stop step =>
    "slice(".toList ++ Text.join ", ".toList [describe start, describe stop, describe step] ++ [')']
  | object s _ _ => "<Obj ".toList ++ s ++ ['>']
  | callable _ _ => "<Call>".toList
  | method _ name => "<built-in method ".toList ++ name ++ ['>']
  | function _ => "<function <lambda>>".toList

/-- The description of a view of a mapping. -/
def describeView (kind : ViewKind) : Value → Text
  | dict ps _ => describeViewed kind ps
  | keywords ps _ => describeViewed kind ps
  | mapping ps _ => describeViewed kind ps
  | _ => []

/-- The description of what a view shows of some pairs. -/
def describeViewed (kind : ViewKind) (ps : List (Value × Value)) : Text :=
  let shown (name : String) (parts : List Text) : Text :=
    name.toList ++ "([".toList ++ Text.join ", ".toList parts ++ "])".toList
  match kind with
  | .keys => shown "dict_keys" (describeKeys ps)
  | .values => shown "dict_values" (describeValues ps)
  | .pairs => shown "dict_items" (describeEntries ps)

/-- The descriptions of the items of a sequence. -/
def describeItems : List Value → List Text
  | [] => []
  | v :: rest => describe v :: describeItems rest

/-- The descriptions of the pairs of a mapping. -/
def describePairs : List (Value × Value) → List Text
  | [] => []
  | (k, v) :: rest => (describe k ++ ": ".toList ++ describe v) :: describePairs rest

/-- The descriptions of the keys of a mapping. -/
def describeKeys : List (Value × Value) → List Text
  | [] => []
  | (k, _) :: rest => describe k :: describeKeys rest

/-- The descriptions of the values of a mapping. -/
def describeValues : List (Value × Value) → List Text
  | [] => []
  | (_, v) :: rest => describe v :: describeValues rest

/-- The descriptions of the pairs of a mapping as tuples. -/
def describeEntries : List (Value × Value) → List Text
  | [] => []
  | (k, v) :: rest => ('(' :: describe k ++ ", ".toList ++ describe v ++ [')']) ::
    describeEntries rest

end

/-- The text of a value. -/
def spell : Value → Text
  | text s => s
  | safe s => s
  | lazy s _ => s
  | decimal s => s
  | object s _ _ => s
  | mapping ps _ => describe (dict ps)
  | v => describe v

/-- The text of a value as a value: safe texts stay safe. -/
def spelled : Value → Value
  | safe s => safe s
  | lazy s true => safe s
  | v => text v.spell

/-! ## Numbers with too many digits -/

/-- The smallest whole number with too many digits to be shown. -/
def tooLong : Nat := tenTo Text.maxDigits

mutual

/-- Whether a value can be shown: no whole number in it has too many digits. -/
def isShowable : Value → Bool
  | int n => n.natAbs < tooLong
  | list items _ => areShowable items
  | tuple items _ => areShowable items
  | set items _ => areShowable items
  | dict ps _ => pairsShowable ps
  | keywords ps _ => pairsShowable ps
  | mapping ps _ => pairsShowable ps
  | view _ owner => isShowable owner
  | bounds start stop step => isShowable start && isShowable stop && isShowable step
  | _ => true

/-- Whether all items of a sequence can be shown. -/
def areShowable : List Value → Bool
  | [] => true
  | v :: rest => isShowable v && areShowable rest

/-- Whether all keys and values of a mapping can be shown. -/
def pairsShowable : List (Value × Value) → Bool
  | [] => true
  | (k, v) :: rest => isShowable k && isShowable v && pairsShowable rest

end

/-- The text of a value, if it can be shown. -/
def shown (v : Value) : Except EvalFault Text :=
  if v.isShowable then .ok v.spell else .error .unsuitableValue

/-- The description of a value, if it can be shown. -/
def described (v : Value) : Except EvalFault Text :=
  if v.isShowable then .ok v.describe else .error .unsuitableValue

/-- The text of a value as a value, if it can be shown. -/
def shownValue (v : Value) : Except EvalFault Value :=
  if v.isShowable then .ok v.spelled else .error .unsuitableValue

end ElementTags.Value
