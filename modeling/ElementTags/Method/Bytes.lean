import ElementTags.Method.Text
import ElementTags.Text.Quoted

/-!
# Methods of octet sequences

What can be called on a sequence of octets: it is decoded, written in hexadecimal digits, searched
and cut into parts. Octets below 128 count as the characters of these numbers.
-/

namespace ElementTags.BytesMethod

open Method

/-- The characters of the numbers that octets are. -/
def toText (octets : List UInt8) : Text := octets.map fun o => Char.ofNat o.toNat

/-- The octets whose numbers characters have. -/
def ofText (s : Text) : Value := .bytes (s.map fun c => UInt8.ofNat c.toNat)

/-- An argument that has to be a sequence of octets. -/
def asOctets : Value → Except EvalFault (List UInt8)
  | .bytes octets => .ok octets
  | _ => .error .wrongType

/-- The text that octets spell in an encoding. -/
def decoded (octets : List UInt8) (arguments : List (Option Value)) : Except EvalFault Value := do
  let (encoding, remedy) ← TextMethod.encodingOf arguments
  pure (.text (← encoding.decode remedy octets))

/-- Groups of so many items, the last of which may be smaller. -/
def groupsOf {α : Type} (size : Nat) (items : List α) : List (List α) :=
  ((List.range items.length).map fun i => (items.drop (i * size)).take size).filter (!·.isEmpty)

/-- Octets in hexadecimal digits, in groups of so many octets that are counted from the end, or from
the start if the number is negative. -/
def inHex (octets : List UInt8) (separator : Text) (count : Int) : Text :=
  let digits := octets.map fun o => Text.hexDigits 2 o.toNat
  if count = 0 then digits.flatten
  else
    let size := count.natAbs
    let lead := if 0 < count then digits.length % size else 0
    let groups := groupsOf size (digits.take lead) ++ groupsOf size (digits.drop lead)
    Text.join separator (groups.map List.flatten)

/-- A separator of hexadecimal digits, which is a single character. -/
def separatorOf (v : Value) : Except EvalFault Text :=
  match v.length? with
  | none => .error .wrongType
  | some n =>
    if n ≠ 1 then .error .unsuitableValue
    else
      match v, v.chars? with
      | .bytes octets, _ => .ok (toText octets)
      | _, some s => if s.all (·.val < 0x80) then .ok s else .error .unsuitableValue
      | _, none => .error .wrongType

/-- Octets in hexadecimal digits, as arguments ask for. -/
def hex (octets : List UInt8) (arguments : List (Option Value)) : Except EvalFault Value := do
  let count ← wholeOr 1 arguments 1
  match argument? arguments 0 with
  | some v => pure (.text (inHex octets (← separatorOf v) count))
  | none => pure (.text (inHex octets [] 0))

/-- A value where octets stand for the text of their characters, and texts for nothing. -/
def spelled : Value → Value
  | .bytes octets => .text (toText octets)
  | .text _ => .object [] []
  | .safe _ => .object [] []
  | v => v

/-- Arguments where octets, also those in tuples, stand for texts. -/
def asTexts (arguments : List (Option Value)) : List (Option Value) :=
  arguments.map fun a => a.map fun v =>
    match v with
    | .tuple items _ => .tuple (items.map spelled)
    | v => spelled v

/-- A result of texts, as octets. -/
def asBytes : Value → Value
  | .text s => ofText s
  | .list items _ => .list (items.map fun v => match v with
    | .text s => ofText s
    | v => v)
  | .tuple items _ => .tuple (items.map fun v => match v with
    | .text s => ofText s
    | v => v)
  | v => v

/-- The methods that look for octets, of which a single one may be given by its number. -/
def seeking : List String := ["count", "find", "rfind", "index", "rindex"]

/-- The arguments of a method that looks for octets. -/
def soughtFirst (arguments : List (Option Value)) : Except EvalFault (List (Option Value)) :=
  match arguments with
  | some v :: rest =>
    match v.whole? with
    | some n =>
      if 0 ≤ n && n < 256 then .ok (some (.bytes [UInt8.ofNat n.toNat]) :: rest)
      else .error .unsuitableValue
    | none => .ok arguments
  | _ => .ok arguments

/-- A method of octets that works like one of texts. -/
def like (name : String) (m : Method Text) : Method (List UInt8) :=
  ⟨name, m.signature, fun octets arguments => do
    let arguments ← if seeking.contains name then soughtFirst arguments else .ok arguments
    let outcome ← m.run (toText octets) (asTexts arguments)
    pure ⟨asBytes outcome.result, none⟩⟩

/-- The methods of texts that work on octets too. -/
def shared : List String :=
  ["count", "find", "rfind", "index", "rindex", "startswith", "endswith", "replace", "split",
    "rsplit", "partition", "rpartition", "strip", "lstrip", "rstrip", "removeprefix",
    "removesuffix", "center", "ljust", "rjust", "zfill", "expandtabs", "splitlines"]

/-- A method that transforms the characters of octets below 128. -/
def mapping (name : String) (f : Char → Char) : Method (List UInt8) :=
  simple name fun octets => ofText ((toText octets).map f)

/-- Characters in which each run of letters below 128 starts with a capital letter and goes on with
small ones. -/
def titledFrom (inWord : Bool) : List Char → List Char
  | [] => []
  | c :: rest => (if inWord then c.toLower else c.toUpper) :: titledFrom c.isAlpha rest

/-- The letters below 128 in the other case. -/
def swapCase (c : Char) : Char := if c.isUpper then c.toLower else c.toUpper

/-- Whether there are letters of one case and none of the other one. -/
def onlyCase (has lacks : Char → Bool) (octets : List UInt8) : Bool :=
  (toText octets).any has && !(toText octets).any lacks

/-- Whether there are letters, and they are written as in a title. -/
def isTitled (octets : List UInt8) : Bool :=
  let s := toText octets
  s.any Char.isAlpha && titledFrom false s = s

/-- A method that makes octets from the characters of octets. -/
def transforming (name : String) (f : List Char → List Char) : Method (List UInt8) :=
  simple name fun octets => ofText (f (toText octets))

/-- Octets without some and with the others replaced by those of a table. -/
def replaced (octets : List UInt8) (arguments : List (Option Value)) :
    Except EvalFault Value := do
  let gone ← match argument? arguments 1 with
    | some v => asOctets v
    | none => pure []
  let kept := octets.filter (!gone.contains ·)
  match argument arguments 0 with
  | .null => pure (.bytes kept)
  | v => do
    let table ← asOctets v
    if table.length ≠ 256 then throw .unsuitableValue
    else pure (.bytes (kept.map fun o => table[o.toNat]?.getD o))

/-- The table that replaces the octets of one sequence by those of another one. -/
def tableOf (arguments : List (Option Value)) : Except EvalFault Value := do
  let front ← asOctets (argument arguments 0)
  let back ← asOctets (argument arguments 1)
  if front.length ≠ back.length then throw .unsuitableValue
  else
    let pairs := (front.zip back).reverse
    pure (.bytes ((List.range 256).map fun n =>
      let o := UInt8.ofNat n
      ((pairs.find? (·.1 = o)).map (·.2)).getD o))

/-- The octets that pairs of hexadecimal digits spell; blanks may stand between the pairs. -/
def ofHex : Text → Except EvalFault (List UInt8)
  | [] => .ok []
  | c :: rest =>
    if Text.isPlainBlank c then ofHex rest
    else
      match rest with
      | d :: behind =>
        match Text.hexNumber? [c, d] with
        | some n => (ofHex behind).map (UInt8.ofNat n :: ·)
        | none => .error .unsuitableValue
      | [] => .error .unsuitableValue

/-- A method that asks whether there are octets and all of them are of a class. -/
def asking (name : String) (holds : Char → Bool) : Method (List UInt8) :=
  simple name fun octets => TextMethod.allOf holds (toText octets)

/-- The methods of octets. -/
def all : List (Method (List UInt8)) :=
  [ reading "decode" (.optional ["encoding", "errors"]) decoded,
    reading "hex" (.optional ["sep", "bytes_per_sep"]) hex,
    mapping "upper" Char.toUpper, mapping "lower" Char.toLower, mapping "swapcase" swapCase,
    transforming "title" (titledFrom false),
    transforming "capitalize" (fun s => (s.take 1).map Char.toUpper ++ (s.drop 1).map Char.toLower),
    simple "islower" (fun octets => .bool (onlyCase Char.isLower Char.isUpper octets)),
    simple "isupper" (fun octets => .bool (onlyCase Char.isUpper Char.isLower octets)),
    simple "istitle" (fun octets => .bool (isTitled octets)),
    reading "translate" ⟨["", "delete"], 1, 2⟩ replaced,
    reading "maketrans" (.plain 2 2) (fun _ arguments => tableOf arguments),
    reading "fromhex" (.plain 1 1) (fun _ arguments => do
      pure (.bytes (← ofHex (← asText (argument arguments 0))))),
    asking "isalpha" Char.isAlpha, asking "isdigit" Char.isDigit,
    asking "isalnum" Char.isAlphanum,
    asking "isspace" (fun c => [0x20, 0x09, 0x0A, 0x0B, 0x0C, 0x0D].contains c.toNat),
    simple "isascii" (fun octets => .bool (octets.all (· < 0x80))),
    reading "join" (.plain 1 1) (fun octets arguments => do
      let parts ← (← asItems (argument arguments 0)).mapM asOctets
      pure (.bytes (List.intercalate octets parts))) ] ++
    shared.filterMap fun name => (find? TextMethod.all name.toList).map (like name)

end ElementTags.BytesMethod
