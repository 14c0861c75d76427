import ElementTags.Fault
import ElementTags.Text.Case
import ElementTags.Text.Quoted

/-!
# Encodings

Texts as sequences of octets and back. An encoding may lack a character, and octets may stand for
none; a remedy tells what is done then.
-/

namespace ElementTags

/-- An encoding of texts. -/
inductive Encoding
  | utf8
  | ascii
  | latin1

namespace Encoding

/-- A name in the form in which names are compared: in small letters, with one underscore in place
of everything between its words. -/
def normalName (name : Text) : Text :=
  let marked := (Text.lower name).map fun c => if c.isAlphanum || c = '.' then c else ' '
  Text.join ['_'] ((Text.pieces ' ' marked).filter (!·.isEmpty))

/-- The names of the encodings. -/
def names : List (Encoding × List String) :=
  [ (utf8, ["utf_8", "utf8", "u8", "utf"]),
    (ascii, ["ascii", "us_ascii", "us", "646", "cp367", "ibm367"]),
    (latin1, ["latin_1", "latin1", "latin", "l1", "iso8859_1", "iso_8859_1", "iso8859", "8859",
      "cp819", "ibm819"]) ]

/-- The encoding of a name. No name holds the null character. -/
def named (name : Text) : Except EvalFault Encoding :=
  if name.contains '\x00' then .error .unsuitableValue
  else
    match names.find? fun entry => entry.2.any (·.toList = normalName name) with
    | some (e, _) => .ok e
    | none => .error .unknownEncoding

/-- Encodings with one octet for each character have the characters below this number. -/
def limit : Encoding → Nat
  | utf8 => 0x110000
  | ascii => 0x80
  | latin1 => 0x100

/-- What a remedy writes for a character that an encoding lacks. -/
def substitute (remedy : Text) (c : Char) : Except EvalFault Text :=
  match String.ofList remedy with
  | "strict" => .error .unencodable
  | "surrogateescape" => .error .unencodable
  | "surrogatepass" => .error .unencodable
  | "ignore" => .ok []
  | "replace" => .ok ['?']
  | "backslashreplace" => .ok (Text.numberedChar c)
  | "xmlcharrefreplace" => .ok ('&' :: '#' :: Text.ofNat c.toNat ++ [';'])
  | _ => .error .unknownEncoding

/-- The octets whose numbers characters have. -/
def octetsOf (s : Text) : List UInt8 := s.map fun c => UInt8.ofNat c.toNat

/-- The octets of a text. -/
def encode (e : Encoding) (remedy s : Text) : Except EvalFault (List UInt8) :=
  match e with
  | utf8 => .ok (String.ofList s).toUTF8.toList
  | e => do
    let parts ← s.mapM fun c =>
      if c.toNat < e.limit then .ok [c] else substitute remedy c
    pure (octetsOf parts.flatten)

/-- What a remedy reads for an octet that belongs to no character. -/
def resort (remedy : Text) (o : UInt8) : Except EvalFault Text :=
  match String.ofList remedy with
  | "strict" => .error .undecodable
  | "surrogateescape" => .error .undecodable
  | "surrogatepass" => .error .undecodable
  | "ignore" => .ok []
  | "replace" => .ok ['\ufffd']
  | "backslashreplace" => .ok ('\\' :: 'x' :: Text.hexDigits 2 o.toNat)
  | "xmlcharrefreplace" => .error .wrongType
  | "namereplace" => .error .wrongType
  | _ => .error .unknownEncoding

/-- The character at the start of octets in UTF-8, and how many octets it takes. -/
def firstChar? (octets : List UInt8) : Option (Char × Nat) :=
  [1, 2, 3, 4].findSome? fun (count : Nat) =>
    match String.fromUTF8? ⟨(octets.take count).toArray⟩ with
    | some s =>
      match s.toList with
      | [c] => some (c, count)
      | _ => none
    | none => none

/-- The text that octets spell in UTF-8, of which there are at most as many as `fuel`. -/
def decodeFrom (remedy : Text) : Nat → List UInt8 → Except EvalFault Text
  | 0, _ => .ok []
  | _, [] => .ok []
  | fuel + 1, o :: rest =>
    match firstChar? (o :: rest) with
    | some (c, count) => (decodeFrom remedy fuel ((o :: rest).drop count)).map (c :: ·)
    | none => do
      let s ← resort remedy o
      pure (s ++ (← decodeFrom remedy fuel rest))

/-- The text that octets spell. -/
def decode (e : Encoding) (remedy : Text) (octets : List UInt8) : Except EvalFault Text :=
  match e with
  | utf8 => decodeFrom remedy octets.length octets
  | e => do
    let parts ← octets.mapM fun o =>
      if o.toNat < e.limit then .ok [Char.ofNat o.toNat] else resort remedy o
    pure parts.flatten

end Encoding
end ElementTags
