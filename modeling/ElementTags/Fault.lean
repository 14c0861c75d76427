import ElementTags.Excerpt

/-!
# What can go wrong

The causes for which a template is rejected, an attribute has no value, or a tag cannot be rendered.
Each cause has one constructor; those with a wording have it in one function.
-/

namespace ElementTags

/-- The two complaints about an attribute list. -/
inductive Complaint
  | unexpectedToken
  | invalidKeyName

/-- The wording of a complaint. -/
def Complaint.label : Complaint → String
  | .unexpectedToken => "unexpected token"
  | .invalidKeyName => "invalid key name"

/-- Where a list of attributes stands: the source of the whole tag, and the position in it at which
the attributes begin. -/
structure Site where
  source : Text
  offset : Int

/-- A malformed attribute list: the complaint, the token that it is about, and the position of the
token in the list. -/
structure GrammarFault where
  complaint : Complaint
  token : Text
  position : Nat

namespace GrammarFault

/-- The wording of a fault; where the attributes stand in a tag, an excerpt of the tag follows. The
excerpt marks at least one character. -/
def wording (label token : Text) (position : Int) (site : Option Site) : Text :=
  let sentence :=
    label ++ " '".toList ++ token ++ "' at position ".toList ++ Text.ofInt position
  match site with
  | none => sentence
  | some s =>
    Excerpt.explain sentence s.source (s.offset + position)
      (s.offset + position + max 1 (token.length : Int))

/-- The message of a fault. -/
def message (fault : GrammarFault) (site : Option Site) : Text :=
  wording fault.complaint.label.toList fault.token fault.position site

end GrammarFault

/-- Why the text of a value with filters is rejected. -/
inductive FilterFault
  /-- Characters between two parts of the text belong to neither. -/
  | unreadable (before gap rest : Text)
  | noValue (text : Text)
  /-- The end of the text belongs to no part. -/
  | unreadableEnd (tail text : Text)
  | unknownFilter (name : Text)
  | argumentCount (name : Text) (required given : Nat)
  | hiddenName (text : Text)

/-- The message of a rejected value. -/
def FilterFault.message : FilterFault → String
  | unreadable before gap rest =>
    "Could not parse some characters: " ++ String.ofList before ++ "|" ++
      String.ofList gap ++ "|" ++ String.ofList rest
  | noValue text => "Could not find variable at start of " ++ String.ofList text ++ "."
  | unreadableEnd tail text =>
    "Could not parse the remainder: '" ++ String.ofList tail ++
      "' from '" ++ String.ofList text ++ "'"
  | unknownFilter name => "Invalid filter: '" ++ String.ofList name ++ "'"
  | argumentCount name required given =>
    String.ofList name ++ " requires " ++ toString required ++ " arguments, " ++ toString given ++
      " provided"
  | hiddenName text =>
    "Variables and attributes may not begin with underscores: '" ++ String.ofList text ++ "'"

/-- Why the attributes of one tag are rejected. -/
inductive AttributeFault
  | grammar (fault : GrammarFault)
  | value (fault : FilterFault)
  | repeatedKeyword (tag key : Text)
  | positionalAfterKeyword (tag : Text)
  /-- A localized text that is never closed. -/
  | openLocalized

/-- Why a template is rejected. -/
inductive TemplateFault
  | attributes (fault : AttributeFault) (site : Option Site)
  | wrongTag (received expected : Text)
  | emptyVariable (line : Nat)
  | emptyBlock (line : Nat)
  | unknownBlock (line : Nat) (name : Text) (expected : List Text)
  | unclosedBlock (line : Nat) (name : Text) (expected : List Text)
  /-- A block tag of the template language itself that is not written as it has to be. -/
  | malformedBlock (message : String)

/-- Alternatives as a sentence lists them. -/
def alternatives : List Text → String
  | [] => ""
  | [a] => "'" ++ String.ofList a ++ "'"
  | [a, b] => "'" ++ String.ofList a ++ "' or '" ++ String.ofList b ++ "'"
  | a :: rest => "'" ++ String.ofList a ++ "', " ++ alternatives rest

/-- The message of rejected attributes. -/
def AttributeFault.message (site : Option Site) : AttributeFault → String
  | grammar fault => String.ofList (fault.message site)
  | value fault => fault.message
  | repeatedKeyword tag key =>
    "'" ++ String.ofList tag ++ "' received multiple values for keyword argument '" ++
      String.ofList key ++ "'"
  | positionalAfterKeyword tag =>
    "'" ++ String.ofList tag ++
      "' received some positional argument(s) after some keyword argument(s)"
  | openLocalized => ""

/-- The message of a rejected template. -/
def TemplateFault.message : TemplateFault → String
  | attributes fault site => fault.message site
  | wrongTag received expected =>
    "Tag parser received tag '" ++ String.ofList received ++ "', expected '" ++
      String.ofList expected ++ "'"
  | emptyVariable line => "Empty variable tag on line " ++ toString line
  | emptyBlock line => "Empty block tag on line " ++ toString line
  | unknownBlock line name expected =>
    let found := "Invalid block tag on line " ++ toString line ++ ": '" ++ String.ofList name ++ "'"
    let wanted := if expected.isEmpty then "" else ", expected " ++ alternatives expected
    found ++ wanted ++ ". Did you forget to register or load this tag?"
  | unclosedBlock line name expected =>
    "Unclosed tag on line " ++ toString line ++ ": '" ++ String.ofList name ++
      "'. Looking for one of: " ++ String.ofList (Text.join ", ".toList expected) ++ "."
  | malformedBlock text => text

/-- Why a value cannot be computed. -/
inductive EvalFault
  | wrongType
  | missingKey
  | missingAttribute
  | indexOutOfRange
  | divisionByZero
  | overflow
  | outOfMemory
  | unsuitableValue
  | undefinedVariable
  | malformedExpression
  | hiddenName
  /-- An encoding, or a way to deal with what it does not have, that is not known. -/
  | unknownEncoding
  /-- A character that an encoding does not have. -/
  | unencodable
  /-- Octets that no character has in an encoding. -/
  | undecodable
  /-- Functions that call each other without end. -/
  | endlessCalls
  deriving DecidableEq

/-- How a tag breaks the contract of rendering. -/
inductive ContractBreach
  | attributesNotAList (typeName : String)
  | missingBody (tag : Text)

/-- The message of a breach. -/
def ContractBreach.message : ContractBreach → String
  | attributesNotAList typeName => "Attributes must be a list, got " ++ typeName
  | missingBody tag =>
    "Tag '" ++ String.ofList tag ++ "' expected the body as the last argument"

/-- Why a step of a session fails. -/
inductive Fault
  | template (fault : TemplateFault)
  | eval (fault : EvalFault)
  | contract (breach : ContractBreach)
  /-- The render behaviour of a tag gave up. -/
  | raised (message : Text)
  /-- A tag that cannot be defined. -/
  | definition (message : String)
  /-- The last layer of a scope cannot be removed. -/
  | lastLayer
  | missingTemplate
  /-- Templates that include each other without end. -/
  | endlessInclusion

end ElementTags
