import ElementTags.Settings
import ElementTags.Text.Blank
import ElementTags.Text.Escape
import ElementTags.Value.Display

/-!
# Attributes as HTML

Resolved attributes are written as the attributes of an HTML start tag. A value without a key is
written only if it is a plain text without blanks; any other true one is dropped and reported. A
value with a key is written in double quotes unless it is absent. Everything is escaped that is not
marked as safe, and what is written twice is written once, at its first place.
-/

namespace ElementTags

/-- The kinds of values that are written differently. -/
inductive Kind
  | absent
  | safe
  | text
  | boolean
  | number
  | keywords
  | sequence
  | mapping
  | other
  deriving DecidableEq

/-- The name of a kind, as logs show it. -/
def Kind.label : Kind → String
  | absent => "none"
  | safe => "safe"
  | text => "string"
  | boolean => "boolean"
  | number => "number"
  | keywords => "keywords"
  | sequence => "sequence"
  | mapping => "mapping"
  | other => "other"

/-- The kind of a value. -/
def Value.kind : Value → Kind
  | .null => .absent
  | .safe _ => .safe
  | .text _ => .text
  | .bool _ => .boolean
  | .int _ => .number
  | .float _ => .number
  | .notANumber _ => .number
  | .complex _ _ => .number
  | .decimal _ => .number
  | .keywords _ _ => .keywords
  | .list _ _ => .sequence
  | .tuple _ _ => .sequence
  | .dict _ _ => .mapping
  | .mapping _ _ => .mapping
  | _ => .other

/-- How urgent a line of the log is. -/
inductive LogLevel
  | warning
  | trace
  deriving DecidableEq

/-- A line of the log. -/
structure LogLine where
  level : LogLevel
  text : Text

namespace Markup

/-- What stands for a sequence, whose items are not written. -/
def arrayPlaceholder : Text := "[object Array]".toList

/-- What stands for a mapping, whose pairs are not written. -/
def objectPlaceholder : Text := "[object Object]".toList

/-- A key or value with its special characters escaped. Safe texts, and values that are neither
texts nor sequences, stay what they are. -/
def escapeValue : Value → Value
  | .safe s => .safe s
  | .text s => .safe (Text.escape s)
  | .list _ _ => .text arrayPlaceholder
  | .tuple _ _ => .text arrayPlaceholder
  | v => v

/-- The escaped text of a value; a lazy text stays lazy. -/
def escapeAny : Value → Except EvalFault Value
  | .lazy s _ => .ok (.lazy (Text.escape s) true)
  | v => v.shown.map fun s => .safe (Text.escape s)

/-- Whether a value is left as it is where the mark of safe HTML is put on texts: it has the mark,
it brings HTML of its own, or it is called later. -/
def keepsItself : Value → Bool
  | .safe _ => true
  | .object _ attributes _ => attributes.any (·.1 = Value.htmlName)
  | .callable _ _ => true
  | .method _ _ => true
  | .function _ => true
  | _ => false

/-- The mark of safe HTML on the text of any value; a lazy text stays lazy. -/
def safeAny (v : Value) : Except EvalFault Value :=
  if keepsItself v then .ok v
  else
    match v with
    | .lazy s _ => .ok (.lazy s true)
    | v => v.shown.map .safe

/-- A value without a key as it is written, if it is. -/
def positional? : Value → Option Text
  | .text s => if s.isEmpty || s.any Text.isBlank then none else some (Text.escape s)
  | _ => none

/-- The value of a key as it is written, if it is. A number with too many digits cannot be written.
-/
def keyed? (v : Value) : Except EvalFault (Option Text) :=
  match v with
  | .null => .ok none
  | .safe s => .ok (some s)
  | .text s => .ok (some (Text.escape s))
  | .bool b => .ok (some (if b then "true".toList else "false".toList))
  | v =>
    match v.kind with
    | .number => v.shown.map some
    | .sequence => .ok (some arrayPlaceholder)
    | .mapping => .ok (some objectPlaceholder)
    | .keywords => .ok (some objectPlaceholder)
    | _ => v.shown.map fun s => some (Text.escape s)

/-- Whether what is written for a value of some kind is marked as safe: texts and everything that is
escaped like a text. -/
def isMarked : Kind → Bool
  | .safe => true
  | .text => true
  | .other => true
  | _ => false

/-- What is written for a value of a kind, as a value. -/
def asValue (kind : Kind) (written : Text) : Value :=
  if isMarked kind then .safe written else .text written

/-- A key with its value as it is written, if it is. -/
def pair? (key value : Value) : Except EvalFault (Option Text) := do
  match ← keyed? value with
  | none => pure none
  | some shown => do
    let name ← (escapeValue key).shown
    pure (some (name ++ "=\"".toList ++ shown ++ ['"']))

/-- The pairs of a mapping as they are written. -/
def pairs (ps : List (Value × Value)) : Except EvalFault (List Text) := do
  pure ((← ps.mapM fun (k, v) => pair? k v).filterMap id)

/-- The line that reports a dropped value. -/
def droppedLine (v : Value) : Except EvalFault LogLine :=
  v.described.map fun description =>
    ⟨.warning, "Dropping unsupported attribute of type '".toList ++ v.kind.label.toList ++
      "': ".toList ++ description⟩

/-- The lines that a handler logs about a dropped value. Not all handlers notice that a value cannot
be described. -/
def droppedLines (handler : LogHandler) (v : Value) : Except EvalFault (List LogLine) :=
  match droppedLine v, handler with
  | .ok line, _ => .ok [line]
  | .error fault, .strict => .error fault
  | .error _, .lenient => .ok []

/-- A text added behind others, unless it is one of them. -/
def addOnce (written : List Text) (s : Text) : List Text :=
  if written.contains s then written else written ++ [s]

/-- The attributes written so far, and the lines logged so far. -/
structure Progress where
  written : List Text := []
  lines : List LogLine := []

/-- The progress after one more value. Whether dropped values are logged is only asked when a true
value is dropped. -/
def step (configuration : Configuration) (p : Progress) (v : Value) : Except EvalFault Progress :=
  match v with
  | .keywords ps _ => do pure { p with written := (← pairs ps).foldl addOnce p.written }
  | v =>
    match positional? v with
    | some s => .ok { p with written := addOnce p.written s }
    | none =>
      if v.isTruthy then do
        let log ← configuration.logDropped
        if log.isTruthy then do
          let lines ← droppedLines configuration.handler v
          pure { p with lines := p.lines ++ lines }
        else pure p
      else .ok p

/-- The progress through some values: how far it came, and why it ended early if it did. -/
def progress (configuration : Configuration) (p : Progress) :
    List Value → Progress × Option EvalFault
  | [] => (p, none)
  | v :: rest =>
    match step configuration p v with
    | .ok next => progress configuration next rest
    | .error fault => (p, some fault)

/-- The attributes of a start tag with a blank between each two, or why they cannot be written, and
the lines that were logged either way. -/
def serialize (configuration : Configuration) (values : List Value) :
    Except EvalFault Text × List LogLine :=
  match progress configuration {} values with
  | (p, none) => (.ok (Text.join [' '] p.written), p.lines)
  | (p, some fault) => (.error fault, p.lines)

/-- The attributes of a start tag written from a value, which has to be a list of values. -/
def serializeValue (configuration : Configuration) (v : Value) : Except Fault Text × List LogLine :=
  match v with
  | .list values _ =>
    match serialize configuration values with
    | (.ok html, lines) => (.ok html, lines)
    | (.error fault, lines) => (.error (.eval fault), lines)
  | v => (.error (.contract (.attributesNotAList v.typeName)), [])

end Markup
end ElementTags
