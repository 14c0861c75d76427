import ElementTags.Text.Case
import ElementTags.Text.Escape
import ElementTags.Value.Arithmetic
import ElementTags.Value.Sequence

/-!
# Filters

A filter makes a value from a value and at most one argument. Filters of texts first take the text
of their input. The result of a filter that keeps safe texts safe is safe whenever its input was.
There are no points in time among the values, so that no filter has to be given a local time.
-/

namespace ElementTags

/-- The filters. -/
inductive Filter
  | add
  | capFirst
  | cut
  | defaultTo
  | defaultIfAbsent
  | divisibleBy
  | escape
  | first
  | forceEscape
  | join
  | last
  | length
  | lower
  | safe
  | slice
  | upper
  | yesNo
  deriving DecidableEq

namespace Filter

/-- The names under which the filters are known. -/
def registry : List (String × Filter) :=
  [("add", add), ("capfirst", capFirst), ("cut", cut), ("default", defaultTo),
    ("default_if_none", defaultIfAbsent), ("divisibleby", divisibleBy), ("escape", escape),
    ("first", first), ("force_escape", forceEscape), ("join", join), ("last", last),
    ("length", length), ("lower", lower), ("safe", safe), ("slice", slice), ("upper", upper),
    ("yesno", yesNo)]

/-- The filter of a name. -/
def ofName? (name : Text) : Option Filter :=
  (registry.find? fun (n, _) => n.toList = name).map (·.2)

/-- The name of a filter. -/
def name : Filter → String
  | add => "add"
  | capFirst => "capfirst"
  | cut => "cut"
  | defaultTo => "default"
  | defaultIfAbsent => "default_if_none"
  | divisibleBy => "divisibleby"
  | escape => "escape"
  | first => "first"
  | forceEscape => "force_escape"
  | join => "join"
  | last => "last"
  | length => "length"
  | lower => "lower"
  | safe => "safe"
  | slice => "slice"
  | upper => "upper"
  | yesNo => "yesno"

/-- The registry knows every filter under its name. -/
theorem ofName?_name (f : Filter) : ofName? f.name.toList = some f := by
  cases f <;> rfl

/-- How many arguments a filter needs and takes at most. -/
def arity : Filter → Nat × Nat
  | capFirst | escape | first | forceEscape | last | length | lower | safe | upper => (0, 0)
  | yesNo => (0, 1)
  | _ => (1, 1)

/-- Whether a filter takes a count of arguments. -/
def accepts (f : Filter) (count : Nat) : Bool := f.arity.1 ≤ count && count ≤ f.arity.2

/-- Whether the result of a filter is safe when its input was. -/
def keepsSafe : Filter → Bool
  | capFirst | escape | forceEscape | join | last | lower | safe | slice => true
  | _ => false

/-- A function on texts as a filter of texts. -/
def onText (keeps : Bool) (f : Text → Text) (v : Value) : Except EvalFault Value :=
  v.shownValue.map fun shown =>
    match shown with
    | .safe s => if keeps then .safe (f s) else .text (f s)
    | w => .text (f w.spell)

/-- The escaped text of a value. -/
def escaped (v : Value) : Except EvalFault Text := v.shown.map Text.escape

/-- The text of a value, escaped unless it is safe. -/
def escapeUnlessSafe (v : Value) : Except EvalFault Text :=
  v.shownValue.map fun shown =>
    match shown with
    | .safe s => s
    | w => Text.escape w.spell

/-- The HTML that an object brings; it is what a function gives. -/
def ownHtml? : Value → Option (Except EvalFault Value)
  | .object _ attributes _ =>
    (attributes.find? (·.1 = Value.htmlName)).map fun (_, brought) =>
      match brought with
      | .callable html _ => .ok html
      | _ => .error .wrongType
  | _ => none

/-- The HTML of a value: its own, or else its text, escaped unless it is safe. -/
def htmlOf (v : Value) : Except EvalFault Value :=
  match ownHtml? v with
  | some html => html
  | none => (escapeUnlessSafe v).map .safe

/-- The whole number that a value is read as: numbers are cut off at the point, texts have to spell
a whole number. -/
def toWhole (v : Value) : Except EvalFault Int :=
  match v.chars? with
  | some s =>
    match Text.integer? s with
    | some n => .ok n
    | none => .error .unsuitableValue
  | none => v.truncated

/-- The sum of two values read as whole numbers, or else the two values joined, or else nothing. -/
def runAdd (v argument : Value) : Except EvalFault Value :=
  match (do pure ((← toWhole v) + (← toWhole argument)) : Except EvalFault Int) with
  | .ok n => .ok (.int n)
  | .error .overflow => .error .overflow
  | .error _ =>
    match Value.add v argument with
    | .ok sum => .ok sum
    | .error _ => .ok (.text [])

/-- All occurrences of a text removed. A safe text stays safe, unless what is removed is the
semicolon that closes an entity. -/
def runCut (v argument : Value) : Except EvalFault Value :=
  match argument.chars? with
  | some pattern => onText (pattern ≠ [';']) (Text.replaceAll pattern []) v
  | none => v.shown.bind fun _ => .error .wrongType

/-- The item at a position; an empty collection gives the empty text. -/
def runItem (position : Int) (v : Value) : Except EvalFault Value :=
  match Value.subscript v (.int position) with
  | .error .indexOutOfRange => .ok (.text [])
  | result => result

/-- The texts of values, all of which have to be texts. -/
def textsOf (vs : List Value) : Except EvalFault (List Text) :=
  vs.mapM fun v =>
    match v.chars? with
    | some s => .ok s
    | none => .error .wrongType

/-- The HTML of the items of a collection, joined by that of a separator, which has to be a text. -/
def joinHtml (v argument : Value) : Except EvalFault Text := do
  match (← htmlOf argument).chars?, v.items? with
  | none, _ => throw .missingAttribute
  | some _, none => throw .wrongType
  | some separator, some items => do
    pure (Text.join separator (← textsOf (← items.mapM htmlOf)))

/-- The items of a collection joined by a separator; all of them have to be texts. -/
def joinPlainly (v argument : Value) : Except EvalFault Text := do
  match argument.anyChars?, v.items? with
  | none, _ => throw .missingAttribute
  | some _, none => throw .wrongType
  | some separator, some items => do pure (Text.join separator (← textsOf items))

/-- The items of a collection joined by a separator, as safe HTML. With escaping on, every item and
the separator are escaped unless they are safe or bring their own HTML; with escaping off, all of
them have to be texts. A value whose items cannot be joined stays what it is. -/
def runJoin (autoescape : Bool) (v argument : Value) : Except EvalFault Value :=
  match if autoescape then joinHtml v argument else joinPlainly v argument with
  | .ok s => .ok (.safe s)
  | .error .wrongType => .ok v
  | .error fault => .error fault

/-- The bounds of a slice written as whole numbers between colons, each of which may be missing. -/
def sliceBounds (s : Text) : Option (List (Option Int)) :=
  (Text.pieces ':' s).mapM fun piece =>
    if piece.isEmpty then some none else (Text.integer? piece).map some

/-- The slice of a text or sequence between bounds; one bound alone is the end. A value that has no
such slice stays what it is. -/
def runSlice (v argument : Value) : Value :=
  let bounds := argument.shown.toOption.bind sliceBounds
  let result := match bounds with
    | some [stop] => Value.slice v none stop none
    | some [start, stop] => Value.slice v start stop none
    | some [start, stop, step] => Value.slice v start stop step
    | _ => .ok v
  match result with
  | .ok part => part
  | .error _ => v

/-- The answers for true, false and absent values; two answers leave the second one for absent
values, and fewer are no answers at all. -/
def runYesNo (v argument : Value) : Except EvalFault Value :=
  let answers := match argument with
    | .null => some "yes,no,maybe".toList
    | argument => argument.anyChars?
  match answers with
  | none => .error .missingAttribute
  | some answers =>
    let choose (yes no maybe : Text) : Value :=
      match v with
      | .null => .text maybe
      | v => .text (if v.isTruthy then yes else no)
    match Text.pieces ',' answers with
    | [yes, no, maybe] => .ok (choose yes no maybe)
    | yes :: no :: _ => .ok (choose yes no no)
    | _ => .ok v

/-- The result of a filter on a value and an argument. -/
def run (f : Filter) (autoescape : Bool) (v : Value) (argument : Option Value) :
    Except EvalFault Value :=
  match f, argument with
  | add, some a => runAdd v a
  | capFirst, none => onText true Text.raiseFirst v
  | cut, some a => runCut v a
  | defaultTo, some a => .ok (if v.isTruthy then v else a)
  | defaultIfAbsent, some a => .ok (match v with | .null => a | v => v)
  | divisibleBy, some a => do
    let n ← toWhole v
    let d ← toWhole a
    if d = 0 then throw .divisionByZero else pure (.bool (Int.fmod n d = 0))
  | escape, none => (escapeUnlessSafe v).map .safe
  | forceEscape, none => (escaped v).map .safe
  | first, none => runItem 0 v
  | last, none => runItem (-1) v
  | join, some a => runJoin autoescape v a
  | length, none => .ok (.int (v.length?.getD 0))
  | lower, none => onText true Text.lower v
  | upper, none => onText false Text.upper v
  | safe, none => v.shown.map .safe
  | slice, some a => .ok (runSlice v a)
  | yesNo, a => runYesNo v (a.getD .null)
  | _, _ => .error .wrongType

/-- The result of a filter, marked as safe when the filter keeps safe inputs safe. -/
def apply (f : Filter) (autoescape : Bool) (v : Value) (argument : Option Value) :
    Except EvalFault Value :=
  (f.run autoescape v argument).map fun result =>
    if f.keepsSafe && v.isSafe then result.markSafe else result

end Filter
end ElementTags
