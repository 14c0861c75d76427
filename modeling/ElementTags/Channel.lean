import ElementTags.Scope
import ElementTags.Value.Sequence

/-!
# The channel between nested tags

A tag passes values to the tags in its body through a channel: a mapping that lies in a variable of
the scope. Providing values opens a layer with the old channel extended by them; leaving the block
removes the layer again, so that the tags behind it see the old channel.
-/

namespace ElementTags.Channel

/-- The variable that holds the channel. Its name cannot be written in a template. -/
def variableName : Text := "_html_tags_channel".toList

/-- The name that no provided value may have. -/
def reservedName : Text := "context".toList

/-- Whether a value that is no mapping can be read like an empty one: it is an object that tells
that it has no keys. -/
def tellsNoKeys : Value → Bool
  | .object _ attributes _ =>
    match Layer.get? attributes "keys".toList with
    | some (.callable keys _) => keys.items?.any List.isEmpty
    | _ => false
  | _ => false

/-- The pairs of the open channel; without one there are none. -/
def pairs (scope : Scope) : Except EvalFault (List (Value × Value)) :=
  match scope.get? variableName with
  | none => .ok []
  | some v =>
    match v.pairs? with
    | some ps => .ok ps
    | none => if tellsNoKeys v then .ok [] else .error .wrongType

/-- The channel extended by values, and the scope in which it is open. -/
def provide (scope : Scope) (values : Layer) : Except EvalFault (Value × Scope) :=
  if values.any (·.1 = reservedName) then .error .wrongType
  else
    match pairs scope with
    | .error fault => .error fault
    | .ok old =>
      let channel := Value.dict (values.foldl (fun ps (n, v) => Value.put ps (.text n) v) old)
      .ok (channel, scope.push [(variableName, channel)])

/-- What reading from something that is no mapping leads to: it has no way to be read from, unless
an object brings one of its own, which cannot take a name. -/
def unreadable : Value → EvalFault
  | .object _ attributes _ =>
    if (Layer.get? attributes "get".toList).isSome then .wrongType else .missingAttribute
  | _ => .missingAttribute

/-- The value provided under a name by the innermost block that gives it. -/
def inject (scope : Scope) (name : Text) (default : Value) : Except EvalFault Value :=
  match scope.get? variableName with
  | none => .ok default
  | some v =>
    match v.pairs? with
    | some ps => .ok ((Value.lookup ps (.text name)).getD default)
    | none => .error (unreadable v)

end ElementTags.Channel
