import ElementTags.Channel

/-!
# Nested blocks

A scope together with the number of blocks that provide values and are still open. Leaving a block
removes the innermost layer of the scope, whatever it is.
-/

namespace ElementTags.Channel

/-- A scope, and how many blocks that provide values are open in it. -/
structure Nesting where
  scope : Scope
  opened : Nat := 0

namespace Nesting

/-- Opens a block that provides values; the channel is the result. -/
def enter (n : Nesting) (values : Layer) : Except Fault (Value × Nesting) :=
  match provide n.scope values with
  | .ok (channel, scope) => .ok (channel, ⟨scope, n.opened + 1⟩)
  | .error fault => .error (.eval fault)

/-- Leaves the innermost block. The block is left even if there is no layer to remove. -/
def leave (n : Nesting) : Except Fault Unit × Nesting :=
  match n.opened with
  | 0 => (.error (.eval .indexOutOfRange), n)
  | opened + 1 =>
    match n.scope.pop? with
    | some (_, scope) => (.ok (), ⟨scope, opened⟩)
    | none => (.error .lastLayer, ⟨n.scope, opened⟩)

/-- The value that is provided under a name. -/
def inject (n : Nesting) (name : Text) (default : Value) : Except Fault Value :=
  match Channel.inject n.scope name default with
  | .ok v => .ok v
  | .error fault => .error (.eval fault)

/-- Sets a variable. -/
def set (n : Nesting) (name : Text) (value : Value) : Nesting :=
  { n with scope := n.scope.set name value }

/-- Opens a layer with some variables. -/
def push (n : Nesting) (layer : Layer) : Nesting := { n with scope := n.scope.push layer }

/-- Removes the innermost layer, which is the result. -/
def pop (n : Nesting) : Except Fault (Layer × Nesting) :=
  match n.scope.pop? with
  | some (layer, scope) => .ok (layer, { n with scope := scope })
  | none => .error .lastLayer

end Nesting
end ElementTags.Channel
