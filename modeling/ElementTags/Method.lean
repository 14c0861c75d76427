import ElementTags.Method.Bytes
import ElementTags.Method.Mapping
import ElementTags.Method.Number
import ElementTags.Method.Sequence

/-!
# Members of values

What stands behind the point in `value.name`: an attribute of an object, a part of a number or of a
slice, or a method. A method remembers the value that it belongs to and is called later.
-/

namespace ElementTags.Value

open Method

/-- The signature of a method of a value, if the value has one of that name. -/
def signature? (v : Value) (name : Text) : Option Signature :=
  let of {α : Type} (methods : List (Method α)) : Option Signature :=
    (find? methods name).map (·.signature)
  match v.anyChars?, v with
  | some _, _ => of TextMethod.all
  | none, bool _ => of NumberMethod.ofWhole
  | none, int _ => of NumberMethod.ofWhole
  | none, float _ => of NumberMethod.ofReal
  | none, notANumber _ => of NumberMethod.ofReal
  | none, complex _ _ => of NumberMethod.ofComplex
  | none, bytes _ => of BytesMethod.all
  | none, list _ _ => of SequenceMethod.ofList
  | none, tuple _ _ => of SequenceMethod.ofTuple
  | none, dict _ _ =>
    if name = MappingMethod.updateName then some .none else of MappingMethod.ofDict
  | none, keywords _ _ =>
    if name = MappingMethod.updateName then some .none else of MappingMethod.ofDict
  | none, mapping _ _ => of MappingMethod.readings
  | none, set items _ =>
    match SetMethod.combine? items name {} with
    | some (.ok _) => some .none
    | some (.error _) => some (.plain 1 1)
    | none => of SetMethod.all
  | none, view kind _ => if kind = .values then none else of MappingMethod.ofView
  | none, _ => none

/-- Whether a method of a value needs arguments. -/
def needsArguments (v : Value) (name : Text) : Bool :=
  (v.signature? name).any fun s => 0 < s.required

/-- The part of a value that has a name and is no method. -/
def part? (v : Value) (name : Text) : Option Value :=
  match v with
  | object _ attributes _ => (attributes.find? (·.1 = name)).map (·.2)
  | bool b => NumberMethod.wholePart? (if b then 1 else 0) name
  | int n => NumberMethod.wholePart? n name
  | float x => NumberMethod.realPart? (float x) name
  | notANumber who => NumberMethod.realPart? (notANumber who) name
  | complex re im => NumberMethod.complexPart? re im name
  | bounds start stop step =>
    if name = "start".toList then some start
    else if name = "stop".toList then some stop
    else if name = "step".toList then some step
    else none
  | view _ owner =>
    if name = "mapping".toList then owner.pairs?.map (mapping ·) else none
  | _ => none

/-- What a name leads to from a value: a part or a method. -/
def member? (v : Value) (name : Text) : Option Value :=
  match v.part? name with
  | some part => some part
  | none => (v.signature? name).map fun _ => method v name

/-- The new content of a value that was changed: it stays of its type and keeps its identity. -/
def withContent (v content : Value) : Value :=
  match v, content with
  | list _ who, list items _ => list items who
  | set _ who, set items _ => set items who
  | dict _ who, dict ps _ => dict ps who
  | keywords _ who, dict ps _ => keywords ps who
  | v, _ => v

/-- The outcome of calling a method of a value. -/
def callMethod (v : Value) (name : Text) (a : Arguments) : Except EvalFault Outcome :=
  let of {α : Type} (methods : List (Method α)) (owner : α) : Except EvalFault Outcome :=
    match find? methods name with
    | some m => m.call owner a
    | none => .error .missingAttribute
  let ofDict (ps : List (Value × Value)) : Except EvalFault Outcome :=
    if name = MappingMethod.updateName then MappingMethod.update ⟨v, ps⟩ a
    else of MappingMethod.ofDict ⟨v, ps⟩
  match v.anyChars?, v with
  | some s, _ => of TextMethod.all s
  | none, bool b => of NumberMethod.ofWhole (if b then 1 else 0)
  | none, int n => of NumberMethod.ofWhole n
  | none, float x => of NumberMethod.ofReal x
  | none, notANumber _ => of NumberMethod.ofReal (0.0 / 0.0)
  | none, complex re im => of NumberMethod.ofComplex (re, im)
  | none, bytes octets => of BytesMethod.all octets
  | none, list items _ => of SequenceMethod.ofList items
  | none, tuple items _ => of SequenceMethod.ofTuple items
  | none, dict ps _ => ofDict ps
  | none, keywords ps _ => ofDict ps
  | none, mapping ps _ => of MappingMethod.readings ⟨v, ps⟩
  | none, set items _ =>
    match SetMethod.combine? items name a with
    | some outcome => outcome
    | none => of SetMethod.all items
  | none, v => of MappingMethod.ofView (v.items?.getD [])

end ElementTags.Value
