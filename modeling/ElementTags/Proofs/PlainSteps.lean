import ElementTags.Behaviour

/-! # Behaviours made of plain steps

Behaviours put few kinds of steps one behind the other: they look at the scope and change
it, ask for their body and call it, or another one that they were handed, write attributes,
and provide values while they do something (`ElementTags.Acting.Plain`). All behaviours of
this library are made of such steps, but the one that counts
(`ElementTags.Behaviour.plain_default` and those that follow it). So what is to be shown of
behaviours has to be shown for each kind of step only.
-/

namespace ElementTags

variable {α β : Type} {others : Prop}

namespace Acting

/-! ## Steps as scripts -/

theorem scope_eq : scope = .look fun s => .done (.ok s.scope) := rfl

theorem changeScope_eq (f : Scope → Scope) :
    changeScope f = .look fun s => .change { s with scope := f s.scope } (.done (.ok ())) := rfl

/-- The own body is called, which has to be something that can be called. -/
theorem callBody_eq : callBody = .askBody fun b =>
    match b with
    | .deferred own => .callBody own fun reply => .done (reply.map .safe)
    | .given v => .done ((callValue v).mapError .eval) := by
  refine congrArg Script.askBody (funext fun b => ?_)
  cases b with
  | deferred own =>
      refine congrArg (Script.callBody own) (funext fun reply => ?_)
      cases reply <;> rfl
  | given v =>
      show ofEval (callValue v) = Script.done ((callValue v).mapError .eval)
      cases callValue v <;> rfl

/-- Writing attributes takes two steps: it looks at its surroundings, and logs what is dropped. -/
theorem serialize_eq (attributes : Value) :
    serialize attributes = .look fun s =>
      let written := Markup.serializeValue s.ledger.configuration (s.scope.current attributes)
      .change { s with ledger := s.ledger.log written.2 } (.done written.1) := rfl

/-- Providing values takes three steps: it opens a layer, does what is to be done in it, and removes
the layer. -/
theorem providing_eq (values : Layer) (action : Acting α) :
    providing values action = .look fun s =>
      match Channel.provide s.scope values with
      | .error fault => .done (.error (.eval fault))
      | .ok (_, opened) =>
        .change { s with scope := opened } (Script.bind action fun result => .look fun after =>
          .change { after with scope := after.scope.dropTop } (.done result)) := by
  show Script.look _ = _
  refine congrArg Script.look (funext fun s => ?_)
  show Script.bind (ofEval (Channel.provide s.scope values)) _ = _
  cases Channel.provide s.scope values with
  | error fault => rfl
  | ok opened =>
      show Script.change _ (Script.bind (Script.bind action _) _) = _
      rw [Script.bind_assoc]
      rfl

/-! ## Plain steps -/

/-- An action is made of plain steps. Bodies of other tags are called only if that is allowed. -/
inductive Plain (others : Prop) : {α : Type} → Acting α → Prop
  | done {α : Type} (result : Except Fault α) : Plain others (Script.done result : Acting α)
  | andThen {α β : Type} {action : Acting α} {f : α → Acting β} (first : Plain others action)
      (next : ∀ a, Plain others (f a)) : Plain others (action >>= f)
  | scope : Plain others scope
  | changeScope (f : Scope → Scope) : Plain others (changeScope f)
  | body : Plain others body
  | isRendered (accessor : Accessor) : Plain others (isRendered accessor)
  | callBody : Plain others callBody
  | call (allowed : others) (accessor : Accessor) : Plain others (call accessor)
  | serialize (attributes : Value) : Plain others (serialize attributes)
  | providing {α : Type} {action : Acting α} (inside : Plain others action) (values : Layer) :
      Plain others (providing values action)

theorem plain_pure (a : α) : Plain others (pure a : Acting α) := .done (.ok a)

theorem plain_ofEval (result : Except EvalFault α) : Plain others (ofEval result) := by
  unfold ofEval
  split <;> exact .done _

end Acting

namespace Behaviour

open Acting

/-- A behaviour is made of plain steps, whatever element it writes and whatever its attributes are.
-/
def Plain (others : Prop) (behaviour : Behaviour) : Prop :=
  ∀ e attributes, (behaviour e attributes).Plain others

theorem plain_element {inner : Acting Text} (inside : inner.Plain others) (e : Element)
    (attributes : Value) : (element e attributes inner).Plain others := by
  refine (Acting.Plain.serialize attributes).andThen fun written => ?_
  dsimp only
  split
  · exact inside.andThen fun html => plain_pure _
  · exact plain_pure _

theorem plain_ownFragment : ownFragment.Plain others := Acting.Plain.body.andThen fun b => by
  cases b with
  | deferred own => exact Acting.Plain.callBody.andThen fun _ => plain_ofEval _
  | given v => exact plain_ofEval _

theorem plain_default : default.Plain others := fun e attributes =>
  plain_element plain_ownFragment e attributes

theorem plain_withBody (e : Element) (attributes v : Value) :
    (withBody e attributes v).Plain others := plain_element (plain_ofEval _) e attributes

theorem plain_append (s : Text) : (append s).Plain others := fun e attributes =>
  Acting.Plain.callBody.andThen fun _ => (plain_ofEval _).andThen fun _ =>
    plain_withBody e attributes _

theorem plain_callRepeatedly (n : Nat) : (callRepeatedly n).Plain others := by
  induction n with
  | zero => exact plain_pure _
  | succ n ih =>
      refine Acting.Plain.callBody.andThen fun v => ih.andThen fun more => ?_
      split
      · exact plain_pure _
      · exact .done _

theorem plain_repeated (times : Nat) : (repeated times).Plain others := fun e attributes =>
  (plain_callRepeatedly times).andThen fun _ => plain_withBody e attributes _

theorem plain_fixedBody (v : Value) : (fixedBody v).Plain others := fun e attributes =>
  plain_withBody e attributes v

theorem plain_prepend (values : List Value) : (prepend values).Plain others := fun e _ =>
  plain_default e _

theorem plain_provide (values : Layer) : (provide values).Plain others := fun e attributes =>
  .providing (plain_default e attributes) values

theorem plain_provideAttributes : provideAttributes.Plain others := fun e attributes =>
  (plain_ofEval _).andThen fun values => .providing (plain_default e attributes) values

theorem plain_inject (name : Text) (other : Value) : (inject name other).Plain others :=
  fun e attributes => Acting.Plain.scope.andThen fun _ => (plain_ofEval _).andThen fun _ =>
    (plain_ofEval _).andThen fun _ => plain_withBody e attributes _

theorem plain_injectAttribute (name key : Text) : (injectAttribute name key).Plain others :=
  fun e _ => Acting.Plain.scope.andThen fun _ => (plain_ofEval _).andThen fun _ =>
    plain_default e _

theorem plain_refuse (message : Text) : (refuse message).Plain others := fun _ _ => .done _

theorem plain_describeBody : describeBody.Plain others := Acting.Plain.body.andThen fun b => by
  cases b with
  | deferred own => exact (Acting.Plain.isRendered own).andThen fun _ => plain_pure _
  | given v => exact plain_ofEval _

theorem plain_probe : probe.Plain others := fun _ _ =>
  plain_describeBody.andThen fun _ => Acting.Plain.callBody.andThen fun _ =>
    (plain_ofEval _).andThen fun _ => plain_describeBody.andThen fun _ => plain_ofEval _

theorem plain_constant (v : Value) : (constant v).Plain others := fun _ _ => plain_pure v

theorem plain_tupleAttributes : tupleAttributes.Plain others := fun e _ => plain_default e _

theorem plain_handingOn (name : Text) {behaviour : Behaviour} (plain : behaviour.Plain others) :
    (handingOn name behaviour).Plain others := fun e attributes =>
  Acting.Plain.body.andThen fun b => by
    cases b with
    | deferred own => exact (Acting.Plain.changeScope _).andThen fun _ => plain e attributes
    | given v => exact plain e attributes

/-- Only this behaviour calls a body that is not its own. -/
theorem plain_callHanded (name : Text) : (callHanded name).Plain True := fun _ _ =>
  Acting.Plain.scope.andThen fun s => by
    split
    · exact (Acting.Plain.changeScope _).andThen fun _ =>
        (Acting.Plain.call trivial _).andThen fun _ => plain_pure _
    · exact plain_pure _

theorem plain_helpers (name : Text) : (helpers name).Plain others := fun _ attributes =>
  Acting.Plain.scope.andThen fun _ => (plain_ofEval _).andThen fun _ =>
    (plain_ofEval _).andThen fun _ => (Acting.Plain.serialize attributes).andThen fun _ =>
      (plain_ofEval _).andThen fun _ => plain_pure _

end Behaviour
end ElementTags
