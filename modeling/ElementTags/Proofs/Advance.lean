import Mathlib
import ElementTags.Proofs.Limits
import ElementTags.Proofs.Remainder

/-! # How far the readers of attributes get

A reader stands at an index of a list of tokens: what is in front of it is behind the
reader, and it is given the tokens from there on. A reader that succeeds goes on at an
index that is not past the end, and a reader of an operand, a value, a key or an entry at
a later one than it started at (`ElementTags.Attribute.Advances`). So a limit above the
number of tokens from there on is never reached, neither by the values that are nested in
each other nor by a loop (`ElementTags.Attribute.EndsWithin`), whatever the tokens are.
-/

namespace ElementTags.Attribute

open Outcome Limited

/-- Where a reading succeeds, it goes on at an index from `low` to the end of the tokens. -/
def GoesOn {α : Type} (tokens : List Token) (low : Nat) (left : α → List Token)
    (x : Reading α) : Prop :=
  ∀ a, x = .ok a → ∃ j, low ≤ j ∧ j ≤ tokens.length ∧ left a = tokens.drop j

/-- Tokens from the end of the given ones are the ones from an index on. -/
theorem Leaves.goesOn {α : Type} {tokens : List Token} {i : Nat} {left : α → List Token}
    {x : Reading α} (leaves : Leaves left (tokens.drop i) x) (within : i ≤ tokens.length)
    (taken : Nat)
    (fewer : ∀ a, x = .ok a → (left a).length + taken ≤ (tokens.drop i).length) :
    GoesOn tokens (i + taken) left x := by
  intro a found
  have suffix : left a <:+ tokens := (leaves a found).trans (List.drop_suffix i tokens)
  have bound := fewer a found
  have shorter := suffix.length_le
  rw [List.length_drop] at bound
  exact ⟨tokens.length - (left a).length, by omega, Nat.sub_le _ _,
    List.suffix_iff_eq_drop.mp suffix⟩

/-- Where the readers go on that succeed at an index of some tokens. -/
structure Advances (source : Text) (tokens : List Token) (i : Nat) : Prop where
  operand : GoesOn tokens (i + 1) Read.rest (readOperand source (tokens.drop i))
  term : GoesOn tokens (i + 1) Read.rest (readTerm source (tokens.drop i))
  entry : ∀ first behind, tokens.drop i = first :: behind →
    GoesOn tokens (i + 1) Read.rest (readEntry source first behind)
  calls : GoesOn tokens i Read.rest (readCalls source (tokens.drop i))
  filters : GoesOn tokens i Read.rest (readFilters source (tokens.drop i))
  /-- The end of a key is behind its first token. -/
  key : ∀ first behind, tokens.drop i = first :: behind →
    GoesOn tokens (i + 1) KeyCandidate.rest (keyCandidate first behind)
  /-- To look for a key takes no tokens: what turns out to be none is read as a value from
  the same index on. -/
  aside : ∀ first behind k, tokens.drop i = first :: behind → mayBeKey first behind = true →
    keyCandidate first behind = .ok k → startsWithMark '=' k.rest = false →
    k.hasHyphens = false →
      (readEntry source first behind).map Read.parts =
        (readTerm source (tokens.drop i)).map fun r => (.positional first.start r.value, r.rest)

/-- The readers that are given some tokens end as they do without a limit. -/
structure EndsWithin (source : Text) (limit : Nat) (ts : List Token) : Prop where
  calls : Finishes Read.parts (callsWithin source limit ts) (readCalls source ts)
  filters : Finishes Read.parts (filtersWithin source limit ts) (readFilters source ts)
  operations : Finishes Read.parts (operationsWithin source limit ts) (readOperations source ts)
  code : ∀ paren, Finishes Read.parts (codeWithin source limit paren ts) (readCode source paren ts)
  items : Finishes Read.parts (itemsWithin (termWithin source limit) source limit ts)
    (readItems source ts)
  pairs : Finishes Read.parts (pairsWithin (termWithin source limit) source limit ts)
    (readPairs source ts)
  term : Finishes Read.parts (termWithin source limit ts) (readTerm source ts)
  key : ∀ first, Finishes id (keyWithin limit first ts) (keyCandidate first ts)
  entry : ∀ first behind, ts = first :: behind →
    Finishes Read.parts (entryWithin source limit first behind) (readEntry source first behind)
  entries : Finishes id (entriesWithin source limit ts) (readEntries source ts)

variable {source : Text} {tokens ts : List Token} {i limit : Nat}

theorem readEntry_aside {first : Token} {behind : List Token} {k : KeyCandidate}
    (starts : mayBeKey first behind = true) (candidate : keyCandidate first behind = .ok k)
    (noEquals : startsWithMark '=' k.rest = false) (noHyphens : k.hasHyphens = false) :
    (readEntry source first behind).map Read.parts =
      (readTerm source (first :: behind)).map
        fun r => (.positional first.start r.value, r.rest) := by
  have other : ∀ t ∈ k.rest.head?, t.isMark '=' = false := by
    intro t head
    obtain ⟨others, next⟩ := List.head?_eq_some_iff.mp head
    rw [next] at noEquals
    exact noEquals
  rw [readEntry_notKey starts candidate other, readEntry.notKey, noHyphens,
    if_neg Bool.false_ne_true, readEntry.positional]
  cases readTerm source (first :: behind) <;> rfl

/-- What the readers take is counted by the proofs that they return. -/
theorem advances (within : i ≤ tokens.length) : Advances source tokens i where
  operand := readOperand_leaves.goesOn within 1 fun r _ => r.within
  term := readTerm_leaves.goesOn within 1 fun r _ => r.within
  entry first behind here := by
    refine (here ▸ readEntry_leaves).goesOn within 1 fun r _ => ?_
    rw [here]
    exact r.within
  calls := (readCalls_leaves source _).goesOn within 0 fun r _ => Nat.le_of_lt_succ r.within
  filters := readFilters_leaves.goesOn within 0 fun r _ => Nat.le_of_lt_succ r.within
  key first behind here := by
    have leaves : Leaves KeyCandidate.rest (tokens.drop i) (keyCandidate first behind) :=
      keyCandidate_leaves.within (here ▸ List.suffix_cons first behind)
    refine leaves.goesOn within 1 fun k candidate => ?_
    rw [here]
    exact Nat.succ_le_succ (keyCandidate_length candidate)
  aside first behind k here starts candidate noEquals noHyphens := by
    rw [here]
    exact readEntry_aside starts candidate noEquals noHyphens

theorem endsWithin_of_length_lt (enough : ts.length < limit) : EndsWithin source limit ts where
  calls := callsWithin_finishes enough
  filters := filtersWithin_finishes enough
  operations := operationsWithin_finishes enough
  code _ := codeWithin_finishes enough
  items := itemsWithin_finishes (fun _ => termWithin_finishes) enough enough
  pairs := pairsWithin_finishes (fun _ => termWithin_finishes) enough enough
  term := termWithin_finishes enough
  key _ := keyWithin_finishes enough
  entry first behind here := by
    rw [here] at enough
    exact entryWithin_finishes enough
  entries := entriesWithin_finishes enough

/-- The readers advance at every index, so that a limit of one more than the tokens from there
on is enough; brackets that are never closed need that much. -/
theorem reading_advances (source : Text) {tokens : List Token} {i : Nat}
    (within : i ≤ tokens.length) :
    Advances source tokens i ∧
      (∀ limit, tokens.length - i < limit → EndsWithin source limit (tokens.drop i)) ∧
      ∀ limit, limit ≤ tokens.length - i → (∀ t ∈ tokens.drop i, t.isMark '[' = true) →
        termWithin source limit (tokens.drop i) = brokenOff := by
  refine ⟨advances within, fun limit enough => ?_, fun limit deep brackets => ?_⟩
  · exact endsWithin_of_length_lt (List.length_drop ▸ enough)
  · exact termWithin_unclosed brackets (List.length_drop ▸ deep)

/-- The tokens of `a=[[`, where two brackets are never closed. -/
def unclosedTokens : List Token :=
  [⟨.name, ['a'], 0⟩, ⟨.mark, ['='], 1⟩, ⟨.mark, ['['], 2⟩, ⟨.mark, ['['], 3⟩]

/-- Three values are nested in `[[`: two lists, and the item that is missing at the end. -/
theorem reading_advances_unclosed :
    Token.scan "a=[[".toList = .ok unclosedTokens ∧ 2 ≤ unclosedTokens.length ∧
      Advances "a=[[".toList unclosedTokens 2 ∧
      EndsWithin "a=[[".toList 3 (unclosedTokens.drop 2) ∧
      termWithin "a=[[".toList 3 (unclosedTokens.drop 2) = throw (endsEarly "a=[[".toList) ∧
      termWithin "a=[[".toList 2 (unclosedTokens.drop 2) = brokenOff := by
  obtain ⟨advances, ends, unclosed⟩ :=
    reading_advances "a=[[".toList (show 2 ≤ unclosedTokens.length by decide)
  exact ⟨by cbv, by decide, advances, ends 3 (by decide), by cbv,
    unclosed 2 (by decide) (by decide)⟩

end ElementTags.Attribute
