/-!
# Faults to come

Hardware is used in attempts, each of which succeeds or fails.  `Faults` says which of the next
attempts fail, given by the lengths of the runs of successes before each failure, so that a late
failure costs no more to write down than an early one.  After the last failure every attempt
succeeds.

The main statements say that every finite list of outcomes can be given this way:
`fails_ofOutcomes` for its first attempt and `rest_ofOutcomes` for the others.
-/

namespace TwinBall

/-- Which of the next attempts fail. -/
structure Faults where
  /-- How many attempts succeed before each failure. -/
  runs : List Nat
  deriving DecidableEq, Repr

namespace Faults

/-- Every attempt succeeds. -/
def none : Faults := ⟨[]⟩

/-- After `n` attempts that succeed, one fails. -/
def after (n : Nat) : Faults := ⟨[n]⟩

/-- Whether the next attempt fails. -/
def fails (f : Faults) : Bool := f.runs.head? == some 0

/-- The faults of the attempts after the next one. -/
def rest (f : Faults) : Faults :=
  match f.runs with
  | [] => ⟨[]⟩
  | 0 :: runs => ⟨runs⟩
  | (n + 1) :: runs => ⟨n :: runs⟩

/-- The faults with one more attempt, which succeeds, in front. -/
def delay (f : Faults) : Faults :=
  match f.runs with
  | [] => ⟨[]⟩
  | n :: runs => ⟨(n + 1) :: runs⟩

/-- The faults of attempts with the given outcomes, `true` for a success; all attempts after them
succeed. -/
def ofOutcomes : List Bool → Faults
  | [] => none
  | true :: outcomes => (ofOutcomes outcomes).delay
  | false :: outcomes => ⟨0 :: (ofOutcomes outcomes).runs⟩

@[simp] theorem fails_none : none.fails = false := rfl

@[simp] theorem rest_none : none.rest = none := rfl

@[simp] theorem fails_after_zero : (after 0).fails = true := rfl

@[simp] theorem rest_after_zero : (after 0).rest = none := rfl

@[simp] theorem fails_after_succ (n : Nat) : (after (n + 1)).fails = false := rfl

@[simp] theorem rest_after_succ (n : Nat) : (after (n + 1)).rest = after n := rfl

@[simp] theorem fails_delay (f : Faults) : f.delay.fails = false := by
  obtain ⟨runs⟩ := f
  cases runs <;> rfl

@[simp] theorem rest_delay (f : Faults) : f.delay.rest = f := by
  obtain ⟨runs⟩ := f
  cases runs <;> rfl

@[simp] theorem fails_ofOutcomes (ok : Bool) (outcomes : List Bool) :
    (ofOutcomes (ok :: outcomes)).fails = !ok := by
  cases ok
  · rfl
  · simp [ofOutcomes]

@[simp] theorem rest_ofOutcomes (ok : Bool) (outcomes : List Bool) :
    (ofOutcomes (ok :: outcomes)).rest = ofOutcomes outcomes := by
  cases ok
  · rfl
  · simp [ofOutcomes]

end Faults

end TwinBall
