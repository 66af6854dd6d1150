/-
**Steps and runs.**

A step leaves a state whether it answers or fails: `Step.after`. A run asks one thing after the
other, each of the state that the turn before left: `Run.turns`, with the state `Run.last` at its
end.

* `Step.after_bind_of_ok`, `Step.after_bind_of_error`: what two steps in sequence leave;
* `Step.within_bind`: steps in sequence stay within what each of them stays within;
* `Step.failsWithin_bind`: a step that may fail goes before the changes, one that always answers may
  come behind them;
* `Run.exists_of_turns_eq_append`: a cut through the turns of a run is a cut through what was asked;
* `Run.invariant_last`: what every turn of a run keeps holds at its end.
-/

import BlockData.Step

namespace BlockData

/-- A result that goes on with another one answers only if both do. -/
theorem exists_of_bind_eq_ok {α β : Type} {first : Except Fault α} {next : α → Except Fault β}
    {answer : β} (made : (first >>= next) = .ok answer) :
    ∃ middle, first = .ok middle ∧ next middle = .ok answer := by
  cases first with
  | error fault => cases made
  | ok middle => exact ⟨middle, rfl, made⟩

namespace Step

variable {σ τ α β : Type}

/-- The state that a step leaves, whether it answers or fails. -/
def after (step : Step σ α) (state : σ) : σ :=
  match step.run state with
  | .ok _ left => left
  | .error _ left => left

/-- What a step answers with, or the fault it fails with. -/
def outcome (step : Step σ α) (state : σ) : Except Fault α :=
  match step.run state with
  | .ok answer _ => .ok answer
  | .error fault _ => .error fault

/-- The fault that a step fails with, if it does. -/
def fault? (step : Step σ α) (state : σ) : Option Fault :=
  match step.run state with
  | .ok _ _ => none
  | .error fault _ => some fault

section Result

variable {step : Step σ α} {state left : σ} {answer : α} {fault : Fault}

theorem after_of_ok (ran : step.run state = .ok answer left) : after step state = left := by
  unfold after
  rw [ran]

theorem after_of_error (ran : step.run state = .error fault left) : after step state = left := by
  unfold after
  rw [ran]

theorem outcome_of_ok (ran : step.run state = .ok answer left) :
    outcome step state = .ok answer := by
  unfold outcome
  rw [ran]

theorem outcome_of_error (ran : step.run state = .error fault left) :
    outcome step state = .error fault := by
  unfold outcome
  rw [ran]

theorem run_of_outcome_ok (answered : outcome step state = .ok answer) :
    step.run state = .ok answer (after step state) := by
  cases ran : step.run state with
  | ok value left =>
    rw [outcome_of_ok ran, Except.ok.injEq] at answered
    rw [after_of_ok ran, answered]
  | error fault left =>
    rw [outcome_of_error ran] at answered
    cases answered

theorem run_of_outcome_error (failed : outcome step state = .error fault) :
    step.run state = .error fault (after step state) := by
  cases ran : step.run state with
  | ok value left =>
    rw [outcome_of_ok ran] at failed
    cases failed
  | error other left =>
    rw [outcome_of_error ran, Except.error.injEq] at failed
    rw [after_of_error ran, failed]

theorem run_of_fault? (failed : fault? step state = some fault) :
    step.run state = .error fault (after step state) := by
  unfold fault? at failed
  cases ran : step.run state with
  | ok value left =>
    rw [ran] at failed
    cases failed
  | error other left =>
    rw [ran, Option.some.injEq] at failed
    rw [after_of_error ran, failed]

end Result

/-! ### One step after the other -/

section Sequence

variable {step : Step σ α} {next : α → Step σ β} {state left : σ} {answer : α} {fault : Fault}

theorem run_bind_of_ok (ran : step.run state = .ok answer left) :
    (step >>= next).run state = (next answer).run left := by
  rw [EStateM.run_bind, ran]

theorem run_bind_of_error (ran : step.run state = .error fault left) :
    (step >>= next).run state = .error fault left := by
  rw [EStateM.run_bind, ran]

/-- Two steps in sequence answer only if both do. -/
theorem exists_of_run_bind {value : β} {last : σ} (ran : (step >>= next).run state = .ok value last) :
    ∃ answer middle, step.run state = .ok answer middle ∧
      (next answer).run middle = .ok value last := by
  cases first : step.run state with
  | ok answer middle => exact ⟨answer, middle, rfl, (run_bind_of_ok first).symm.trans ran⟩
  | error fault middle => cases (run_bind_of_error first).symm.trans ran

theorem after_bind_of_ok (ran : step.run state = .ok answer left) :
    after (step >>= next) state = after (next answer) left := by
  unfold after
  rw [run_bind_of_ok ran]

theorem after_bind_of_error (ran : step.run state = .error fault left) :
    after (step >>= next) state = left :=
  after_of_error (run_bind_of_error ran)

/-- An answer that is only rewritten leaves what the step leaves. -/
theorem after_bind_pure (step : Step σ α) (rewrite : α → β) (state : σ) :
    after (step >>= fun answer => pure (rewrite answer)) state = after step state := by
  cases ran : step.run state with
  | ok answer left =>
    rw [after_bind_of_ok ran, after_of_ok ran]
    rfl
  | error fault left => rw [after_bind_of_error ran, after_of_error ran]

end Sequence

@[simp]
theorem run_ofExcept_ok (answer : α) (state : σ) :
    (ofExcept (.ok answer) : Step σ α).run state = .ok answer state :=
  rfl

/-- A result that needs no state leaves the state as it is. -/
@[simp]
theorem after_ofExcept (result : Except Fault α) (state : σ) :
    after (ofExcept result : Step σ α) state = state := by
  cases result <;> rfl

section Part

variable {get : σ → τ} {put : τ → σ → σ} {step : Step τ α} {state : σ} {part : τ} {answer : α}
  {fault : Fault}

theorem run_onPart_of_ok (ran : step.run (get state) = .ok answer part) :
    (onPart get put step).run state = .ok answer (put part state) := by
  unfold EStateM.run onPart at *
  rw [ran]

theorem run_onPart_of_error (ran : step.run (get state) = .error fault part) :
    (onPart get put step).run state = .error fault (put part state) := by
  unfold EStateM.run onPart at *
  rw [ran]

/-- A step on a part of the state leaves the rest as it is. -/
theorem after_onPart (get : σ → τ) (put : τ → σ → σ) (step : Step τ α) (state : σ) :
    after (onPart get put step) state = put (after step (get state)) state := by
  cases ran : step.run (get state) with
  | ok answer part => rw [after_of_ok (run_onPart_of_ok ran), after_of_ok ran]
  | error fault part => rw [after_of_error (run_onPart_of_error ran), after_of_error ran]

theorem outcome_onPart (get : σ → τ) (put : τ → σ → σ) (step : Step τ α) (state : σ) :
    outcome (onPart get put step) state = outcome step (get state) := by
  cases ran : step.run (get state) with
  | ok answer part => rw [outcome_of_ok (run_onPart_of_ok ran), outcome_of_ok ran]
  | error fault part => rw [outcome_of_error (run_onPart_of_error ran), outcome_of_error ran]

end Part

/-! ### What a step leaves in every case -/

/-- Whether it answers or fails, a step leaves a state that is so related to the one it found. -/
def Within (relation : σ → σ → Prop) (step : Step σ α) : Prop :=
  ∀ state, relation state (after step state)

section Within

variable {relation : σ → σ → Prop}

theorem within_pure [Std.Refl relation] (answer : α) :
    Within relation (pure answer : Step σ α) :=
  fun state => Std.Refl.refl state

theorem within_get [Std.Refl relation] : Within relation (get : Step σ σ) :=
  fun state => Std.Refl.refl state

theorem within_ofExcept [Std.Refl relation] (result : Except Fault α) :
    Within relation (ofExcept result : Step σ α) := by
  intro state
  rw [after_ofExcept]
  exact Std.Refl.refl state

/-- Steps in sequence stay within what each of them stays within. -/
theorem within_bind [Trans relation relation relation] {step : Step σ α} {next : α → Step σ β}
    (first : Within relation step) (second : ∀ answer, Within relation (next answer)) :
    Within relation (step >>= next) := by
  intro state
  have begun := first state
  cases ran : step.run state with
  | ok answer left =>
    rw [after_of_ok ran] at begun
    rw [after_bind_of_ok ran]
    exact Trans.trans begun (second answer left)
  | error fault left =>
    rw [after_of_error ran] at begun
    rwa [after_bind_of_error ran]

/-- A step on a part of the state stays within what its part stays within. -/
theorem within_onPart {inner : τ → τ → Prop} {get : σ → τ} {put : τ → σ → σ} {step : Step τ α}
    (kept : Within inner step) (lifts : ∀ state part, inner (get state) part →
      relation state (put part state)) : Within relation (onPart get put step) := by
  intro state
  rw [after_onPart]
  exact lifts state _ (kept (get state))

end Within

/-! ### What a step leaves where it fails -/

/-- Where it fails, a step leaves a state that is so related to the one it found. -/
def FailsWithin (relation : σ → σ → Prop) (step : Step σ α) : Prop :=
  ∀ state fault left, step.run state = .error fault left → relation state left

/-- A step that always answers. -/
def NeverFails (step : Step σ α) : Prop :=
  ∀ state fault left, step.run state ≠ .error fault left

section FailsWithin

variable {relation : σ → σ → Prop} {step : Step σ α} {next : α → Step σ β}

theorem neverFails_pure (answer : α) : NeverFails (pure answer : Step σ α) :=
  fun _ _ _ failed => by cases failed

theorem neverFails_bind (first : NeverFails step) (second : ∀ answer, NeverFails (next answer)) :
    NeverFails (step >>= next) := by
  intro state fault left failed
  cases ran : step.run state with
  | ok answer middle =>
    exact second answer middle fault left ((run_bind_of_ok ran).symm.trans failed)
  | error other middle => exact first state other middle ran

theorem NeverFails.failsWithin (never : NeverFails step) : FailsWithin relation step :=
  fun state fault left failed => absurd failed (never state fault left)

theorem Within.failsWithin (within : Within relation step) : FailsWithin relation step := by
  intro state fault left failed
  rw [← after_of_error failed]
  exact within state

/-- What a step may do before one that fails is what it does in any case. -/
theorem failsWithin_bind [Trans relation relation relation] (first : Within relation step)
    (second : ∀ answer, FailsWithin relation (next answer)) :
    FailsWithin relation (step >>= next) := by
  intro state fault left failed
  have begun := first state
  cases ran : step.run state with
  | ok answer middle =>
    rw [after_of_ok ran] at begun
    rw [run_bind_of_ok ran] at failed
    exact Trans.trans begun (second answer middle fault left failed)
  | error other middle =>
    rw [after_of_error ran] at begun
    rw [run_bind_of_error ran] at failed
    cases failed
    exact begun

/-- A step that always answers can follow one that changes something only where it answers. -/
theorem failsWithin_bind_of_neverFails (first : FailsWithin relation step)
    (second : ∀ answer, NeverFails (next answer)) : FailsWithin relation (step >>= next) := by
  intro state fault left failed
  cases ran : step.run state with
  | ok answer middle =>
    exact absurd ((run_bind_of_ok ran).symm.trans failed) (second answer middle fault left)
  | error other middle =>
    rw [run_bind_of_error ran] at failed
    cases failed
    exact first state fault left ran

end FailsWithin

/-- What holds of the first state holds of the second. -/
def Carries (invariant : σ → Prop) (before after : σ) : Prop :=
  invariant before → invariant after

instance (invariant : σ → Prop) : Std.Refl (Carries invariant) where
  refl _ := id

instance (invariant : σ → Prop) :
    Trans (Carries invariant) (Carries invariant) (Carries invariant) where
  trans first second holds := second (first holds)

end Step

/-- One turn of a run: the state that it found, what was asked, how that ended, and the state that
it left. -/
structure Turn (σ κ α : Type) where
  before : σ
  asked : κ
  outcome : Except Fault α
  after : σ

namespace Run

variable {σ κ α : Type}

/-- The turn in which something is asked of a state. -/
def turn (perform : κ → Step σ α) (state : σ) (asked : κ) : Turn σ κ α :=
  ⟨state, asked, Step.outcome (perform asked) state, Step.after (perform asked) state⟩

/-- The turns of a run from a state. -/
def turns (perform : κ → Step σ α) (state : σ) : List κ → List (Turn σ κ α)
  | [] => []
  | asked :: rest =>
    turn perform state asked :: turns perform (Step.after (perform asked) state) rest

/-- The state at the end of a run. -/
def last (perform : κ → Step σ α) (state : σ) : List κ → σ
  | [] => state
  | asked :: rest => last perform (Step.after (perform asked) state) rest

variable {perform : κ → Step σ α}

theorem turns_append (state : σ) (first second : List κ) :
    turns perform state (first ++ second) =
      turns perform state first ++ turns perform (last perform state first) second := by
  induction first generalizing state with
  | nil => rfl
  | cons asked rest hypothesis =>
    rw [List.cons_append, turns, turns, List.cons_append, hypothesis]
    rfl

theorem last_append (state : σ) (first second : List κ) :
    last perform state (first ++ second) = last perform (last perform state first) second := by
  induction first generalizing state with
  | nil => rfl
  | cons asked rest hypothesis => exact hypothesis _

/-- A cut through the turns of a run is a cut through what was asked. -/
theorem exists_of_turns_eq_append {state : σ} {asked : List κ} {first second : List (Turn σ κ α)}
    (cut : turns perform state asked = first ++ second) :
    ∃ early late, asked = early ++ late ∧ turns perform state early = first ∧
      turns perform (last perform state early) late = second := by
  induction first generalizing state asked with
  | nil => exact ⟨[], asked, rfl, rfl, cut⟩
  | cons head rest hypothesis =>
    cases asked with
    | nil => cases cut
    | cons one others =>
      rw [turns, List.cons_append, List.cons.injEq] at cut
      obtain ⟨early, late, rfl, begun, ended⟩ := hypothesis cut.2
      refine ⟨one :: early, late, rfl, ?_, ended⟩
      rw [turns, begun, cut.1]

/-- The first of some turns is the turn of what was asked first. -/
theorem exists_of_turns_eq_cons {state : σ} {asked : List κ} {head : Turn σ κ α}
    {rest : List (Turn σ κ α)} (cut : turns perform state asked = head :: rest) :
    ∃ one others, asked = one :: others ∧ turn perform state one = head ∧
      turns perform head.after others = rest := by
  cases asked with
  | nil => cases cut
  | cons one others =>
    rw [turns, List.cons.injEq] at cut
    obtain ⟨begun, ended⟩ := cut
    subst begun
    exact ⟨one, others, rfl, rfl, ended⟩

/-- Every turn of a run asks one thing of one state. -/
theorem exists_of_mem_turns {state : σ} {asked : List κ} {taken : Turn σ κ α}
    (member : taken ∈ turns perform state asked) :
    ∃ found one, taken = turn perform found one := by
  induction asked generalizing state with
  | nil => cases member
  | cons one rest hypothesis =>
    rcases List.mem_cons.mp member with here | later
    · exact ⟨state, one, here⟩
    · exact hypothesis later

section Invariants

/-- **What every fair turn keeps holds at the end of a run.** -/
theorem invariant_last (invariant : σ → Prop) (fair : Turn σ κ α → Prop)
    (keeps : ∀ state asked, invariant state → fair (turn perform state asked) →
      invariant (Step.after (perform asked) state))
    {state : σ} (begins : invariant state) (asked : List κ)
    (allFair : ∀ taken ∈ turns perform state asked, fair taken) :
    invariant (last perform state asked) := by
  induction asked generalizing state with
  | nil => exact begins
  | cons one rest hypothesis =>
    have here := allFair _ List.mem_cons_self
    exact hypothesis (keeps state one begins here) fun taken member =>
      allFair taken (List.mem_cons_of_mem _ member)

end Invariants

end Run

end BlockData
