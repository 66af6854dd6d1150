/-
**What is drawn does not matter.**

A command on a variable in hand draws from the supply: a fraction for a random item, tokens for new
lists and copies. If its index is steady, all that it answers and leaves of the variable is the same
whatever there is to draw, but for tokens, `Value.untagged`. It may ask whether an item is the very
one that it looks for, which is settled once for all that draw from one supply.

* `Held.Blind.bind`: steps in sequence do not look at what is drawn, if none of them does;
* `ListCommand.blind_run`: no command with a steady index does.
-/

import BlockData.Proofs.Index

namespace BlockData

/-- The value without its token, if it is a list. -/
def Value.untagged : Value → Value
  | .list _ items => .list 0 items
  | value => value

/-- The snapshot without its token. -/
def Snapshot.untagged (snapshot : Snapshot) : Snapshot :=
  { snapshot with token := 0 }

/-- The variable without the tokens of its list and of its snapshot. -/
def Variable.untagged (var : Variable) : Variable :=
  { var with value := var.value.untagged, snapshot := var.snapshot.map Snapshot.untagged }

namespace Held

variable {α β γ δ : Type} {seen : α → γ} {kept : Variable → δ}

/-- What is seen of the answer of a step, and what counts of the variable that it leaves, is the
same whatever is drawn from the supply. -/
def Blind (seen : α → γ) (kept : Variable → δ) (step : Step Held α) : Prop :=
  ∀ var (one other : Supply), one.itself = other.itself →
    (Step.outcome step ⟨var, one⟩).map seen = (Step.outcome step ⟨var, other⟩).map seen ∧
      kept (Step.after step ⟨var, one⟩).var = kept (Step.after step ⟨var, other⟩).var ∧
      (Step.after step ⟨var, one⟩).supply.itself = (Step.after step ⟨var, other⟩).supply.itself

namespace Blind

/-- An answer that is the same altogether is the same as far as it is seen. -/
theorem of_id {step : Step Held α} (blind : Blind id kept step) : Blind seen kept step := by
  intro var one other settled
  obtain ⟨outcome, left⟩ := blind var one other settled
  rw [Except.map_id] at outcome
  exact ⟨congrArg (Except.map seen) outcome, left⟩

/-- **Steps in sequence do not look at what is drawn**, if the first one leaves the same
altogether. -/
theorem bind {step : Step Held α} {next : α → Step Held β} {seen : β → γ}
    (first : Blind id id step) (second : ∀ answer, Blind seen kept (next answer)) :
    Blind seen kept (step >>= next) := by
  intro var one other settled
  obtain ⟨outcome, left, settles⟩ := first var one other settled
  rw [Except.map_id] at outcome
  cases ran : step.run ⟨var, one⟩ with
  | error fault held =>
    rw [Step.outcome_of_error ran] at outcome
    have again := Step.run_of_outcome_error outcome.symm
    rw [Step.outcome_of_error (Step.run_bind_of_error ran), Step.after_bind_of_error ran,
      Step.outcome_of_error (Step.run_bind_of_error again), Step.after_bind_of_error again,
      ← Step.after_of_error ran]
    exact ⟨rfl, congrArg kept left, settles⟩
  | ok answer held =>
    rw [Step.outcome_of_ok ran] at outcome
    rw [Step.after_of_ok ran] at left settles
    have again := Step.run_of_outcome_ok outcome.symm
    rw [Step.outcome_bind_of_ok ran, Step.after_bind_of_ok ran, Step.outcome_bind_of_ok again,
      Step.after_bind_of_ok again]
    obtain ⟨between, drawn⟩ := held
    generalize Step.after step ⟨var, other⟩ = ends at left settles
    obtain ⟨same, rest⟩ := ends
    cases left
    exact second answer between drawn rest settles

theorem pure (answer : α) : Blind seen kept (Pure.pure answer) :=
  fun _ _ _ settled => ⟨rfl, rfl, settled⟩

theorem ofExcept (result : Except Fault α) : Blind seen kept (Step.ofExcept result) := by
  cases result with
  | ok answer => exact pure answer
  | error fault => exact fun _ _ _ settled => ⟨rfl, rfl, settled⟩

/-- A step that looks at what it has in hand may go on with the variable and what is settled. -/
theorem get {next : Held → Step Held α}
    (same : ∀ var (one other : Supply), one.itself = other.itself →
      next ⟨var, one⟩ = next ⟨var, other⟩)
    (second : ∀ held, Blind seen kept (next held)) : Blind seen kept (MonadState.get >>= next) := by
  intro var one other settled
  have goesOn := second ⟨var, one⟩ var one other settled
  rw [Step.outcome_bind_of_ok (EStateM.run_get _), Step.outcome_bind_of_ok (EStateM.run_get _),
    Step.after_bind_of_ok (EStateM.run_get _), Step.after_bind_of_ok (EStateM.run_get _),
    same var other one settled.symm]
  exact goesOn

theorem view (shown? : Value → Option (List Value)) : Blind id id (Held.view shown?) := by
  intro var one other settled
  unfold Step.outcome Step.after
  cases shown : shown? var.value <;> simp [Held.view, EStateM.run, shown, settled]

theorem alter (change : Value → Except Fault Value) : Blind id id (Held.alter change) := by
  intro var one other settled
  unfold Step.outcome Step.after
  cases made : change var.value <;> simp [Held.alter, EStateM.run, made, settled]

/-- A steady index names the same position whatever there is to draw. -/
theorem position {index : Value} (steady : index.IsSteady) (length : Nat) (acceptAll : Bool) :
    Blind id id (Held.position index length acceptAll) := by
  unfold Held.position Position.ofIndex
  cases worded : Position.word? index with
  | none =>
    intro var one other settled
    rw [Step.outcome_onPart, Step.outcome_onPart, Step.after_onPart, Step.after_onPart,
      Step.outcome_ofExcept, Step.outcome_ofExcept, Step.after_ofExcept, Step.after_ofExcept]
    exact ⟨rfl, rfl, settled⟩
  | some word =>
    cases word with
    | random => exact absurd worded (Value.isSteady_iff.mp steady)
    | all => exact fun _ _ _ settled => ⟨rfl, rfl, settled⟩
    | last => exact fun _ _ _ settled => ⟨rfl, rfl, settled⟩

/-- The copy for a monitor has a token that is drawn. -/
theorem monitored : Blind Value.untagged Variable.untagged Held.monitored := by
  refine get (fun _ _ _ _ => rfl) fun held => ?_
  split
  next snapshot _ _ => exact pure _
  next =>
    have marked : Blind id id
        (modify fun held : Held => { held with var := { held.var with isFresh := true } }) :=
      fun _ _ _ settled => ⟨rfl, rfl, settled⟩
    exact bind marked fun _ => bind (view _) fun items => fun _ _ _ settled => ⟨rfl, rfl, settled⟩

end Blind

end Held

/-! ### The commands -/

namespace ListCommand

open Held

/-- The index of a command, if it has one. -/
def index? : ListCommand → Option Value
  | deleteAt index | insertAt index _ | replaceAt index _ | itemAt index => some index
  | add _ | deleteAll | indexOf _ | length | contains _ | contents _ => none

/-- What is seen of the answer of a command: of the copy for a monitor all but its token. -/
def seen : ListCommand → Value → Value
  | contents true => Value.untagged
  | _ => id

theorem blind_runAdd (item : Value) : Blind id Variable.untagged (runAdd item) := by
  refine .bind (.view _) fun items => ?_
  split
  next => exact .bind (.alter _) fun _ => .pure _
  next => exact .pure _

theorem blind_runDeleteAt {index : Value} (steady : index.IsSteady) :
    Blind id Variable.untagged (runDeleteAt index) := by
  refine .bind (.view _) fun items => .bind (.position steady _ _) fun position => ?_
  cases position with
  | invalid => exact .pure _
  | all => exact fun _ _ _ settled => ⟨rfl, rfl, settled⟩
  | item place => exact .bind (.alter _) fun _ => .pure _

theorem blind_runInsertAt {index : Value} (steady : index.IsSteady) (item : Value) :
    Blind id Variable.untagged (runInsertAt index item) := by
  refine .bind (.view _) fun items => .bind (.position steady _ _) fun position => ?_
  cases position with
  | invalid => exact .pure _
  | all => exact .pure _
  | item place =>
    simp only
    split
    next => exact .bind (.alter _) fun _ => .pure _
    next => exact .pure _

theorem blind_runReplaceAt {index : Value} (steady : index.IsSteady) (item : Value) :
    Blind id Variable.untagged (runReplaceAt index item) := by
  refine .bind (.view _) fun items => .bind (.position steady _ _) fun position => ?_
  cases position with
  | invalid => exact .pure _
  | all => exact .pure _
  | item place => exact .bind (.alter _) fun _ => .pure _

theorem blind_runItemAt {index : Value} (steady : index.IsSteady) :
    Blind id Variable.untagged (runItemAt index) := by
  refine .bind (.view _) fun items => .bind (.position steady _ _) fun position => ?_
  cases position with
  | invalid => exact .pure _
  | all => exact .pure _
  | item place => exact .get (fun _ _ _ _ => rfl) fun held => .ofExcept _

/-- What a walk leads to does not look at the supply. -/
theorem blind_walk {α : Type} (result : List Value → Except Fault α) (answer : α → Value) :
    Blind id Variable.untagged (do
      let items ← walk
      let found ← Step.ofExcept (result items)
      return answer found) :=
  .bind (.view _) fun _ => .bind (.ofExcept _) fun _ => .pure _

theorem blind_runContains (item : Value) : Blind id Variable.untagged (runContains item) := by
  refine .get (fun _ _ _ settled => by rw [settled]) fun held => .bind (.ofExcept _) fun found => ?_
  cases found with
  | true => exact .pure _
  | false => exact blind_walk (Items.indexOf · item) fun position => .bool (position ≠ 0)

/-- **No command with a steady index looks at what is drawn.** -/
theorem blind_run {command : ListCommand}
    (steady : ∀ index, command.index? = some index → index.IsSteady) :
    Blind command.seen Variable.untagged command.run := by
  cases command with
  | add item => exact blind_runAdd item
  | deleteAt index => exact blind_runDeleteAt (steady index rfl)
  | deleteAll => exact fun _ _ _ settled => ⟨rfl, rfl, settled⟩
  | insertAt index item => exact blind_runInsertAt (steady index rfl) item
  | replaceAt index item => exact blind_runReplaceAt (steady index rfl) item
  | itemAt index => exact blind_runItemAt (steady index rfl)
  | indexOf item => exact blind_walk (Items.indexOf · item) fun position => .int position
  | length => exact .bind (.view _) fun _ => .pure _
  | contains item => exact blind_runContains item
  | contents forMonitor =>
    cases forMonitor with
    | true => exact .monitored
    | false => exact blind_walk Items.joined .text

end ListCommand

end BlockData
