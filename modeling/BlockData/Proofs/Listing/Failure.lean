/-
**List commands that fail.**

A command does what can fail first: it counts the items, finds the position, compares. Only then it
changes the list, and that cannot fail any more. So a command that fails leaves its list as it was
and has drawn random fractions at most. A command that reads a list for a monitor, which marks the
snapshot as up to date before it walks through the value, does not fail on a list at all.

* `ListCommand.spared_of_error`: what a command that fails leaves of a list in hand.
-/

import BlockData.Proofs.Commands
import BlockData.Proofs.Listing.Command

namespace BlockData

open Step

namespace Held

/-- The second variable in hand is the first one with fractions drawn. -/
def Spared (before after : Held) : Prop :=
  ∃ used, after = before.withFractions used

instance : Std.Refl Spared where
  refl held := ⟨held.supply.fractionsUsed, rfl⟩

instance : Trans Spared Spared Spared where
  trans := by
    rintro first second third ⟨used, rfl⟩ ⟨more, rfl⟩
    exact ⟨more, rfl⟩

theorem spared_view (shown? : Value → Option (List Value)) : Within Spared (view shown?) := by
  intro held
  have same : after (view shown?) held = held := by
    cases shown : shown? held.var.value <;> simp only [view, after, EStateM.run, shown]
  rw [same]
  exact Std.Refl.refl held

theorem spared_position (index : Value) (length : Nat) (acceptAll : Bool) :
    Within Spared (position index length acceptAll) :=
  fun held => held.after_position index length acceptAll

theorem spared_alter (change : Value → Except Fault Value) : FailsWithin Spared (alter change) := by
  intro held fault left failed
  cases made : change held.var.value with
  | ok value => simp only [alter, EStateM.run, made, reduceCtorEq] at failed
  | error other =>
    simp only [alter, EStateM.run, made, EStateM.Result.error.injEq] at failed
    rw [← failed.2]
    exact Std.Refl.refl held

theorem neverFails_clear : NeverFails clear :=
  fun _ _ _ failed => by cases failed

end Held

namespace ListCommand

open Held

variable {α : Type}

theorem spared_runAdd (item : Value) : FailsWithin Spared (runAdd item) := by
  refine failsWithin_bind (spared_view _) fun items => ?_
  split
  next => exact failsWithin_bind_of_neverFails (spared_alter _) fun _ => neverFails_pure _
  next => exact (neverFails_pure _).failsWithin

theorem spared_runDeleteAt (index : Value) : FailsWithin Spared (runDeleteAt index) := by
  refine failsWithin_bind (spared_view _) fun items => ?_
  refine failsWithin_bind (spared_position _ _ _) fun position => ?_
  cases position with
  | invalid => exact (neverFails_pure _).failsWithin
  | all => exact (neverFails_bind neverFails_clear fun _ => neverFails_pure _).failsWithin
  | item place => exact failsWithin_bind_of_neverFails (spared_alter _) fun _ => neverFails_pure _

theorem spared_runInsertAt (index item : Value) :
    FailsWithin Spared (runInsertAt index item) := by
  refine failsWithin_bind (spared_view _) fun items => ?_
  refine failsWithin_bind (spared_position _ _ _) fun position => ?_
  cases position with
  | invalid => exact (neverFails_pure _).failsWithin
  | all => exact (neverFails_pure _).failsWithin
  | item place =>
    simp only
    split
    next => exact failsWithin_bind_of_neverFails (spared_alter _) fun _ => neverFails_pure _
    next => exact (neverFails_pure _).failsWithin

theorem spared_runReplaceAt (index item : Value) :
    FailsWithin Spared (runReplaceAt index item) := by
  refine failsWithin_bind (spared_view _) fun items => ?_
  refine failsWithin_bind (spared_position _ _ _) fun position => ?_
  cases position with
  | invalid => exact (neverFails_pure _).failsWithin
  | all => exact (neverFails_pure _).failsWithin
  | item place => exact failsWithin_bind_of_neverFails (spared_alter _) fun _ => neverFails_pure _

theorem spared_runItemAt (index : Value) : Within Spared (runItemAt index) := by
  refine within_bind (spared_view _) fun items => ?_
  refine within_bind (spared_position _ _ _) fun position => ?_
  cases position with
  | invalid => exact within_pure _
  | all => exact within_pure _
  | item place => exact within_bind within_get fun held => within_ofExcept _

/-- What a walk leads to leaves the variable as it is. -/
theorem spared_walk (result : List Value → Except Fault α) (answer : α → Value) :
    Within Spared (do
      let items ← walk
      let found ← Step.ofExcept (result items)
      return answer found) :=
  within_bind (spared_view _) fun _ => within_bind (within_ofExcept _) fun _ => within_pure _

theorem spared_runContains (item : Value) : Within Spared (runContains item) := by
  refine within_bind within_get fun held => ?_
  refine within_bind (within_ofExcept _) fun found => ?_
  cases found with
  | true => exact within_pure _
  | false => exact spared_walk (Items.indexOf · item) fun position => .bool (position ≠ 0)

/-- A list is read for its monitor without fail. -/
theorem run_monitored_ne_error {held left : Held} {token : Nat} {items : List Value} {fault : Fault}
    (listed : held.var.value = .list token items) :
    Held.monitored.run held ≠ .error fault left := by
  intro failed
  by_cases shown : ∃ snapshot, held.Shows snapshot
  · obtain ⟨snapshot, shows⟩ := shown
    cases (Held.run_monitored_of_shows shows).symm.trans failed
  · have stale : ∀ snapshot, ¬ held.Shows snapshot := fun snapshot shows => shown ⟨snapshot, shows⟩
    cases (Held.run_monitored_of_not_shows listed stale).symm.trans failed

/-- **A command that fails leaves the list in hand as it was**, with fractions drawn at most. -/
theorem spared_of_error {command : ListCommand} {held left : Held} {token : Nat}
    {items : List Value} {fault : Fault} (listed : held.var.value = .list token items)
    (failed : command.run.run held = .error fault left) : held.Spared left := by
  cases command with
  | add item => exact spared_runAdd item held fault left failed
  | deleteAt index => exact spared_runDeleteAt index held fault left failed
  | deleteAll =>
    have never := neverFails_bind neverFails_clear fun _ => neverFails_pure Value.nothing
    exact absurd failed (never held fault left)
  | insertAt index item => exact spared_runInsertAt index item held fault left failed
  | replaceAt index item => exact spared_runReplaceAt index item held fault left failed
  | itemAt index => exact (spared_runItemAt index).failsWithin held fault left failed
  | indexOf item =>
    exact (spared_walk (Items.indexOf · item) fun position => .int position).failsWithin held fault
      left failed
  | length =>
    exact (within_bind (spared_view _) fun _ => within_pure _).failsWithin held fault left failed
  | contains item => exact (spared_runContains item).failsWithin held fault left failed
  | contents forMonitor =>
    cases forMonitor with
    | true => exact absurd failed (run_monitored_ne_error listed)
    | false => exact (spared_walk Items.joined .text).failsWithin held fault left failed

end ListCommand

end BlockData
