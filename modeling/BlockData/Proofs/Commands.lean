/-
**What commands leave alone.**

A command works on a variable in hand, whatever that holds. A list command changes its value and
what its monitor was given, and nothing else of it; a scalar command changes its value only. Neither
draws letters, so that no identifier is made up on the way.

* `Held.Tolerates.within_command`: what tolerates the parts of list commands tolerates all of them;
* `ListCommand.within_run`: what every list command leaves alone;
* `ScalarCommand.leaves_of_ok`, `ScalarCommand.eq_of_error`: what a scalar command leaves.
-/

import BlockData.Proofs.Run
import BlockData.Variable.Listing
import BlockData.Variable.Scalar

namespace BlockData

/-- The second supply is what using the first one for tokens and fractions leaves. -/
structure Supply.Drawn (before after : Supply) : Prop where
  letter : after.letter = before.letter
  lettersUsed : after.lettersUsed = before.lettersUsed
  tokensUsed : before.tokensUsed ≤ after.tokensUsed
  itself : after.itself = before.itself

instance : Std.Refl Supply.Drawn where
  refl _ := ⟨rfl, rfl, Nat.le_refl _, rfl⟩

instance : Trans Supply.Drawn Supply.Drawn Supply.Drawn where
  trans first second :=
    ⟨second.letter.trans first.letter, second.lettersUsed.trans first.lettersUsed,
      Nat.le_trans first.tokensUsed second.tokensUsed, second.itself.trans first.itself⟩

/-- The second variable in hand is the first one with another value and other monitor fields. -/
structure Held.SameVariable (before after : Held) : Prop where
  id : after.var.id = before.var.id
  name : after.var.name = before.var.name
  kind : after.var.kind = before.var.kind
  isCloud : after.var.isCloud = before.var.isCloud
  supply : before.supply.Drawn after.supply

instance : Std.Refl Held.SameVariable where
  refl held := ⟨rfl, rfl, rfl, rfl, Std.Refl.refl held.supply⟩

instance : Trans Held.SameVariable Held.SameVariable Held.SameVariable where
  trans first second :=
    ⟨second.id.trans first.id, second.name.trans first.name, second.kind.trans first.kind,
      second.isCloud.trans first.isCloud, Trans.trans first.supply second.supply⟩

/-! ### Positions -/

theorem Supply.within_randomPosition (length : Nat) :
    Step.Within Drawn (randomPosition length) := by
  refine Step.within_bind (fun supply => ⟨rfl, rfl, Nat.le_refl _, rfl⟩) fun fraction => ?_
  exact Step.within_bind (Step.within_ofExcept _) fun size => Step.within_pure _

theorem Position.within_ofWord (length : Nat) (acceptAll : Bool) (word : IndexWord) :
    Step.Within Supply.Drawn (ofWord length acceptAll word) := by
  cases word with
  | all => exact Step.within_pure _
  | last => exact Step.within_pure _
  | random =>
    by_cases filled : 0 < length
    · rw [ofWord, if_pos filled]
      exact Step.within_bind (Supply.within_randomPosition length) fun _ => Step.within_pure _
    · rw [ofWord, if_neg filled]
      exact Step.within_pure _

theorem Position.within_ofIndex (index : Value) (length : Nat) (acceptAll : Bool) :
    Step.Within Supply.Drawn (ofIndex index length acceptAll) := by
  unfold ofIndex
  cases word? index with
  | some word => exact within_ofWord length acceptAll word
  | none => exact Step.within_ofExcept _

/-- The ways in which list commands change a value in place, with an item that they are given. -/
inductive Value.InPlace (given : List Value) : (Value → Except Fault Value) → Prop
  | add {item : Value} (brought : item ∈ given) : InPlace given (addItem item)
  | insert (position : Nat) {item : Value} (brought : item ∈ given) :
    InPlace given (insertItem position item)
  | delete (position : Nat) : InPlace given (deleteItem position)
  | replace (position : Nat) {item : Value} (brought : item ∈ given) :
    InPlace given (replaceItem position item)

/-- What a list command is given. -/
def ListCommand.given : ListCommand → List Value
  | deleteAll | length | contents _ => []
  | deleteAt value | itemAt value | add value | indexOf value | contains value => [value]
  | insertAt index item | replaceAt index item => [index, item]

/-- All that list commands are made of that are given some values stays within the relation. -/
structure Held.Tolerates (given : List Value) (relation : Held → Held → Prop) : Prop where
  /-- Fractions and tokens may be drawn. -/
  drawn : ∀ (held : Held) (supply : Supply), held.supply.Drawn supply →
    relation held { held with supply }
  /-- The value may be changed in place. -/
  altered : ∀ (held : Held) {change : Value → Except Fault Value} {value : Value},
    Value.InPlace given change → change held.var.value = .ok value →
    relation held { held with var := { held.var with value, isFresh := false } }
  /-- There may be a new list without items. -/
  cleared : ∀ held : Held, relation held
    { var := { held.var with value := .list held.supply.token.1 [], isFresh := false }
      supply := held.supply.token.2 }
  /-- The snapshot may be marked as up to date. -/
  marked : ∀ held : Held, relation held { held with var := { held.var with isFresh := true } }
  /-- There may be a new snapshot with what a walk meets. -/
  copied : ∀ (held : Held) {items : List Value}, held.var.value.walk? = some items →
    relation held
      { var := { held.var with snapshot := some ⟨held.supply.token.1, items⟩ }
        supply := held.supply.token.2 }

/-! ### Parts of list commands -/

namespace Held

variable {given : List Value} {relation : Held → Held → Prop}

theorem within_view [Std.Refl relation] (shown? : Value → Option (List Value)) :
    Step.Within relation (view shown?) := by
  intro held
  cases shown : shown? held.var.value with
  | some items =>
    have ran : (view shown?).run held = .ok items held := by
      simp only [view, EStateM.run, shown]
    rw [Step.after_of_ok ran]
    exact Std.Refl.refl held
  | none =>
    have ran : (view shown?).run held = .error .wrongKind held := by
      simp only [view, EStateM.run, shown]
    rw [Step.after_of_error ran]
    exact Std.Refl.refl held

namespace Tolerates

theorem within_position (tolerates : Tolerates given relation) (index : Value) (length : Nat)
    (acceptAll : Bool) : Step.Within relation (position index length acceptAll) :=
  Step.within_onPart (Position.within_ofIndex index length acceptAll) tolerates.drawn

theorem within_clear (tolerates : Tolerates given relation) : Step.Within relation clear :=
  tolerates.cleared

theorem within_alter [Std.Refl relation] (tolerates : Tolerates given relation)
    {change : Value → Except Fault Value} (inPlace : Value.InPlace given change) :
    Step.Within relation (alter change) := by
  intro held
  cases made : change held.var.value with
  | ok value =>
    have ran : (alter change).run held =
        .ok () { held with var := { held.var with value, isFresh := false } } := by
      simp only [alter, EStateM.run, made]
    rw [Step.after_of_ok ran]
    exact tolerates.altered held inPlace made
  | error fault =>
    have ran : (alter change).run held = .error fault held := by
      simp only [alter, EStateM.run, made]
    rw [Step.after_of_error ran]
    exact Std.Refl.refl held

theorem within_monitored [Std.Refl relation] [Trans relation relation relation]
    (tolerates : Tolerates given relation) : Step.Within relation monitored := by
  refine Step.within_bind Step.within_get fun held => ?_
  split
  next snapshot _ _ => exact Step.within_pure _
  next =>
    refine Step.within_bind tolerates.marked fun _ state => ?_
    cases walked : state.var.value.walk? with
    | none =>
      have ran : walk.run state = .error .wrongKind state := by
        simp only [walk, view, EStateM.run, walked]
      rw [Step.after_bind_of_error ran]
      exact Std.Refl.refl state
    | some items =>
      have ran : walk.run state = .ok items state := by
        simp only [walk, view, EStateM.run, walked]
      rw [Step.after_bind_of_ok ran]
      exact tolerates.copied state walked

end Tolerates

end Held

/-! ### List commands -/

namespace Held.Tolerates

open Step ListCommand

variable {α : Type} {given : List Value} {relation : Held → Held → Prop} [Std.Refl relation]
  [Trans relation relation relation]

theorem within_runAdd (tolerates : Tolerates given relation) {item : Value}
    (brought : item ∈ given) : Within relation (runAdd item) := by
  refine within_bind (within_view _) fun items => ?_
  split
  next => exact within_bind (tolerates.within_alter (.add brought)) fun _ => within_pure _
  next => exact within_pure _

theorem within_runDeleteAt (tolerates : Tolerates given relation) (index : Value) :
    Within relation (runDeleteAt index) := by
  refine within_bind (within_view _) fun items => ?_
  refine within_bind (tolerates.within_position _ _ _) fun position => ?_
  cases position with
  | invalid => exact within_pure _
  | all => exact within_bind tolerates.within_clear fun _ => within_pure _
  | item place => exact within_bind (tolerates.within_alter (.delete place)) fun _ => within_pure _

theorem within_runInsertAt (tolerates : Tolerates given relation) (index : Value) {item : Value}
    (brought : item ∈ given) : Within relation (runInsertAt index item) := by
  refine within_bind (within_view _) fun items => ?_
  refine within_bind (tolerates.within_position _ _ _) fun position => ?_
  cases position with
  | invalid => exact within_pure _
  | all => exact within_pure _
  | item place =>
    simp only
    split
    next =>
      exact within_bind (tolerates.within_alter (.insert place brought)) fun _ => within_pure _
    next => exact within_pure _

theorem within_runReplaceAt (tolerates : Tolerates given relation) (index : Value) {item : Value}
    (brought : item ∈ given) : Within relation (runReplaceAt index item) := by
  refine within_bind (within_view _) fun items => ?_
  refine within_bind (tolerates.within_position _ _ _) fun position => ?_
  cases position with
  | invalid => exact within_pure _
  | all => exact within_pure _
  | item place =>
    exact within_bind (tolerates.within_alter (.replace place brought)) fun _ => within_pure _

theorem within_runItemAt (tolerates : Tolerates given relation) (index : Value) :
    Within relation (runItemAt index) := by
  refine within_bind (within_view _) fun items => ?_
  refine within_bind (tolerates.within_position _ _ _) fun position => ?_
  cases position with
  | invalid => exact within_pure _
  | all => exact within_pure _
  | item place => exact within_bind within_get fun held => within_ofExcept _

/-- What a walk leads to leaves the variable as it is. -/
theorem within_walk (result : List Value → Except Fault α) (answer : α → Value) :
    Within relation (do
      let items ← walk
      let found ← Step.ofExcept (result items)
      return answer found) :=
  within_bind (within_view _) fun _ => within_bind (within_ofExcept _) fun _ => within_pure _

theorem within_runContains (item : Value) : Within relation (runContains item) := by
  refine within_bind within_get fun held => ?_
  refine within_bind (within_ofExcept _) fun found => ?_
  cases found with
  | true => exact within_pure _
  | false => exact within_walk (Items.indexOf · item) fun position => .bool (position ≠ 0)

/-- **A list command stays within whatever tolerates its parts.** -/
theorem within_command {command : ListCommand} (tolerates : Tolerates command.given relation) :
    Within relation command.run := by
  cases command with
  | add item => exact tolerates.within_runAdd List.mem_cons_self
  | deleteAt index => exact tolerates.within_runDeleteAt index
  | deleteAll => exact within_bind tolerates.within_clear fun _ => within_pure _
  | insertAt index item =>
    exact tolerates.within_runInsertAt index (List.mem_cons_of_mem _ List.mem_cons_self)
  | replaceAt index item =>
    exact tolerates.within_runReplaceAt index (List.mem_cons_of_mem _ List.mem_cons_self)
  | itemAt index => exact tolerates.within_runItemAt index
  | indexOf item => exact within_walk (Items.indexOf · item) fun position => .int position
  | length => exact within_bind (within_view _) fun _ => within_pure _
  | contains item => exact within_runContains item
  | contents forMonitor =>
    cases forMonitor with
    | true => exact tolerates.within_monitored
    | false => exact within_walk Items.joined .text

end Held.Tolerates

theorem Supply.drawn_token (supply : Supply) : supply.Drawn supply.token.2 :=
  ⟨rfl, rfl, Nat.le_succ _, rfl⟩

theorem Held.tolerates_sameVariable (given : List Value) : Tolerates given SameVariable where
  drawn _ _ drawn := ⟨rfl, rfl, rfl, rfl, drawn⟩
  altered held _ _ _ _ := ⟨rfl, rfl, rfl, rfl, Std.Refl.refl held.supply⟩
  cleared held := ⟨rfl, rfl, rfl, rfl, held.supply.drawn_token⟩
  marked held := ⟨rfl, rfl, rfl, rfl, Std.Refl.refl held.supply⟩
  copied held _ _ := ⟨rfl, rfl, rfl, rfl, held.supply.drawn_token⟩

/-- **A list command changes only the value and the monitor fields of its variable.** -/
theorem ListCommand.within_run (command : ListCommand) :
    Step.Within Held.SameVariable command.run :=
  (Held.tolerates_sameVariable command.given).within_command

/-! ### Scalar commands -/

namespace ScalarCommand

/-- What a scalar command can answer with and leave of its variable. -/
inductive Leaves (command : ScalarCommand) (var : Variable) : Option Announcement → Variable → Prop
  /-- The value stays. -/
  | same : Leaves command var none var
  /-- The value is another one, given by the command or a number; a cloud variable announces it. -/
  | changed (value : Value) (given : command = .set value ∨ ∃ number, value = .ofNumber number) :
    Leaves command var { var with value }.announcement? { var with value }

variable {command : ScalarCommand} {var left : Variable} {announcement : Option Announcement}
  {fault : Fault}

theorem leaves_set (var : Variable) (value : Value) :
    Leaves (.set value) var (var.set value).2 (var.set value).1 := by
  unfold Variable.set
  split
  next => exact .same
  next => exact .changed value (.inl rfl)

/-- A change that answers has added zero, which changes nothing, or another number. -/
theorem cases_of_change {delta : Value} {result : Variable × Option Announcement}
    (made : var.change delta = .ok result) :
    ∃ step, delta.toNumber = .ok step ∧
      (step.isZero = true ∧ result = (var, none) ∨
        step.isZero = false ∧ ∃ start total, var.value.toNumber = .ok start ∧
          start.add step = .ok total ∧ result = ({ var with value := .ofNumber total },
            { var with value := .ofNumber total }.announcement?)) := by
  obtain ⟨step, read, made⟩ := exists_of_bind_eq_ok made
  refine ⟨step, read, ?_⟩
  cases zero : step.isZero with
  | true =>
    rw [if_pos zero] at made
    exact .inl ⟨rfl, (Except.ok.inj made).symm⟩
  | false =>
    rw [if_neg (by simp [zero])] at made
    obtain ⟨start, readToo, made⟩ := exists_of_bind_eq_ok made
    obtain ⟨total, added, made⟩ := exists_of_bind_eq_ok made
    exact .inr ⟨rfl, start, total, readToo, added, (Except.ok.inj made).symm⟩

/-- Adding zero changes nothing. -/
theorem change_of_isZero {delta : Value} {step : Number} (read : delta.toNumber = .ok step)
    (zero : step.isZero = true) : var.change delta = .ok (var, none) := by
  unfold Variable.change
  rw [read]
  exact if_pos zero

/-- Adding another number gives the sum. -/
theorem change_of_add {delta : Value} {step start total : Number}
    (read : delta.toNumber = .ok step) (nonzero : step.isZero = false)
    (readToo : var.value.toNumber = .ok start) (added : start.add step = .ok total) :
    var.change delta = .ok ({ var with value := .ofNumber total },
      { var with value := .ofNumber total }.announcement?) := by
  unfold Variable.change
  rw [read]
  simp only [bind, Except.bind, nonzero, Bool.false_eq_true, if_false]
  rw [readToo]
  simp only [added]
  rfl

theorem leaves_change {delta : Value} {result : Variable × Option Announcement}
    (made : var.change delta = .ok result) : Leaves (.change delta) var result.2 result.1 := by
  obtain ⟨step, -, ⟨-, rfl⟩ | ⟨-, start, total, -, -, rfl⟩⟩ := cases_of_change made
  · exact .same
  · exact .changed _ (.inr ⟨total, rfl⟩)

/-- What a scalar command makes of its variable, with what is announced. -/
def result (command : ScalarCommand) (var : Variable) :
    Except Fault (Variable × Option Announcement) :=
  match command with
  | .set value => .ok (var.set value)
  | .change delta => var.change delta

theorem leaves_of_result {result : Variable × Option Announcement}
    (made : command.result var = .ok result) : command.Leaves var result.2 result.1 := by
  cases command with
  | set value =>
    cases made
    exact leaves_set var value
  | change delta => exact leaves_change made

theorem run_change (var : Variable) (delta : Value) :
    (run (.change delta)).run var =
      (do
        let (changed, announcement) ← Step.ofExcept (var.change delta)
        EStateM.set changed
        return announcement : Step Variable (Option Announcement)).run var :=
  rfl

theorem run_of_result {result : Variable × Option Announcement}
    (made : command.result var = .ok result) : command.run.run var = .ok result.2 result.1 := by
  cases command with
  | set value =>
    cases made
    rfl
  | change delta =>
    have made : var.change delta = .ok result := made
    rw [run_change, made]
    rfl

theorem run_of_result_error (failed : command.result var = .error fault) :
    command.run.run var = .error fault var := by
  cases command with
  | set value => cases failed
  | change delta =>
    have failed : var.change delta = .error fault := failed
    rw [run_change, failed]
    rfl

/-- **A scalar command that succeeds changes only the value of its variable.** -/
theorem leaves_of_ok (ran : command.run.run var = .ok announcement left) :
    command.Leaves var announcement left := by
  cases made : command.result var with
  | ok result =>
    cases ran.symm.trans (run_of_result made)
    exact leaves_of_result made
  | error fault => cases ran.symm.trans (run_of_result_error made)

/-- A scalar command that fails changes nothing. -/
theorem eq_of_error (ran : command.run.run var = .error fault left) : left = var := by
  cases made : command.result var with
  | ok result => cases ran.symm.trans (run_of_result made)
  | error other =>
    cases ran.symm.trans (run_of_result_error made)
    rfl

end ScalarCommand

end BlockData
