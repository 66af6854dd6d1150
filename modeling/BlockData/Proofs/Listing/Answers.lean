/-
**List commands that answer.**

A command on a list fails at what it weighs only: the index that it finds the position of, the item
that it looks for, the items that it compares or writes. An index that names no item is no failure.
The command then leaves the list as it is and answers with nothing, or with the empty text if it was
asked for an item.

* `ListCommand.faultsIn_run`: a command fails with the faults of what it weighs only;
* `Position.run_ofIndex_of_misses`: an index that names no item is found to be invalid;
* `ListCommand.run_of_misses`: what a command with such an index does.
-/

import BlockData.Proofs.Comparison
import BlockData.Proofs.Faults
import BlockData.Proofs.Listing.Failure

namespace BlockData

/-- The index names no item of a list of the given length. -/
inductive Value.Misses (index : Value) (length : Nat) (acceptAll : Bool) : Prop
  /-- It is the word for all items, which is not accepted. -/
  | refused (word : Position.word? index = some .all) (refuses : acceptAll = false)
  /-- It is the word for the last item or for a random one, and there are no items. -/
  | empty (word : Position.word? index = some .last ∨ Position.word? index = some .random)
    (none : length = 0)
  /-- It is not read as a number. -/
  | unread (plain : Position.word? index = none) (read : index.reading = .ok .nan)
  /-- It is infinite. -/
  | infinite (plain : Position.word? index = none) (negative : Bool)
    (read : index.reading = .ok (.double (.infinite negative)))
  /-- Rounded down, it is less than one or greater than the length. -/
  | outside (plain : Position.word? index = none) {number : Number} {position : Int}
    (read : index.reading = .ok number) (floor : number.floor? = .ok (some position))
    (outside : position < 1 ∨ length < position)

namespace ListCommand

/-- What a command reads as a number or writes as a text. -/
def weighed (items : List Value) : ListCommand → List Value
  | add _ | deleteAll | length | contents true => []
  | deleteAt index | insertAt index _ | replaceAt index _ | itemAt index => [index]
  | indexOf item | contains item => item :: items
  | contents false => items

/-- The command has an index, and this names no item of a list with so many. -/
def Misses (count : Nat) : ListCommand → Prop
  | deleteAt index => index.Misses count true
  | insertAt index _ => index.Misses (count + 1) false
  | replaceAt index _ | itemAt index => index.Misses count false
  | add _ | deleteAll | indexOf _ | length | contains _ | contents _ => False

/-- The answer of a command whose index names no item. -/
def blank : ListCommand → Value
  | itemAt _ => .text ""
  | _ => .nothing

end ListCommand

/-! ### Faults -/

namespace Held

open Step

variable {allowed : Fault → Prop} {held : Held} {token : Nat} {items changed : List Value}

theorem faultsIn_position_bind {α : Type} {index : Value} {length : Nat}
    {next : Position → Step Held α} (readable : index.Readable allowed)
    (counts : FaultsIn allowed (Number.int length).toDouble) (acceptAll : Bool)
    (goesOn : ∀ position used,
      FaultsIn allowed (outcome (next position) (held.withFractions used))) :
    FaultsIn allowed (outcome (position index length acceptAll >>= next) held) := by
  refine Step.faultsIn_bind ?_ fun place _ => ?_
  · unfold position
    rw [outcome_onPart]
    exact Position.faultsIn_ofIndex readable counts acceptAll _
  · obtain ⟨used, left⟩ := held.after_position index length acceptAll
    rw [left]
    exact goesOn place used

theorem faultsIn_alter_bind {change : Value → Except Fault Value} {answer : Value}
    (makes : change held.var.value = .ok (.list token changed)) :
    FaultsIn allowed (outcome (do alter change; return answer) held) := by
  rw [outcome_bind_of_ok (run_alter makes)]
  exact faultsIn_ok _

/-- What a walk leads to fails as what is made of the items. -/
theorem faultsIn_walk {α : Type} (listed : held.var.value = .list token items)
    (result : List Value → Except Fault α) (answer : α → Value)
    (made : FaultsIn allowed (result items)) :
    FaultsIn allowed (outcome (do
      let items ← walk
      let found ← Step.ofExcept (result items)
      return answer found) held) := by
  rw [outcome_bind_of_ok (run_walk listed)]
  refine Step.faultsIn_bind ?_ fun _ _ => faultsIn_ok _
  rwa [outcome_ofExcept]

end Held

namespace ListCommand

open Step Held

variable {allowed : Fault → Prop} {held : Held} {token : Nat} {items : List Value}

theorem faultsIn_runAdd (listed : held.var.value = .list token items) (item : Value) :
    FaultsIn allowed (outcome (runAdd item) held) := by
  unfold runAdd
  rw [outcome_bind_of_ok (run_items listed)]
  split
  next =>
    have makes : Value.addItem item held.var.value = .ok (.list token (Items.add items item)) := by
      rw [listed, Value.addItem]
    exact faultsIn_alter_bind makes
  next => exact faultsIn_ok _

theorem faultsIn_runDeleteAt (listed : held.var.value = .list token items) {index : Value}
    (readable : index.Readable allowed)
    (counts : FaultsIn allowed (Number.int items.length).toDouble) :
    FaultsIn allowed (outcome (runDeleteAt index) held) := by
  unfold runDeleteAt
  rw [outcome_bind_of_ok (run_items listed)]
  refine faultsIn_position_bind readable counts true fun position used => ?_
  cases position with
  | invalid => exact faultsIn_ok _
  | all => exact faultsIn_ok _
  | item place => exact faultsIn_alter_bind (deleteItem_eq listed place used)

theorem faultsIn_runInsertAt (listed : held.var.value = .list token items) {index : Value}
    (readable : index.Readable allowed)
    (counts : FaultsIn allowed (Number.int (items.length + 1 : Nat)).toDouble) (item : Value) :
    FaultsIn allowed (outcome (runInsertAt index item) held) := by
  unfold runInsertAt
  rw [outcome_bind_of_ok (run_items listed)]
  refine faultsIn_position_bind readable counts false fun position used => ?_
  cases position with
  | invalid => exact faultsIn_ok _
  | all => exact faultsIn_ok _
  | item place =>
    simp only
    split
    next => exact faultsIn_alter_bind (insertItem_eq listed place used item)
    next => exact faultsIn_ok _

theorem faultsIn_runReplaceAt (listed : held.var.value = .list token items) {index : Value}
    (readable : index.Readable allowed)
    (counts : FaultsIn allowed (Number.int items.length).toDouble) (item : Value) :
    FaultsIn allowed (outcome (runReplaceAt index item) held) := by
  unfold runReplaceAt
  rw [outcome_bind_of_ok (run_items listed)]
  refine faultsIn_position_bind readable counts false fun position used => ?_
  cases position with
  | invalid => exact faultsIn_ok _
  | all => exact faultsIn_ok _
  | item place => exact faultsIn_alter_bind (replaceItem_eq listed place used item)

theorem faultsIn_runItemAt (listed : held.var.value = .list token items) {index : Value}
    (readable : index.Readable allowed)
    (counts : FaultsIn allowed (Number.int items.length).toDouble) :
    FaultsIn allowed (outcome (runItemAt index) held) := by
  unfold runItemAt
  rw [outcome_bind_of_ok (run_items listed)]
  refine faultsIn_position_bind readable counts false fun position used => ?_
  cases position with
  | invalid => exact faultsIn_ok _
  | all => exact faultsIn_ok _
  | item place =>
    have found : Value.itemAt place (held.withFractions used).var.value =
        .ok ((Items.at? items place).getD (.text "")) := by
      show Value.itemAt place held.var.value = _
      rw [listed]
      rfl
    simp only
    rw [outcome_bind_of_ok (EStateM.run_get _), outcome_ofExcept, found]
    exact faultsIn_ok _

theorem faultsIn_runContains (listed : held.var.value = .list token items) {item : Value}
    (asked : item.Tame allowed) (tame : ∀ other ∈ items, other.Tame allowed) :
    FaultsIn allowed (outcome (runContains item) held) := by
  have holds : held.var.value.holds held.supply.itself item =
      .ok (Items.has held.supply.itself items item) := by
    rw [listed, Value.holds]
  unfold runContains
  rw [outcome_bind_of_ok (EStateM.run_get _), holds, outcome_bind_of_ok (run_ofExcept_ok _ _)]
  split
  next => exact faultsIn_ok _
  next =>
    exact faultsIn_walk listed (Items.indexOf · item) (fun position => .bool (position ≠ 0))
      (Items.faultsIn_indexFrom tame asked 0)

/-- **A command on a list fails with the faults of what it weighs only.** -/
theorem faultsIn_run (listed : held.var.value = .list token items) {command : ListCommand}
    (tame : ∀ value ∈ command.weighed items, value.Tame allowed)
    (counts : ∀ count : Nat, count ≤ items.length + 1 →
      FaultsIn allowed (Number.int count).toDouble) :
    FaultsIn allowed (outcome command.run held) := by
  have counted := counts items.length (Nat.le_succ _)
  cases command with
  | add item => exact faultsIn_runAdd listed item
  | deleteAt index =>
    exact faultsIn_runDeleteAt listed (tame index List.mem_cons_self).toReadable counted
  | deleteAll => exact faultsIn_ok _
  | insertAt index item =>
    exact faultsIn_runInsertAt listed (tame index List.mem_cons_self).toReadable
      (counts _ (Nat.le_refl _)) item
  | replaceAt index item =>
    exact faultsIn_runReplaceAt listed (tame index List.mem_cons_self).toReadable counted item
  | itemAt index =>
    exact faultsIn_runItemAt listed (tame index List.mem_cons_self).toReadable counted
  | indexOf item =>
    have found := Items.faultsIn_indexFrom
      (fun other member => tame other (List.mem_cons_of_mem _ member))
      (tame item List.mem_cons_self) 0
    exact faultsIn_walk listed (Items.indexOf · item) (fun position => .int position) found
  | length =>
    show FaultsIn allowed (outcome (do let items ← Held.items; return Value.int items.length) held)
    rw [outcome_bind_of_ok (run_items listed)]
    exact faultsIn_ok _
  | contains item =>
    exact faultsIn_runContains listed (tame item List.mem_cons_self) fun other member =>
      tame other (List.mem_cons_of_mem _ member)
  | contents forMonitor =>
    cases forMonitor with
    | true =>
      intro fault failed
      exact absurd (run_of_outcome_error failed) (run_monitored_ne_error listed)
    | false => exact faultsIn_walk listed Items.joined .text (Items.faultsIn_joined tame)

theorem mem_given_or_of_mem_weighed {command : ListCommand} {value : Value}
    (weighs : value ∈ command.weighed items) : value ∈ command.given ∨ value ∈ items := by
  cases command with
  | contents forMonitor =>
    cases forMonitor with
    | true => cases weighs
    | false => exact .inr weighs
  | add item | deleteAll | length => cases weighs
  | deleteAt index | itemAt index => exact .inl weighs
  | insertAt index item | replaceAt index item =>
    cases List.mem_singleton.mp weighs
    exact .inl List.mem_cons_self
  | indexOf item | contains item =>
    rcases List.mem_cons.mp weighs with here | later
    · exact .inl (List.mem_singleton.mpr here)
    · exact .inr later

end ListCommand

/-! ### Indices that name no item -/

namespace Position

variable {index : Value} {length : Nat} {acceptAll : Bool}

theorem ofInt_of_outside {position : Int} (outside : position < 1 ∨ length < position) :
    ofInt position length = .invalid := by
  unfold ofInt
  exact if_neg (by omega)

theorem ofReading_of_floor {number : Number} {position : Int}
    (read : index.toNumber = .ok number) (floor : number.floor? = .ok (some position)) :
    ofReading index length = .ok (ofInt position length) := by
  unfold ofReading
  rw [read]
  show (number.floor? >>= _) = _
  rw [floor]
  rfl

/-- **An index that names no item is found to be invalid**, and nothing is drawn. -/
theorem run_ofIndex_of_misses (misses : index.Misses length acceptAll) (supply : Supply) :
    (ofIndex index length acceptAll).run supply = .ok .invalid supply := by
  unfold ofIndex
  cases misses with
  | refused word refuses =>
    rw [word, refuses]
    rfl
  | empty word none =>
    rw [none]
    rcases word with word | word <;> rw [word] <;> rfl
  | unread plain read =>
    have floor : Number.zero.floor? = .ok (some 0) := Number.floor?_int (by decide +kernel)
    rw [plain, ofReading_of_floor (Value.toNumber_of_unread read) floor,
      ofInt_of_outside (.inl (by decide))]
    rfl
  | infinite plain negative read =>
    have invalid : ofReading index length = .ok .invalid := by
      unfold ofReading
      rw [Value.toNumber_of_ne_nan read (by simp [Number.nan])]
      rfl
    rw [plain, invalid]
    rfl
  | @outside plain number position read floor outside =>
    have isNumber : number ≠ .nan := by
      rintro rfl
      cases floor
    rw [plain, ofReading_of_floor (Value.toNumber_of_ne_nan read isNumber) floor,
      ofInt_of_outside outside]
    rfl

end Position

namespace ListCommand

open Step Held

variable {held : Held} {token : Nat} {items : List Value}

theorem run_position_bind_of_misses {α : Type} {index : Value} {length : Nat} {acceptAll : Bool}
    {next : Position → Step Held α} (misses : index.Misses length acceptAll) :
    (position index length acceptAll >>= next).run held = (next .invalid).run held :=
  run_bind_of_ok (run_onPart_of_ok (Position.run_ofIndex_of_misses misses held.supply))

/-- **A command whose index names no item leaves the list and the supply as they are**, and answers
with nothing, or with the empty text if it was asked for an item. -/
theorem run_of_misses (listed : held.var.value = .list token items) {command : ListCommand}
    (misses : command.Misses items.length) : command.run.run held = .ok command.blank held := by
  cases command with
  | deleteAt index =>
    show (runDeleteAt index).run held = _
    rw [runDeleteAt, run_bind_of_ok (run_items listed), run_position_bind_of_misses misses]
    rfl
  | insertAt index item =>
    show (runInsertAt index item).run held = _
    rw [runInsertAt, run_bind_of_ok (run_items listed), run_position_bind_of_misses misses]
    rfl
  | replaceAt index item =>
    show (runReplaceAt index item).run held = _
    rw [runReplaceAt, run_bind_of_ok (run_items listed), run_position_bind_of_misses misses]
    rfl
  | itemAt index =>
    show (runItemAt index).run held = _
    rw [runItemAt, run_bind_of_ok (run_items listed), run_position_bind_of_misses misses]
    rfl
  | add item | deleteAll | indexOf item | length | contains item | contents forMonitor =>
    cases misses

end ListCommand

end BlockData
