/-
**What a command does to a list in hand.**

For a variable whose value is a list there are four things that a command can do, gathered in
`ListCommand.Leaves`: it leaves the variable as it is, changes the items in place, gives the
variable a new list without items, or copies the items for a monitor. The middle two are the
effective mutations, `ListCommand.TakesEffect`, which are told from the others by the index, the
length and the limit alone.

* `ListCommand.leaves_run`: every command, whether it answers or fails, does one of the four;
* `Held.run_monitored_of_shows`, `Held.run_monitored_of_not_shows`: what a monitor is given.
-/

import BlockData.Proofs.Run
import BlockData.Variable.Listing

namespace BlockData

namespace Supply

/-- The supply with another number of fractions used. -/
def withFractions (supply : Supply) (used : Nat) : Supply :=
  { supply with fractionsUsed := used }

end Supply

/-- Drawing a random position draws one fraction, also when it fails. -/
theorem Supply.after_randomPosition (length : Nat) (supply : Supply) :
    Step.after (randomPosition length) supply =
      supply.withFractions (supply.fractionsUsed + 1) := by
  unfold randomPosition
  rw [Step.after_bind_of_ok (EStateM.run_modifyGet _ _)]
  generalize (Number.int length).toDouble = size
  cases size <;> rfl

namespace Position

/-- The position of a word draws one fraction, if it is a random one of some, and nothing else. -/
theorem after_ofWord (length : Nat) (acceptAll : Bool) (word : IndexWord) (supply : Supply) :
    Step.after (ofWord length acceptAll word) supply =
      supply.withFractions
        (supply.fractionsUsed + if word = .random ∧ 0 < length then 1 else 0) := by
  cases word with
  | all => rfl
  | last => rfl
  | random =>
    by_cases filled : 0 < length
    · rw [ofWord, if_pos filled, if_pos ⟨rfl, filled⟩, ← Supply.after_randomPosition length]
      exact Step.after_bind_pure ..
    · rw [ofWord, if_neg filled, if_neg fun both => filled both.2]
      rfl

/-- Finding the position of an index draws one fraction, if it is a word for a random one of some,
and nothing else. -/
theorem after_ofIndex_eq (index : Value) (length : Nat) (acceptAll : Bool) (supply : Supply) :
    Step.after (ofIndex index length acceptAll) supply =
      supply.withFractions
        (supply.fractionsUsed + if word? index = some .random ∧ 0 < length then 1 else 0) := by
  unfold ofIndex
  cases word? index with
  | none => exact Step.after_ofExcept _ _
  | some word => simp only [after_ofWord, Option.some.injEq]

/-- Finding a position draws fractions and nothing else. -/
theorem after_ofIndex (index : Value) (length : Nat) (acceptAll : Bool) (supply : Supply) :
    ∃ used, Step.after (ofIndex index length acceptAll) supply = supply.withFractions used :=
  ⟨_, after_ofIndex_eq index length acceptAll supply⟩

end Position

namespace Held

/-- The number of items of the list in hand. -/
def count (held : Held) : Nat :=
  (held.var.value.items?.getD []).length

/-- The index names the position in a list of the given length. -/
def Names (held : Held) (index : Value) (length : Nat) (acceptAll : Bool) (position : Position) :
    Prop :=
  Step.outcome (Position.ofIndex index length acceptAll) held.supply = .ok position

/-- The snapshot that a monitor is given while it is up to date. -/
def Shows (held : Held) (snapshot : Snapshot) : Prop :=
  held.var.isFresh = true ∧ held.var.snapshot = some snapshot

/-- The variable in hand with a list as its value, after which the snapshot is out of date. -/
def withItems (held : Held) (token : Nat) (items : List Value) : Held :=
  { held with var := { held.var with value := .list token items, isFresh := false } }

/-- The variable in hand with fractions drawn. -/
def withFractions (held : Held) (used : Nat) : Held :=
  { held with supply := held.supply.withFractions used }

/-- The variable in hand with a new list without items. -/
def cleared (held : Held) : Held :=
  { held.withItems held.supply.tokensUsed [] with supply := held.supply.token.2 }

/-- The variable in hand with a new copy of the given items as its snapshot. -/
def copied (held : Held) (items : List Value) : Held where
  var := { held.var with isFresh := true, snapshot := some ⟨held.supply.tokensUsed, items⟩ }
  supply := held.supply.token.2

end Held

namespace ListCommand

/-- The command is an effective mutation of the list in hand: it clears the list, adds below the
limit, or has an index that names what it changes. -/
def TakesEffect (held : Held) : ListCommand → Prop
  | add _ => held.count < itemLimit
  | deleteAt index => ∃ position, held.Names index held.count true position ∧ position ≠ .invalid
  | deleteAll => True
  | insertAt index _ =>
    ∃ place, held.Names index (held.count + 1) false (.item place) ∧ place ≤ itemLimit
  | replaceAt index _ => ∃ place, held.Names index held.count false (.item place)
  | itemAt _ | indexOf _ | length | contains _ | contents _ => False

/-- What a command can leave of a list in hand. -/
inductive Leaves (command : ListCommand) (held : Held) (token : Nat) (items : List Value) :
    Held → Prop
  /-- Nothing but fractions is drawn. -/
  | same (used : Nat) (idle : ¬ command.TakesEffect held) :
    Leaves command held token items (held.withFractions used)
  /-- The items have changed in place. -/
  | altered (used : Nat) (changed : List Value) (effect : command.TakesEffect held)
    (inPlace : command.changesItems = true) :
    Leaves command held token items ((held.withFractions used).withItems token changed)
  /-- There is a new list without items. -/
  | cleared (used : Nat) (effect : command.TakesEffect held) :
    Leaves command held token items (held.withFractions used).cleared
  /-- A monitor was given a new copy. -/
  | copied (read : command = .contents true) (stale : ∀ snapshot, ¬ held.Shows snapshot) :
    Leaves command held token items (held.copied items)

end ListCommand

section Parts

variable {held : Held} {token : Nat} {items : List Value}

theorem Held.run_items (listed : held.var.value = .list token items) :
    Held.items.run held = .ok items held := by
  simp only [Held.items, Held.view, EStateM.run, listed, Value.items?]

/-- A walk through a value that can be walked meets its items. -/
theorem Held.run_walk_of_some (walked : held.var.value.walk? = some items) :
    Held.walk.run held = .ok items held := by
  simp only [Held.walk, Held.view, EStateM.run, walked]

theorem Held.run_walk_of_none (unwalked : held.var.value.walk? = none) :
    Held.walk.run held = .error .wrongKind held := by
  simp only [Held.walk, Held.view, EStateM.run, unwalked]

theorem Held.run_walk (listed : held.var.value = .list token items) :
    Held.walk.run held = .ok items held :=
  Held.run_walk_of_some (by rw [listed]; rfl)

theorem Held.count_eq_length (listed : held.var.value = .list token items) :
    held.count = items.length := by
  unfold Held.count
  rw [listed]
  rfl

/-- A change of a list in place leaves the snapshot out of date. -/
theorem Held.run_alter {change : Value → Except Fault Value} {changed : List Value}
    (makes : change held.var.value = .ok (.list token changed)) :
    (Held.alter change).run held = .ok () (held.withItems token changed) := by
  simp only [Held.alter, EStateM.run, makes]
  rfl

/-- The list in hand without the item at a place, also after fractions were drawn. -/
theorem Held.deleteItem_eq (listed : held.var.value = .list token items) (place used : Nat) :
    Value.deleteItem place (held.withFractions used).var.value =
      .ok (.list token (Items.delete items place)) := by
  show Value.deleteItem place held.var.value = _
  rw [listed, Value.deleteItem]

/-- With an item inserted in front of a place. -/
theorem Held.insertItem_eq (listed : held.var.value = .list token items) (place used : Nat)
    (item : Value) :
    Value.insertItem place item (held.withFractions used).var.value =
      .ok (.list token (Items.insert items place item)) := by
  show Value.insertItem place item held.var.value = _
  rw [listed, Value.insertItem]

/-- With the item at a place replaced. -/
theorem Held.replaceItem_eq (listed : held.var.value = .list token items) (place used : Nat)
    (item : Value) :
    Value.replaceItem place item (held.withFractions used).var.value =
      .ok (.list token (Items.replace items place item)) := by
  show Value.replaceItem place item held.var.value = _
  rw [listed, Value.replaceItem]

theorem Held.run_clear (held : Held) : Held.clear.run held = .ok () held.cleared :=
  rfl

theorem Held.outcome_position (held : Held) (index : Value) (length : Nat) (acceptAll : Bool)
    (position : Position) :
    Step.outcome (Held.position index length acceptAll) held = .ok position ↔
      held.Names index length acceptAll position := by
  unfold Held.position
  rw [Step.outcome_onPart]
  rfl

/-- Finding a position in the list in hand draws fractions and nothing else. -/
theorem Held.after_position (held : Held) (index : Value) (length : Nat) (acceptAll : Bool) :
    ∃ used, Step.after (Held.position index length acceptAll) held = held.withFractions used := by
  obtain ⟨used, left⟩ := Position.after_ofIndex index length acceptAll held.supply
  refine ⟨used, ?_⟩
  unfold Held.position
  rw [Step.after_onPart, left]
  rfl

/-- An index names at most one position. -/
theorem Held.names_unique {index : Value} {length : Nat} {acceptAll : Bool}
    {first second : Position} (one : held.Names index length acceptAll first)
    (other : held.Names index length acceptAll second) : first = second := by
  unfold Held.Names at one other
  rw [one, Except.ok.injEq] at other
  exact other

/-- A command with an index fails where that names no position, and goes on with the position that
it names otherwise. -/
theorem Held.after_position_bind {α : Type} (held : Held) (index : Value) (length : Nat)
    (acceptAll : Bool) (next : Position → Step Held α) :
    ∃ used, ((∀ position, ¬ held.Names index length acceptAll position) ∧
        Step.after (Held.position index length acceptAll >>= next) held =
          held.withFractions used) ∨
      ∃ position, held.Names index length acceptAll position ∧
        Step.after (Held.position index length acceptAll >>= next) held =
          Step.after (next position) (held.withFractions used) := by
  obtain ⟨used, left⟩ := held.after_position index length acceptAll
  refine ⟨used, ?_⟩
  cases answered : Step.outcome (Held.position index length acceptAll) held with
  | error fault =>
    refine .inl ⟨fun position named => ?_, ?_⟩
    · rw [← Held.outcome_position, answered] at named
      cases named
    · rw [Step.after_bind_of_error (Step.run_of_outcome_error answered), left]
  | ok position =>
    refine .inr ⟨position, (Held.outcome_position ..).mp answered, ?_⟩
    rw [Step.after_bind_of_ok (Step.run_of_outcome_ok answered), left]

end Parts

/-! ### The commands one by one -/

namespace ListCommand

variable {held : Held} {token : Nat} {items : List Value}

/-- A command that leaves the variable in hand and the supply alone. -/
theorem Leaves.unchanged {command : ListCommand} (idle : ¬ command.TakesEffect held) :
    Leaves command held token items held :=
  .same held.supply.fractionsUsed idle

theorem leaves_add (listed : held.var.value = .list token items) (item : Value) :
    Leaves (add item) held token items (Step.after (runAdd item) held) := by
  unfold runAdd
  rw [Step.after_bind_of_ok (Held.run_items listed)]
  have counted := Held.count_eq_length listed
  by_cases room : items.length < itemLimit
  · have makes : Value.addItem item held.var.value = .ok (.list token (items ++ [item])) := by
      rw [listed, Value.addItem, Items.add, if_pos room]
    rw [if_pos room, Step.after_bind_of_ok (Held.run_alter makes)]
    refine .altered held.supply.fractionsUsed _ ?_ rfl
    show held.count < itemLimit
    rwa [counted]
  · rw [if_neg room]
    refine .unchanged fun effect => room ?_
    rwa [← counted]

theorem leaves_deleteAt (listed : held.var.value = .list token items) (index : Value) :
    Leaves (deleteAt index) held token items (Step.after (runDeleteAt index) held) := by
  unfold runDeleteAt
  rw [Step.after_bind_of_ok (Held.run_items listed), ← Held.count_eq_length listed]
  obtain ⟨used, ⟨nowhere, left⟩ | ⟨position, named, left⟩⟩ := held.after_position_bind index
    held.count true _
  · rw [left]
    exact .same used fun ⟨position, named, _⟩ => nowhere position named
  rw [left]
  cases position with
  | invalid => exact .same used fun ⟨other, also, valid⟩ => valid (Held.names_unique also named)
  | all =>
    simp only
    rw [Step.after_bind_of_ok (Held.run_clear _)]
    exact .cleared used ⟨.all, named, by simp⟩
  | item place =>
    simp only
    rw [Step.after_bind_of_ok (Held.run_alter (Held.deleteItem_eq listed place used))]
    exact .altered used _ ⟨.item place, named, by simp⟩ rfl

theorem leaves_insertAt (listed : held.var.value = .list token items) (index item : Value) :
    Leaves (insertAt index item) held token items (Step.after (runInsertAt index item) held) := by
  unfold runInsertAt
  rw [Step.after_bind_of_ok (Held.run_items listed), ← Held.count_eq_length listed]
  obtain ⟨used, ⟨nowhere, left⟩ | ⟨position, named, left⟩⟩ := held.after_position_bind index
    (held.count + 1) false _
  · rw [left]
    exact .same used fun ⟨place, also, _⟩ => nowhere (.item place) also
  rw [left]
  cases position with
  | invalid => exact .same used fun ⟨place, also, _⟩ => by cases Held.names_unique also named
  | all => exact .same used fun ⟨place, also, _⟩ => by cases Held.names_unique also named
  | item place =>
    by_cases within : place ≤ itemLimit
    · simp only [if_pos within]
      rw [Step.after_bind_of_ok (Held.run_alter (Held.insertItem_eq listed place used item))]
      exact .altered used _ ⟨place, named, within⟩ rfl
    · simp only [if_neg within]
      refine .same used ?_
      rintro ⟨other, also, fits⟩
      cases Held.names_unique also named
      exact within fits

theorem leaves_replaceAt (listed : held.var.value = .list token items) (index item : Value) :
    Leaves (replaceAt index item) held token items
      (Step.after (runReplaceAt index item) held) := by
  unfold runReplaceAt
  rw [Step.after_bind_of_ok (Held.run_items listed), ← Held.count_eq_length listed]
  obtain ⟨used, ⟨nowhere, left⟩ | ⟨position, named, left⟩⟩ := held.after_position_bind index
    held.count false _
  · rw [left]
    exact .same used fun ⟨place, also⟩ => nowhere (.item place) also
  rw [left]
  cases position with
  | invalid => exact .same used fun ⟨place, also⟩ => by cases Held.names_unique also named
  | all => exact .same used fun ⟨place, also⟩ => by cases Held.names_unique also named
  | item place =>
    simp only
    rw [Step.after_bind_of_ok (Held.run_alter (Held.replaceItem_eq listed place used item))]
    exact .altered used _ ⟨place, named⟩ rfl

/-! ### Queries and contents -/

/-- Asking for the item at an index draws fractions and nothing else. -/
theorem leaves_itemAt (listed : held.var.value = .list token items) (index : Value) :
    Leaves (itemAt index) held token items (Step.after (runItemAt index) held) := by
  unfold runItemAt
  rw [Step.after_bind_of_ok (Held.run_items listed)]
  obtain ⟨used, ⟨-, left⟩ | ⟨position, -, left⟩⟩ := held.after_position_bind index
    items.length false _
  · rw [left]
    exact .same used id
  rw [left]
  cases position with
  | invalid => exact .same used id
  | all => exact .same used id
  | item place =>
    simp only
    rw [Step.after_bind_of_ok (EStateM.run_get _), Step.after_ofExcept]
    exact .same used id

/-- What a walk leads to leaves the variable as it is. -/
theorem after_walk {α β : Type} (listed : held.var.value = .list token items)
    (result : List Value → Except Fault α) (answer : α → β) :
    Step.after (do
      let items ← Held.walk
      let found ← Step.ofExcept (result items)
      return answer found) held = held := by
  rw [Step.after_bind_of_ok (Held.run_walk listed)]
  cases result items <;> rfl

theorem after_runContains (listed : held.var.value = .list token items) (item : Value) :
    Step.after (runContains item) held = held := by
  unfold runContains
  rw [Step.after_bind_of_ok (EStateM.run_get _)]
  generalize held.var.value.holds held.supply.itself item = holds
  cases holds with
  | error fault => rfl
  | ok found =>
    rw [Step.after_bind_of_ok (Step.run_ofExcept_ok _ _)]
    cases found with
    | true => rfl
    | false => exact after_walk listed (Items.indexOf · item) fun position =>
        Value.bool (position ≠ 0)

end ListCommand

/-- A monitor is given the snapshot that is up to date. -/
theorem Held.run_monitored_of_shows {held : Held} {snapshot : Snapshot}
    (shown : held.Shows snapshot) : Held.monitored.run held = .ok snapshot.toValue held := by
  obtain ⟨fresh, kept⟩ := shown
  unfold Held.monitored
  rw [Step.run_bind_of_ok (EStateM.run_get _), fresh, kept]
  rfl

/-- Without a snapshot that is up to date, a monitor's list is marked as read and walked. -/
theorem Held.run_monitored_of_stale {held : Held} (stale : ∀ snapshot, ¬ held.Shows snapshot) :
    Held.monitored.run held = (do
      let items ← Held.walk
      let token ← Held.token
      let snapshot : Snapshot := ⟨token, items⟩
      modify fun held =>
        { held with var := { held.var with snapshot := some snapshot } }
      return snapshot.toValue : Step Held Value).run
        { held with var := { held.var with isFresh := true } } := by
  unfold Held.monitored
  rw [Step.run_bind_of_ok (EStateM.run_get _)]
  cases fresh : held.var.isFresh with
  | false => exact Step.run_bind_of_ok (EStateM.run_modify _ _)
  | true =>
    cases kept : held.var.snapshot with
    | none => exact Step.run_bind_of_ok (EStateM.run_modify _ _)
    | some snapshot => exact absurd ⟨fresh, kept⟩ (stale snapshot)

/-- A monitor is given a new copy of the items if no snapshot is up to date. -/
theorem Held.run_monitored_of_walked {held : Held} {items : List Value}
    (walked : held.var.value.walk? = some items) (stale : ∀ snapshot, ¬ held.Shows snapshot) :
    Held.monitored.run held =
      .ok (Snapshot.toValue ⟨held.supply.tokensUsed, items⟩) (held.copied items) := by
  have marked : ({ held with var := { held.var with isFresh := true } } : Held).var.value.walk? =
      some items := walked
  rw [Held.run_monitored_of_stale stale, Step.run_bind_of_ok (Held.run_walk_of_some marked)]
  rfl

/-- A monitor is given nothing if the value cannot be walked either. -/
theorem Held.run_monitored_of_unwalked {held : Held} (unwalked : held.var.value.walk? = none)
    (stale : ∀ snapshot, ¬ held.Shows snapshot) :
    ∃ left, Held.monitored.run held = .error .wrongKind left := by
  have marked : ({ held with var := { held.var with isFresh := true } } : Held).var.value.walk? =
      none := unwalked
  rw [Held.run_monitored_of_stale stale, Step.run_bind_of_error (Held.run_walk_of_none marked)]
  exact ⟨_, rfl⟩

theorem Held.run_monitored_of_not_shows {held : Held} {token : Nat} {items : List Value}
    (listed : held.var.value = .list token items)
    (stale : ∀ snapshot, ¬ held.Shows snapshot) :
    Held.monitored.run held =
      .ok (Snapshot.toValue ⟨held.supply.tokensUsed, items⟩) (held.copied items) :=
  Held.run_monitored_of_walked (by rw [listed]; rfl) stale

/-- **Every command, whether it answers or fails, leaves one of four things of a list in hand.** -/
theorem ListCommand.leaves_run {held : Held} {token : Nat} {items : List Value}
    (listed : held.var.value = .list token items) (command : ListCommand) :
    command.Leaves held token items (Step.after command.run held) := by
  cases command with
  | add item => exact leaves_add listed item
  | deleteAt index => exact leaves_deleteAt listed index
  | deleteAll => exact .cleared held.supply.fractionsUsed trivial
  | insertAt index item => exact leaves_insertAt listed index item
  | replaceAt index item => exact leaves_replaceAt listed index item
  | itemAt index => exact leaves_itemAt listed index
  | indexOf item =>
    have left := after_walk listed (Items.indexOf · item) fun position => Value.int position
    show Leaves _ held token items (Step.after (runIndexOf item) held)
    rw [runIndexOf, left]
    exact .unchanged id
  | length =>
    have left : Step.after ListCommand.length.run held = held := by
      unfold run
      rw [Step.after_bind_of_ok (Held.run_items listed)]
      rfl
    rw [left]
    exact .unchanged id
  | contains item =>
    show Leaves _ held token items (Step.after (runContains item) held)
    rw [after_runContains listed]
    exact .unchanged id
  | contents forMonitor =>
    cases forMonitor with
    | false =>
      show Leaves _ held token items (Step.after (do
        let items ← Held.walk
        let text ← Step.ofExcept (Items.joined items)
        return Value.text text) held)
      rw [after_walk listed Items.joined Value.text]
      exact .unchanged id
    | true =>
      show Leaves _ held token items (Step.after Held.monitored held)
      by_cases shown : ∃ snapshot, held.Shows snapshot
      · obtain ⟨snapshot, shows⟩ := shown
        rw [Step.after_of_ok (Held.run_monitored_of_shows shows)]
        exact .unchanged id
      · have stale : ∀ snapshot, ¬ held.Shows snapshot := fun snapshot shows =>
          shown ⟨snapshot, shows⟩
        rw [Step.after_of_ok (Held.run_monitored_of_not_shows listed stale)]
        exact .copied rfl stale

end BlockData
