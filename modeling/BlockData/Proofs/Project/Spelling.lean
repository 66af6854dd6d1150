/-
**Ways to spell a name.**

A block is given the name of its variable as a text, as a reference, with an identifier or without
one, or as a mapping or an object that carries it. These make no difference at all: the block ends
alike and leaves the same project, whatever identifiers and other entries come along.

* `Value.Spells`: the values that are taken for a name;
* `Project.resolve_congr`: references with one name are resolved alike;
* `Project.run_execute_of_respelled`: blocks that spell their name in two ways run alike.
-/

import BlockData.Proofs.Project.Reads

namespace BlockData

/-- A value that is taken for a name. -/
inductive Value.Spells (name : String) : Value → Prop
  | text : Spells name (.text name)
  | named : Spells name (.reference (.named name))
  | handle (id : Option String) : Spells name (.reference (.handle name id))
  /-- A mapping with the name as its entry `name`, whatever its other entries are. -/
  | map {token : Nat} {entries : List (Key × Value)}
    (carried : entries.lookup (.name "name") = some (.text name)) : Spells name (.map token entries)
  /-- An object with the name as its attribute `name`, whatever its other attributes and its own
  text are. -/
  | object {attributes : List (String × Value)} {content : String}
    (carried : attributes.lookup "name" = some (.text name)) :
    Spells name (.object attributes content)

/-- Two mappings have the same arguments, but that the variable or list may be spelled otherwise. -/
structure Arguments.Respelled (one other : Arguments) : Prop where
  named : ∀ key, key = "VARIABLE" ∨ key = "LIST" → one.read key = other.read key ∨
    ∃ name value again, one.read key = .ok value ∧ other.read key = .ok again ∧
      value.Spells name ∧ again.Spells name
  further : ∀ key, ¬(key = "VARIABLE" ∨ key = "LIST") → one.read key = other.read key

/-- All that spells a name is read as this name. -/
theorem Reference.nameOf_of_spells {name : String} {value : Value} (spells : value.Spells name) :
    nameOf value = .ok name := by
  cases spells with
  | text | named | handle => rfl
  | map carried =>
    unfold nameOf ofValue
    simp only [carried]
    rfl
  | object carried =>
    unfold nameOf ofValue
    simp only [carried]
    rfl

namespace Opcode

variable {one other : Arguments}

theorem subject_eq (opcode : Opcode) : opcode.subject = "VARIABLE" ∨ opcode.subject = "LIST" := by
  unfold subject
  split <;> simp

/-- The further arguments of a block do not name its variable. -/
theorem command_of_respelled (respelled : one.Respelled other) (opcode : Opcode)
    (forMonitor : Bool) : opcode.command one forMonitor = opcode.command other forMonitor := by
  have value := respelled.further "VALUE" (by decide)
  have index := respelled.further "INDEX" (by decide)
  have item := respelled.further "ITEM" (by decide)
  cases opcode <;> simp only [command, value, index, item]

theorem isIdle_of_respelled (respelled : one.Respelled other) (opcode : Opcode) :
    opcode.isIdle one = opcode.isIdle other := by
  have value := respelled.further "VALUE" (by decide)
  cases opcode <;> simp only [isIdle, value]

end Opcode

namespace Project

variable {one other : Arguments}

/-- References that are read as one name, or fail alike, are resolved alike. -/
theorem resolve_congr {reference again : Value}
    (same : Reference.nameOf reference = Reference.nameOf again) (place : Place) (kind : Kind) :
    resolve place reference kind = resolve place again kind := by
  unfold resolve
  rw [same]

theorem runBlock_of_respelled (respelled : one.Respelled other) (opcode : Opcode) (place : Place)
    (forMonitor : Bool) :
    runBlock opcode one place forMonitor = runBlock opcode other place forMonitor := by
  have idle := Opcode.isIdle_of_respelled respelled opcode
  have commands := Opcode.command_of_respelled respelled opcode forMonitor
  unfold runBlock
  rw [idle, commands]
  obtain same | ⟨name, value, again, read, readToo, spells, spellsToo⟩ :=
    respelled.named opcode.subject opcode.subject_eq
  · rw [same]
  · have named := (Reference.nameOf_of_spells spells).trans
      (Reference.nameOf_of_spells spellsToo).symm
    rw [read, readToo]
    simp only [Step.ofExcept, pure_bind, resolve_congr named]

/-- **Blocks that spell their name in two ways run alike.** -/
theorem run_execute_of_respelled (respelled : one.Respelled other) (name : String)
    (destination : Destination) (forMonitor : Bool) (project : Project) :
    (execute name one destination forMonitor).run project =
      (execute name other destination forMonitor).run project := by
  unfold execute
  simp only [runBlock_of_respelled respelled]

/-- The score by its name. -/
def byText : Arguments := [("VARIABLE", .text "score"), ("VALUE", .int 3)]

/-- The score by an object with its name, the identifier of the lives and a text of its own. -/
def byObject : Arguments :=
  [("VARIABLE", .object [("id", .text "l"), ("name", .text "score")] "lives"), ("VALUE", .int 3)]

theorem respelled_byObject : byText.Respelled byObject where
  named key subject := by
    obtain rfl | rfl := subject
    · exact .inr ⟨"score", _, _, rfl, rfl, .text, .object rfl⟩
    · exact .inl rfl
  further key other := by
    have apart : key ≠ "VARIABLE" := fun same => other (.inl same)
    simp only [Arguments.read, byText, byObject, Keyed.lookup_entry, if_neg apart]

/-- An object with the identifier of the lives sets the score, since it has its name. -/
theorem run_execute_byObject :
    let room := sharedRoom.put .stage "l" ⟨"l", "lives", .scalar, .int 9, false, false, none⟩
    byText.Respelled byObject ∧
      (execute Opcode.setVariable.name byText (.named "Cat") false).run room =
        (execute Opcode.setVariable.name byObject (.named "Cat") false).run room ∧
      (Step.after (execute Opcode.setVariable.name byObject (.named "Cat") false)
        room).stage.vars.values.map Variable.value = [.int 3, .int 9] := by
  intro room
  exact ⟨respelled_byObject, run_execute_of_respelled respelled_byObject _ _ _ room, rfl⟩

end Project

end BlockData
