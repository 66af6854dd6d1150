/-
**Messages of the server.**

Whether a message of the server is taken or fails, no provider is called and at most the value of
one variable is another one: that of the first scalar of the stage with the name that the message
gives, if it is a cloud variable. A primitive value that was taken is not sent back by a block that
sets the variable to it.

* `Target.byName?_iff_first`: a lookup finds the first variable of its name and kind;
* `Project.run_post_of_updates`: what taking an update does;
* `Project.receives_post`: all that a message can do.
-/

import BlockData.Proofs.Project.Reads

namespace BlockData

/-- A message of the server carries an update: under `varUpdate` it has a mapping with entries, in
which a name and a value are given, or nothing for one that is not. -/
def Value.Updates (message name value : Value) : Prop :=
  ∃ token entries inner fields, message = .map token entries ∧
    Project.entryOf entries "varUpdate" = .map inner fields ∧ fields ≠ [] ∧
    Project.entryOf fields "name" = name ∧ Project.entryOf fields "value" = value

theorem Target.byName?_iff_first {target : Target} {name : String} {kind : Kind} {key : String}
    {var : Variable} :
    target.byName? name kind = some (key, var) ↔ target.First name kind key var := by
  refine ⟨first_of_byName?, fun first => ?_⟩
  obtain ⟨⟨earlier, later, split, others⟩, named, kinded⟩ := first
  refine List.find?_eq_some_iff_append.mpr ⟨?_, earlier, later, split, fun entry member => ?_⟩
  · simp [Variable.answersTo, named, kinded]
  · have differs := (not_answersTo_iff name kind entry.2).mpr (others entry member)
    simp [differs]

/-- The first variable with a name and kind is kept under its key. -/
theorem Target.First.find? {target : Target} {name : String} {kind : Kind} {key : String}
    {var : Variable} (first : target.First name kind key var) :
    target.vars.find? key = some var :=
  (Keyed.find?_of_findEntry? (byName?_iff_first.mpr first)).1

namespace Variable

variable (var : Variable) (value : Value)

/-- Setting a variable changes its value only. -/
theorem exists_set_eq : ∃ new, (var.set value).1 = { var with value := new } := by
  unfold set
  split
  next => exact ⟨var.value, rfl⟩
  next => exact ⟨value, rfl⟩

/-- Nothing happens to a variable that is set to the value it has. -/
theorem set_of_strictlyEqual (same : var.value.strictlyEqual value = true) :
    var.set value = (var, none) :=
  if_pos same

end Variable

namespace Project

/-- What a message of the server leaves. -/
structure Receives (before : Project) (message : Value) (after : Project) : Prop where
  /-- No request is sent to the provider. -/
  provider : after.provider = before.provider
  monitors : after.monitors = before.monitors
  sprites : after.sprites = before.sprites
  /-- Nothing changes except the value of the first scalar of the stage with the name of the update,
  if that is a cloud variable. -/
  changes : after = before ∨ ∃ name value key var new,
    message.Updates (.text name) value ∧ before.stage.First name .scalar key var ∧
      var.isCloud = true ∧ after = before.put .stage key { var with value := new }
  /-- An update of such a variable with a primitive value is taken. Setting the variable to this
  value afterwards, from any place where its name stands for it, does nothing at all. -/
  applies : ∀ name value key var, message.Updates (.text name) value →
    before.stage.First name .scalar key var → var.isCloud = true → value.isPrimitive = true →
    Step.outcome (postData message) before = .ok () ∧
      ∃ new, after = before.put .stage key { var with value := new } ∧ new.StandsFor value ∧
        (value ≠ .double .nan → ∀ (write : Call) (place : Place) (found : Found),
          write.Writes name value → after.placeAt write.destination = .ok place →
          (after.scope place).lookup name .scalar = some found → found.home place = .stage →
          found.key = key → write.perform.run after = .ok .nothing after)

variable {project : Project} {message name value : Value} {text key : String} {var : Variable}

/-- An update sets the first scalar of the stage with its name, if that is a cloud variable. -/
theorem receiveUpdate_of_first (first : project.stage.First text .scalar key var)
    (cloud : var.isCloud = true) (value : Value) :
    receiveUpdate (.text text) value project = project.put .stage key (var.set value).1 := by
  have found := Target.byName?_iff_first.mpr first
  have kept : project.var? .stage key = some var := first.find?
  unfold receiveUpdate
  simp only [found, cloud, if_true]
  exact updateTarget_update kept fun _ => (var.set value).1

theorem receiveUpdate_cases (project : Project) (name value : Value) :
    receiveUpdate name value project = project ∨ ∃ text key var,
      name = .text text ∧ project.stage.First text .scalar key var ∧ var.isCloud = true ∧
        receiveUpdate name value project = project.put .stage key (var.set value).1 := by
  cases name with
  | text text =>
    cases found : project.stage.byName? text .scalar with
    | none => exact .inl (by simp only [receiveUpdate, found])
    | some entry =>
      obtain ⟨key, var⟩ := entry
      have first := Target.first_of_byName? found
      cases cloud : var.isCloud with
      | false => exact .inl (by simp [receiveUpdate, found, cloud])
      | true =>
        exact .inr ⟨text, key, var, rfl, first, cloud, receiveUpdate_of_first first cloud value⟩
  | _ => exact .inl rfl

/-- An update that a message carries is received. -/
theorem run_post_of_updates (updates : message.Updates name value) :
    (postData message).run project = .ok () (receiveUpdate name value project) := by
  obtain ⟨token, entries, inner, fields, rfl, carried, given, rfl, rfl⟩ := updates
  have isGiven : (Value.map inner fields).isGiven = true := by
    simpa [Value.isGiven] using given
  unfold postData
  simp only [carried, isGiven, if_true]
  rfl

/-- A message that changes anything carries an update. -/
theorem updates_of_post (changed : Step.after (postData message) project ≠ project) :
    ∃ name value, message.Updates name value := by
  unfold postData at changed
  split at changed
  next token entries =>
    simp only at changed
    split at changed
    next given =>
      split at changed
      next inner fields carried =>
        refine ⟨_, _, token, entries, inner, fields, rfl, carried, ?_, rfl, rfl⟩
        rintro rfl
        rw [carried] at given
        cases given
      next => exact absurd rfl changed
    next => exact absurd rfl changed
  next => exact absurd rfl changed

/-- Where a scalar has the value that it is set to, nothing happens. -/
theorem run_write_of_strictlyEqual {write : Call} {place : Place} {found : Found}
    (writes : write.Writes text value) (reached : project.placeAt write.destination = .ok place)
    (seen : (project.scope place).lookup text .scalar = some found)
    (same : found.var.value.strictlyEqual value = true) :
    write.perform.run project = .ok .nothing project := by
  have kept : project.var? (found.home place) found.key = some found.var :=
    (lookup_located seen).1.kept
  rw [run_write_of_seen writes reached seen, Variable.set_of_strictlyEqual _ _ same, put_self kept]
  rfl

/-- A message leaves everything, or sets the first scalar with the name of its update. -/
theorem after_post_cases (project : Project) (message : Value) :
    Step.after (postData message) project = project ∨ ∃ name value key var new,
      message.Updates (.text name) value ∧ project.stage.First name .scalar key var ∧
        var.isCloud = true ∧ Step.after (postData message) project =
          project.put .stage key { var with value := new } := by
  by_cases same : Step.after (postData message) project = project
  · exact .inl same
  · obtain ⟨name, value, updates⟩ := updates_of_post same
    rw [Step.after_of_ok (run_post_of_updates updates)] at same ⊢
    obtain ⟨text, key, var, rfl, first, cloud, left⟩ :=
      (receiveUpdate_cases project name value).resolve_left same
    obtain ⟨new, setTo⟩ := var.exists_set_eq value
    exact .inr ⟨text, value, key, var, new, updates, first, cloud, setTo ▸ left⟩

/-- **A message of the server changes at most the value of one cloud variable of the stage**, and is
not sent back. -/
theorem receives_post (project : Project) (message : Value) :
    project.Receives message (Step.after (postData message) project) := by
  have changes := after_post_cases project message
  have rest : (Step.after (postData message) project).provider = project.provider ∧
      (Step.after (postData message) project).monitors = project.monitors ∧
      (Step.after (postData message) project).sprites = project.sprites := by
    obtain same | ⟨_, _, _, _, _, -, -, -, same⟩ := changes
    · rw [same]
      exact ⟨rfl, rfl, rfl⟩
    · rw [same]
      exact ⟨rfl, rfl, rfl⟩
  refine ⟨rest.1, rest.2.1, rest.2.2, changes, ?applies⟩
  case applies =>
    intro name value key var updates first cloud primitive
    have kept : project.var? .stage key = some var := first.find?
    obtain ⟨new, setTo⟩ := var.exists_set_eq value
    have stands := var.standsFor_set primitive
    have ran : (postData message).run project = _ := run_post_of_updates updates
    rw [receiveUpdate_of_first first cloud value, setTo] at ran
    rw [setTo] at stands
    rw [Step.outcome_of_ok ran, Step.after_of_ok ran]
    refine ⟨rfl, new, rfl, stands, fun number write place found writes reached seen home same => ?_⟩
    -- The variable that the name stands for is the one that was set.
    have isNew : found.var = { var with value := new } := by
      have there := (lookup_located seen).1.kept
      rw [home, same, var?_put_self kept] at there
      exact (Option.some.inj there).symm
    refine run_write_of_strictlyEqual writes reached seen ?_
    rw [isNew]
    exact stands.resolve_right fun both => number both.2

example :
    let room := emptyRoom.put .stage "s" ⟨"s", "☁ score", .scalar, .int 0, true, false, none⟩
    let message := Value.map 0 [(.name "varUpdate",
      .map 1 [(.name "name", .text "☁ score"), (.name "value", .int 7)])]
    (Step.after (postData message) room).stage.vars.values.map Variable.value = [.int 7] := rfl

end Project

end BlockData
