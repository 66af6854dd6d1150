/-
**What a block leaves alone.**

A block touches one variable at most: the one that its reference is resolved to
(`Project.execute_confined`). Every other variable stays as it is and where it is, at its own place
and at all others. Of a variable that was there before, the identifier, name, kind and cloud flag
stay, and for a scalar all but the value. Only showing and hiding change what a monitor is known by,
only setting and changing a variable reach the cloud provider, and that with one request at most.

That is so where no list of a list variable is held elsewhere too, `Project.Unshared`: what a
command changes in place would change there as well. A block keeps a project that way unless it is
given the list of a list variable.
-/

import BlockData.Proofs.Project.Sharing

namespace BlockData

/-! ### What may become of the parts of a project -/

/-- The blocks that show or hide a monitor. -/
def Opcode.IsToggle (opcode : Opcode) : Prop :=
  opcode = .showVariable ∨ opcode = .hideVariable ∨ opcode = .showList ∨ opcode = .hideList

/-- The second variable is the first one with what a block of the opcode may change of it. -/
structure Variable.ChangedBy (opcode : Opcode) (before after : Variable) : Prop where
  id : after.id = before.id
  name : after.name = before.name
  kind : after.kind = before.kind
  isCloud : after.isCloud = before.isCloud
  scalar : opcode.kind = .scalar → after = { before with value := after.value }

/-- The records of the monitors are the same, except that those that show a list changed in place
show what it holds now. -/
def Monitors.SameBut (changed : Value) : Monitors → Monitors → Prop
  | .registry before, .registry after =>
    after.records.keys = before.records.keys ∧
      ∀ id record, before.records.find? id = some record →
        after.records.find? id = some record ∨
          record.value.same changed = true ∧
            after.records.find? id = some { record with value := changed }
  | .recorder before, .recorder after => after = before
  | _, _ => False

/-- Of all records only the visibility of one may be another; a record that is new shows nothing and
comes last. -/
def Monitors.Toggled (id : String) (visible : Bool) : Monitors → Monitors → Prop
  | .registry before, .registry after =>
    (∀ other, other ≠ id → after.records.find? other = before.records.find? other) ∧
      ((∃ record, before.records.find? id = some record ∧
          after.records.find? id = some { record with visible } ∧
          after.records.keys = before.records.keys) ∨
        before.records.find? id = none ∧ after.records.find? id = some ⟨visible, .nothing⟩ ∧
          after.records.keys = before.records.keys ++ [id])
  | .recorder before, .recorder after => after = before ++ [⟨id, visible⟩]
  | _, _ => False

namespace Project

/-- A block at a place touched no variable but the one found, which it left as `var`. -/
structure TouchedOnly (before : Project) (opcode : Opcode) (place : Place) (found : Found)
    (var : Variable) (after : Project) : Prop where
  home : found.home place = place ∨ found.home place = .stage
  /-- Other targets are as they were. -/
  elsewhere : ∀ other, other ≠ found.home place → after.target? other = before.target? other
  /-- So are the other variables of the same target. The one found was there or comes last. -/
  here : ∃ target vars, before.target? (found.home place) = some target ∧
    after.target? (found.home place) = some { target with vars } ∧
    vars.find? found.key = some var ∧
    (∀ other, other ≠ found.key → vars.find? other = target.vars.find? other) ∧
    ((target.vars.find? found.key = some found.var ∧ found.var.ChangedBy opcode var ∧
        vars.keys = target.vars.keys) ∨
      (target.vars.find? found.key = none ∧ found.home place = place ∧ var.id = found.key ∧
        var.kind = opcode.kind ∧ var.isCloud = false ∧
        vars.keys = target.vars.keys ++ [found.key]))

/-- A block at a place touched no variable but the one found, and of monitors and provider what its
opcode may. -/
structure Confined (before : Project) (opcode : Opcode) (place : Place) (found : Found)
    (var : Variable) (after : Project) : Prop where
  editing : after.editing = before.editing
  sprites : after.sprites.keys = before.sprites.keys
  vars : before.TouchedOnly opcode place found var after
  monitors : before.monitors.SameBut var.value after.monitors ∨
    opcode.IsToggle ∧ ∃ visible, before.monitors.Toggled found.var.id visible after.monitors
  provider : after.provider = before.provider ∨
    (opcode = .setVariable ∨ opcode = .changeVariable) ∧ ∃ received request,
      before.provider = some received ∧ after.provider = some (received ++ [request])

end Project

/-! ### Monitors -/

namespace Monitors

theorem sameBut_refl (changed : Value) (monitors : Monitors) :
    monitors.SameBut changed monitors := by
  cases monitors with
  | registry known => exact ⟨rfl, fun id record found => .inl found⟩
  | recorder events => rfl

theorem sameBut_refresh (changed : Value) (monitors : Monitors) :
    monitors.SameBut changed (monitors.refresh changed) := by
  cases monitors with
  | recorder events => rfl
  | registry known =>
    refine ⟨Keyed.keys_map _ _, fun id record found => ?_⟩
    have shown : (known.refresh changed).records.find? id =
        some (if record.value.same changed then { record with value := changed } else record) := by
      unfold Registry.refresh
      rw [Keyed.find?_map, found]
      rfl
    by_cases shows : record.value.same changed = true
    · rw [if_pos shows] at shown
      exact .inr ⟨shows, shown⟩
    · rw [if_neg shows] at shown
      exact .inl shown

theorem toggled_change (id : String) (visible : Bool) (monitors : Monitors) :
    monitors.Toggled id visible (monitors.change ⟨id, visible⟩) := by
  cases monitors with
  | recorder events => rfl
  | registry known =>
    refine ⟨fun other differs => ?_, ?_⟩
    · show (Keyed.insert _ _ _).find? other = _
      rw [Keyed.find?_insert, if_neg differs]
    · cases found : known.records.find? id with
      | some record =>
        have present : id ∈ known.records.keys :=
          (known.records.mem_keys_iff id).mpr ⟨record, found⟩
        refine .inl ⟨record, rfl, ?_, ?_⟩
        · show (Registry.change known ⟨id, visible⟩).records.find? id = _
          simp only [Registry.change, found, Keyed.find?_insert, if_true]
        · show (Registry.change known ⟨id, visible⟩).records.keys = _
          simp only [Registry.change, Keyed.keys_insert, if_pos present]
      | none =>
        have absent : id ∉ known.records.keys := (known.records.find?_eq_none_iff id).mp found
        refine .inr ⟨rfl, ?_, ?_⟩
        · show (Registry.change known ⟨id, visible⟩).records.find? id = _
          simp only [Registry.change, found, Keyed.find?_insert, if_true]
        · show (Registry.change known ⟨id, visible⟩).records.keys = _
          simp only [Registry.change, Keyed.keys_insert, if_neg absent]

end Monitors

namespace Project

variable {project middle : Project} {opcode : Opcode} {place : Place} {name : String}
  {kind : Kind} {found : Found} {var : Variable}

/-! ### Variables -/

theorem home_cases (found : Found) (place : Place) :
    found.home place = place ∨ found.home place = .stage := by
  obtain ⟨tier, key, var⟩ := found
  cases tier with
  | stage => exact .inr rfl
  | sprite => exact .inl rfl

theorem target?_put (project : Project) (place : Place) (key : String) (var : Variable)
    (other : Place) :
    (project.put place key var).target? other =
      if other = place then (project.target? other).map fun target => target.put key var
      else project.target? other :=
  target?_updateTarget project place _ other

/-- Putting a variable after its reference was resolved is putting it at once. -/
theorem Resolves.target?_put (resolves : project.Resolves place name kind found middle)
    (var : Variable) (other : Place) :
    (middle.put (found.home place) found.key var).target? other =
      (project.put (found.home place) found.key var).target? other := by
  cases resolves with
  | known found seen => rfl
  | created tier unseen made nearest tiered unused =>
    rw [nearest, target?_put_with_supply, put_put]

theorem touchedOnly_put (resolves : project.Resolves place name opcode.kind found middle)
    {target : Target} (here : project.target? place = some target)
    (changed : found.var.ChangedBy opcode var) :
    project.TouchedOnly opcode place found var (middle.put (found.home place) found.key var) := by
  refine ⟨home_cases found place, fun other differs => ?_, ?_⟩
  · rw [resolves.target?_put, target?_put, if_neg differs]
  have after {old : Target} (home : project.target? (found.home place) = some old) :
      (middle.put (found.home place) found.key var).target? (found.home place) =
        some { old with vars := old.vars.insert found.key var } := by
    rw [resolves.target?_put, target?_put, if_pos rfl, home]
    rfl
  have others (old : Target) (other : String) (differs : other ≠ found.key) :
      (old.vars.insert found.key var).find? other = old.vars.find? other := by
    rw [Keyed.find?_insert, if_neg differs]
  have own (old : Target) : (old.vars.insert found.key var).find? found.key = some var := by
    rw [Keyed.find?_insert, if_pos rfl]
  cases resolves with
  | known found seen =>
    obtain ⟨old, home, kept⟩ := Option.bind_eq_some_iff.mp (lookup_located seen).1.kept
    have present : found.key ∈ old.vars.keys :=
      (old.vars.mem_keys_iff found.key).mpr ⟨found.var, kept⟩
    refine ⟨old, _, home, after home, own old, others old, .inl ⟨kept, changed, ?_⟩⟩
    rw [Keyed.keys_insert, if_pos present]
  | created tier unseen made nearest tiered unused =>
    have home := nearest.trans (near_of_some here)
    have atHome := here
    rw [← home] at atHome
    have absent := find?_of_unused unused here
    have fresh : project.nextId ∉ target.vars.keys := (target.vars.find?_eq_none_iff _).mp absent
    refine ⟨target, _, atHome, after atHome, own target, others target,
      .inr ⟨absent, home, changed.id, changed.kind, changed.isCloud, ?_⟩⟩
    rw [Keyed.keys_insert, if_neg fresh]

/-! ### Commands -/

theorem changedBy_self (opcode : Opcode) (var : Variable) : var.ChangedBy opcode var :=
  ⟨rfl, rfl, rfl, rfl, fun _ => rfl⟩

theorem changedBy_scalar {command : ScalarCommand} {announcement : Option Announcement}
    {before after : Variable} (leaves : command.Leaves before announcement after) :
    before.ChangedBy opcode after := by
  cases leaves with
  | same => exact changedBy_self opcode before
  | changed value given => exact ⟨rfl, rfl, rfl, rfl, fun _ => rfl⟩

theorem changedBy_list {command : ListCommand} (before : Held) (listed : opcode.kind = .list) :
    before.var.ChangedBy opcode (Step.after command.run before).var := by
  have same := command.within_run before
  refine ⟨same.id, same.name, same.kind, same.isCloud, fun scalar => ?_⟩
  cases listed.symm.trans scalar

/-- What is announced is sent in one request, to a provider that is there. -/
theorem provider_announce (project : Project) (announcement : Option Announcement) :
    (project.announce announcement).provider = project.provider ∨ ∃ received request,
      project.provider = some received ∧
        (project.announce announcement).provider = some (received ++ [request]) := by
  cases announcement with
  | none => exact .inl rfl
  | some announced =>
    cases present : project.provider with
    | none =>
      refine .inl ?_
      show project.provider.map _ = _
      rw [present]
      rfl
    | some received =>
      refine .inr ⟨received, .update (.text announced.name) announced.value, rfl, ?_⟩
      show project.provider.map _ = _
      rw [present]
      rfl

/-- Projects with the same targets have the same variable touched. -/
theorem TouchedOnly.of_target? {after other : Project}
    (touched : project.TouchedOnly opcode place found var after)
    (same : ∀ place, other.target? place = after.target? place) :
    project.TouchedOnly opcode place found var other := by
  obtain ⟨home, elsewhere, here⟩ := touched
  refine ⟨home, fun apart differs => (same apart).trans (elsewhere apart differs), ?_⟩
  rw [same]
  exact here

variable {arguments : Arguments} {forMonitor : Bool} {after : Project}

/-- Resolving a reference confines a block, whatever it then does to the monitors as they were. -/
theorem Resolves.confined (resolves : project.Resolves place name opcode.kind found middle)
    {target : Target} (here : project.target? place = some target) {monitors : Monitors}
    (shown : project.monitors.SameBut found.var.value monitors ∨
      opcode.IsToggle ∧ ∃ visible, project.monitors.Toggled found.var.id visible monitors) :
    project.Confined opcode place found found.var { middle with monitors } := by
  have same := resolves.sameRest
  have touched := touchedOnly_put resolves here (changedBy_self opcode found.var)
  rw [put_self resolves.located.kept] at touched
  have targets (other : Place) :
      Project.target? { middle with monitors } other = middle.target? other := by
    cases other <;> rfl
  exact ⟨same.editing, same.sprites, touched.of_target? targets, shown, .inl same.provider⟩

theorem Resolves.confined_scalar (resolves : project.Resolves place name opcode.kind found middle)
    {target : Target} (here : project.target? place = some target) {command : ScalarCommand}
    {announcement : Option Announcement}
    (commanded : opcode.command arguments forMonitor = .ok (.scalar command))
    (leaves : command.Leaves found.var announcement var) :
    project.Confined opcode place found var
      ((middle.put (found.home place) found.key var).announce announcement) := by
  let left := middle.put (found.home place) found.key var
  have same : project.SameRest left := resolves.sameRest_put var
  have touched := touchedOnly_put resolves here (changedBy_scalar leaves)
  refine ⟨(editing_announce left announcement).trans same.editing,
    (congrArg Keyed.keys (sprites_announce left announcement)).trans same.sprites,
    touched.of_target? (target?_announce left announcement), .inl ?monitors, ?provider⟩
  case monitors =>
    rw [monitors_announce, same.monitors]
    exact Monitors.sameBut_refl _ _
  case provider =>
    have setsOrChanges : opcode = .setVariable ∨ opcode = .changeVariable := by
      cases Opcode.does_of_command commanded with
      | set sets read => exact .inl sets
      | change changes read => exact .inr changes
    rw [← same.provider]
    rcases provider_announce left announcement with kept | sent
    · exact .inl kept
    · exact .inr ⟨setsOrChanges, sent⟩

theorem Resolves.confined_list (resolves : project.Resolves place name opcode.kind found middle)
    {target : Target} (here : project.target? place = some target) {command : ListCommand}
    {left : Held} {monitors : Monitors}
    (commanded : opcode.command arguments forMonitor = .ok (.list command))
    (leaves : left = Step.after command.run ⟨found.var, middle.supply⟩)
    (shown : monitors = middle.monitors ∨ monitors = middle.monitors.refresh left.var.value) :
    project.Confined opcode place found left.var
      { middle.put (found.home place) found.key left.var with
        supply := left.supply, monitors } := by
  have same := resolves.sameRest_put left.var
  have listed : opcode.kind = .list := by
    rw [← resolves.kind_eq]
    exact resolves.list_of_command commanded
  have changed : found.var.ChangedBy opcode left.var := by
    rw [leaves]
    exact changedBy_list ⟨found.var, middle.supply⟩ listed
  have touched := touchedOnly_put resolves here changed
  rw [resolves.sameRest.monitors] at shown
  refine ⟨same.editing, same.sprites, touched.of_target? fun other => ?_, .inl ?_,
    .inl same.provider⟩
  · cases other <;> rfl
  · show project.monitors.SameBut left.var.value monitors
    rcases shown with rfl | rfl
    · exact Monitors.sameBut_refl _ _
    · exact Monitors.sameBut_refresh _ _

theorem isToggle_of_command {visible : Bool}
    (commanded : opcode.command arguments forMonitor = .ok (.setVisible visible)) :
    opcode.IsToggle := by
  cases Opcode.does_of_command commanded with
  | «show» shows => exact shows.elim .inl fun last => .inr (.inr (.inl last))
  | hide hides =>
    exact hides.elim (fun first => .inr (.inl first)) fun last => .inr (.inr (.inr last))

/-- A block that ends in one of its ways touches the variable of its reference only. -/
theorem confined_of_ran (ran : project.Ran opcode arguments place forMonitor after)
    {target : Target} (here : project.target? place = some target) :
    after = project ∨ ∃ name, opcode.Refers arguments name ∧ ∃ var,
      project.Confined opcode place
        ((project.scope place).resolve name opcode.kind project.supply).1 var after := by
  cases ran with
  | idle quiet => exact .inl rfl
  | @resolved name found middle refers resolves quiet =>
    refine .inr ⟨name, refers, found.var, ?_⟩
    rw [← resolves.eq_resolve]
    have same : project.monitors.SameBut found.var.value after.monitors := by
      rw [resolves.sameRest.monitors]
      exact Monitors.sameBut_refl _ _
    exact resolves.confined here (.inl same)
  | @scalar name found middle command announcement var refers resolves commanded leaves =>
    refine .inr ⟨name, refers, var, ?_⟩
    rw [← resolves.eq_resolve]
    exact resolves.confined_scalar here commanded leaves
  | @list name found middle command left monitors refers resolves commanded leaves shown =>
    refine .inr ⟨name, refers, left.var, ?_⟩
    rw [← resolves.eq_resolve]
    exact resolves.confined_list here commanded leaves (shown.imp_right And.right)
  | @shown name found middle visible refers resolves commanded =>
    refine .inr ⟨name, refers, found.var, ?_⟩
    rw [← resolves.eq_resolve]
    have toggled := Monitors.toggled_change found.var.id visible project.monitors
    rw [resolves.sameRest.monitors]
    exact resolves.confined here (.inr ⟨isToggle_of_command commanded, visible, toggled⟩)

/-- **A block leaves everything alone but the variable of its reference**, whether it answers or
fails, if the identifier that it may make up is new and no list of a list variable is held elsewhere
too. It leaves no such list held elsewhere, unless it is given one. -/
theorem execute_confined (project : Project) (opcode : Opcode) (arguments : Arguments)
    (destination : Destination) (forMonitor : Bool) {place : Place} {target : Target}
    (reached : project.placeAt destination = .ok place)
    (here : project.target? place = some target)
    (fresh : project.DrawsFresh
      (Step.after (execute opcode.name arguments destination forMonitor) project))
    (unshared : project.Unshared) :
    let after := Step.after (execute opcode.name arguments destination forMonitor) project
    (after = project ∨ ∃ name, opcode.Refers arguments name ∧ ∃ var,
      project.Confined opcode place
        ((project.scope place).resolve name opcode.kind project.supply).1 var after) ∧
      (arguments.Outside project → after.Unshared) := by
  have named : Opcode.ofName opcode.name = .ok opcode := by
    rw [Opcode.ofName, Opcode.ofName?_name]
  refine ⟨?_, fun outside => (unshared.of_execute _ _ _ _ fresh outside).unshared⟩
  rcases ran_execute opcode.name arguments destination forMonitor fresh with
    ⟨other, elsewhere, namedOther, reachedOther, ran⟩ | ⟨same, -⟩
  · cases named.symm.trans namedOther
    cases reached.symm.trans reachedOther
    exact confined_of_ran ran here
  · exact .inl same

theorem execute_confined_emptyRoom :
    let after := Step.after (execute Opcode.addToList.name
      [("LIST", .text "scores"), ("ITEM", .int 1)] (.named "Cat") false) emptyRoom
    emptyRoom.placeAt (.named "Cat") = .ok (.sprite "Cat") ∧
      emptyRoom.target? (.sprite "Cat") = some (.bare "Cat" false) ∧
      emptyRoom.DrawsFresh after ∧
      (after.target? (.sprite "Cat")).map (fun cat => cat.vars.keys) = some [emptyRoom.nextId] ∧
      emptyRoom.Unshared ∧ after.Unshared ∧
      (after = emptyRoom ∨ ∃ name, Opcode.addToList.Refers
          [("LIST", .text "scores"), ("ITEM", .int 1)] name ∧ ∃ var,
        emptyRoom.Confined .addToList (.sprite "Cat")
          ((emptyRoom.scope (.sprite "Cat")).resolve name .list emptyRoom.supply).1 var after) := by
  have fresh (after : Project) : emptyRoom.DrawsFresh after :=
    fun _ place => bare_emptyRoom place emptyRoom.nextId
  have unshared : emptyRoom.Unshared := unshared_of_bare bare_emptyRoom rfl
  obtain ⟨confined, left⟩ := execute_confined emptyRoom .addToList
    [("LIST", .text "scores"), ("ITEM", .int 1)] (.named "Cat") false rfl rfl (fresh _) unshared
  have outside := Arguments.outside_of_plain
    (show ∀ entry ∈ [("LIST", Value.text "scores"), ("ITEM", .int 1)], entry.2.tokens = [] by
      simp [Value.tokens]) emptyRoom
  exact ⟨by decide +kernel, rfl, fresh _, by decide +kernel, unshared, left outside, confined⟩

end Project

end BlockData
