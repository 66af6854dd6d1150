/-
**The server as a mirror of the cloud variables.**

The requests of a project, replayed in order, are all that the server knows. In a project that was
put together from names and has gone through any moves but messages of the server, each scalar cloud
variable is known with its value, or not known and still zero, and the server knows no name that no
cloud variable has (`Project.mirrored_last`). This needs that no two cloud variables are given one
name, and that identifiers that blocks make up are new.

`Project.Mirror` is what every move keeps: besides the above, that cloud variables have different
names.
-/

import BlockData.Project.Assembly
import BlockData.Proofs.Project.Moves

namespace BlockData

/-! ### What the server knows -/

/-- Values under names. -/
abbrev Entries := String → Option Value

/-- The entries with a value under a name, or without one. -/
def Entries.set (entries : Entries) (name : String) (value : Option Value) : Entries :=
  fun asked => if asked = name then value else entries asked

/-- The entries after a request: an update sets a value, a rename moves the entry of the old name if
there is one, a deletion removes one. -/
def CloudRequest.apply (entries : Entries) : CloudRequest → Entries
  | .update (.text name) value => entries.set name (some value)
  | .rename (.text oldName) (.text newName) =>
    match entries oldName with
    | some value => (entries.set oldName none).set newName (some value)
    | none => entries
  | .delete (.text name) => entries.set name none
  | _ => entries

/-- The entries after requests in order. -/
def replay (requests : List CloudRequest) : Entries :=
  requests.foldl CloudRequest.apply fun _ => none

theorem replay_append (requests : List CloudRequest) (request : CloudRequest) :
    replay (requests ++ [request]) = request.apply (replay requests) := by
  unfold replay
  rw [List.foldl_append]
  rfl

namespace Project

/-- A cloud variable at a place and key. -/
def HasCloud (project : Project) (place : Place) (key : String) (var : Variable) : Prop :=
  project.var? place key = some var ∧ var.isCloud = true

/-- The entries are those of the scalar cloud variables, up to variables that are still zero. -/
structure Mirrored (project : Project) (entries : Entries) : Prop where
  values : ∀ place key var, project.HasCloud place key var → var.kind = .scalar →
    entries var.name = some var.value ∨ (entries var.name = none ∧ var.value = .int 0)
  names : ∀ name value, entries name = some value →
    ∃ place key var, project.HasCloud place key var ∧ var.name = name

/-- The requests of the project mirror its cloud variables, which have different names. -/
structure Mirror (project : Project) : Prop where
  mirrored : ∃ requests, project.provider = some requests ∧ project.Mirrored (replay requests)
  apart : ∀ place key var other asked namesake, project.HasCloud place key var →
    project.HasCloud other asked namesake → namesake.name = var.name → other = place ∧ asked = key

end Project

/-- A turn of a run without messages of the server, in which identifiers are new and no two cloud
variables are given one name. -/
def Turn.KeepsNamesApart (turn : ProjectTurn) : Prop :=
  turn.before.DrawsFresh turn.after ∧
  match turn.asked with
  | .create place id name _ wantsCloud =>
    (turn.before.target place).vars.find? id = none →
      (wantsCloud && (turn.before.target place).grantsCloud) = true →
      ∀ other key var, turn.before.HasCloud other key var → var.name ≠ name
  | .rename id name =>
    ∀ place var, turn.before.find? id = some (place, var) → var.isCloud = true →
      ∀ other key namesake, turn.before.HasCloud other key namesake →
        ¬(other = place ∧ key = id) → namesake.name ≠ name
  | .post _ => False
  | _ => True

namespace Project

variable {project : Project} {place : Place} {key : String} {old new : Variable}

/-! ### Changes of variables -/

theorem Mirror.of_same (mirror : project.Mirror) {after : Project}
    (vars : ∀ place key, after.var? place key = project.var? place key)
    (provider : after.provider = project.provider) : after.Mirror := by
  have same (place : Place) (key : String) (var : Variable) :
      after.HasCloud place key var ↔ project.HasCloud place key var := by
    rw [HasCloud, HasCloud, vars]
  obtain ⟨⟨requests, sent, values, names⟩, apart⟩ := mirror
  refine ⟨⟨requests, provider.trans sent, fun place key var cloud => ?_,
    fun name value known => ?_⟩, fun place key var other asked namesake first second => ?_⟩
  · exact values place key var ((same ..).mp cloud)
  · obtain ⟨place, key, var, cloud, named⟩ := names name value known
    exact ⟨place, key, var, (same ..).mpr cloud, named⟩
  · exact apart place key var other asked namesake ((same ..).mp first) ((same ..).mp second)

/-- Another cloud variable has another name. -/
theorem Mirror.name_ne (mirror : project.Mirror) (cloud : project.HasCloud place key old)
    {other : Place} {asked : String} {var : Variable} (clouded : project.HasCloud other asked var)
    (differs : ¬(other = place ∧ asked = key)) : var.name ≠ old.name :=
  fun named => differs (mirror.apart place key old other asked var cloud clouded named)

/-- What is known by a name that a variable does not have on the server is known of another one. -/
theorem Mirrored.of_other {entries : Entries} (mirrored : project.Mirrored entries)
    (kept : project.var? place key = some old) {name : String} {value : Value}
    (present : entries name = some value) (foreign : old.isCloud = true → name ≠ old.name) :
    ∃ other asked var, project.HasCloud other asked var ∧ ¬(other = place ∧ asked = key) ∧
      var.name = name := by
  obtain ⟨other, asked, var, cloud, named⟩ := mirrored.names name value present
  refine ⟨other, asked, var, cloud, ?_, named⟩
  rintro ⟨rfl, rfl⟩
  cases kept.symm.trans cloud.1
  exact foreign cloud.2 named.symm

/-- A change of the variable at one place and key keeps the mirror, if the entries follow it and its
name is no other cloud variable's. -/
theorem Mirror.of_change (mirror : project.Mirror) {after : Project}
    {requests later : List CloudRequest} (mirrored : project.Mirrored (replay requests))
    (sent : after.provider = some later)
    (elsewhere : ∀ other asked, ¬(other = place ∧ asked = key) →
      after.var? other asked = project.var? other asked)
    (free : ∀ var, after.HasCloud place key var → ∀ other asked namesake,
      project.HasCloud other asked namesake → ¬(other = place ∧ asked = key) →
        namesake.name ≠ var.name)
    (own : ∀ var, after.HasCloud place key var → var.kind = .scalar →
      replay later var.name = some var.value ∨
        (replay later var.name = none ∧ var.value = .int 0))
    (others : ∀ other asked var, project.HasCloud other asked var →
      ¬(other = place ∧ asked = key) → replay later var.name = replay requests var.name)
    (known : ∀ name value, replay later name = some value →
      (∃ var, after.HasCloud place key var ∧ var.name = name) ∨
        ∃ other asked var, project.HasCloud other asked var ∧
          ¬(other = place ∧ asked = key) ∧ var.name = name) : after.Mirror := by
  have before {other : Place} {asked : String} {var : Variable}
      (differs : ¬(other = place ∧ asked = key)) (cloud : after.HasCloud other asked var) :
      project.HasCloud other asked var :=
    ⟨(elsewhere other asked differs).symm.trans cloud.1, cloud.2⟩
  refine ⟨⟨later, sent, ?values, ?names⟩, ?apart⟩
  case values =>
    intro other asked var cloud scalar
    by_cases here : other = place ∧ asked = key
    · rw [here.1, here.2] at cloud
      exact own var cloud scalar
    · rw [others other asked var (before here cloud) here]
      exact mirrored.values other asked var (before here cloud) scalar
  case names =>
    intro name value present
    rcases known name value present with
      ⟨var, cloud, named⟩ | ⟨other, asked, var, cloud, differs, named⟩
    · exact ⟨place, key, var, cloud, named⟩
    · exact ⟨other, asked, var, ⟨(elsewhere other asked differs).trans cloud.1, cloud.2⟩, named⟩
  case apart =>
    intro one asked var other asking namesake first second same
    by_cases here : one = place ∧ asked = key
    · by_cases there : other = place ∧ asking = key
      · exact ⟨there.1.trans here.1.symm, there.2.trans here.2.symm⟩
      · rw [here.1, here.2] at first
        exact absurd same (free var first other asking namesake (before there second) there)
    · by_cases there : other = place ∧ asking = key
      · rw [there.1, there.2] at second
        exact absurd same.symm (free namesake second one asked var (before here first) here)
      · exact mirror.apart one asked var other asking namesake (before here first)
          (before there second) same

/-- The second variable is the same to the server as the first one. -/
structure SameToServer (before after : Variable) : Prop where
  isCloud : after.isCloud = before.isCloud
  name : before.isCloud = true → after.name = before.name
  kind : before.isCloud = true → after.kind = before.kind
  value : before.isCloud = true → before.kind = .scalar → after.value = before.value

/-- A change that the server need not hear of keeps the mirror. -/
theorem Mirror.put_same (mirror : project.Mirror) (kept : project.var? place key = some old)
    (same : SameToServer old new) : (project.put place key new).Mirror := by
  obtain ⟨requests, sent, mirrored⟩ := mirror.mirrored
  have now {var : Variable} (cloud : (project.put place key new).HasCloud place key var) :
      var = new ∧ project.HasCloud place key old := by
    obtain ⟨found, flagged⟩ := cloud
    rw [var?_put_self kept new, Option.some.injEq] at found
    rw [← found, same.isCloud] at flagged
    exact ⟨found.symm, kept, flagged⟩
  refine mirror.of_change mirrored ((provider_updateTarget ..).trans sent)
    (fun _ _ differs => var?_put_of_ne differs new) ?free ?own (fun _ _ _ _ _ => rfl) ?known
  case free =>
    intro var cloud other asked namesake clouded differs named
    obtain ⟨rfl, old⟩ := now cloud
    rw [same.name old.2] at named
    exact mirror.name_ne old clouded differs named
  case own =>
    intro var cloud scalar
    obtain ⟨rfl, old⟩ := now cloud
    have wasScalar := (same.kind old.2).symm.trans scalar
    rw [same.name old.2, same.value old.2 wasScalar]
    exact mirrored.values _ _ _ old wasScalar
  case known =>
    intro name value present
    obtain ⟨other, asked, var, cloud, named⟩ := mirrored.names name value present
    by_cases here : other = place ∧ asked = key
    · obtain ⟨rfl, rfl⟩ := here
      cases kept.symm.trans cloud.1
      refine .inl ⟨new, ⟨var?_put_self kept new, same.isCloud.trans cloud.2⟩, ?_⟩
      exact (same.name cloud.2).trans named
    · exact .inr ⟨other, asked, var, cloud, here, named⟩

/-- A new variable keeps the mirror, if it starts with zero and its name is no other cloud
variable's. -/
theorem Mirror.put_new (mirror : project.Mirror) (absent : project.var? place key = none)
    (free : new.isCloud = true → ∀ other asked var, project.HasCloud other asked var →
      var.name ≠ new.name)
    (zero : new.kind = .scalar → new.value = .int 0) : (project.put place key new).Mirror := by
  obtain ⟨requests, sent, mirrored⟩ := mirror.mirrored
  have now {var : Variable} (cloud : (project.put place key new).HasCloud place key var) :
      var = new ∧ new.isCloud = true := by
    rcases var?_put_cases cloud.1 with ⟨-, -, same⟩ | ⟨differs, -⟩
    · exact ⟨same, same ▸ cloud.2⟩
    · exact absurd ⟨rfl, rfl⟩ differs
  refine mirror.of_change mirrored ((provider_updateTarget ..).trans sent)
    (fun _ _ differs => var?_put_of_ne differs new) ?free ?own (fun _ _ _ _ _ => rfl) ?known
  case free =>
    intro var cloud other asked namesake clouded _
    obtain ⟨rfl, flagged⟩ := now cloud
    exact free flagged other asked namesake clouded
  case own =>
    intro var cloud scalar
    obtain ⟨rfl, flagged⟩ := now cloud
    cases present : replay requests var.name with
    | none => exact .inr ⟨rfl, zero scalar⟩
    | some value =>
      obtain ⟨other, asked, namesake, clouded, named⟩ := mirrored.names var.name value present
      exact absurd named (free flagged other asked namesake clouded)
  case known =>
    intro name value present
    obtain ⟨other, asked, var, cloud, named⟩ := mirrored.names name value present
    refine .inr ⟨other, asked, var, cloud, ?_, named⟩
    rintro ⟨rfl, rfl⟩
    cases absent.symm.trans cloud.1

/-! ### Requests -/

theorem Entries.set_same (entries : Entries) (name : String) (value : Option Value) :
    entries.set name value name = value :=
  if_pos rfl

theorem Entries.set_of_ne {asked name : String} (differs : asked ≠ name) (entries : Entries)
    (value : Option Value) : entries.set name value asked = entries asked :=
  if_neg differs

theorem provider_send {requests : List CloudRequest} (sent : project.provider = some requests)
    (request : CloudRequest) : (project.send request).provider = some (requests ++ [request]) := by
  show project.provider.map _ = _
  rw [sent]
  rfl

theorem hasCloud_put (kept : project.var? place key = some old) (flagged : new.isCloud = true)
    (request : CloudRequest) : ((project.put place key new).send request).HasCloud place key new :=
  ⟨(var?_send ..).trans (var?_put_self kept new), flagged⟩

theorem eq_of_hasCloud_put (kept : project.var? place key = some old) {request : CloudRequest}
    {var : Variable} (cloud : ((project.put place key new).send request).HasCloud place key var) :
    var = new := by
  have found := cloud.1
  rw [var?_send, var?_put_self kept, Option.some.injEq] at found
  exact found.symm

/-- A new value that is sent keeps the mirror. -/
theorem Mirror.put_update (mirror : project.Mirror) (cloud : project.HasCloud place key old)
    (value : Value) :
    ((project.put place key { old with value }).send (.update (.text old.name) value)).Mirror := by
  obtain ⟨requests, sent, mirrored⟩ := mirror.mirrored
  have entries : replay (requests ++ [.update (.text old.name) value]) =
      (replay requests).set old.name (some value) := replay_append ..
  refine mirror.of_change mirrored (provider_send ((provider_updateTarget ..).trans sent) _)
    (fun _ _ differs => (var?_send ..).trans (var?_put_of_ne differs _)) ?free ?own ?others ?known
  case free =>
    intro var after other asked namesake clouded differs
    cases eq_of_hasCloud_put cloud.1 after
    exact mirror.name_ne cloud clouded differs
  case own =>
    intro var after scalar
    cases eq_of_hasCloud_put cloud.1 after
    rw [entries]
    exact .inl (Entries.set_same ..)
  case others =>
    intro other asked var clouded differs
    rw [entries]
    exact Entries.set_of_ne (mirror.name_ne cloud clouded differs) ..
  case known =>
    intro name present known
    rw [entries] at known
    by_cases named : name = old.name
    · have flagged : Variable.isCloud { old with value } = true := cloud.2
      exact .inl ⟨{ old with value }, hasCloud_put cloud.1 flagged _, named.symm⟩
    · rw [Entries.set_of_ne named] at known
      exact .inr (mirrored.of_other cloud.1 known fun _ => named)

section Rename

variable {entries : Entries} {oldName newName : String}

theorem apply_rename_of_some {value : Value} (known : entries oldName = some value) :
    (CloudRequest.rename (.text oldName) (.text newName)).apply entries =
      (entries.set oldName none).set newName (some value) := by
  simp only [CloudRequest.apply, known]

theorem apply_rename_of_none (unknown : entries oldName = none) :
    (CloudRequest.rename (.text oldName) (.text newName)).apply entries = entries := by
  simp only [CloudRequest.apply, unknown]

/-- What is known by other names is known by them after a rename. -/
theorem apply_rename_of_ne {asked : String} (notOld : asked ≠ oldName) (notNew : asked ≠ newName) :
    (CloudRequest.rename (.text oldName) (.text newName)).apply entries asked = entries asked := by
  cases known : entries oldName with
  | none => rw [apply_rename_of_none known]
  | some value =>
    rw [apply_rename_of_some known, Entries.set_of_ne notNew, Entries.set_of_ne notOld]

/-- What was known by the old name is known by the new one, if that was no other one's. -/
theorem apply_rename_new (free : newName = oldName ∨ entries newName = none) :
    (CloudRequest.rename (.text oldName) (.text newName)).apply entries newName =
      entries oldName := by
  cases known : entries oldName with
  | some value => rw [apply_rename_of_some known, Entries.set_same]
  | none =>
    rw [apply_rename_of_none known]
    rcases free with same | absent
    · rw [same, known]
    · exact absent

theorem apply_rename_old (differs : oldName ≠ newName) :
    (CloudRequest.rename (.text oldName) (.text newName)).apply entries oldName = none := by
  cases known : entries oldName with
  | none => rw [apply_rename_of_none known, known]
  | some value => rw [apply_rename_of_some known, Entries.set_of_ne differs, Entries.set_same]

end Rename

/-- A new name that is sent keeps the mirror, if no other cloud variable has it. -/
theorem Mirror.put_rename (mirror : project.Mirror) (cloud : project.HasCloud place key old)
    {name : String} (free : ∀ other asked namesake, project.HasCloud other asked namesake →
      ¬(other = place ∧ asked = key) → namesake.name ≠ name) :
    ((project.put place key { old with name }).send
      (.rename (.text old.name) (.text name))).Mirror := by
  obtain ⟨requests, sent, mirrored⟩ := mirror.mirrored
  have unknown : name = old.name ∨ replay requests name = none := by
    by_cases same : name = old.name
    · exact .inl same
    · refine .inr (Option.eq_none_iff_forall_ne_some.mpr fun value present => ?_)
      obtain ⟨other, asked, var, clouded, differs, named⟩ :=
        mirrored.of_other cloud.1 present fun _ => same
      exact free other asked var clouded differs named
  have entries := replay_append requests (.rename (.text old.name) (.text name))
  refine mirror.of_change mirrored (provider_send ((provider_updateTarget ..).trans sent) _)
    (fun _ _ differs => (var?_send ..).trans (var?_put_of_ne differs _)) ?free ?own ?others ?known
  case free =>
    intro var after other asked namesake clouded differs
    cases eq_of_hasCloud_put cloud.1 after
    exact free other asked namesake clouded differs
  case own =>
    intro var after scalar
    cases eq_of_hasCloud_put cloud.1 after
    rw [entries, apply_rename_new unknown]
    exact mirrored.values place key old cloud scalar
  case others =>
    intro other asked var clouded differs
    rw [entries]
    exact apply_rename_of_ne (mirror.name_ne cloud clouded differs)
      (free other asked var clouded differs)
  case known =>
    intro asked value present
    rw [entries] at present
    by_cases renamed : asked = name
    · have flagged : Variable.isCloud { old with name } = true := cloud.2
      exact .inl ⟨{ old with name }, hasCloud_put cloud.1 flagged _, renamed.symm⟩
    · have foreign : asked ≠ old.name := by
        rintro rfl
        cases (apply_rename_old renamed).symm.trans present
      rw [apply_rename_of_ne foreign renamed] at present
      exact .inr (mirrored.of_other cloud.1 present fun _ => foreign)

theorem not_hasCloud_remove {var : Variable} :
    ¬ (project.remove place key).HasCloud place key var := by
  rintro ⟨found, -⟩
  rw [var?_remove, if_pos ⟨rfl, rfl⟩] at found
  cases found

/-- A deletion that is sent keeps the mirror. -/
theorem Mirror.remove (mirror : project.Mirror) (cloud : project.HasCloud place key old) :
    ((project.remove place key).send (.delete (.text old.name))).Mirror := by
  obtain ⟨requests, sent, mirrored⟩ := mirror.mirrored
  have gone {var : Variable} (after : ((project.remove place key).send
      (.delete (.text old.name))).HasCloud place key var) : False :=
    not_hasCloud_remove ⟨(var?_send ..).symm.trans after.1, after.2⟩
  have entries : replay (requests ++ [.delete (.text old.name)]) =
      (replay requests).set old.name none := replay_append ..
  refine mirror.of_change mirrored (provider_send ((provider_updateTarget ..).trans sent) _)
    (fun _ _ differs => ?_) (fun _ after => (gone after).elim) (fun _ after => (gone after).elim)
    ?others ?known
  · rw [var?_send, var?_remove, if_neg differs]
  case others =>
    intro other asked var clouded differs
    rw [entries]
    exact Entries.set_of_ne (mirror.name_ne cloud clouded differs) ..
  case known =>
    intro name value present
    rw [entries] at present
    have foreign : name ≠ old.name := by
      rintro rfl
      cases (Entries.set_same ..).symm.trans present
    rw [Entries.set_of_ne foreign] at present
    exact .inr (mirrored.of_other cloud.1 present fun _ => foreign)

/-- So does the deletion of a variable that is no cloud variable, which is not sent. -/
theorem Mirror.remove_other (mirror : project.Mirror) (kept : project.var? place key = some old)
    (plain : ¬ old.isCloud = true) : (project.remove place key).Mirror := by
  obtain ⟨requests, sent, mirrored⟩ := mirror.mirrored
  refine mirror.of_change mirrored ((provider_updateTarget ..).trans sent)
    (fun _ _ differs => ?_) (fun _ after => (not_hasCloud_remove after).elim)
    (fun _ after => (not_hasCloud_remove after).elim) (fun _ _ _ _ _ => rfl) ?known
  · rw [var?_remove, if_neg differs]
  case known =>
    intro name value present
    exact .inr (mirrored.of_other kept present fun flagged => absurd flagged plain)

/-! ### Blocks -/

section Blocks

variable {middle after : Project} {opcode : Opcode} {arguments : Arguments} {forMonitor : Bool}
  {name : String} {kind : Kind} {found : Found}

theorem Mirror.of_fields (mirror : project.Mirror) (monitors : Monitors) (supply : Supply) :
    Mirror { project with monitors, supply } :=
  mirror.of_same (fun place _ => by cases place <;> rfl) rfl

/-- Resolving a reference keeps the mirror: what it creates is no cloud variable. -/
theorem Mirror.of_resolves (mirror : project.Mirror)
    (resolves : project.Resolves place name kind found middle) : middle.Mirror := by
  cases resolves with
  | known found seen => exact mirror
  | created tier unseen made nearest tiered unused =>
    let new := (project.newcomer name kind).1
    have zero (scalar : new.kind = .scalar) : new.value = .int 0 := by
      have scalar : kind = .scalar := scalar
      subst scalar
      rfl
    have put : (project.put (project.near place) project.nextId new).Mirror :=
      mirror.put_new (unused (project.near place)) (fun flagged => by cases flagged) zero
    exact put.of_fields _ _

/-- A command that succeeds on a scalar keeps the mirror: what it changes of a cloud variable is
sent. -/
theorem Mirror.of_scalar (mirror : project.Mirror) (located : project.Located place found)
    {command : ScalarCommand} {announcement : Option Announcement} {var : Variable}
    (leaves : command.Leaves found.var announcement var) :
    ((project.put (found.home place) found.key var).announce announcement).Mirror := by
  cases leaves with
  | same =>
    rw [put_self located.kept]
    exact mirror
  | changed value given =>
    by_cases flagged : found.var.isCloud = true
    · have announced : Variable.announcement? { found.var with value } =
          some ⟨found.var.name, value⟩ := if_pos flagged
      have sent := mirror.put_update ⟨located.kept, flagged⟩ value
      rw [announced]
      exact sent
    · have silent : Variable.announcement? { found.var with value } = none := if_neg flagged
      rw [silent]
      exact mirror.put_same located.kept
        ⟨rfl, fun _ => rfl, fun _ => rfl, fun cloud _ => absurd cloud flagged⟩

/-- A command on a list keeps the mirror: the server knows no lists. -/
theorem Mirror.of_list (mirror : project.Mirror) {var : Variable}
    (kept : project.var? place key = some var) (listed : var.kind = .list) {held left : Held}
    (same : held.SameVariable left) (inHand : held.var = var) :
    (project.put place key left.var).Mirror := by
  subst inHand
  refine mirror.put_same kept ⟨same.isCloud, fun _ => same.name, fun _ => same.kind, ?_⟩
  intro _ scalar
  cases listed.symm.trans scalar

theorem Mirror.of_ran (mirror : project.Mirror)
    (ran : project.Ran opcode arguments place forMonitor after) : after.Mirror := by
  cases ran with
  | idle quiet => exact mirror
  | resolved refers resolves quiet => exact mirror.of_resolves resolves
  | scalar refers resolves commanded leaves =>
    exact (mirror.of_resolves resolves).of_scalar resolves.located leaves
  | @list name found middle command left monitors refers resolves commanded leaves shown =>
    have listed := resolves.list_of_command commanded
    have same : Held.SameVariable ⟨found.var, middle.supply⟩ left := by
      rw [leaves]
      exact command.within_run _
    have put := (mirror.of_resolves resolves).of_list resolves.located.kept listed same rfl
    exact put.of_fields _ _
  | shown refers resolves commanded => exact (mirror.of_resolves resolves).of_fields _ _

theorem Mirror.of_call (mirror : project.Mirror) (call : Call)
    (fresh : project.DrawsFresh (Step.after call.perform project)) :
    (Step.after call.perform project).Mirror := by
  rcases ran_execute call.opcode call.arguments call.destination call.forMonitor fresh with
    ⟨opcode, place, -, -, ran⟩ | ⟨same, -⟩
  · exact mirror.of_ran ran
  · have same : Step.after call.perform project = project := same
    rw [same]
    exact mirror

end Blocks

/-! ### Moves -/

/-- Polling a monitor keeps the mirror. -/
theorem within_pollOne_mirror (id : String) :
    Step.Within (Step.Carries Mirror) (pollOne id) := by
  intro project mirror
  cases found : project.find? id with
  | none =>
    rw [after_pollOne_of_absent found]
    exact mirror
  | some entry =>
    obtain ⟨place, var⟩ := entry
    have kept := var?_of_find? found
    have valued : (Step.after (monitorValue place id var) project).Mirror := by
      by_cases listed : var.kind = .list
      · rw [after_monitorValue_of_list kept listed]
        have same := (ListCommand.contents true).within_run ⟨var, project.supply⟩
        exact (mirror.of_list kept listed same rfl).of_fields _ _
      · rw [monitorValue_of_not_list listed]
        exact mirror
    obtain ⟨monitors, left⟩ := after_pollOne_of_found found
    rw [left]
    exact valued.of_fields monitors _

theorem Mirror.of_create (mirror : project.Mirror) {id name : String} {kind : Kind}
    {wantsCloud : Bool}
    (free : (project.target place).vars.find? id = none →
      (wantsCloud && (project.target place).grantsCloud) = true →
      ∀ other key var, project.HasCloud other key var → var.name ≠ name) :
    (Step.after (createVariable place id name kind wantsCloud) project).Mirror := by
  cases taken : (project.target place).vars.find? id with
  | some var =>
    rw [after_create_of_taken taken]
    exact mirror
  | none =>
    rw [after_create_of_absent taken]
    have zero : (project.created place id name kind wantsCloud).1.kind = .scalar →
        (project.created place id name kind wantsCloud).1.value = .int 0 := by
      intro scalar
      have scalar : kind = .scalar := scalar
      subst scalar
      rfl
    cases here : project.target? place with
    | none =>
      rw [put_of_absent here]
      exact mirror.of_fields _ _
    | some target =>
      have absent : project.var? place id = none := by
        rw [target_eq here] at taken
        rw [var?, here]
        exact taken
      exact (mirror.put_new absent (free taken) zero).of_fields _ _

theorem Mirror.of_rename (mirror : project.Mirror) {id name : String}
    (free : ∀ place var, project.find? id = some (place, var) → var.isCloud = true →
      ∀ other key namesake, project.HasCloud other key namesake →
        ¬(other = place ∧ key = id) → namesake.name ≠ name) :
    (Step.after (renameVariable id name) project).Mirror := by
  cases found : project.find? id with
  | none =>
    rw [after_rename_of_absent found]
    exact mirror
  | some entry =>
    obtain ⟨place, var⟩ := entry
    have kept := var?_of_find? found
    rw [after_rename found]
    by_cases flagged : var.isCloud = true
    · simp only [if_pos flagged]
      exact mirror.put_rename ⟨kept, flagged⟩ (free place var found flagged)
    · simp only [if_neg flagged]
      exact mirror.put_same kept
        ⟨rfl, fun cloud => absurd cloud flagged, fun _ => rfl, fun _ _ => rfl⟩

theorem Mirror.of_delete (mirror : project.Mirror) (id : String) :
    (Step.after (deleteVariable id) project).Mirror := by
  cases found : project.find? id with
  | none =>
    rw [after_delete_of_absent found]
    exact mirror
  | some entry =>
    obtain ⟨place, var⟩ := entry
    have kept := var?_of_find? found
    rw [after_delete found]
    by_cases flagged : var.isCloud = true
    · simp only [if_pos flagged]
      exact mirror.remove ⟨kept, flagged⟩
    · simp only [if_neg flagged]
      exact mirror.remove_other kept flagged

/-- **A move that keeps names apart keeps the mirror.** -/
theorem Mirror.of_move (mirror : project.Mirror) (move : Move)
    (fair : (Run.turn Move.perform project move).KeepsNamesApart) :
    (Step.after move.perform project).Mirror := by
  obtain ⟨fresh, apart⟩ := fair
  have fresh : project.DrawsFresh (Step.after move.perform project) := fresh
  cases move with
  | run call =>
    rw [Move.after_run] at fresh ⊢
    exact mirror.of_call call fresh
  | create place id name kind wantsCloud =>
    rw [Move.after_create]
    exact mirror.of_create apart
  | rename id name =>
    rw [Move.after_rename]
    exact mirror.of_rename apart
  | delete id =>
    rw [Move.after_delete]
    exact mirror.of_delete id
  | edit target =>
    obtain ⟨editing, left⟩ := Move.after_edit project target
    rw [left]
    exact mirror.of_same (fun place _ => by cases place <;> rfl) rfl
  | poll =>
    rw [Move.after_poll]
    exact within_poll within_pollOne_mirror project mirror
  | post message => exact apart.elim

/-! ### Projects put together from names -/

theorem mirror_of_bare (bare : project.Bare) (silent : project.provider = some []) :
    project.Mirror := by
  have none {place : Place} {key : String} {var : Variable}
      (cloud : project.HasCloud place key var) : False := by
    have found := cloud.1
    rw [bare] at found
    cases found
  refine ⟨⟨[], silent, fun _ _ _ cloud => (none cloud).elim, fun _ _ known => ?_⟩,
    fun _ _ _ _ _ _ cloud => (none cloud).elim⟩
  cases known

/-- The sprites after one without variables was added have none if they had none. -/
theorem bare_addSprite {sprites made : Keyed Target} {first : String}
    (bare : ∀ name sprite, sprites.find? name = some sprite → sprite.vars = .empty)
    (added : addSprite sprites (.built (.bare first false)) = .ok made) :
    ∀ name sprite, made.find? name = some sprite → sprite.vars = .empty := by
  have adding : addSprite sprites (.built (.bare first false)) =
      if (sprites.find? first).isSome then .error (.duplicateSprite first)
      else .ok (sprites.insert first (.bare first false)) := by
    cases present : (sprites.find? first).isSome <;>
      simp [addSprite, TargetSource.builtTarget, Target.bare, present, bind, Except.bind] <;> rfl
  rw [adding] at added
  split at added
  next => cases added
  next =>
    cases added
    intro name sprite found
    rw [Keyed.find?_insert] at found
    split at found
    next =>
      cases found
      rfl
    next => exact bare name sprite found

theorem bare_foldlM_addSprite (names : List String) {sprites made : Keyed Target}
    (bare : ∀ name sprite, sprites.find? name = some sprite → sprite.vars = .empty)
    (ran : (names.map fun name => TargetSource.built (.bare name false)).foldlM addSprite sprites =
      .ok made) :
    ∀ name sprite, made.find? name = some sprite → sprite.vars = .empty := by
  induction names generalizing sprites with
  | nil =>
    cases ran
    exact bare
  | cons first rest hypothesis =>
    obtain ⟨more, added, others⟩ := exists_of_bind_eq_ok ran
    exact hypothesis (bare_addSprite bare added) others

theorem mapM_settle (names : List String) :
    (names.map fun name => TargetSource.other (.text name)).mapM
        (fun source => source.settle false) =
      .ok (names.map fun name => Target.bare name false) := by
  induction names with
  | nil => rfl
  | cons first rest hypothesis =>
    rw [List.map_cons, List.mapM_cons, hypothesis]
    rfl

/-- A project that is put together from names has no variables. -/
theorem bare_of_create {stage : String} {names : List String}
    {provider : Option (List CloudRequest)} {monitors : Monitors} {supply : Supply}
    (made : create (.other (.text stage)) (names.map fun name => .other (.text name)) provider
      monitors supply = .ok project) : project.Bare ∧ project.provider = provider := by
  unfold create at made
  rw [mapM_settle] at made
  obtain ⟨first, settled, made⟩ := exists_of_bind_eq_ok made
  cases settled
  have made : assemble (.built (.bare stage true))
      ((names.map fun name => Target.bare name false).map .built) provider monitors supply =
        .ok project := made
  rw [List.map_map] at made
  obtain ⟨own, isStage, made⟩ := exists_of_bind_eq_ok made
  cases isStage
  obtain ⟨sprites, added, made⟩ := exists_of_bind_eq_ok made
  cases made
  refine ⟨fun place key => ?_, rfl⟩
  cases place with
  | stage => rfl
  | sprite name =>
    have bare := bare_foldlM_addSprite names (fun name sprite found => by cases found) added
    show (sprites.find? name).bind _ = none
    cases found : sprites.find? name with
    | none => rfl
    | some sprite =>
      show sprite.vars.find? key = none
      rw [bare name sprite found]
      rfl

/-- **The server mirrors the cloud variables** at the end of every run of moves that keep names
apart, from a project that was put together from names. -/
theorem mirrored_last (stage : String) (names : List String) (monitors : Monitors) (supply : Supply)
    (made : create (.other (.text stage)) (names.map fun name => .other (.text name)) (some [])
      monitors supply = .ok project) (moves : List Move)
    (apart : ∀ turn ∈ Run.turns Move.perform project moves, turn.KeepsNamesApart) :
    ∃ requests, (Run.last Move.perform project moves).provider = some requests ∧
      (Run.last Move.perform project moves).Mirrored (replay requests) := by
  obtain ⟨bare, silent⟩ := bare_of_create made
  have kept := Run.invariant_last Mirror Turn.KeepsNamesApart
    (fun project move mirror fair => mirror.of_move move fair) (mirror_of_bare bare silent) moves
    apart
  exact kept.mirrored

/-- Creating a cloud variable, setting it on a sprite, polling, and deleting it. -/
def scoreMoves : List Move :=
  [.create .stage "c1" "score" .scalar true,
    .run ⟨"data_setvariableto", [("VARIABLE", .text "score"), ("VALUE", .int 5)], .named "Cat",
      false⟩,
    .poll, .delete "c1"]

theorem mirrored_scoreMoves :
    create (.other (.text "Stage")) (["Cat"].map fun name => .other (.text name)) (some [])
        (.registry .empty) emptyRoom.supply = .ok emptyRoom ∧
      (∀ turn ∈ Run.turns Move.perform emptyRoom scoreMoves, turn.KeepsNamesApart) ∧
      (Run.turns Move.perform emptyRoom scoreMoves).map
          (fun turn => turn.after.provider.map List.length) =
        [some 0, some 1, some 1, some 2] ∧
      ∃ requests, (Run.last Move.perform emptyRoom scoreMoves).provider = some requests ∧
        (Run.last Move.perform emptyRoom scoreMoves).Mirrored (replay requests) := by
  have apart : ∀ turn ∈ Run.turns Move.perform emptyRoom scoreMoves, turn.KeepsNamesApart := by
    intro turn member
    rcases List.mem_cons.mp member with rfl | member
    · refine ⟨fun drawn => absurd rfl drawn, fun _ _ other key var cloud => ?_⟩
      cases (bare_emptyRoom other key).symm.trans cloud.1
    rcases List.mem_cons.mp member with rfl | member
    · exact ⟨fun drawn => absurd (by decide +kernel) drawn, trivial⟩
    rcases List.mem_cons.mp member with rfl | member
    · exact ⟨fun drawn => absurd (by decide +kernel) drawn, trivial⟩
    rcases List.mem_cons.mp member with rfl | member
    · exact ⟨fun drawn => absurd (by decide +kernel) drawn, trivial⟩
    cases member
  refine ⟨rfl, apart, by decide +kernel, ?_⟩
  exact mirrored_last "Stage" ["Cat"] (.registry .empty) emptyRoom.supply rfl scoreMoves apart

end Project

end BlockData
