/-
**Projects under watch.**

A monitor shows a list that its registry knows by a token. For polls to tell what changed, three
things have to agree in every state: the list that commands change, the snapshot that is up to date
with it, and the record of what was shown. `Project.Orderly` says so of the variables, with keys and
tokens that are told apart, `Project.Registered` of the records, and `Project.Watched` of both. That
every list variable has a list of its own, `Project.OwnLists`, is taken for granted of the project
at the start and kept by every call: a change of a list in place would otherwise be seen in two
places.

* `Project.Watched.of_call`: every call keeps a project under watch.
-/

import BlockData.Proofs.Listing.Snapshots
import BlockData.Proofs.Project.Moves
import BlockData.Proofs.Registry

namespace BlockData

namespace Project

/-- A list variable with a snapshot that is up to date. -/
def Offers (project : Project) (place : Place) (key : String) (var : Variable)
    (snapshot : Snapshot) : Prop :=
  project.var? place key = some var ∧ var.kind = .list ∧
    Held.Shows ⟨var, project.supply⟩ snapshot

/-- No two list variables hold one list, so that what changes one of them in place does not change
the other one. -/
def OwnLists (project : Project) : Prop :=
  ∀ place key var token items other asked namesake others,
    project.var? place key = some var → var.kind = .list → var.value = .list token items →
    project.var? other asked = some namesake → namesake.kind = .list →
    namesake.value = .list token others → other = place ∧ asked = key

/-- The variables of a project are told apart by their keys, and its lists by their tokens. -/
structure Orderly (project : Project) : Prop where
  /-- Variables are kept under their identifiers. -/
  keyed : ∀ place key var, project.var? place key = some var → var.id = key
  /-- No identifier is at two places. -/
  alone : ∀ place other key var namesake, project.var? place key = some var →
    project.var? other key = some namesake → other = place
  /-- List variables hold lists, and a snapshot that is up to date has the same items. -/
  sound : ∀ place key var, project.var? place key = some var → var.kind = .list →
    Held.Sound ⟨var, project.supply⟩
  /-- Every list variable has a list of its own. -/
  own : project.OwnLists
  /-- A snapshot is no list that commands change. -/
  apart : ∀ place key var snapshot other asked live, project.Offers place key var snapshot →
    project.var? other asked = some live → live.kind = .list →
      Held.Apart snapshot.token ⟨live, project.supply⟩
  /-- Lists that other variables hold were made before. -/
  made : ∀ place key var token items, project.var? place key = some var → var.kind ≠ .list →
    var.value = .list token items → token < project.supply.tokensUsed

/-- The registry of a project shows lists that were made before, and the snapshot of a list with the
items of the snapshot. -/
structure Registered (project : Project) (known : Registry) : Prop where
  registry : project.monitors = .registry known
  made : ∀ id token, known.ShowsList id token → token < project.supply.tokensUsed
  shown : ∀ place key var snapshot record items, project.Offers place key var snapshot →
    known.records.find? key = some record → record.value = .list snapshot.token items →
      items = snapshot.items

/-- A project with a registry whose variables and records agree. -/
structure Watched (project : Project) : Prop where
  orderly : project.Orderly
  registered : ∃ known, project.Registered known

end Project

/-- The lists among the arguments of a call were made before. -/
def Call.Presentable (call : Call) (supply : Supply) : Prop :=
  ∀ name token items, call.arguments.read name = .ok (.list token items) → token < supply.tokensUsed

/-- A call without lists among its arguments is presentable. -/
theorem Call.presentable_of_plain {call : Call} {supply : Supply}
    (plain : ∀ entry ∈ call.arguments, ∀ token items, entry.2 ≠ .list token items) :
    call.Presentable supply := by
  intro name token items read
  exact absurd rfl (plain _ (Arguments.mem_of_read read) token items)

/-- A turn of a run without messages of the server, in which identifiers are new and arguments are
there already. -/
def Turn.Sensible (turn : ProjectTurn) : Prop :=
  turn.before.DrawsFresh turn.after ∧
  match turn.asked with
  | .run call => call.Presentable turn.before.supply
  | .create _ id _ _ _ => turn.before.find? id = none
  | .post _ => False
  | _ => True

/-! ### Variables in hand -/

section Held

variable {var : Variable} {supply later : Supply}

theorem Held.Apart.mono {token : Nat} (apart : Held.Apart token ⟨var, supply⟩)
    (more : supply.tokensUsed ≤ later.tokensUsed) : Held.Apart token ⟨var, later⟩ :=
  ⟨Nat.lt_of_lt_of_le apart.1 more, apart.2⟩

theorem Held.Sound.mono (sound : Held.Sound ⟨var, supply⟩)
    (more : supply.tokensUsed ≤ later.tokensUsed) : Held.Sound ⟨var, later⟩ := by
  obtain ⟨⟨token, items, listed, old⟩, current⟩ := sound
  refine ⟨⟨token, items, listed, Nat.lt_of_lt_of_le old more⟩, fun snapshot shows => ?_⟩
  obtain ⟨same, apart⟩ := current snapshot shows
  exact ⟨same, apart.mono more⟩

/-- A snapshot that a command leaves up to date was so before or is new. -/
theorem ListCommand.Leaves.shows_cases {command : ListCommand} {held left : Held} {token : Nat}
    {items : List Value} (leaves : command.Leaves held token items left) {snapshot : Snapshot}
    (shows : left.Shows snapshot) :
    held.Shows snapshot ∨
      (snapshot.token = held.supply.tokensUsed ∧
        held.supply.tokensUsed < left.supply.tokensUsed) := by
  cases leaves with
  | same used idle => exact .inl shows
  | altered used changed effect inPlace =>
    exact absurd shows (Held.not_shows_of_stale rfl snapshot)
  | cleared used effect => exact absurd shows (Held.not_shows_of_stale rfl snapshot)
  | copied read stale =>
    cases Held.shows_unique shows (Held.shows_copied held items)
    exact .inr ⟨rfl, Nat.lt_succ_self _⟩

/-- A command leaves the list that there was or a new one. -/
theorem ListCommand.Leaves.token_cases {command : ListCommand} {held left : Held} {token own : Nat}
    {items now : List Value} (leaves : command.Leaves held token items left)
    (listed : held.var.value = .list token items) (value : left.var.value = .list own now) :
    own = token ∨ own = held.supply.tokensUsed := by
  cases leaves with
  | same used idle | copied read stale =>
    cases value.symm.trans listed
    exact .inl rfl
  | altered used changed effect inPlace =>
    cases value
    exact .inl rfl
  | cleared used effect =>
    cases value
    exact .inr rfl

end Held

namespace Project

variable {project : Project} {place : Place} {key : String} {old new : Variable} {supply : Supply}
  {known : Registry}

/-! ### Changes of one variable -/

theorem Orderly.identified (orderly : project.Orderly) : project.Identified :=
  ⟨orderly.keyed, orderly.alone⟩

theorem Orderly.put (orderly : project.Orderly)
    (more : project.supply.tokensUsed ≤ supply.tokensUsed) (keyed : new.id = key)
    (alone : ∀ other namesake, project.var? other key = some namesake → other = place)
    (sound : new.kind = .list → Held.Sound ⟨new, supply⟩)
    (own : new.kind = .list → ∀ token items other asked var others, new.value = .list token items →
      ¬(other = place ∧ asked = key) → project.var? other asked = some var → var.kind = .list →
        var.value ≠ .list token others)
    (live : new.kind = .list → ∀ other asked var snapshot, ¬(other = place ∧ asked = key) →
      project.Offers other asked var snapshot → Held.Apart snapshot.token ⟨new, supply⟩)
    (offered : new.kind = .list → ∀ snapshot, Held.Shows ⟨new, supply⟩ snapshot →
      ∀ other asked var, ¬(other = place ∧ asked = key) → project.var? other asked = some var →
        var.kind = .list → Held.Apart snapshot.token ⟨var, supply⟩)
    (made : new.kind ≠ .list → ∀ token items, new.value = .list token items →
      token < supply.tokensUsed) (monitors : Monitors) :
    Orderly { project.put place key new with monitors, supply } where
  keyed := ((orderly.identified.put keyed alone).of_var? fun _ _ => var?_with ..).keyed
  alone := ((orderly.identified.put keyed alone).of_var? fun _ _ => var?_with ..).alone
  sound := by
    intro other asked var found listed
    rcases var?_put_with found with ⟨-, -, rfl⟩ | ⟨-, there⟩
    · exact sound listed
    · exact (orderly.sound other asked var there listed).mono more
  own := by
    intro one asked var token items other asking namesake others found listed value foundOther
      listedOther valueOther
    rcases var?_put_with found with ⟨rfl, rfl, rfl⟩ | ⟨differs, there⟩
    · rcases var?_put_with foundOther with ⟨rfl, rfl, -⟩ | ⟨differs, there⟩
      · exact ⟨rfl, rfl⟩
      · exact absurd valueOther
          (own listed token items other asking namesake others value differs there listedOther)
    · rcases var?_put_with foundOther with ⟨rfl, rfl, rfl⟩ | ⟨-, elsewhere⟩
      · exact absurd value
          (own listedOther token others one asked var items valueOther differs there listed)
      · exact orderly.own one asked var token items other asking namesake others there listed value
          elsewhere listedOther valueOther
  apart := by
    intro one asked var snapshot other asking namesake offers found listed
    obtain ⟨foundOne, listedOne, shows⟩ := offers
    rcases var?_put_with foundOne with ⟨-, -, rfl⟩ | ⟨differs, there⟩
    · rcases var?_put_with found with ⟨-, -, rfl⟩ | ⟨differs, there⟩
      · exact ((sound listed).current snapshot shows).2
      · exact offered listedOne snapshot shows other asking namesake differs there listed
    · rcases var?_put_with found with ⟨-, -, rfl⟩ | ⟨-, elsewhere⟩
      · exact live listed one asked var snapshot differs ⟨there, listedOne, shows⟩
      · exact (orderly.apart one asked var snapshot other asking namesake
          ⟨there, listedOne, shows⟩ elsewhere listed).mono more
  made := by
    intro other asked var token items found plain value
    rcases var?_put_with found with ⟨-, -, rfl⟩ | ⟨-, there⟩
    · exact made plain token items value
    · exact Nat.lt_of_lt_of_le (orderly.made other asked var token items there plain value) more

theorem Registered.put (registered : project.Registered known)
    (more : project.supply.tokensUsed ≤ supply.tokensUsed)
    (shown : new.kind = .list → ∀ snapshot, Held.Shows ⟨new, supply⟩ snapshot →
      ∀ record items, known.records.find? key = some record →
        record.value = .list snapshot.token items → items = snapshot.items) :
    Registered { project.put place key new with monitors := .registry known, supply } known where
  registry := rfl
  made id token shows := Nat.lt_of_lt_of_le (registered.made id token shows) more
  shown := by
    intro other asked var snapshot record items offers found value
    obtain ⟨there, listed, shows⟩ := offers
    rcases var?_put_with there with ⟨-, rfl, rfl⟩ | ⟨-, before⟩
    · exact shown listed snapshot shows record items found value
    · exact registered.shown other asked var snapshot record items ⟨before, listed, shows⟩ found
        value

/-- A command on a list keeps the variables orderly and what the registry knows of them. -/
theorem Orderly.put_list (orderly : project.Orderly) (kept : project.var? place key = some old)
    (listed : old.kind = .list) (command : ListCommand) (monitors : Monitors) :
    let left := Step.after command.run ⟨old, project.supply⟩
    Orderly { project.put place key left.var with monitors, supply := left.supply } := by
  intro left
  have sound := orderly.sound place key old kept listed
  obtain ⟨token, items, value, -⟩ := sound.listed
  have leaves : command.Leaves ⟨old, project.supply⟩ token items left :=
    ListCommand.leaves_run value command
  have same : Held.SameVariable ⟨old, project.supply⟩ left := command.within_run _
  have after := leaves.sound value sound
  refine orderly.put leaves.tokensUsed_le (same.id.trans (orderly.keyed place key old kept))
    (fun other namesake there => orderly.alone place other key old namesake kept there)
    (fun _ => after) ?own ?live ?offered ?made monitors
  case own =>
    intro _ own now other asked var others here differs there listedThere valueThere
    rcases leaves.token_cases value here with rfl | rfl
    · exact differs (orderly.own place key old own items other asked var others kept listed value
        there listedThere valueThere)
    · -- A new list has a token that no list had.
      obtain ⟨⟨live, has, holds, older⟩, -⟩ := orderly.sound other asked var there listedThere
      cases valueThere.symm.trans holds
      exact absurd older (Nat.lt_irrefl _)
  case live =>
    intro _ other asked var snapshot _ offers
    exact leaves.apart value
      (orderly.apart other asked var snapshot place key old offers kept listed)
  case offered =>
    intro _ snapshot shows other asked var _ there listedThere
    rcases leaves.shows_cases shows with before | ⟨new, more⟩
    · exact (orderly.apart place key old snapshot other asked var ⟨kept, listed, before⟩ there
        listedThere).mono leaves.tokensUsed_le
    · -- A new snapshot has a token that no list had.
      refine ⟨new ▸ more, fun own now here => ?_⟩
      obtain ⟨⟨live, has, holds, older⟩, -⟩ := orderly.sound other asked var there listedThere
      cases here.symm.trans holds
      rw [new]
      exact Nat.ne_of_lt older
  case made =>
    intro plain
    exact absurd (same.kind.trans listed) plain

theorem Registered.put_list (registered : project.Registered known) (orderly : project.Orderly)
    (kept : project.var? place key = some old) (listed : old.kind = .list)
    (command : ListCommand) :
    let left := Step.after command.run ⟨old, project.supply⟩
    Registered
      { project.put place key left.var with monitors := .registry known, supply := left.supply }
      known := by
  intro left
  obtain ⟨token, has, value, -⟩ := (orderly.sound place key old kept listed).listed
  have leaves : command.Leaves ⟨old, project.supply⟩ token has left :=
    ListCommand.leaves_run value command
  refine registered.put leaves.tokensUsed_le fun _ snapshot shows record items found shown => ?_
  rcases leaves.shows_cases shows with before | ⟨new, -⟩
  · exact registered.shown place key old snapshot record items ⟨kept, listed, before⟩ found shown
  · have older := registered.made key snapshot.token ⟨record, items, found, shown⟩
    rw [new] at older
    exact absurd older (Nat.lt_irrefl _)

/-- Nothing is on offer of a variable that was just created. -/
theorem not_shows_create (id name : String) (kind : Kind) (isCloud : Bool) (drawn supply : Supply)
    (snapshot : Snapshot) :
    ¬ Held.Shows ⟨(Variable.create id name kind isCloud drawn).1, supply⟩ snapshot :=
  Held.not_shows_of_stale rfl snapshot

/-- A project without variables is orderly. -/
theorem orderly_of_bare (bare : project.Bare) : project.Orderly where
  keyed := bare.identified.keyed
  alone := bare.identified.alone
  sound place key _ found := by cases (bare place key).symm.trans found
  own place key _ _ _ _ _ _ _ found := by cases (bare place key).symm.trans found
  apart place key _ _ _ _ _ offers := by cases (bare place key).symm.trans offers.1
  made place key _ _ _ found := by cases (bare place key).symm.trans found

/-- A new variable under a new identifier keeps the variables orderly. -/
theorem Orderly.put_new (orderly : project.Orderly) {id : String}
    (unused : ∀ place, project.var? place id = none) {drawn : Supply}
    (undrawn : drawn.tokensUsed = project.supply.tokensUsed) (place : Place) (name : String)
    (kind : Kind) (isCloud : Bool) (monitors : Monitors) :
    let made := Variable.create id name kind isCloud drawn
    Orderly { project.put place id made.1 with monitors, supply := made.2 } := by
  intro made
  have more := (Variable.drawn_create id name kind isCloud drawn).tokensUsed
  rw [undrawn] at more
  have keyed : made.1.id = id := rfl
  refine orderly.put more keyed ?alone ?sound ?own ?live ?offered ?made monitors
  case alone =>
    intro other namesake there
    cases (unused other).symm.trans there
  case offered =>
    intro _ snapshot shows
    exact absurd shows (not_shows_create id name kind isCloud drawn made.2 snapshot)
  case sound =>
    intro listed
    have listed : kind = .list := listed
    subst listed
    refine ⟨⟨drawn.tokensUsed, [], rfl, Nat.lt_succ_self _⟩, fun snapshot shows => ?_⟩
    exact absurd shows (not_shows_create id name .list isCloud drawn made.2 snapshot)
  case own =>
    intro listed token items other asked var others here _ there listedThere valueThere
    have listed : kind = .list := listed
    subst listed
    cases here
    obtain ⟨⟨live, has, holds, older⟩, -⟩ := orderly.sound other asked var there listedThere
    cases valueThere.symm.trans holds
    rw [undrawn] at older
    exact absurd older (Nat.lt_irrefl _)
  case live =>
    intro listed other asked var snapshot _ offers
    have listed : kind = .list := listed
    subst listed
    have older := (orderly.apart other asked var snapshot other asked var offers offers.1
      offers.2.1).1
    refine ⟨Nat.lt_of_lt_of_le older more, fun own items here => ?_⟩
    cases here
    rw [undrawn]
    exact Nat.ne_of_gt older
  case made =>
    intro plain token items value
    cases kind with
    | list => exact absurd rfl plain
    | scalar => cases value
    | broadcast => cases value

theorem Registered.put_new (registered : project.Registered known) {drawn : Supply}
    (undrawn : drawn.tokensUsed = project.supply.tokensUsed) (place : Place) (id name : String)
    (kind : Kind) (isCloud : Bool) :
    let made := Variable.create id name kind isCloud drawn
    Registered
      { project.put place id made.1 with monitors := .registry known, supply := made.2 } known := by
  intro made
  have more := (Variable.drawn_create id name kind isCloud drawn).tokensUsed
  rw [undrawn] at more
  refine registered.put more fun _ snapshot shows => ?_
  exact absurd shows (not_shows_create id name kind isCloud drawn made.2 snapshot)

/-- The second variable is, to a monitor of lists, the same as the first one. -/
structure SameList (before after : Variable) : Prop where
  id : after.id = before.id
  kind : after.kind = before.kind
  value : before.kind = .list → after.value = before.value
  isFresh : before.kind = .list → after.isFresh = before.isFresh
  snapshot : before.kind = .list → after.snapshot = before.snapshot

theorem SameList.shows_iff (same : SameList old new) (listed : new.kind = .list)
    (supply : Supply) (snapshot : Snapshot) :
    Held.Shows ⟨new, supply⟩ snapshot ↔ Held.Shows ⟨old, supply⟩ snapshot := by
  have listed := same.kind.symm.trans listed
  unfold Held.Shows
  rw [same.isFresh listed, same.snapshot listed]

theorem SameList.apart (same : SameList old new) (listed : new.kind = .list) {token : Nat}
    (apart : Held.Apart token ⟨old, supply⟩) : Held.Apart token ⟨new, supply⟩ := by
  have listed := same.kind.symm.trans listed
  refine ⟨apart.1, fun own items here => ?_⟩
  exact apart.2 own items ((same.value listed).symm.trans here)

theorem SameList.sound (same : SameList old new) (listed : new.kind = .list)
    (sound : Held.Sound ⟨old, supply⟩) : Held.Sound ⟨new, supply⟩ := by
  have value := same.value (same.kind.symm.trans listed)
  obtain ⟨⟨token, items, holds, older⟩, current⟩ := sound
  refine ⟨⟨token, items, value.trans holds, older⟩, fun snapshot shows => ?_⟩
  obtain ⟨items, apart⟩ := current snapshot ((same.shows_iff listed supply snapshot).mp shows)
  exact ⟨(congrArg Value.items? value).trans items, same.apart listed apart⟩

/-- Another value of a variable that is no list keeps the variables orderly, and so does another
name of any variable. -/
theorem Orderly.put_same (orderly : project.Orderly) (kept : project.var? place key = some old)
    (same : SameList old new) (made : new.kind ≠ .list → ∀ token items,
      new.value = .list token items → token < project.supply.tokensUsed) (monitors : Monitors) :
    Orderly { project.put place key new with monitors, supply := project.supply } := by
  refine orderly.put (Nat.le_refl _) (same.id.trans (orderly.keyed place key old kept))
    (fun other namesake there => orderly.alone place other key old namesake kept there)
    ?sound ?own ?live ?offered made monitors
  case sound =>
    intro listed
    exact same.sound listed (orderly.sound place key old kept (same.kind.symm.trans listed))
  case own =>
    intro listed token items other asked var others here differs there listedThere valueThere
    have listedThen := same.kind.symm.trans listed
    exact differs (orderly.own place key old token items other asked var others kept listedThen
      ((same.value listedThen).symm.trans here) there listedThere valueThere)
  case live =>
    intro listed other asked var snapshot _ offers
    exact same.apart listed (orderly.apart other asked var snapshot place key old offers kept
      (same.kind.symm.trans listed))
  case offered =>
    intro listed snapshot shows other asked var _ there listedThere
    have offers : project.Offers place key old snapshot :=
      ⟨kept, same.kind.symm.trans listed, (same.shows_iff listed project.supply snapshot).mp shows⟩
    exact orderly.apart place key old snapshot other asked var offers there listedThere

theorem Registered.put_same (registered : project.Registered known)
    (kept : project.var? place key = some old) (same : SameList old new) :
    Registered
      { project.put place key new with monitors := .registry known, supply := project.supply }
      known := by
  refine registered.put (Nat.le_refl _) fun listed snapshot shows record items found shown => ?_
  have offers : project.Offers place key old snapshot :=
    ⟨kept, same.kind.symm.trans listed, (same.shows_iff listed project.supply snapshot).mp shows⟩
  exact registered.shown place key old snapshot record items offers found shown

/-! ### Other changes -/

/-- The variables of a project are orderly if they are the same ones. -/
theorem Orderly.of_same (orderly : project.Orderly) {after : Project}
    (vars : ∀ place key, after.var? place key = project.var? place key)
    (supply : after.supply = project.supply) : after.Orderly := by
  obtain ⟨keyed, alone, sound, own, apart, made⟩ := orderly
  refine ⟨?_, ?_, ?_, ?_, ?_, ?_⟩
  · simpa only [vars] using keyed
  · simpa only [vars] using alone
  · simpa only [vars, supply] using sound
  · simpa only [OwnLists, vars] using own
  · simpa only [Offers, vars, supply] using apart
  · simpa only [vars, supply] using made

theorem Registered.of_same (registered : project.Registered known) {after : Project}
    (vars : ∀ place key, after.var? place key = project.var? place key)
    (supply : after.supply = project.supply) (monitors : after.monitors = project.monitors) :
    after.Registered known := by
  obtain ⟨registry, made, shown⟩ := registered
  refine ⟨monitors.trans registry, ?_, ?_⟩
  · simpa only [supply] using made
  · simpa only [Offers, vars, supply] using shown

/-- A project is under watch if its variables and records are the same ones. -/
theorem Watched.of_same (watched : project.Watched) {after : Project}
    (vars : ∀ place key, after.var? place key = project.var? place key)
    (supply : after.supply = project.supply) (monitors : after.monitors = project.monitors) :
    after.Watched := by
  obtain ⟨orderly, known, registered⟩ := watched
  exact ⟨orderly.of_same vars supply, known, registered.of_same vars supply monitors⟩

/-- A change that monitors of lists do not see keeps a project under watch. -/
theorem Watched.put_same (watched : project.Watched) (kept : project.var? place key = some old)
    (same : SameList old new)
    (made : new.kind ≠ .list → ∀ token items, new.value = .list token items →
      token < project.supply.tokensUsed) : (project.put place key new).Watched := by
  obtain ⟨orderly, known, registered⟩ := watched
  have vars (other : Place) (asked : String) := (var?_with (project.put place key new)
    (.registry known) project.supply other asked).symm
  have supply : (project.put place key new).supply = project.supply := supply_updateTarget ..
  refine ⟨(orderly.put_same kept same made (.registry known)).of_same vars supply, known,
    (registered.put_same kept same).of_same vars supply ?_⟩
  exact (monitors_updateTarget ..).trans registered.registry

/-- Removing a variable keeps a project under watch. -/
theorem Watched.remove (watched : project.Watched) (place : Place) (key : String) :
    (project.remove place key).Watched := by
  have identified : (project.remove place key).Identified := watched.orderly.identified.of_old
    fun other asked var found => ⟨var, var?_of_remove found, rfl⟩
  obtain ⟨⟨-, -, sound, own, apart, made⟩, known, registry, madeShown, shown⟩ := watched
  have supply : (project.remove place key).supply = project.supply := supply_updateTarget ..
  have offers {other : Place} {asked : String} {var : Variable} {snapshot : Snapshot}
      (offered : (project.remove place key).Offers other asked var snapshot) :
      project.Offers other asked var snapshot :=
    ⟨var?_of_remove offered.1, offered.2.1, offered.2.2⟩
  refine ⟨⟨identified.keyed, identified.alone, ?_, ?_, ?_, ?_⟩, known, ?_, ?_, ?_⟩
  · intro other asked var found listed
    rw [supply]
    exact sound other asked var (var?_of_remove found) listed
  · intro one asked var token items other asking namesake others found listed value foundOther
    exact own one asked var token items other asking namesake others (var?_of_remove found) listed
      value (var?_of_remove foundOther)
  · intro one asked var snapshot other asking live offered found listed
    rw [supply]
    exact apart one asked var snapshot other asking live (offers offered) (var?_of_remove found)
      listed
  · intro other asked var token items found plain value
    rw [supply]
    exact made other asked var token items (var?_of_remove found) plain value
  · exact (monitors_updateTarget ..).trans registry
  · rw [supply]
    exact madeShown
  · exact fun other asked var snapshot record items offered =>
      shown other asked var snapshot record items (offers offered)

theorem Orderly.with_monitors (orderly : project.Orderly) (monitors : Monitors) :
    Orderly { project with monitors } :=
  orderly.of_same (fun place key => var?_with project monitors project.supply place key) rfl

theorem offers_with (monitors : Monitors) {var : Variable} {snapshot : Snapshot} :
    Offers { project with monitors } place key var snapshot ↔
      project.Offers place key var snapshot := by
  have same := var?_with project monitors project.supply place key
  constructor
  · exact fun offers => ⟨same.symm.trans offers.1, offers.2⟩
  · exact fun offers => ⟨same.trans offers.1, offers.2⟩

/-- Showing and hiding a monitor keep what the registry knows. -/
theorem Registered.change (registered : project.Registered known) (event : MonitorEvent) :
    Registered { project with monitors := .registry (known.change event) }
      (known.change event) where
  registry := rfl
  made id token shows := registered.made id token (Registry.showsList_change event |>.mp shows)
  shown := by
    intro place key var snapshot record items offers found value
    rcases Registry.value_change event found with nothing | ⟨before, was, same⟩
    · cases nothing.symm.trans value
    · exact registered.shown place key var snapshot before items ((offers_with _).mp offers) was
        (same.trans value)

/-- Changing a list in place keeps what the registry knows: no snapshot is changed. -/
theorem Registered.refresh (registered : project.Registered known) (orderly : project.Orderly)
    {var : Variable} (kept : project.var? place key = some var) (listed : var.kind = .list)
    {live : Nat} {changed : List Value} (holds : var.value = .list live changed) :
    Registered { project with monitors := .registry (known.refresh (.list live changed)) }
      (known.refresh (.list live changed)) where
  registry := rfl
  made id token shows :=
    registered.made id token (Registry.showsList_refresh live changed |>.mp shows)
  shown := by
    intro other asked offering snapshot record items offers found value
    have offers := (offers_with _).mp offers
    obtain ⟨before, was, rfl | ⟨shown, -, now⟩⟩ := Registry.value_refresh found
    · exact registered.shown other asked offering snapshot record items offers was value
    · cases now.symm.trans value
      have apart := orderly.apart other asked offering snapshot place key var offers kept listed
      exact absurd rfl (apart.2 snapshot.token changed holds)

/-! ### Blocks -/

section Blocks

variable {middle after : Project} {opcode : Opcode} {arguments : Arguments} {forMonitor : Bool}
  {name : String} {kind : Kind} {found : Found}

theorem Watched.of_resolves (watched : project.Watched)
    (resolves : project.Resolves place name kind found middle) : middle.Watched := by
  obtain ⟨orderly, known, registered⟩ := watched
  cases resolves with
  | known found seen => exact ⟨orderly, known, registered⟩
  | created tier unseen made nearest tiered unused =>
    have drawn : (project.supply.identifier Supply.identifierLength).2.tokensUsed =
        project.supply.tokensUsed := rfl
    refine ⟨orderly.put_new unused drawn (project.near place) name kind false _, known, ?_⟩
    have put := registered.put_new drawn (project.near place) project.nextId name kind false
    refine put.of_same (fun other asked => ?_) rfl ?_
    · cases other <;> rfl
    · exact (monitors_updateTarget ..).trans registered.registry

theorem tokensUsed_le_of_resolves (resolves : project.Resolves place name kind found middle) :
    project.supply.tokensUsed ≤ middle.supply.tokensUsed := by
  cases resolves with
  | known found seen => exact Nat.le_refl _
  | created tier unseen made nearest tiered unused =>
    exact (Variable.drawn_create project.nextId name kind false
      (project.supply.identifier Supply.identifierLength).2).tokensUsed

theorem Watched.of_scalar (watched : project.Watched) (located : project.Located place found)
    (scalar : found.var.kind = .scalar) {command : ScalarCommand}
    {announcement : Option Announcement} {var : Variable}
    (leaves : command.Leaves found.var announcement var)
    (presentable : ∀ token items, command = .set (.list token items) →
      token < project.supply.tokensUsed) :
    ((project.put (found.home place) found.key var).announce announcement).Watched := by
  have plain : found.var.kind ≠ .list := by
    rw [scalar]
    exact Kind.noConfusion
  have same : SameList found.var var := by
    cases leaves with
    | same => exact ⟨rfl, rfl, fun _ => rfl, fun _ => rfl, fun _ => rfl⟩
    | changed value given =>
      exact ⟨rfl, rfl, fun listed => absurd listed plain, fun _ => rfl, fun _ => rfl⟩
  have made (token : Nat) (items : List Value) (value : var.value = .list token items) :
      token < project.supply.tokensUsed := by
    cases leaves with
    | same => exact watched.orderly.made _ _ _ token items located.kept plain value
    | changed made given =>
      have value : made = .list token items := value
      subst value
      rcases given with set | ⟨number, same⟩
      · exact presentable token items set
      · cases number <;> cases same
  have put := watched.put_same located.kept same fun _ => made
  exact put.of_same (var?_announce _ announcement) (supply_announce ..) (monitors_announce ..)

theorem Watched.of_list (watched : project.Watched) (kept : project.var? place key = some old)
    (listed : old.kind = .list) (command : ListCommand) {left : Held}
    (leaves : left = Step.after command.run ⟨old, project.supply⟩) {monitors : Monitors}
    (shown : monitors = project.monitors ∨ monitors = project.monitors.refresh left.var.value) :
    Watched { project.put place key left.var with monitors, supply := left.supply } := by
  obtain ⟨orderly, known, registered⟩ := watched
  subst leaves
  have keptOrderly := orderly.put_list kept listed command monitors
  have keptRegistered := registered.put_list orderly kept listed command
  refine ⟨keptOrderly, ?_⟩
  rw [registered.registry] at shown
  rcases shown with rfl | rfl
  · exact ⟨known, keptRegistered⟩
  · have there := var?_put_self kept (Step.after command.run ⟨old, project.supply⟩).var
    have same := command.within_run ⟨old, project.supply⟩
    have listedThen := same.kind.trans listed
    have before := orderly.put_list kept listed command (.registry known)
    have thereThen := (var?_with _ (.registry known)
      (Step.after command.run ⟨old, project.supply⟩).supply place key).trans there
    obtain ⟨live, changed, holds, -⟩ := (before.sound place key _ thereThen listedThen).listed
    have refreshed := keptRegistered.refresh before thereThen listedThen holds
    have holds : (Step.after command.run ⟨old, project.supply⟩).var.value = .list live changed :=
      holds
    refine ⟨known.refresh (.list live changed), ?_⟩
    rw [holds]
    exact refreshed

theorem Watched.of_ran (watched : project.Watched)
    (ran : project.Ran opcode arguments place forMonitor after)
    (presentable : ∀ token items, arguments.read "VALUE" = .ok (.list token items) →
      token < project.supply.tokensUsed) : after.Watched := by
  cases ran with
  | idle quiet => exact watched
  | resolved refers resolves quiet => exact watched.of_resolves resolves
  | @scalar name found middle command announcement var refers resolves commanded leaves =>
    have scalar := resolves.scalar_of_command commanded
    refine (watched.of_resolves resolves).of_scalar resolves.located scalar leaves ?_
    intro token items set
    subst set
    cases Opcode.does_of_command commanded with
    | set sets read =>
      exact Nat.lt_of_lt_of_le (presentable token items read) (tokensUsed_le_of_resolves resolves)
  | @list name found middle command left monitors refers resolves commanded leaves shown =>
    have listed := resolves.list_of_command commanded
    exact (watched.of_resolves resolves).of_list resolves.located.kept listed command leaves
      (shown.imp_right And.right)
  | @shown name found middle visible refers resolves commanded =>
    obtain ⟨orderly, known, registered⟩ := watched.of_resolves resolves
    have changed : middle.monitors.change ⟨found.var.id, visible⟩ =
        .registry (known.change ⟨found.var.id, visible⟩) := by
      rw [registered.registry]
      rfl
    rw [changed]
    exact ⟨orderly.with_monitors _, _, registered.change ⟨found.var.id, visible⟩⟩

/-- A call whose arguments are there already keeps a project under watch. -/
theorem Watched.of_call (watched : project.Watched) (call : Call)
    (fresh : project.DrawsFresh (Step.after call.perform project))
    (presentable : call.Presentable project.supply) :
    (Step.after call.perform project).Watched := by
  rcases ran_execute call.opcode call.arguments call.destination call.forMonitor fresh with
    ⟨opcode, place, -, -, ran⟩ | ⟨same, -⟩
  · exact watched.of_ran ran fun token items read => presentable "VALUE" token items read
  · have same : Step.after call.perform project = project := same
    rw [same]
    exact watched

end Blocks

end Project

end BlockData
