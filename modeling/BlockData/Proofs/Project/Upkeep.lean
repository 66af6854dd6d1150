/-
**How the variables of a project come and go.**

One move at a time, a project gains a variable at the end of a target, loses one, or has its
variables rewritten in place: `Project.Evolves`. So the variables stay in order of creation, and
what is told of all of them, `Project.Tidy`, stays true: they are kept under their identifiers, no
two of them under one, and the list variables hold lists.

* `Project.evolves_of_move`: every move makes a project evolve;
* `Project.Evolves.steady`, `Project.Tidy.of_evolves`: what such a move keeps;
* `Project.tidy_last`: what a run of moves keeps.
-/

import BlockData.Proofs.Listing.Command
import BlockData.Proofs.Project.Moves
import BlockData.Proofs.Project.Newcomer

namespace BlockData

/-- The second variable is the first one with other contents. A list stays a list. -/
structure Variable.Remains (before after : Variable) : Prop where
  id : after.id = before.id
  kind : after.kind = before.kind
  listed : after.kind = .list → ∀ token items, before.value = .list token items →
    ∃ token items, after.value = .list token items

instance : Std.Refl Variable.Remains where
  refl _ := ⟨rfl, rfl, fun _ token items holds => ⟨token, items, holds⟩⟩

instance : Trans Variable.Remains Variable.Remains Variable.Remains where
  trans first second := by
    refine ⟨second.id.trans first.id, second.kind.trans first.kind, ?_⟩
    intro isList token items holds
    obtain ⟨token, items, holds⟩ :=
      first.listed (second.kind.symm.trans isList) token items holds
    exact second.listed isList token items holds

namespace Project

/-- The keys of the target at a place in their order, none without a target. -/
def keysAt (project : Project) (place : Place) : List String :=
  match project.target? place with
  | some target => target.vars.keys
  | none => []

/-- The variables of a project are kept under their identifiers, no identifier is at two places, and
list variables hold lists. -/
structure Tidy (project : Project) : Prop where
  keyed : ∀ place key var, project.var? place key = some var → var.id = key
  alone : ∀ place other key var namesake, project.var? place key = some var →
    project.var? other key = some namesake → other = place
  lists : project.HoldsLists

/-- The second project has the variables of the first one, with other contents. -/
structure Rewritten (before after : Project) : Prop where
  keys : ∀ place, after.keysAt place = before.keysAt place
  vars : ∀ place key new, after.var? place key = some new →
    ∃ old, before.var? place key = some old ∧ old.Remains new

/-- What one move can make of the variables of a project. -/
inductive Evolves (before after : Project) : Prop
  | rewritten (rest : before.Rewritten after)
  /-- There is one more, under an identifier that was not used. -/
  | grown (place : Place) (var : Variable)
    (unused : ∀ other, before.var? other var.id = none)
    (starts : var.kind.Starts var.name var.value)
    (rest : (before.put place var.id var).Rewritten after)
  /-- There is one less. -/
  | shrunk (place : Place) (key : String) (rest : (before.remove place key).Rewritten after)

/-- Variables that are in both projects keep identifier and kind, and stay in order; those that are
in the second one only come last. -/
structure Steady (before after : Project) : Prop where
  identity : ∀ place key old new, before.var? place key = some old →
    after.var? place key = some new → new.id = old.id ∧ new.kind = old.kind
  order : ∀ place, ∃ added,
    after.keysAt place =
      (before.keysAt place).filter (fun key => key ∈ after.keysAt place) ++ added ∧
    ∀ key ∈ added, key ∉ before.keysAt place

end Project

/-- A turn of a run in which identifiers that are drawn are new, and those that are given are not
those of other targets. -/
def Turn.UsesNewIds (turn : ProjectTurn) : Prop :=
  turn.before.DrawsFresh turn.after ∧
  match turn.asked with
  | .create place id _ _ _ => ∀ other, other ≠ place → turn.before.var? other id = none
  | _ => True

namespace Project

variable {project middle after : Project} {place : Place} {key : String} {old new : Variable}

/-! ### Keys -/

theorem mem_keysAt_iff (project : Project) (place : Place) (key : String) :
    key ∈ project.keysAt place ↔ ∃ var, project.var? place key = some var := by
  unfold keysAt var?
  cases project.target? place with
  | none => simp
  | some target => exact target.vars.mem_keys_iff key

theorem keysAt_of_target? {other : Place} (same : after.target? other = project.target? other) :
    after.keysAt other = project.keysAt other := by
  unfold keysAt
  rw [same]

theorem keysAt_put_of_ne {other : Place} (differs : other ≠ place) (var : Variable) :
    (project.put place key var).keysAt other = project.keysAt other := by
  refine keysAt_of_target? ?_
  rw [put, target?_updateTarget, if_neg differs]

/-- A variable put in the place of another leaves the keys as they are. -/
theorem keysAt_put_of_kept (kept : project.var? place key = some old) (var : Variable)
    (other : Place) : (project.put place key var).keysAt other = project.keysAt other := by
  by_cases here : other = place
  · subst here
    obtain ⟨target, there, found⟩ := Option.bind_eq_some_iff.mp kept
    have present : key ∈ target.vars.keys := (target.vars.mem_keys_iff key).mpr ⟨old, found⟩
    unfold keysAt put
    rw [target?_updateTarget, if_pos rfl, there]
    simp only [Option.map_some, Target.put, Keyed.keys_insert, if_pos present]
  · exact keysAt_put_of_ne here var

/-- A variable put under a key that is not taken comes last. -/
theorem keysAt_put_of_absent (absent : project.var? place key = none) {target : Target}
    (there : project.target? place = some target) (var : Variable) :
    (project.put place key var).keysAt place = project.keysAt place ++ [key] := by
  have free := (target.vars.find?_eq_none_iff key).mp (find?_of_var?_eq_none absent there)
  unfold keysAt put
  rw [target?_updateTarget, if_pos rfl, there]
  simp only [Option.map_some, Target.put, Keyed.keys_insert, if_neg free]

theorem keysAt_remove (project : Project) (place : Place) (key : String) (other : Place) :
    (project.remove place key).keysAt other =
      if other = place then (project.keysAt other).filter fun name => name ≠ key
      else project.keysAt other := by
  unfold keysAt remove
  rw [target?_updateTarget]
  by_cases here : other = place
  · rw [if_pos here, if_pos here]
    cases project.target? other with
    | none => rfl
    | some target => exact Keyed.keys_erase ..
  · rw [if_neg here, if_neg here]

/-! ### Rewriting variables -/

theorem Rewritten.of_target? (same : ∀ place, after.target? place = project.target? place) :
    project.Rewritten after where
  keys place := keysAt_of_target? (same place)
  vars place key new there := by
    unfold var? at there
    rw [same] at there
    exact ⟨new, there, Std.Refl.refl new⟩

instance : Std.Refl Rewritten where
  refl _ := .of_target? fun _ => rfl

instance : Trans Rewritten Rewritten Rewritten where
  trans first second := by
    refine ⟨fun place => (second.keys place).trans (first.keys place), ?_⟩
    intro place key new there
    obtain ⟨middle, between, later⟩ := second.vars place key new there
    obtain ⟨old, before, earlier⟩ := first.vars place key middle between
    exact ⟨old, before, Trans.trans earlier later⟩

/-- A variable put in the place of one that it remains is a rewriting, whatever becomes of the
rest. -/
theorem Rewritten.put (kept : project.var? place key = some old) (remains : old.Remains new)
    (same : ∀ other, after.target? other = (project.put place key new).target? other) :
    project.Rewritten after := by
  have put : project.Rewritten (project.put place key new) := by
    refine ⟨keysAt_put_of_kept kept new, fun other asked var there => ?_⟩
    rcases var?_put_cases there with ⟨rfl, rfl, rfl⟩ | ⟨-, before⟩
    · exact ⟨old, kept, remains⟩
    · exact ⟨var, before, Std.Refl.refl var⟩
  exact Trans.trans put (Rewritten.of_target? same)

/-- Where one variable at most has become one that it remains, the variables are rewritten. -/
theorem Rewritten.of_touches {way : Variable → Variable → Prop} (touches : project.Touches way after)
    (remains : ∀ old new, way old new → old.Remains new) : project.Rewritten after := by
  cases touches with
  | nothing targets => exact .of_target? targets
  | one kept told targets => exact .put kept (remains _ _ told) targets

theorem Evolves.then_rewritten (evolves : project.Evolves middle) (rest : middle.Rewritten after) :
    project.Evolves after := by
  cases evolves with
  | rewritten first => exact .rewritten (Trans.trans first rest)
  | grown place var unused starts first =>
    exact .grown place var unused starts (Trans.trans first rest)
  | shrunk place key first => exact .shrunk place key (Trans.trans first rest)

/-- A command on a list leaves a list. -/
theorem remains_list (command : ListCommand) (held : Held) :
    held.var.Remains (Step.after command.run held).var := by
  have same := command.within_run held
  refine ⟨same.id, same.kind, fun _ token items holds => ?_⟩
  have leaves := ListCommand.leaves_run holds command
  generalize Step.after command.run held = left at leaves
  cases leaves with
  | same used idle => exact ⟨token, items, holds⟩
  | altered used changed effect inPlace => exact ⟨token, changed, rfl⟩
  | cleared used effect => exact ⟨_, [], rfl⟩
  | copied read stale => exact ⟨token, items, holds⟩

theorem remains_scalar {command : ScalarCommand} {announcement : Option Announcement}
    (scalar : old.kind = .scalar) (leaves : command.Leaves old announcement new) :
    old.Remains new := by
  cases leaves with
  | same => exact Std.Refl.refl old
  | changed value given =>
    exact ⟨rfl, rfl, fun listed => absurd (scalar.symm.trans listed) Kind.noConfusion⟩

/-! ### Moves -/

section Blocks

variable {opcode : Opcode} {arguments : Arguments} {forMonitor : Bool} {name : String}
  {kind : Kind} {found : Found}

theorem evolves_of_resolves (resolves : project.Resolves place name kind found middle) :
    project.Evolves middle := by
  cases resolves with
  | known found seen => exact .rewritten (Std.Refl.refl project)
  | created tier unseen made nearest tiered unused =>
    have starts := (project.pristine_newcomer name kind).value
    refine .grown (project.near place) (project.newcomer name kind).1 unused starts
      (.of_target? fun other => ?_)
    cases other <;> rfl

theorem evolves_of_ran (ran : project.Ran opcode arguments place forMonitor after) :
    project.Evolves after := by
  cases ran with
  | idle quiet => exact .rewritten (Std.Refl.refl project)
  | resolved refers resolves quiet => exact evolves_of_resolves resolves
  | @scalar name found middle command announcement var refers resolves commanded leaves =>
    have remains := remains_scalar (resolves.scalar_of_command commanded) leaves
    exact (evolves_of_resolves resolves).then_rewritten
      (.put resolves.located.kept remains (target?_announce _ announcement))
  | @list name found middle command left monitors refers resolves commanded leaves shown =>
    have remains : found.var.Remains left.var := by
      rw [leaves]
      exact remains_list command ⟨found.var, middle.supply⟩
    exact (evolves_of_resolves resolves).then_rewritten
      (.put resolves.located.kept remains fun other => by cases other <;> rfl)
  | shown refers resolves commanded =>
    exact (evolves_of_resolves resolves).then_rewritten
      (.of_target? fun other => by cases other <;> rfl)

end Blocks

theorem evolves_of_call (call : Call)
    (fresh : project.DrawsFresh (Step.after call.perform project)) :
    project.Evolves (Step.after call.perform project) := by
  rcases ran_execute call.opcode call.arguments call.destination call.forMonitor fresh with
    ⟨opcode, place, -, -, ran⟩ | ⟨same, -⟩
  · exact evolves_of_ran ran
  · have same : Step.after call.perform project = project := same
    rw [same]
    exact .rewritten (Std.Refl.refl project)

variable {id name : String} {kind : Kind} {wantsCloud : Bool}

theorem evolves_of_create (apart : ∀ other, other ≠ place → project.var? other id = none) :
    project.Evolves (Step.after (createVariable place id name kind wantsCloud) project) := by
  cases taken : (project.target place).vars.find? id with
  | some var =>
    rw [after_create_of_taken taken]
    exact .rewritten (Std.Refl.refl project)
  | none =>
    have unused (other : Place) : project.var? other id = none := by
      by_cases here : other = place
      · rw [here]
        exact var?_eq_none_of_absent taken
      · exact apart other here
    have starts := Variable.starts_startingValue kind name project.supply
    rw [after_create_of_absent taken]
    refine .grown place (project.created place id name kind wantsCloud).1 unused starts
      (.of_target? fun other => ?_)
    cases other <;> rfl

theorem evolves_of_rename :
    project.Evolves (Step.after (renameVariable id name) project) := by
  refine .rewritten (.of_touches (touches_rename project id name) fun old new told => ?_)
  rw [told]
  exact ⟨rfl, rfl, fun _ token items holds => ⟨token, items, holds⟩⟩

theorem evolves_of_delete : project.Evolves (Step.after (deleteVariable id) project) := by
  cases found : project.find? id with
  | none =>
    rw [after_delete_of_absent found]
    exact .rewritten (Std.Refl.refl project)
  | some entry =>
    obtain ⟨place, var⟩ := entry
    rw [after_delete found]
    refine .shrunk place id (.of_target? fun other => ?_)
    by_cases flagged : var.isCloud = true
    · simp only [if_pos flagged]
      cases other <;> rfl
    · simp only [if_neg flagged]

/-- Polling a monitor rewrites the list that it shows. -/
theorem within_pollOne_rewritten (id : String) : Step.Within Rewritten (pollOne id) := by
  intro project
  refine .of_touches (touches_pollOne project id) ?_
  rintro old new ⟨-, supply, rfl⟩
  exact remains_list (.contents true) ⟨old, supply⟩

/-- A message of the server rewrites a scalar of the stage. -/
theorem rewritten_post (message : Value) (project : Project) :
    project.Rewritten (Step.after (postData message) project) := by
  refine .of_touches (touches_post message project) ?_
  rintro old new ⟨scalar, value, rfl⟩
  exact remains_scalar scalar (ScalarCommand.leaves_set old value)

/-- **Every move makes a project evolve**, whether it succeeds or fails. -/
theorem evolves_of_move (move : Move) (fair : (Run.turn Move.perform project move).UsesNewIds) :
    project.Evolves (Step.after move.perform project) := by
  obtain ⟨fresh, apart⟩ := fair
  have fresh : project.DrawsFresh (Step.after move.perform project) := fresh
  cases move with
  | run call =>
    rw [Move.after_run] at fresh ⊢
    exact evolves_of_call call fresh
  | create place id name kind wantsCloud =>
    rw [Move.after_create]
    exact evolves_of_create apart
  | rename id name =>
    rw [Move.after_rename]
    exact evolves_of_rename
  | delete id =>
    rw [Move.after_delete]
    exact evolves_of_delete
  | edit target =>
    obtain ⟨editing, left⟩ := Move.after_edit project target
    rw [left]
    exact .rewritten (.of_target? fun other => by cases other <;> rfl)
  | poll =>
    rw [Move.after_poll]
    exact .rewritten (within_poll within_pollOne_rewritten project)
  | post message =>
    rw [Move.after_post]
    exact .rewritten (rewritten_post message project)

/-! ### What a move keeps -/

/-- Keys that came last come behind those that stayed, which are all. -/
theorem order_of_append {keys : List String} (added : List String)
    (same : keys = project.keysAt place) (more : after.keysAt place = keys ++ added) :
    after.keysAt place =
      (project.keysAt place).filter (fun key => key ∈ after.keysAt place) ++ added := by
  have all : keys.filter (fun key => key ∈ keys ++ added) = keys :=
    List.filter_eq_self.mpr fun key member => decide_eq_true (List.mem_append_left added member)
  rw [← same, more, all]

/-- Variables that stay keep identifier and kind, and their order. -/
theorem Evolves.steady (evolves : project.Evolves after) : project.Steady after := by
  cases evolves with
  | rewritten rest =>
    refine ⟨fun place key old new there later => ?_, fun place => ⟨[], ?_, by simp⟩⟩
    · obtain ⟨same, before, remains⟩ := rest.vars place key new later
      cases there.symm.trans before
      exact ⟨remains.id, remains.kind⟩
    · exact order_of_append [] rfl (by rw [rest.keys, List.append_nil])
  | grown home var unused starts rest =>
    refine ⟨fun place key old new there later => ?_, fun place => ?_⟩
    · obtain ⟨same, before, remains⟩ := rest.vars place key new later
      have differs : ¬(place = home ∧ key = var.id) := by
        rintro ⟨rfl, rfl⟩
        cases (unused _).symm.trans there
      rw [var?_put_of_ne differs] at before
      cases there.symm.trans before
      exact ⟨remains.id, remains.kind⟩
    · by_cases here : place = home
      · subst here
        cases standing : project.target? place with
        | none =>
          rw [put_of_absent standing] at rest
          exact ⟨[], order_of_append [] rfl (by rw [rest.keys, List.append_nil]), by simp⟩
        | some target =>
          have keys := keysAt_put_of_absent (unused place) standing var
          refine ⟨[var.id], order_of_append [var.id] rfl ((rest.keys place).trans keys), ?_⟩
          intro key member there
          obtain rfl := List.mem_singleton.mp member
          obtain ⟨other, kept⟩ := (project.mem_keysAt_iff place var.id).mp there
          cases (unused place).symm.trans kept
      · have keys := (rest.keys place).trans (keysAt_put_of_ne here var)
        exact ⟨[], order_of_append [] rfl (by rw [keys, List.append_nil]), by simp⟩
  | shrunk home gone rest =>
    refine ⟨fun place key old new there later => ?_, fun place => ⟨[], ?_, by simp⟩⟩
    · obtain ⟨same, before, remains⟩ := rest.vars place key new later
      rw [var?_remove] at before
      split at before
      next => cases before
      next =>
        cases there.symm.trans before
        exact ⟨remains.id, remains.kind⟩
    · by_cases here : place = home
      · have keys := rest.keys place
        rw [keysAt_remove, if_pos here] at keys
        rw [keys, List.append_nil]
        refine List.filter_congr fun key member => ?_
        simp [List.mem_filter, member]
      · have keys := rest.keys place
        rw [keysAt_remove, if_neg here] at keys
        exact order_of_append [] rfl (by rw [keys, List.append_nil])

theorem Tidy.identified (tidy : project.Tidy) : project.Identified :=
  ⟨tidy.keyed, tidy.alone⟩

theorem Tidy.of_rewritten (tidy : project.Tidy) (rest : project.Rewritten after) : after.Tidy := by
  have identified : after.Identified := tidy.identified.of_old fun place key new there => by
    obtain ⟨old, before, remains⟩ := rest.vars place key new there
    exact ⟨old, before, remains.id⟩
  refine ⟨identified.keyed, identified.alone, fun place key new there listed => ?_⟩
  obtain ⟨old, before, remains⟩ := rest.vars place key new there
  obtain ⟨token, items, holds⟩ :=
    tidy.lists place key old before (remains.kind.symm.trans listed)
  exact remains.listed listed token items holds

theorem Tidy.put_new (tidy : project.Tidy) {var : Variable}
    (unused : ∀ other, project.var? other var.id = none)
    (starts : var.kind.Starts var.name var.value) : (project.put place var.id var).Tidy := by
  have identified := tidy.identified.put_new place var unused
  refine ⟨identified.keyed, identified.alone, fun other asked found there listed => ?_⟩
  rcases var?_put_cases there with ⟨-, -, rfl⟩ | ⟨-, before⟩
  · rw [listed] at starts
    obtain ⟨token, holds⟩ := starts
    exact ⟨token, [], holds⟩
  · exact tidy.lists other asked found before listed

theorem Tidy.remove (tidy : project.Tidy) (place : Place) (key : String) :
    (project.remove place key).Tidy := by
  have identified : (project.remove place key).Identified :=
    tidy.identified.of_old fun other asked var found => ⟨var, var?_of_remove found, rfl⟩
  exact ⟨identified.keyed, identified.alone,
    fun other asked var found => tidy.lists other asked var (var?_of_remove found)⟩

theorem Tidy.of_evolves (tidy : project.Tidy) (evolves : project.Evolves after) : after.Tidy := by
  cases evolves with
  | rewritten rest => exact tidy.of_rewritten rest
  | grown place var unused starts rest => exact (tidy.put_new unused starts).of_rewritten rest
  | shrunk place key rest => exact (tidy.remove place key).of_rewritten rest

/-- Every variable is found by its identifier, where it is. -/
theorem Tidy.find?_eq (tidy : project.Tidy) {var : Variable}
    (kept : project.var? place key = some var) : project.find? var.id = some (place, var) := by
  rw [tidy.keyed place key var kept]
  exact tidy.identified.find?_eq kept

/-! ### What a run keeps -/

/-- A key that stays keeps its place in front of one that comes later. -/
theorem Steady.sublist (steady : project.Steady after) {one other : String}
    (stays : one ∈ project.keysAt place) (stayed : one ∈ after.keysAt place)
    (first : other ∈ project.keysAt place → [one, other].Sublist (project.keysAt place))
    (there : other ∈ after.keysAt place) : [one, other].Sublist (after.keysAt place) := by
  obtain ⟨added, keys, new⟩ := steady.order place
  have kept : one ∈ (project.keysAt place).filter fun key => key ∈ after.keysAt place :=
    List.mem_filter.mpr ⟨stays, decide_eq_true stayed⟩
  by_cases before : other ∈ project.keysAt place
  · have ordered := (first before).filter fun key => decide (key ∈ after.keysAt place)
    have both : [one, other].filter (fun key => key ∈ after.keysAt place) = [one, other] := by
      simp [stayed, there]
    rw [both] at ordered
    rw [keys]
    exact ordered.trans (List.sublist_append_left _ added)
  · have late : other ∈ added := by
      rw [keys] at there
      refine (List.mem_append.mp there).resolve_left fun member => before ?_
      exact (List.mem_filter.mp member).1
    rw [keys]
    exact (List.singleton_sublist.mpr kept).append (List.singleton_sublist.mpr late)

/-- **Whatever is done to a tidy project, it stays tidy**, if identifiers are new: every variable is
found by its identifier where it is, identifiers and kinds stay, and so does the order of
creation. -/
theorem tidy_last {project : Project} (tidy : project.Tidy) (moves : List Move)
    (fair : ∀ taken ∈ Run.turns Move.perform project moves, taken.UsesNewIds) :
    let last := Run.last Move.perform project moves
    last.Tidy ∧
      (∀ place key var, last.var? place key = some var → last.find? var.id = some (place, var)) ∧
      (∀ taken ∈ Run.turns Move.perform project moves, taken.before.Steady taken.after) ∧
      ∀ place one first, project.var? place one = some first →
        (∀ taken ∈ Run.turns Move.perform project moves, one ∈ taken.after.keysAt place) →
        (∃ final, last.var? place one = some final ∧ final.id = first.id ∧
          final.kind = first.kind) ∧
        ∀ other, (other ∈ project.keysAt place → [one, other].Sublist (project.keysAt place)) →
          other ∈ last.keysAt place → [one, other].Sublist (last.keysAt place) := by
  have steady (taken : ProjectTurn) (member : taken ∈ Run.turns Move.perform project moves) :
      taken.before.Steady taken.after := by
    have new := fair taken member
    obtain ⟨found, move, rfl⟩ := Run.exists_of_mem_turns member
    exact (evolves_of_move move new).steady
  have tidyLast : (Run.last Move.perform project moves).Tidy :=
    Run.invariant_last Tidy Turn.UsesNewIds
      (fun state move before new => before.of_evolves (evolves_of_move move new)) tidy moves fair
  refine ⟨tidyLast, fun place key var => tidyLast.find?_eq, steady, ?_⟩
  intro place one first begins stays
  refine ⟨?_, fun other ordered => ?_⟩
  · refine Run.invariant_last
      (fun state => ∃ final, Project.var? state place one = some final ∧ final.id = first.id ∧
        final.kind = first.kind)
      (fun taken => taken.before.Steady taken.after ∧ one ∈ taken.after.keysAt place)
      (fun state move before kept => ?_) ⟨first, begins, rfl, rfl⟩ moves
      fun taken member => ⟨steady taken member, stays taken member⟩
    obtain ⟨old, there, sameId, sameKind⟩ := before
    obtain ⟨new, later⟩ := (mem_keysAt_iff _ place one).mp kept.2
    obtain ⟨id, kind⟩ := kept.1.identity place one old new there later
    exact ⟨new, later, id.trans sameId, kind.trans sameKind⟩
  · have present := (mem_keysAt_iff project place one).mpr ⟨first, begins⟩
    refine (Run.invariant_last
      (fun state => one ∈ Project.keysAt state place ∧
        (other ∈ Project.keysAt state place → [one, other].Sublist (Project.keysAt state place)))
      (fun taken => taken.before.Steady taken.after ∧ one ∈ taken.after.keysAt place)
      (fun state move before kept => ?_) ⟨present, ordered⟩ moves
      fun taken member => ⟨steady taken member, stays taken member⟩).2
    exact ⟨kept.2, kept.1.sublist before.1 kept.2 before.2⟩

theorem tidy_of_bare (bare : project.Bare) : project.Tidy where
  keyed := bare.identified.keyed
  alone := bare.identified.alone
  lists place key _ found := by cases (bare place key).symm.trans found

/-- Creating a list, adding to it, renaming it, a message of the server, and a poll. -/
def upkeepMoves : List Move :=
  [.create (.sprite "Cat") "l1" "scores" .list false,
    .run ⟨"data_addtolist", [("LIST", .text "scores"), ("ITEM", .int 5)], .named "Cat", false⟩,
    .rename "l1" "points", .edit (some "Cat"),
    .post (.map 0 [(.name "varUpdate", .map 1 [(.name "name", .text "points")])]), .poll]

theorem tidy_upkeepMoves :
    emptyRoom.Tidy ∧
      (∀ taken ∈ Run.turns Move.perform emptyRoom upkeepMoves, taken.UsesNewIds) ∧
      (Run.last Move.perform emptyRoom upkeepMoves).keysAt (.sprite "Cat") = ["l1"] ∧
      (Run.last Move.perform emptyRoom upkeepMoves).Tidy := by
  have fair : ∀ taken ∈ Run.turns Move.perform emptyRoom upkeepMoves, taken.UsesNewIds := by
    have unlettered : ∀ taken ∈ Run.turns Move.perform emptyRoom upkeepMoves,
        taken.after.supply.lettersUsed = taken.before.supply.lettersUsed := by
      decide +kernel
    intro taken member
    refine ⟨fun drawn => absurd (unlettered taken member) drawn, ?_⟩
    rcases List.mem_cons.mp member with rfl | member
    · exact fun other _ => bare_emptyRoom other "l1"
    -- No later move creates a variable.
    simp only [Run.turns, Run.turn, List.mem_cons, List.not_mem_nil, or_false] at member
    rcases member with rfl | rfl | rfl | rfl | rfl <;> trivial
  exact ⟨tidy_of_bare bare_emptyRoom, fair, by decide +kernel,
    (tidy_last (tidy_of_bare bare_emptyRoom) upkeepMoves fair).1⟩

end Project

end BlockData
