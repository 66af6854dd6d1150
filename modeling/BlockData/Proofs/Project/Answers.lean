/-
**Blocks that answer.**

Where variables hold primitives or lists of them, a block that has its arguments answers unless a
number that it weighs is too large: too long to be read or written, or beyond the doubles. Whatever
else its arguments are, an index that names no item makes a change into nothing and a query into the
empty text, and what is not read as a number counts as zero.

* `Opcode.command_of_supplied`: a block that has its arguments knows what to do;
* `Project.faultsIn_runCommand`: a command fails with the faults of what it weighs only;
* `Project.execute_answers`: what becomes of a block that has its arguments;
* `Project.not_execute_answers`: not every one answers.
-/

import BlockData.Proofs.Listing.Answers
import BlockData.Proofs.Project.Newcomer

namespace BlockData

/-- The value is a primitive or a list of primitives. -/
inductive Value.Plain : Value → Prop
  | primitive {value : Value} (primitive : value.isPrimitive = true) : Plain value
  | list (token : Nat) {items : List Value} (primitive : ∀ item ∈ items, item.isPrimitive = true) :
    Plain (.list token items)

/-- Every variable holds a primitive or a list of primitives, and every list variable a list. -/
structure Project.HoldsPlain (project : Project) : Prop where
  plain : ∀ place key var, project.var? place key = some var → var.value.Plain
  lists : project.HoldsLists

namespace Opcode

/-- The arguments that a block needs besides the one that names its variable. -/
def inputs : Opcode → List String
  | .setVariable | .changeVariable => ["VALUE"]
  | .addToList | .itemNumberOfList | .listContainsItem => ["ITEM"]
  | .deleteOfList | .itemOfList => ["INDEX"]
  | .insertAtList | .replaceItemOfList => ["INDEX", "ITEM"]
  | .reportVariable | .showVariable | .hideVariable | .listContents | .deleteAllOfList
  | .lengthOfList | .showList | .hideList => []

/-- A block has its arguments: a text that names its variable, and primitives. -/
structure Supplied (opcode : Opcode) (arguments : Arguments) : Prop where
  subject : ∃ name, arguments.read opcode.subject = .ok (.text name)
  inputs : ∀ input ∈ opcode.inputs, ∃ value, arguments.read input = .ok value ∧
    value.isPrimitive = true

end Opcode

namespace BlockCommand

/-- What a command is given. -/
def given : BlockCommand → List Value
  | report | setVisible _ => []
  | scalar (.set value) | scalar (.change value) => [value]
  | list command => command.given

/-- What a command reads as a number or writes as a text where the variable holds the given
value. -/
def weighed (held : Value) : BlockCommand → List Value
  | report | setVisible _ | scalar (.set _) => []
  | scalar (.change delta) => [delta, held]
  | list command => command.weighed (held.items?.getD [])

end BlockCommand

namespace Project

/-- The block comes as far as its command: this is run on the variable that the block's reference is
resolved to, in the project that this leaves. -/
structure Reaches (project : Project) (opcode : Opcode) (arguments : Arguments) (place : Place)
    (forMonitor : Bool) (found : Found) (middle : Project) (command : BlockCommand) : Prop where
  resolved : ∃ reference, arguments.read opcode.subject = .ok reference ∧
    (resolve place reference opcode.kind).run project = .ok found middle
  commanded : opcode.command arguments forMonitor = .ok command

/-- Whatever the block weighs is of moderate size, and so is the number of items of its list. -/
def WeighsModerate (project : Project) (opcode : Opcode) (arguments : Arguments) (place : Place)
    (forMonitor : Bool) : Prop :=
  ∀ found middle command, project.Reaches opcode arguments place forMonitor found middle command →
    (∀ value ∈ command.weighed found.var.value, value.Moderate) ∧
      ∀ token items, found.var.value = .list token items → items.length < 2 ^ 63

/-- What becomes of a block that has its arguments where variables hold plain values. -/
structure Answers (project : Project) (opcode : Opcode) (arguments : Arguments) (place : Place)
    (forMonitor : Bool) (block : Step Project Value) : Prop where
  /-- It fails with numbers that are too large only. -/
  overflows : FaultsIn Fault.IsOverflow (Step.outcome block project)
  /-- It answers if what it weighs is of moderate size. -/
  answers : project.WeighsModerate opcode arguments place forMonitor →
    ∃ answer, Step.outcome block project = .ok answer
  /-- With an index that names no item it answers with nothing or the empty text, and changes no
  variable after its reference was resolved. -/
  misses : ∀ found middle command token items,
    project.Reaches opcode arguments place forMonitor found middle (.list command) →
    found.var.value = .list token items → command.Misses items.length →
    ∃ left, block.run project = .ok command.blank left ∧
      ∀ other key, left.var? other key = middle.var? other key
  /-- Adding what is not read as a number is adding nothing. -/
  idles : ∀ delta, opcode = .changeVariable → arguments.read "VALUE" = .ok delta →
    delta.reading = .ok .nan → block.run project = .ok .nothing project
  /-- A variable that is not read as a number is changed as if it were zero. -/
  starts : ∀ found middle delta step total,
    project.Reaches opcode arguments place forMonitor found middle (.scalar (.change delta)) →
    found.var.value.reading = .ok .nan → delta.toNumber = .ok step → step.isZero = false →
    Number.zero.add step = .ok total →
    ∃ left, block.run project = .ok .nothing left ∧
      left.var? (found.home place) found.key = some { found.var with value := .ofNumber total }

end Project

/-! ### What variables hold -/

theorem Value.Plain.readable {value : Value} (plain : value.Plain) :
    value.Readable Fault.IsOverflow := by
  cases plain with
  | primitive primitive => exact (tame_of_primitive primitive).toReadable
  | list token primitive => exact readable_list token _

theorem Value.Plain.isPrimitive_of_mem {value item : Value} (plain : value.Plain) {token : Nat}
    {items : List Value} (listed : value = .list token items) (member : item ∈ items) :
    item.isPrimitive = true := by
  subst listed
  cases plain with
  | primitive primitive => cases primitive
  | list token primitive => exact primitive item member

/-- Variables start with plain values. -/
theorem Kind.Starts.plain {kind : Kind} {name : String} {value : Value}
    (starts : kind.Starts name value) : value.Plain := by
  cases kind with
  | scalar =>
    cases starts
    exact .primitive rfl
  | list =>
    obtain ⟨token, rfl⟩ := starts
    exact .list token fun _ member => by cases member
  | broadcast =>
    cases starts
    exact .primitive rfl

namespace Project

variable {project middle : Project} {place : Place} {name : String} {kind : Kind} {found : Found}

/-- What a name is resolved to holds a plain value, whether it was there or is new. -/
theorem HoldsPlain.of_resolves (holds : project.HoldsPlain)
    (resolves : project.Resolves place name kind found middle) : found.var.value.Plain := by
  cases resolves with
  | known found seen => exact holds.plain _ _ _ (lookup_located seen).1.kept
  | created tier unseen made nearest tiered unused =>
    exact (project.pristine_newcomer name kind).value.plain

end Project

/-! ### What blocks are given -/

namespace Opcode

variable {opcode : Opcode} {arguments : Arguments} {forMonitor : Bool} {command : BlockCommand}

/-- A block that has its arguments knows what to do, and is given primitives. -/
theorem command_of_supplied (supplied : opcode.Supplied arguments) (forMonitor : Bool) :
    ∃ command, opcode.command arguments forMonitor = .ok command ∧
      ∀ value ∈ command.given, value.isPrimitive = true := by
  have inputs := supplied.inputs
  cases opcode with
  | reportVariable | showVariable | hideVariable | listContents | deleteAllOfList | lengthOfList
  | showList | hideList => exact ⟨_, rfl, fun _ member => by cases member⟩
  | setVariable | changeVariable | addToList | deleteOfList | itemOfList | itemNumberOfList
  | listContainsItem =>
    obtain ⟨value, read, primitive⟩ := inputs _ List.mem_cons_self
    refine ⟨_, by rw [Opcode.command, read]; rfl, fun other member => ?_⟩
    rwa [List.mem_singleton.mp member]
  | insertAtList | replaceItemOfList =>
    obtain ⟨index, readIndex, primitiveIndex⟩ := inputs "INDEX" List.mem_cons_self
    obtain ⟨item, readItem, primitiveItem⟩ := inputs "ITEM" (List.mem_cons_of_mem _
      List.mem_cons_self)
    refine ⟨_, by rw [Opcode.command, readIndex, readItem]; rfl, fun other member => ?_⟩
    rcases List.mem_cons.mp member with rfl | later
    · exact primitiveIndex
    · rwa [List.mem_singleton.mp later]

/-- Adding a number is idle if the number is zero. -/
theorem isIdle_of_read {delta : Value} {step : Number}
    (read : arguments.read "VALUE" = .ok delta) (number : delta.toNumber = .ok step) :
    changeVariable.isIdle arguments = .ok step.isZero := by
  unfold isIdle
  rw [read]
  show (delta.toNumber >>= fun number => pure number.isZero) = Except.ok step.isZero
  rw [number]
  rfl

/-- Whether a block is idle is told by what its command weighs. -/
theorem faultsIn_isIdle {allowed : Fault → Prop} {held : Value}
    (commanded : opcode.command arguments forMonitor = .ok command)
    (readable : ∀ value ∈ command.weighed held, value.Readable allowed) :
    FaultsIn allowed (opcode.isIdle arguments) := by
  cases opcode with
  | changeVariable =>
    obtain ⟨delta, read, same⟩ := exists_of_bind_eq_ok commanded
    cases same
    unfold isIdle
    rw [read]
    show FaultsIn allowed (delta.toNumber >>= fun number => pure number.isZero)
    exact faultsIn_bind (readable delta List.mem_cons_self).toNumber fun _ _ => faultsIn_ok _
  | _ => exact faultsIn_ok _

end Opcode

/-! ### Commands -/

namespace ScalarCommand

variable {allowed : Fault → Prop} {command : ScalarCommand} {var : Variable}

theorem faultsIn_change {delta : Value} (given : delta.Readable allowed)
    (held : var.value.Readable allowed) : FaultsIn allowed (var.change delta) := by
  refine faultsIn_bind given.toNumber fun step readStep => ?_
  split
  next => exact faultsIn_ok _
  next =>
    refine faultsIn_bind held.toNumber fun start readStart => ?_
    refine faultsIn_bind ?_ fun _ _ => faultsIn_ok _
    exact Number.faultsIn_add (held.rounds_toNumber readStart) (given.rounds_toNumber readStep)

/-- A value that is not read as a number is added to as if it were zero. -/
theorem change_of_unread {delta : Value} {step total : Number}
    (unread : var.value.reading = .ok .nan) (read : delta.toNumber = .ok step)
    (busy : step.isZero = false) (sum : Number.zero.add step = .ok total) :
    (change delta).result var = .ok ({ var with value := .ofNumber total },
      ({ var with value := .ofNumber total } : Variable).announcement?) :=
  change_of_add read busy (Value.toNumber_of_unread unread) sum

theorem faultsIn_run (made : FaultsIn allowed (command.result var)) :
    FaultsIn allowed (Step.outcome command.run var) := by
  cases same : command.result var with
  | ok result =>
    rw [Step.outcome_of_ok (run_of_result same)]
    exact faultsIn_ok _
  | error fault =>
    rw [Step.outcome_of_error (run_of_result_error same)]
    intro other failed
    cases failed
    exact made fault same

end ScalarCommand

namespace BlockCommand

variable {held value : Value}

/-- Everything that a list command weighs was given or is an item. -/
theorem isPrimitive_of_mem_weighed {command : ListCommand} (plain : held.Plain)
    (listed : ∃ token items, held = .list token items)
    (given : ∀ value ∈ command.given, value.isPrimitive = true)
    (weighs : value ∈ (list command).weighed held) : value.isPrimitive = true := by
  obtain ⟨token, items, rfl⟩ := listed
  rcases ListCommand.mem_given_or_of_mem_weighed weighs with gave | member
  · exact given value gave
  · exact plain.isPrimitive_of_mem rfl member

/-- Everything that a command weighs is plain. -/
theorem plain_of_mem_weighed {command : BlockCommand} (plain : held.Plain)
    (listed : ∀ list, command = .list list → ∃ token items, held = .list token items)
    (given : ∀ value ∈ command.given, value.isPrimitive = true)
    (weighs : value ∈ command.weighed held) : value.Plain := by
  cases command with
  | report => cases weighs
  | setVisible visible => cases weighs
  | scalar command =>
    cases command with
    | set value => cases weighs
    | change delta =>
      rcases List.mem_cons.mp weighs with rfl | later
      · exact .primitive (given _ List.mem_cons_self)
      · rwa [List.mem_singleton.mp later]
  | list command =>
    exact .primitive (isPrimitive_of_mem_weighed plain (listed command rfl) given weighs)

end BlockCommand

namespace Project

variable {allowed : Fault → Prop} {project middle : Project} {place : Place} {found : Found}
  {opcode : Opcode} {arguments : Arguments} {destination : Destination} {forMonitor : Bool}

theorem faultsIn_runScalar {command : ScalarCommand}
    (made : FaultsIn allowed (command.result found.var)) :
    FaultsIn allowed (Step.outcome (runScalar place found command) middle) := by
  rw [runScalar_eq]
  refine Step.faultsIn_bind ?_ fun _ _ => faultsIn_ok _
  rw [onFound, Step.outcome_onPart]
  exact ScalarCommand.faultsIn_run made

theorem faultsIn_runList {command : ListCommand}
    (runs : FaultsIn allowed (Step.outcome command.run ⟨found.var, middle.supply⟩)) :
    FaultsIn allowed (Step.outcome (runList place found command) middle) := by
  rw [runList_eq]
  refine Step.faultsIn_bind ?_ fun _ _ => ?_
  · rw [onHeld, Step.outcome_onPart]
    exact Step.faultsIn_bind runs fun _ _ => faultsIn_ok _
  · cases command.changesItems <;> exact faultsIn_ok _

/-- **A command fails with the faults of what it weighs only.** -/
theorem faultsIn_runCommand {command : BlockCommand}
    (listed : ∀ list, command = .list list → ∃ token items, found.var.value = .list token items)
    (readable : ∀ value ∈ command.weighed found.var.value, value.Readable allowed)
    (tame : ∀ list, command = .list list → ∀ value ∈ command.weighed found.var.value,
      value.Tame allowed)
    (counts : ∀ token items, found.var.value = .list token items →
      ∀ count : Nat, count ≤ items.length + 1 → FaultsIn allowed (Number.int count).toDouble) :
    FaultsIn allowed (Step.outcome (runCommand place found command) middle) := by
  cases command with
  | report => exact faultsIn_ok _
  | setVisible visible => exact faultsIn_ok _
  | scalar command =>
    refine faultsIn_runScalar ?_
    cases command with
    | set value => exact faultsIn_ok _
    | change delta =>
      exact ScalarCommand.faultsIn_change (readable _ List.mem_cons_self)
        (readable _ (List.mem_cons_of_mem _ List.mem_cons_self))
  | list command =>
    obtain ⟨token, items, same⟩ := listed command rfl
    have tame := tame command rfl
    rw [same] at tame
    exact faultsIn_runList (ListCommand.faultsIn_run same tame (counts token items same))

/-- A list command whose index names no item leaves the variables as they are. -/
theorem run_runList_of_misses (located : middle.Located place found) {token : Nat}
    {items : List Value} (listed : found.var.value = .list token items) {command : ListCommand}
    (misses : command.Misses items.length) :
    ∃ left, (runList place found command).run middle = .ok command.blank left ∧
      ∀ other key, left.var? other key = middle.var? other key := by
  have ran : command.run.run ⟨found.var, middle.supply⟩ =
      .ok command.blank ⟨found.var, middle.supply⟩ :=
    ListCommand.run_of_misses listed misses
  have begun := run_showing_of_ok place ran
  rw [(putBack_eq_put located found.var).trans (put_self located.kept)] at begun
  rw [runList_eq, Step.run_bind_of_ok begun]
  cases command.changesItems with
  | false => exact ⟨middle, rfl, fun _ _ => rfl⟩
  | true => exact ⟨middle.refresh found.var.value, rfl, fun _ _ => var?_with ..⟩

/-! ### Blocks -/

/-- A block that has its arguments comes as far as its command. -/
theorem exists_reaches (supplied : opcode.Supplied arguments) (place : Place) (forMonitor : Bool) :
    ∃ found middle command, project.Reaches opcode arguments place forMonitor found middle command ∧
      ∀ value ∈ command.given, value.isPrimitive = true := by
  obtain ⟨name, read⟩ := supplied.subject
  obtain ⟨command, commanded, given⟩ := Opcode.command_of_supplied supplied forMonitor
  exact ⟨_, _, command, ⟨⟨.text name, read, run_resolve rfl⟩, commanded⟩, given⟩

namespace Reaches

variable {command : BlockCommand}

theorem resolves (reaches : project.Reaches opcode arguments place forMonitor found middle command)
    (unused : ∀ place, project.var? place project.nextId = none) :
    ∃ name, project.Resolves place name opcode.kind found middle := by
  obtain ⟨reference, -, ran⟩ := reaches.resolved
  obtain ⟨name, -, resolves⟩ := resolves_of_run ran fun _ => unused
  exact ⟨name, resolves⟩

/-- A list command is run on a list. -/
theorem listed (reaches : project.Reaches opcode arguments place forMonitor found middle command)
    (unused : ∀ place, project.var? place project.nextId = none) (lists : project.HoldsLists)
    (list : ListCommand) (same : command = .list list) :
    ∃ token items, found.var.value = .list token items := by
  obtain ⟨name, resolves⟩ := reaches.resolves unused
  subst same
  exact lists.of_resolves resolves _ _ _ resolves.located.kept
    (resolves.list_of_command reaches.commanded)

/-- A block that is not idle is its command. -/
theorem run_runBlock
    (reaches : project.Reaches opcode arguments place forMonitor found middle command)
    (busy : opcode.isIdle arguments = .ok false) :
    (runBlock opcode arguments place forMonitor).run project =
      (runCommand place found command).run middle := by
  obtain ⟨⟨reference, read, ran⟩, commanded⟩ := reaches
  rw [runBlock_of_busy busy read, Step.run_bind_of_ok ran, commanded,
    Step.run_bind_of_ok (Step.run_ofExcept_ok _ _)]

/-- A block fails as the test whether it is idle or as its command. -/
theorem faultsIn_runBlock
    (reaches : project.Reaches opcode arguments place forMonitor found middle command)
    (idles : FaultsIn allowed (opcode.isIdle arguments))
    (runs : FaultsIn allowed (Step.outcome (runCommand place found command) middle)) :
    FaultsIn allowed (Step.outcome (runBlock opcode arguments place forMonitor) project) := by
  cases tested : opcode.isIdle arguments with
  | error fault =>
    -- The test and the block answer with different types, so the fault is carried over by hand.
    unfold runBlock
    rw [tested]
    intro other failed
    cases failed
    exact idles fault tested
  | ok isIdle =>
    cases isIdle with
    | true =>
      unfold runBlock
      rw [tested]
      exact faultsIn_ok _
    | false =>
      unfold Step.outcome at runs ⊢
      rwa [reaches.run_runBlock tested]

end Reaches

theorem run_execute (reached : project.placeAt destination = .ok place) :
    (execute opcode.name arguments destination forMonitor).run project =
      (runBlock opcode arguments place forMonitor).run project := by
  have named : Opcode.ofName opcode.name = .ok opcode := by
    rw [Opcode.ofName, Opcode.ofName?_name]
  unfold execute
  rw [named, Step.run_bind_of_ok (Step.run_ofExcept_ok _ _),
    Step.run_bind_of_ok (EStateM.run_get _), reached,
    Step.run_bind_of_ok (Step.run_ofExcept_ok _ _)]

/-- A block that has its arguments fails with the faults of what it weighs only. -/
theorem faultsIn_execute (holds : project.HoldsPlain) (supplied : opcode.Supplied arguments)
    (reached : project.placeAt destination = .ok place)
    (unused : ∀ place, project.var? place project.nextId = none)
    (readable : ∀ found middle command,
      project.Reaches opcode arguments place forMonitor found middle command →
      ∀ value ∈ command.weighed found.var.value, value.Plain → value.Readable allowed)
    (tame : ∀ found middle command,
      project.Reaches opcode arguments place forMonitor found middle command →
      ∀ value ∈ command.weighed found.var.value, value.isPrimitive = true → value.Tame allowed)
    (counts : ∀ found middle command,
      project.Reaches opcode arguments place forMonitor found middle command →
      ∀ token items, found.var.value = .list token items →
      ∀ count : Nat, count ≤ items.length + 1 → FaultsIn allowed (Number.int count).toDouble) :
    FaultsIn allowed
      (Step.outcome (execute opcode.name arguments destination forMonitor) project) := by
  obtain ⟨found, middle, command, reaches, given⟩ := exists_reaches supplied place forMonitor
  obtain ⟨name, resolves⟩ := reaches.resolves unused
  have plain := holds.of_resolves resolves
  have listed := reaches.listed unused holds.lists
  have weighs (value : Value) (member : value ∈ command.weighed found.var.value) :
      value.Readable allowed :=
    readable found middle command reaches value member
      (BlockCommand.plain_of_mem_weighed plain listed given member)
  unfold Step.outcome
  rw [run_execute reached]
  refine reaches.faultsIn_runBlock (Opcode.faultsIn_isIdle reaches.commanded weighs) ?_
  refine faultsIn_runCommand listed weighs (fun list same value member => ?_)
    (counts found middle command reaches)
  subst same
  exact tame found middle _ reaches value member
    (BlockCommand.isPrimitive_of_mem_weighed plain (listed list rfl) given member)

/-- **What becomes of a block that has its arguments.** Where variables hold primitives or lists of
them and new identifiers are not taken, it answers unless it weighs a number that is too large; an
index that names no item and what is not read as a number do nothing or count as zero. -/
theorem execute_answers (holds : project.HoldsPlain) (supplied : opcode.Supplied arguments)
    (reached : project.placeAt destination = .ok place)
    (unused : ∀ place, project.var? place project.nextId = none) :
    project.Answers opcode arguments place forMonitor
      (execute opcode.name arguments destination forMonitor) where
  overflows := faultsIn_execute holds supplied reached unused
    (fun _ _ _ _ _ _ plain => plain.readable)
    (fun _ _ _ _ _ _ primitive => Value.tame_of_primitive primitive)
    (fun _ _ _ _ _ _ _ _ _ => Number.isOverflow_of_toDouble _)
  answers moderate := by
    refine exists_of_faultsIn_none (faultsIn_execute holds supplied reached unused
      (fun _ _ _ reaches value member _ => ((moderate _ _ _ reaches).1 value member).readable)
      (fun _ _ _ reaches value member => ((moderate _ _ _ reaches).1 value member).tame) ?_)
    -- A random position is found by rounding the length, one more where an item is inserted.
    intro found middle command reaches token items listed count bound
    have short := (moderate _ _ _ reaches).2 token items listed
    refine Number.faultsIn_toDouble_int (Nat.lt_of_le_of_lt (show count ≤ 2 ^ 63 by omega) ?_)
    decide +kernel
  misses found middle command token items reaches listed missed := by
    obtain ⟨name, resolves⟩ := reaches.resolves unused
    cases Opcode.does_of_command reaches.commanded with
    | list isList busy =>
      rw [run_execute reached, reaches.run_runBlock busy]
      exact run_runList_of_misses resolves.located listed missed
  idles delta changes read unread := by
    subst changes
    have idle := Opcode.isIdle_of_read read (Value.toNumber_of_unread unread)
    rw [run_execute reached, run_runBlock_of_idle idle]
  starts found middle delta step total reaches unread read busy sum := by
    obtain ⟨name, resolves⟩ := reaches.resolves unused
    have ran := ScalarCommand.run_of_result (ScalarCommand.change_of_unread unread read busy sum)
    -- Of all blocks only one adds, and it is idle only where the number is zero.
    cases Opcode.does_of_command reaches.commanded with
    | change changes given =>
      have acts : opcode.isIdle arguments = .ok false := by
        rw [changes, Opcode.isIdle_of_read given read, busy]
      have block := (run_execute reached).trans (reaches.run_runBlock acts)
      refine ⟨_, block.trans (run_runScalar_of_ok resolves.located ran), ?_⟩
      rw [var?_announce, var?_put_self resolves.located.kept]

/-- A list of two scores. -/
def scoreList : Variable where
  id := "l1"
  name := "scores"
  kind := .list
  value := .list 0 [.int 10, .int 20]
  isCloud := false
  isFresh := false
  snapshot := none

/-- A stage with the list, and a sprite without variables. -/
def scoreRoom : Project :=
  { emptyRoom.put .stage "l1" scoreList with supply := { emptyRoom.supply with tokensUsed := 1 } }

theorem eq_scoreList {place : Place} {key : String} {var : Variable}
    (there : scoreRoom.var? place key = some var) : key = "l1" ∧ var = scoreList := by
  rcases var?_put_cases ((var?_with ..).symm.trans there) with ⟨-, here, same⟩ | ⟨-, before⟩
  · exact ⟨here, same⟩
  · cases (bare_emptyRoom place key).symm.trans before

theorem holdsPlain_scoreRoom : scoreRoom.HoldsPlain where
  plain place key var there := by
    rw [(eq_scoreList there).2]
    refine .list 0 fun item member => ?_
    rcases List.mem_cons.mp member with rfl | later
    · rfl
    · rw [List.mem_singleton.mp later]
      rfl
  lists place key var there _ := by
    rw [(eq_scoreList there).2]
    exact ⟨0, _, rfl⟩

theorem unused_scoreRoom (place : Place) : scoreRoom.var? place scoreRoom.nextId = none := by
  cases there : scoreRoom.var? place scoreRoom.nextId with
  | none => rfl
  | some var => exact absurd (eq_scoreList there).1 (by decide +kernel)

theorem supplied_itemOfList (name : String) {index : Value} (primitive : index.isPrimitive = true) :
    Opcode.itemOfList.Supplied [("LIST", .text name), ("INDEX", index)] where
  subject := ⟨name, rfl⟩
  inputs input needed := by
    rw [List.mem_singleton.mp needed]
    exact ⟨index, rfl, primitive⟩

/-- The third of two scores is the empty text. -/
theorem execute_answers_scoreRoom :
    let arguments : Arguments := [("LIST", .text "scores"), ("INDEX", .int 3)]
    let block := execute Opcode.itemOfList.name arguments .editing false
    scoreRoom.HoldsPlain ∧ Opcode.itemOfList.Supplied arguments ∧
      scoreRoom.placeAt .editing = .ok .stage ∧
      (∀ place, scoreRoom.var? place scoreRoom.nextId = none) ∧
      scoreRoom.Answers .itemOfList arguments .stage false block ∧
      ∃ left, block.run scoreRoom = .ok (.text "") left := by
  intro arguments block
  have supplied := supplied_itemOfList "scores" (show (Value.int 3).isPrimitive = true from rfl)
  have answers : scoreRoom.Answers .itemOfList arguments .stage false block :=
    execute_answers holdsPlain_scoreRoom supplied rfl unused_scoreRoom
  have reaches : scoreRoom.Reaches .itemOfList arguments .stage false ⟨.stage, "l1", scoreList⟩
      scoreRoom (.list (.itemAt (.int 3))) :=
    ⟨⟨.text "scores", rfl, rfl⟩, rfl⟩
  have floor : (Number.int 3).floor? = .ok (some 3) := Number.floor?_int (by decide +kernel)
  obtain ⟨left, ran, -⟩ := answers.misses _ _ _ _ _ reaches rfl
    (.outside rfl (show (Value.int 3).reading = .ok (.int 3) from rfl) floor (.inr (by decide)))
  exact ⟨holdsPlain_scoreRoom, supplied, rfl, unused_scoreRoom, answers, left, ran⟩

/-- Not every block that has its arguments answers: asked for the item at `2 ^ 1024`, which no list
has, it fails. -/
theorem not_execute_answers :
    ¬ ∀ (project : Project) (place : Place) (opcode : Opcode) (arguments : Arguments)
      (destination : Destination) (forMonitor : Bool), project.HoldsPlain →
      opcode.Supplied arguments → project.placeAt destination = .ok place →
      (∀ place, project.var? place project.nextId = none) →
      ∃ answer, Step.outcome (execute opcode.name arguments destination forMonitor) project =
        .ok answer := by
  intro always
  have supplied := supplied_itemOfList "scores"
    (show (Value.int (Nat.pow 2 1024)).isPrimitive = true from rfl)
  obtain ⟨answer, answered⟩ := always scoreRoom .stage .itemOfList _ .editing false
    holdsPlain_scoreRoom supplied rfl unused_scoreRoom
  have failed : Step.fault? (execute Opcode.itemOfList.name
      [("LIST", .text "scores"), ("INDEX", .int (Nat.pow 2 1024))] .editing false) scoreRoom =
        some .integerTooLarge := by
    decide +kernel
  cases (Step.run_of_outcome_ok answered).symm.trans (Step.run_of_fault? failed)

end Project

end BlockData
