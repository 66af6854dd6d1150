/-
**The lists that a monitor is handed.**

A monitor goes by identity: it draws a list again only if it is handed another one. Over every run
of commands on a list variable that begins without a snapshot up to date
(`ListCommand.monitorFaithful_turns`)

* each read hands out a list of the items of that moment,
* two reads hand out the same list exactly if no command between them took effect, and a read after
  an effect hands out a list that no read before it did, and
* a list that was handed out keeps its items, whatever happens to the variable.

Three facts about a state are carried along a run: `Held.Sound` (the snapshot on offer has the
items of the list), `Held.Apart` (a list handed out is not the list that commands change in place)
and `Held.Recent` (the snapshots on offer were all made after a given moment).
-/

import BlockData.Proofs.Listing.Command

namespace BlockData

/-! ### What a turn hands out -/

/-- A turn of a run of commands on a list in hand. -/
abbrev ListTurn := Turn Held ListCommand Value

/-- The list that a turn handed to a monitor. -/
def Turn.handed? (turn : ListTurn) : Option Snapshot :=
  match turn.asked, turn.outcome with
  | .contents true, .ok (.list token items) => some ⟨token, items⟩
  | _, _ => none

/-- Only reads hand out lists. -/
theorem Turn.asked_of_handed {turn : ListTurn} {snapshot : Snapshot}
    (handed : turn.handed? = some snapshot) : turn.asked = .contents true := by
  unfold Turn.handed? at handed
  split at handed
  next asked answered => exact asked
  next => cases handed

/-- The command of a turn took effect. -/
def Turn.TookEffect (turn : ListTurn) : Prop :=
  turn.asked.TakesEffect turn.before

/-- A list after a turn: if it is the list of the variable it holds what that holds now, since
commands change a list in place; any other list is as it was. -/
def Snapshot.through (snapshot : Snapshot) (turn : ListTurn) : Snapshot :=
  match turn.after.var.value with
  | .list token items => if snapshot.token = token then ⟨token, items⟩ else snapshot
  | _ => snapshot

/-- What a monitor can rely on in a run of commands on a list. -/
structure MonitorFaithful (turns : List ListTurn) : Prop where
  /-- Each read answers with a list of the items of that moment. -/
  current : ∀ turn ∈ turns, turn.asked = .contents true →
    ∃ own items token, turn.before.var.value = .list own items ∧
      turn.outcome = .ok (.list token items)
  /-- Two reads hand out the same list exactly if nothing between them took effect. -/
  same_iff : ∀ past earlier between later rest first second,
    turns = past ++ earlier :: (between ++ later :: rest) →
    earlier.handed? = some first → later.handed? = some second →
    (first.token = second.token ↔ ∀ turn ∈ between, ¬ turn.TookEffect)
  /-- The first read after an effect hands out a list never handed out before. -/
  new : ∀ past between later rest second,
    turns = past ++ (between ++ later :: rest) → later.handed? = some second →
    (∃ turn ∈ between, turn.TookEffect) → (∀ turn ∈ between, turn.asked ≠ .contents true) →
    ∀ turn ∈ past ++ between, ∀ first, turn.handed? = some first → first.token ≠ second.token
  /-- A list that was handed out keeps its items as long as the run goes on. -/
  lasting : ∀ past read between rest handed,
    turns = past ++ read :: (between ++ rest) → read.handed? = some handed →
    between.foldl Snapshot.through handed = handed

/-! ### What a command keeps -/

namespace Held

/-- The list with a token was made before now and is not the one that the variable holds. -/
def Apart (token : Nat) (held : Held) : Prop :=
  token < held.supply.tokensUsed ∧ ∀ own items, held.var.value = .list own items → own ≠ token

/-- The variable in hand holds a list made before now, and the snapshot on offer is another list
with the same items. -/
structure Sound (held : Held) : Prop where
  listed : ∃ token items, held.var.value = .list token items ∧ token < held.supply.tokensUsed
  current : ∀ snapshot, held.Shows snapshot →
    held.var.value.items? = some snapshot.items ∧ held.Apart snapshot.token

/-- Every snapshot on offer now or later was made when a number of tokens had been given out. -/
def Recent (made : Nat) (held : Held) : Prop :=
  made ≤ held.supply.tokensUsed ∧ ∀ snapshot, held.Shows snapshot → made ≤ snapshot.token

theorem shows_unique {held : Held} {first second : Snapshot} (one : held.Shows first)
    (other : held.Shows second) : first = second := by
  have same := one.2.symm.trans other.2
  rwa [Option.some.injEq] at same

/-- Nothing is on offer while the snapshot is out of date. -/
theorem not_shows_of_stale {held : Held} (stale : held.var.isFresh = false)
    (snapshot : Snapshot) : ¬ held.Shows snapshot := by
  rintro ⟨fresh, -⟩
  rw [stale] at fresh
  cases fresh

theorem shows_copied (held : Held) (items : List Value) :
    (held.copied items).Shows ⟨held.supply.tokensUsed, items⟩ :=
  ⟨rfl, rfl⟩

end Held

namespace ListCommand.Leaves

variable {command : ListCommand} {held left : Held} {token : Nat} {items : List Value}

/-- Tokens are given out and never taken back. -/
theorem tokensUsed_le (leaves : command.Leaves held token items left) :
    held.supply.tokensUsed ≤ left.supply.tokensUsed := by
  cases leaves with
  | same used idle => exact Nat.le_refl _
  | altered used changed effect inPlace => exact Nat.le_refl _
  | cleared used effect => exact Nat.le_succ _
  | copied read stale => exact Nat.le_succ _

/-- Every command keeps the variable in hand sound. -/
theorem sound (leaves : command.Leaves held token items left)
    (listed : held.var.value = .list token items) (sound : held.Sound) : left.Sound := by
  obtain ⟨⟨own, now, same, old⟩, current⟩ := sound
  cases listed.symm.trans same
  cases leaves with
  | same used idle => exact ⟨⟨token, items, listed, old⟩, current⟩
  | altered used changed effect inPlace =>
    exact ⟨⟨token, changed, rfl, old⟩, fun snapshot shows =>
      absurd shows (Held.not_shows_of_stale rfl snapshot)⟩
  | cleared used effect =>
    refine ⟨⟨held.supply.tokensUsed, [], rfl, Nat.lt_succ_self _⟩, fun snapshot shows => ?_⟩
    exact absurd shows (Held.not_shows_of_stale rfl snapshot)
  | copied read stale =>
    refine ⟨⟨token, items, listed, Nat.lt_succ_of_lt old⟩, fun snapshot shows => ?_⟩
    cases Held.shows_unique shows (Held.shows_copied held items)
    refine ⟨?_, Nat.lt_succ_self _, ?_⟩
    · show held.var.value.items? = some items
      rw [listed]
      rfl
    · intro own now here
      cases listed.symm.trans here
      exact Nat.ne_of_lt old

/-- A list that is not the variable's stays so: a new list takes a new token. -/
theorem apart (leaves : command.Leaves held token items left)
    (listed : held.var.value = .list token items) {other : Nat} (apart : held.Apart other) :
    left.Apart other := by
  obtain ⟨old, differs⟩ := apart
  refine ⟨Nat.lt_of_lt_of_le old leaves.tokensUsed_le, ?_⟩
  cases leaves with
  | same used idle => exact differs
  | altered used changed effect inPlace =>
    intro own now here
    cases here
    exact differs token items listed
  | cleared used effect =>
    intro own now here
    cases here
    exact Nat.ne_of_gt old
  | copied read stale => exact differs

/-- Snapshots made later than a moment are followed only by such. -/
theorem recent (leaves : command.Leaves held token items left) {made : Nat}
    (recent : held.Recent made) : left.Recent made := by
  obtain ⟨old, since⟩ := recent
  refine ⟨Nat.le_trans old leaves.tokensUsed_le, ?_⟩
  cases leaves with
  | same used idle => exact since
  | altered used changed effect inPlace =>
    exact fun snapshot shows => absurd shows (Held.not_shows_of_stale rfl snapshot)
  | cleared used effect =>
    exact fun snapshot shows => absurd shows (Held.not_shows_of_stale rfl snapshot)
  | copied read stale =>
    intro snapshot shows
    cases Held.shows_unique shows (Held.shows_copied held items)
    exact old

/-- A command that takes effect leaves no snapshot on offer. -/
theorem not_shows (leaves : command.Leaves held token items left)
    (effect : command.TakesEffect held) (snapshot : Snapshot) : ¬ left.Shows snapshot := by
  cases leaves with
  | same used idle => exact absurd effect idle
  | altered used changed effect inPlace => exact Held.not_shows_of_stale rfl snapshot
  | cleared used effect => exact Held.not_shows_of_stale rfl snapshot
  | copied read stale =>
    subst read
    cases effect

/-- A command without effect leaves the snapshot on offer. -/
theorem shows (leaves : command.Leaves held token items left) (idle : ¬ command.TakesEffect held)
    {snapshot : Snapshot} (shows : held.Shows snapshot) : left.Shows snapshot := by
  cases leaves with
  | same used idle => exact shows
  | altered used changed effect inPlace => exact absurd effect idle
  | cleared used effect => exact absurd effect idle
  | copied read stale => exact absurd shows (stale snapshot)

end ListCommand.Leaves

/-! ### What a read hands out -/

/-- A read hands out the snapshot that it leaves on offer, with the items of that moment; if it
was not on offer before, it is new. -/
theorem Held.Sound.run_read {held : Held} (sound : held.Sound) :
    ∃ snapshot left, (ListCommand.contents true).run.run held = .ok snapshot.toValue left ∧
      left.Shows snapshot ∧ held.var.value.items? = some snapshot.items ∧
      (held.Shows snapshot ∨ snapshot.token = held.supply.tokensUsed) := by
  obtain ⟨⟨token, items, listed, -⟩, current⟩ := sound
  by_cases shown : ∃ snapshot, held.Shows snapshot
  · obtain ⟨snapshot, shows⟩ := shown
    exact ⟨snapshot, held, Held.run_monitored_of_shows shows, shows, (current snapshot shows).1,
      .inl shows⟩
  · have stale : ∀ snapshot, ¬ held.Shows snapshot := fun snapshot shows => shown ⟨snapshot, shows⟩
    refine ⟨⟨held.supply.tokensUsed, items⟩, held.copied items,
      Held.run_monitored_of_not_shows listed stale, Held.shows_copied held items, ?_, .inr rfl⟩
    rw [listed]
    rfl

namespace ListCommand

variable {held : Held} {commands : List ListCommand}

theorem sound_last (sound : held.Sound) (commands : List ListCommand) :
    (Run.last run held commands).Sound := by
  refine Run.invariant_last Held.Sound (fun _ => True) (fun state command sound _ => ?_) sound
    commands fun _ _ => trivial
  obtain ⟨token, items, listed, -⟩ := sound.listed
  exact (leaves_run listed command).sound listed sound

/-- What sound states carry from turn to turn they carry along a run. -/
theorem carried_last {carried : Held → Prop} (sound : held.Sound)
    (keeps : ∀ command held left token items, Leaves command held token items left →
      held.var.value = .list token items → carried held → carried left)
    (begins : carried held) : carried (Run.last run held commands) := by
  refine (Run.invariant_last (fun state => state.Sound ∧ carried state) (fun _ => True)
    (fun state command both _ => ?_) ⟨sound, begins⟩ commands fun _ _ => trivial).2
  obtain ⟨sound, holds⟩ := both
  obtain ⟨token, items, listed, -⟩ := sound.listed
  have leaves := leaves_run listed command
  exact ⟨leaves.sound listed sound, keeps command state _ token items leaves listed holds⟩

theorem apart_last (sound : held.Sound) {token : Nat} (apart : held.Apart token) :
    (Run.last run held commands).Apart token :=
  carried_last sound (fun _ _ _ _ _ leaves listed apart => leaves.apart listed apart) apart

theorem recent_last (sound : held.Sound) {made : Nat} (recent : held.Recent made)
    (commands : List ListCommand) : (Run.last run held commands).Recent made :=
  carried_last sound (fun _ _ _ _ _ leaves _ recent => leaves.recent recent) recent

/-- While no command takes effect the snapshot stays on offer. -/
theorem shows_last (sound : held.Sound) {snapshot : Snapshot} (shows : held.Shows snapshot)
    (idle : ∀ turn ∈ Run.turns run held commands, ¬ Turn.TookEffect turn) :
    (Run.last run held commands).Shows snapshot := by
  refine (Run.invariant_last (fun state => state.Sound ∧ state.Shows snapshot)
    (fun turn => ¬ turn.TookEffect) (fun state command both idle => ?_) ⟨sound, shows⟩
    commands idle).2
  obtain ⟨sound, shows⟩ := both
  obtain ⟨token, items, listed, -⟩ := sound.listed
  have leaves := leaves_run listed command
  exact ⟨leaves.sound listed sound, leaves.shows idle shows⟩

/-- A turn that hands out a list was a read; it leaves on offer what it handed out. -/
theorem handed_turn (sound : held.Sound) {command : ListCommand} {snapshot : Snapshot}
    (handed : (Run.turn run held command).handed? = some snapshot) :
    command = .contents true ∧ (Step.after command.run held).Shows snapshot ∧
      (held.Shows snapshot ∨ snapshot.token = held.supply.tokensUsed) := by
  have read : command = .contents true := Turn.asked_of_handed handed
  subst read
  obtain ⟨given, left, ran, shows, -, origin⟩ := sound.run_read
  have same : some given = some snapshot := by
    rw [← handed]
    unfold Turn.handed? Run.turn
    simp only [Step.outcome_of_ok ran]
    rfl
  cases same
  rw [Step.after_of_ok ran]
  exact ⟨rfl, shows, origin⟩

/-- A list that was handed out is never the variable's own again. -/
theorem apart_of_handed (sound : held.Sound) {command : ListCommand} {snapshot : Snapshot}
    (handed : (Run.turn run held command).handed? = some snapshot) :
    (Step.after command.run held).Apart snapshot.token := by
  obtain ⟨token, items, listed, -⟩ := sound.listed
  have leaves := leaves_run listed command
  exact ((leaves.sound listed sound).current snapshot (handed_turn sound handed).2.1).2

theorem apart_last_of_handed (sound : held.Sound) {turn : ListTurn}
    (member : turn ∈ Run.turns run held commands) {snapshot : Snapshot}
    (handed : turn.handed? = some snapshot) :
    (Run.last run held commands).Apart snapshot.token := by
  obtain ⟨past, future, cut⟩ := List.append_of_mem member
  obtain ⟨early, late, rfl, rfl, ended⟩ := Run.exists_of_turns_eq_append cut
  obtain ⟨command, rest, rfl, rfl, -⟩ := Run.exists_of_turns_eq_cons ended
  have here := sound_last sound early
  obtain ⟨token, items, listed, -⟩ := here.listed
  have after := (leaves_run listed command).sound listed here
  rw [Run.last_append]
  exact apart_last after (apart_of_handed here handed)

/-- After an effect, every list handed out is newer than every list handed out before. -/
theorem token_lt_of_effect (sound : held.Sound) {early : List ListCommand}
    (command : ListCommand) (late : List ListCommand) (read : ListCommand) {turn : ListTurn}
    (member : turn ∈ Run.turns run held early) {first second : Snapshot}
    (handedFirst : turn.handed? = some first)
    (effect : command.TakesEffect (Run.last run held early))
    (handedSecond : (Run.turn run (Run.last run held (early ++ command :: late)) read).handed? =
      some second) : first.token < second.token := by
  have old := (apart_last_of_handed sound member handedFirst).1
  have here := sound_last sound early
  obtain ⟨token, items, listed, -⟩ := here.listed
  have leaves := leaves_run listed command
  have after := leaves.sound listed here
  have recent : (Step.after command.run (Run.last run held early)).Recent
      (Run.last run held early).supply.tokensUsed :=
    ⟨leaves.tokensUsed_le, fun snapshot shows => absurd shows (leaves.not_shows effect snapshot)⟩
  rw [Run.last_append] at handedSecond
  obtain ⟨made, since⟩ := recent_last after recent late
  obtain ⟨-, -, offered | new⟩ := handed_turn (sound_last after late) handedSecond
  · exact Nat.lt_of_lt_of_le old (since second offered)
  · exact Nat.lt_of_lt_of_le old (new ▸ made)

end ListCommand

/-- A list that is not the variable's own is as it was after any number of turns. -/
theorem Snapshot.foldl_through_of_apart {held : Held} (sound : held.Sound) (snapshot : Snapshot)
    (apart : held.Apart snapshot.token) (commands : List ListCommand) :
    (Run.turns ListCommand.run held commands).foldl Snapshot.through snapshot = snapshot := by
  induction commands generalizing held with
  | nil => rfl
  | cons command rest hypothesis =>
    obtain ⟨token, items, listed, -⟩ := sound.listed
    have leaves := ListCommand.leaves_run listed command
    have stays := leaves.apart listed apart
    have same : snapshot.through (Run.turn ListCommand.run held command) = snapshot := by
      unfold Snapshot.through
      split
      next own now holds => exact if_neg (Ne.symm (stays.2 own now holds))
      next => rfl
    rw [Run.turns, List.foldl_cons, same]
    exact hypothesis (leaves.sound listed sound) stays

namespace ListCommand

variable {held : Held} {commands : List ListCommand}

/-- Each read answers with a list of the items of that moment. -/
theorem outcome_read (sound : held.Sound) {turn : ListTurn}
    (member : turn ∈ Run.turns run held commands) (read : turn.asked = .contents true) :
    ∃ own items token, turn.before.var.value = .list own items ∧
      turn.outcome = .ok (.list token items) := by
  obtain ⟨past, future, cut⟩ := List.append_of_mem member
  obtain ⟨early, late, rfl, -, ended⟩ := Run.exists_of_turns_eq_append cut
  obtain ⟨command, rest, rfl, rfl, -⟩ := Run.exists_of_turns_eq_cons ended
  have here := sound_last sound early
  obtain ⟨own, items, listed, -⟩ := here.listed
  obtain ⟨snapshot, left, ran, -, sameItems, -⟩ := here.run_read
  refine ⟨own, items, snapshot.token, listed, ?_⟩
  rw [listed] at sameItems
  cases sameItems
  cases read
  exact Step.outcome_of_ok ran

/-- While nothing takes effect a read hands out the list that the read before it did. -/
theorem token_eq_of_idle (sound : held.Sound) {early middle : List ListCommand}
    {read again : ListCommand} {first second : Snapshot}
    (handedFirst : (Run.turn run (Run.last run held early) read).handed? = some first)
    (idle : ∀ turn ∈ Run.turns run (Step.after read.run (Run.last run held early)) middle,
      ¬ Turn.TookEffect turn)
    (handedSecond : (Run.turn run
      (Run.last run (Step.after read.run (Run.last run held early)) middle) again).handed? =
        some second) : first = second := by
  have here := sound_last sound early
  obtain ⟨own, now, listed, -⟩ := here.listed
  have after := (leaves_run listed read).sound listed here
  have offered := shows_last after (handed_turn here handedFirst).2.1 idle
  have there := sound_last after middle
  obtain ⟨last, final, listedThen, -⟩ := there.listed
  obtain ⟨isRead, given, -⟩ := handed_turn there handedSecond
  have kept := (leaves_run listedThen again).shows (by rw [isRead]; exact id) offered
  exact Held.shows_unique kept given

/-- Two reads hand out the same list exactly if nothing between them took effect. -/
theorem token_eq_iff (sound : held.Sound) {past between rest : List ListTurn}
    {earlier later : ListTurn} {first second : Snapshot}
    (cut : Run.turns run held commands = past ++ earlier :: (between ++ later :: rest))
    (handedFirst : earlier.handed? = some first) (handedSecond : later.handed? = some second) :
    first.token = second.token ↔ ∀ turn ∈ between, ¬ turn.TookEffect := by
  obtain ⟨early, late, rfl, rfl, ended⟩ := Run.exists_of_turns_eq_append cut
  obtain ⟨read, others, rfl, rfl, continued⟩ := Run.exists_of_turns_eq_cons ended
  obtain ⟨middle, final, rfl, rfl, closing⟩ := Run.exists_of_turns_eq_append continued
  obtain ⟨again, remaining, rfl, rfl, -⟩ := Run.exists_of_turns_eq_cons closing
  refine ⟨fun same turn member effect => ?_, fun idle => ?_⟩
  · -- An effect between the reads makes the second list newer than the first.
    obtain ⟨before, behind, split⟩ := List.append_of_mem member
    obtain ⟨quiet, loud, rfl, -, opening⟩ := Run.exists_of_turns_eq_append split
    obtain ⟨command, tail, rfl, rfl, -⟩ := Run.exists_of_turns_eq_cons opening
    have member : Run.turn run (Run.last run held early) read ∈
        Run.turns run held (early ++ read :: quiet) := by
      rw [Run.turns_append]
      exact List.mem_append_right _ List.mem_cons_self
    have newer : first.token < second.token := by
      refine token_lt_of_effect sound command tail again member handedFirst ?_ ?_
      · rw [Run.last_append]
        exact effect
      · rw [List.append_assoc, Run.last_append]
        exact handedSecond
    omega
  · rw [token_eq_of_idle sound handedFirst idle handedSecond]

/-- The first read after an effect hands out a list never handed out before. -/
theorem token_ne_of_effect (sound : held.Sound) {past between rest : List ListTurn}
    {later : ListTurn} {second : Snapshot}
    (cut : Run.turns run held commands = past ++ (between ++ later :: rest))
    (handedSecond : later.handed? = some second) (effect : ∃ turn ∈ between, turn.TookEffect)
    (unread : ∀ turn ∈ between, turn.asked ≠ .contents true) {turn : ListTurn}
    (member : turn ∈ past ++ between) {first : Snapshot} (handedFirst : turn.handed? = some first) :
    first.token ≠ second.token := by
  obtain ⟨early, late, rfl, rfl, ended⟩ := Run.exists_of_turns_eq_append cut
  obtain ⟨middle, final, rfl, rfl, closing⟩ := Run.exists_of_turns_eq_append ended
  obtain ⟨again, remaining, rfl, rfl, -⟩ := Run.exists_of_turns_eq_cons closing
  obtain ⟨loud, memberLoud, effect⟩ := effect
  obtain ⟨before, behind, split⟩ := List.append_of_mem memberLoud
  obtain ⟨quiet, others, rfl, -, opening⟩ := Run.exists_of_turns_eq_append split
  obtain ⟨command, tail, rfl, rfl, -⟩ := Run.exists_of_turns_eq_cons opening
  obtain inPast | inBetween := List.mem_append.mp member
  · have member : turn ∈ Run.turns run held (early ++ quiet) := by
      rw [Run.turns_append]
      exact List.mem_append_left _ inPast
    refine Nat.ne_of_lt (token_lt_of_effect sound command tail again member handedFirst ?_ ?_)
    · rw [Run.last_append]
      exact effect
    · rw [List.append_assoc, Run.last_append]
      exact handedSecond
  · exact absurd (Turn.asked_of_handed handedFirst) (unread turn inBetween)

/-- A list that was handed out keeps its items as long as the run goes on. -/
theorem foldl_through_handed (sound : held.Sound) {past between rest : List ListTurn}
    {read : ListTurn} {handed : Snapshot}
    (cut : Run.turns run held commands = past ++ read :: (between ++ rest))
    (handedOut : read.handed? = some handed) :
    between.foldl Snapshot.through handed = handed := by
  obtain ⟨early, late, rfl, rfl, ended⟩ := Run.exists_of_turns_eq_append cut
  obtain ⟨command, others, rfl, rfl, continued⟩ := Run.exists_of_turns_eq_cons ended
  obtain ⟨middle, final, rfl, rfl, -⟩ := Run.exists_of_turns_eq_append continued
  have here := sound_last sound early
  obtain ⟨own, now, listed, -⟩ := here.listed
  exact Snapshot.foldl_through_of_apart ((leaves_run listed command).sound listed here)
    handed (apart_of_handed here handedOut) middle

/-- **What a monitor can rely on in every run of commands on a list variable.** The variable holds
a list made before the run, and no snapshot is up to date when the run begins. -/
theorem monitorFaithful_turns (held : Held) (commands : List ListCommand) (token : Nat)
    (items : List Value) (listed : held.var.value = .list token items)
    (made : token < held.supply.tokensUsed)
    (stale : held.var.isFresh = false ∨ held.var.snapshot = none) :
    MonitorFaithful (Run.turns run held commands) := by
  have sound : held.Sound := by
    refine ⟨⟨token, items, listed, made⟩, fun snapshot shows => ?_⟩
    obtain old | none := stale
    · exact absurd shows (Held.not_shows_of_stale old snapshot)
    · cases none.symm.trans shows.2
  exact {
    current := fun turn member read => outcome_read sound member read
    same_iff := fun _ _ _ _ _ _ _ cut first second => token_eq_iff sound cut first second
    new := fun _ _ _ _ _ cut second effect unread _ member _ first =>
      token_ne_of_effect sound cut second effect unread member first
    lasting := fun _ _ _ _ _ cut handedOut => foldl_through_handed sound cut handedOut }

/-- A list of one item in hand, with nothing on offer to its monitor. -/
def freshList : Held where
  var :=
    { id := "a", name := "scores", kind := .list, value := .list 0 [.int 1], isCloud := false,
      isFresh := false, snapshot := none }
  supply := { letter := id, fraction := fun _ => .zero, tokensUsed := 1 }

/-- Reading, replacing beyond the end, reading, adding, and reading twice. -/
def readAndAdd : List ListCommand :=
  [.contents true, .replaceAt (.int 9) .nothing, .contents true, .add (.text "x"), .contents true,
    .contents true]

theorem monitorFaithful_readAndAdd :
    freshList.var.value = .list 0 [.int 1] ∧ 0 < freshList.supply.tokensUsed ∧
      (freshList.var.isFresh = false ∨ freshList.var.snapshot = none) ∧
      (Run.turns run freshList readAndAdd).map (fun turn => turn.handed?.map Snapshot.token) =
        [some 1, none, some 1, none, some 2, some 2] ∧
      MonitorFaithful (Run.turns run freshList readAndAdd) :=
  ⟨rfl, by decide, .inl rfl, by decide +kernel,
    monitorFaithful_turns freshList readAndAdd 0 [.int 1] rfl (by decide) (.inl rfl)⟩

end ListCommand

end BlockData
