/-
**Adding to one variable from many places.**

Blocks that add whole numbers to one variable of the stage can run at any targets and in any order:
no step is lost, rounded or counted twice. A step of zero does nothing; every other one leaves the
sum, exact at any size, and tells a cloud provider the total so far.

* `Project.AddsTo.run_perform`: what one such block answers and leaves;
* `Project.AddsTo.advance`: what the others refer to stays what it was;
* `Project.last_additions`: the project that a run of them leaves;
* `Project.addsUp`: the sum, the same in every order, and what the provider receives.
-/

import BlockData.Proofs.Announcements
import BlockData.Proofs.Project.Answers
import BlockData.Proofs.Project.Moves
import BlockData.Proofs.Project.Resolution

namespace BlockData

/-- A call of a block, with the whole number that it adds. -/
structure Addition where
  call : Call
  step : Int

/-- Runs the block of the call. -/
def Addition.perform (addition : Addition) : Step Project Value :=
  addition.call.perform

/-- The totals after the steps that are not zero. -/
def runningTotals (start : Int) : List Int → List Int
  | [] => []
  | step :: rest =>
    if step = 0 then runningTotals start rest
    else (start + step) :: runningTotals (start + step) rest

namespace Variable

/-- The variable after steps were added to its number; without a step other than zero it stays as it
is, whatever its number was read from. -/
def plus (var : Variable) (start : Int) (steps : List Int) : Variable :=
  if ∀ step ∈ steps, step = 0 then var else { var with value := .int (start + steps.sum) }

/-- The requests that tell totals of the variable, if it is a cloud variable. -/
def updates (var : Variable) (totals : List Int) : List CloudRequest :=
  if var.isCloud then totals.map fun total => .update (.text var.name) (.int total) else []

end Variable

namespace Project

/-- The call of the addition is a block that adds to the scalar under a key of the stage: its
destination is reached, its reference stands for that variable there, and what it adds is read as
the step. -/
structure AddsTo (project : Project) (key : String) (addition : Addition) : Prop where
  opcode : addition.call.opcode = Opcode.changeVariable.name
  subject : ∃ place name var, project.placeAt addition.call.destination = .ok place ∧
    Opcode.changeVariable.Refers addition.call.arguments name ∧
    (project.scope place).lookup name .scalar = some ⟨.stage, key, var⟩
  step : ∃ delta, addition.call.arguments.read "VALUE" = .ok delta ∧
    delta.toNumber = .ok (.int addition.step)

/-- What becomes of a variable of the stage that is read as a whole number when blocks add to it. -/
structure AddsUp (project : Project) (key : String) (var : Variable) (start : Int)
    (additions : List Addition) : Prop where
  /-- Every block answers. -/
  answers : ∀ taken ∈ Run.turns Addition.perform project additions, taken.outcome = .ok .nothing
  /-- In the end the variable is read as the exact sum. -/
  total : ∃ last, (Run.last Addition.perform project additions).var? .stage key = some last ∧
    last.value.toNumber = .ok (.int (start + (additions.map Addition.step).sum))
  /-- In any other order the blocks leave the same variable. -/
  orders : ∀ others : List Addition, others.Perm additions →
    (Run.last Addition.perform project others).var? .stage key =
      (Run.last Addition.perform project additions).var? .stage key
  /-- A block whose step is not zero sends the total so far, if the variable is a cloud variable;
  other blocks send nothing. -/
  sends : ∀ early one late, additions = early ++ one :: late →
    let before := Run.last Addition.perform project early
    (Step.after one.perform before).provider = before.provider.map (· ++
      if var.isCloud = true ∧ one.step ≠ 0 then
        [.update (.text var.name) (.int (start + (early.map Addition.step).sum + one.step))]
      else [])
  /-- So the provider receives as many requests as there are steps that are not zero. -/
  received : (Run.last Addition.perform project additions).provider = project.provider.map
    (· ++ var.updates (runningTotals start (additions.map Addition.step)))
  counted : (runningTotals start (additions.map Addition.step)).length =
    (additions.map Addition.step).countP (· ≠ 0)
  /-- Nothing else changes. -/
  rest : ∃ value provider, Run.last Addition.perform project additions =
    { project.put .stage key { var with value } with provider }

end Project

/-! ### Totals -/

theorem runningTotals_append (start : Int) (early late : List Int) :
    runningTotals start (early ++ late) =
      runningTotals start early ++ runningTotals (start + early.sum) late := by
  induction early generalizing start with
  | nil =>
    rw [List.nil_append, List.sum_nil, Int.add_zero]
    rfl
  | cons step rest hypothesis =>
    rw [List.cons_append, runningTotals, runningTotals, List.sum_cons, hypothesis, hypothesis,
      Int.add_assoc]
    by_cases zero : step = 0
    · rw [if_pos zero, if_pos zero, zero, Int.zero_add]
    · rw [if_neg zero, if_neg zero, List.cons_append]

theorem length_runningTotals (start : Int) (steps : List Int) :
    (runningTotals start steps).length = steps.countP (· ≠ 0) := by
  induction steps generalizing start with
  | nil => rfl
  | cons step rest hypothesis =>
    by_cases zero : step = 0
    · rw [runningTotals, if_pos zero, hypothesis, List.countP_cons_of_neg (by simpa using zero)]
    · rw [runningTotals, if_neg zero, List.length_cons, hypothesis,
        List.countP_cons_of_pos (by simpa using zero)]

namespace Variable

variable {var : Variable} {start : Int}

/-- A step of zero adds nothing. -/
theorem plus_cons_zero (var : Variable) (start : Int) (steps : List Int) :
    var.plus start (0 :: steps) = var.plus start steps := by
  unfold plus
  simp only [List.forall_mem_cons, true_and, List.sum_cons, Int.zero_add]

/-- A step that is not zero is added first, and then the others. -/
theorem plus_cons {step : Int} (nonzero : step ≠ 0) (steps : List Int) :
    var.plus start (step :: steps) =
      ({ var with value := .int (start + step) } : Variable).plus (start + step) steps := by
  unfold plus
  rw [if_neg fun zeros => nonzero (zeros step List.mem_cons_self), List.sum_cons, ← Int.add_assoc]
  split
  next zeros => rw [List.sum_eq_zero zeros, Int.add_zero]
  next => rfl

/-- The order of the steps does not matter. -/
theorem plus_perm {steps others : List Int} (same : others.Perm steps) :
    var.plus start others = var.plus start steps := by
  unfold plus
  simp only [same.mem_iff, same.sum_eq]

theorem plus_eq (var : Variable) (start : Int) (steps : List Int) :
    var.plus start steps = { var with value := (var.plus start steps).value } := by
  unfold plus
  split <;> rfl

/-- The variable is read as the sum. -/
theorem toNumber_plus (whole : var.value.toNumber = .ok (.int start)) (steps : List Int) :
    (var.plus start steps).value.toNumber = .ok (.int (start + steps.sum)) := by
  unfold plus
  split
  next zeros => rw [List.sum_eq_zero zeros, Int.add_zero, whole]
  next =>
    have exact : (Number.int (start + steps.sum)) ≠ .nan := Number.noConfusion
    exact Value.toNumber_ofNumber exact

theorem updates_append (var : Variable) (first second : List Int) :
    var.updates (first ++ second) = var.updates first ++ var.updates second := by
  unfold updates
  cases var.isCloud
  · rfl
  · exact List.map_append

/-- One step sends one request of a cloud variable, unless it is zero. -/
theorem updates_single (var : Variable) (start step : Int) :
    var.updates (runningTotals start [step]) =
      if var.isCloud = true ∧ step ≠ 0 then [.update (.text var.name) (.int (start + step))]
      else [] := by
  unfold updates runningTotals
  cases var.isCloud <;> by_cases zero : step = 0 <;> simp [zero, runningTotals]

end Variable

namespace Project

variable {project : Project} {key : String} {var : Variable} {start total : Int}
  {addition : Addition} {additions : List Addition}

/-! ### One addition -/

/-- The project in which the variable under a key of the stage has another total, which is told. -/
def advance (project : Project) (key : String) (var : Variable) (total : Int) : Project :=
  let changed := { var with value := .int total }
  (project.put .stage key changed).announce changed.announcement?

theorem provider_advance (project : Project) (key : String) (var : Variable) (total : Int) :
    (project.advance key var total).provider = project.provider.map (· ++ var.updates [total]) := by
  unfold advance Variable.announcement? Variable.updates
  cases var.isCloud
  · simp [announce, put]
  · rfl

/-- Apart from the provider only the variable changes. -/
theorem advance_eq (project : Project) (key : String) (var : Variable) (total : Int) :
    project.advance key var total =
      { project.put .stage key { var with value := .int total } with
        provider := (project.advance key var total).provider } := by
  unfold advance Variable.announcement?
  cases var.isCloud <;> rfl

theorem var?_advance (kept : project.var? .stage key = some var) (total : Int) :
    (project.advance key var total).var? .stage key = some { var with value := .int total } := by
  unfold advance
  rw [var?_announce, var?_put_self kept]

theorem put_advance (project : Project) (key : String) (var : Variable) (total : Int)
    (new : Variable) : (project.advance key var total).put .stage key new =
      { project.put .stage key new with
        provider := project.provider.map (· ++ var.updates [total]) } := by
  rw [advance_eq, ← provider_advance,
    ← put_put project .stage key { var with value := .int total } new]
  rfl

theorem placeAt_advance (project : Project) (key : String) (var : Variable) (total : Int)
    (destination : Destination) :
    (project.advance key var total).placeAt destination = project.placeAt destination := by
  rw [advance_eq]
  cases destination <;> rfl

/-- A name that stands for the variable at a place stands for it still. -/
theorem lookup_advance {place : Place} {name : String} {kind : Kind}
    (seen : (project.scope place).lookup name kind = some ⟨.stage, key, var⟩) (total : Int) :
    ((project.advance key var total).scope place).lookup name kind =
      some ⟨.stage, key, { var with value := .int total }⟩ := by
  have put : ((project.put .stage key { var with value := .int total }).scope place).lookup name
      kind = _ := lookup_put seen rfl rfl
  rw [advance_eq]
  cases place <;> exact put

namespace AddsTo

/-- **One addition answers, and leaves the sum unless the step is zero.** -/
theorem run_perform (adds : project.AddsTo key addition)
    (kept : project.var? .stage key = some var) (whole : var.value.toNumber = .ok (.int start)) :
    addition.perform.run project = .ok .nothing
      (if addition.step = 0 then project
      else project.advance key var (start + addition.step)) := by
  obtain ⟨changes, ⟨place, name, old, reached, ⟨reference, readName, named⟩, seen⟩,
    delta, readDelta, number⟩ := adds
  have located := (lookup_located seen).1
  obtain rfl : var = old := Option.some.inj (kept.symm.trans located.kept)
  have idle := Opcode.isIdle_of_read readDelta number
  show (execute addition.call.opcode _ _ _).run project = _
  rw [changes, run_execute reached]
  by_cases zero : addition.step = 0
  · have isZero : (Number.int addition.step).isZero = true := decide_eq_true zero
    rw [if_pos zero, run_runBlock_of_idle (by rw [idle, isZero])]
  · have isBusy : (Number.int addition.step).isZero = false := decide_eq_false zero
    have made : (ScalarCommand.change delta).result var = _ :=
      ScalarCommand.change_of_add number isBusy whole rfl
    have reaches : project.Reaches .changeVariable addition.call.arguments place
        addition.call.forMonitor ⟨.stage, key, var⟩ project (.scalar (.change delta)) :=
      ⟨⟨reference, readName, run_resolve_of_seen named seen⟩, by
        rw [Opcode.command, readDelta]
        rfl⟩
    rw [if_neg zero, reaches.run_runBlock (by rw [idle, isBusy])]
    exact run_runScalar_of_ok located (ScalarCommand.run_of_result made)

/-- Neither what the others refer to nor what they add changes with the variable. -/
theorem advance (adds : project.AddsTo key addition) (kept : project.var? .stage key = some var)
    (total : Int) : (project.advance key var total).AddsTo key addition := by
  obtain ⟨changes, ⟨place, name, old, reached, refers, seen⟩, step⟩ := adds
  cases (lookup_located seen).1.kept.symm.trans kept
  refine ⟨changes, ⟨place, name, _, ?_, refers, lookup_advance seen total⟩, step⟩
  rw [placeAt_advance, reached]

end AddsTo

/-! ### Many additions -/

/-- The project in which steps were added to the variable under a key of the stage, each of them
told. -/
def plus (project : Project) (key : String) (var : Variable) (start : Int) (steps : List Int) :
    Project :=
  { project.put .stage key (var.plus start steps) with
    provider := project.provider.map (· ++ var.updates (runningTotals start steps)) }

theorem plus_nil (kept : project.var? .stage key = some var) :
    project.plus key var start [] = project := by
  have sent : project.provider.map (· ++ var.updates []) = project.provider := by
    simp [Variable.updates]
  have same : var.plus start [] = var := if_pos fun step member => by cases member
  unfold plus
  rw [runningTotals, sent, same, put_self kept]

theorem plus_cons_zero (project : Project) (key : String) (var : Variable) (start : Int)
    (steps : List Int) : project.plus key var start (0 :: steps) =
      project.plus key var start steps := by
  rw [plus, plus, Variable.plus_cons_zero, runningTotals, if_pos rfl]

/-- Adding the first step and then the others is adding all of them. -/
theorem plus_cons {step : Int} (nonzero : step ≠ 0) (steps : List Int) :
    project.plus key var start (step :: steps) =
      (project.advance key var (start + step)).plus key { var with value := .int (start + step) }
        (start + step) steps := by
  have cut : (start + step) :: runningTotals (start + step) steps =
      [start + step] ++ runningTotals (start + step) steps := rfl
  have told (totals : List Int) :
      ({ var with value := .int (start + step) } : Variable).updates totals = var.updates totals :=
    rfl
  unfold plus
  rw [put_advance, provider_advance, Variable.plus_cons nonzero, runningTotals, if_neg nonzero,
    cut, Variable.updates_append, told, Option.map_map]
  simp only [Function.comp_def, List.append_assoc]

theorem var?_plus (kept : project.var? .stage key = some var) (start : Int) (steps : List Int) :
    (project.plus key var start steps).var? .stage key = some (var.plus start steps) := by
  show (project.put .stage key (var.plus start steps)).var? .stage key = _
  exact var?_put_self kept _

/-- **A run of additions answers throughout and leaves the sum, telling every total on the way.** -/
theorem last_additions (additions : List Addition) (kept : project.var? .stage key = some var)
    (whole : var.value.toNumber = .ok (.int start))
    (adds : ∀ addition ∈ additions, project.AddsTo key addition) :
    (∀ taken ∈ Run.turns Addition.perform project additions, taken.outcome = .ok .nothing) ∧
      Run.last Addition.perform project additions =
        project.plus key var start (additions.map Addition.step) := by
  induction additions generalizing project var start with
  | nil => exact ⟨(fun _ member => by cases member), (plus_nil kept).symm⟩
  | cons first others hypothesis =>
    have ran := (adds first List.mem_cons_self).run_perform kept whole
    have laterAdds (addition : Addition) (member : addition ∈ others) :=
      adds addition (List.mem_cons_of_mem _ member)
    rw [Run.turns, Run.last, List.forall_mem_cons, List.map_cons, Step.after_of_ok ran]
    by_cases zero : first.step = 0
    · rw [if_pos zero, zero, plus_cons_zero]
      have later := hypothesis kept whole laterAdds
      exact ⟨⟨Step.outcome_of_ok ran, later.1⟩, later.2⟩
    · rw [if_neg zero, plus_cons zero]
      have later := hypothesis (var?_advance kept (start + first.step))
        (Value.toNumber_ofNumber (Number.noConfusion : Number.int (start + first.step) ≠ .nan))
        fun addition member => (laterAdds addition member).advance kept _
      exact ⟨⟨Step.outcome_of_ok ran, later.1⟩, later.2⟩

/-- After some additions, another one sends the total so far unless its step is zero. -/
theorem provider_perform {early : List Addition} {one : Addition}
    (kept : project.var? .stage key = some var) (whole : var.value.toNumber = .ok (.int start))
    (adds : ∀ addition ∈ early ++ [one], project.AddsTo key addition) :
    let before := Run.last Addition.perform project early
    (Step.after one.perform before).provider = before.provider.map (· ++
      if var.isCloud = true ∧ one.step ≠ 0 then
        [.update (.text var.name) (.int (start + (early.map Addition.step).sum + one.step))]
      else []) := by
  intro before
  have begun : before = project.plus key var start (early.map Addition.step) :=
    (last_additions early kept whole fun addition member =>
      adds addition (List.mem_append_left _ member)).2
  have ended : Step.after one.perform before =
      project.plus key var start ((early ++ [one]).map Addition.step) := by
    rw [← (last_additions (early ++ [one]) kept whole adds).2, Run.last_append]
    rfl
  rw [ended, begun, ← Variable.updates_single, List.map_append, List.map_singleton]
  unfold plus
  simp only
  rw [runningTotals_append, Variable.updates_append, Option.map_map]
  simp only [Function.comp_def, List.append_assoc]

/-- **Nothing is lost when blocks add to one variable of the stage.** Wherever they run and in
whatever order, all of them answer, the variable is read as the exact sum in the end, and the
provider receives one request for every step of a cloud variable that is not zero, with the total at
that point. -/
theorem addsUp (kept : project.var? .stage key = some var)
    (whole : var.value.toNumber = .ok (.int start))
    (adds : ∀ addition ∈ additions, project.AddsTo key addition) :
    project.AddsUp key var start additions := by
  obtain ⟨answers, left⟩ := last_additions additions kept whole adds
  refine ⟨answers, ⟨var.plus start (additions.map Addition.step), ?_,
    Variable.toNumber_plus whole _⟩, fun others perm => ?_, fun early one late cut => ?_, ?_,
    length_runningTotals _ _, ?_⟩
  · rw [left, var?_plus kept]
  · have leftToo := (last_additions others kept whole fun addition member =>
      adds addition (perm.mem_iff.mp member)).2
    rw [left, leftToo, var?_plus kept, var?_plus kept,
      Variable.plus_perm (perm.map Addition.step)]
  · rw [cut, List.append_cons] at adds
    exact provider_perform kept whole fun addition member =>
      adds addition (List.mem_append_left _ member)
  · rw [left]
    rfl
  · exact ⟨_, _, by rw [left, plus, Variable.plus_eq]⟩

/-- A stage with a cloud score, which holds a text, and a sprite without variables. -/
def cloudRoom : Project :=
  emptyRoom.put .stage "s" (ScalarCommand.cloudScore (.text "5"))

/-- A block that adds to the score. -/
def scoreAddition (destination : Destination) (delta : Value) (step : Int) : Addition where
  call := ⟨Opcode.changeVariable.name, [("VARIABLE", .text "score"), ("VALUE", delta)],
    destination, false⟩
  step

theorem addsTo_scoreAddition {destination : Destination} {delta : Value} {step : Int}
    {place : Place} (reached : cloudRoom.placeAt destination = .ok place)
    (seen : (cloudRoom.scope place).lookup "score" .scalar =
      some ⟨.stage, "s", ScalarCommand.cloudScore (.text "5")⟩)
    (read : delta.toNumber = .ok (.int step)) :
    cloudRoom.AddsTo "s" (scoreAddition destination delta step) where
  opcode := rfl
  subject := ⟨place, "score", _, reached, ⟨.text "score", rfl, rfl⟩, seen⟩
  step := ⟨delta, rfl, read⟩

/-- The sprite adds a truth value and a text that is no number, the stage nothing and a number that
no double is. -/
theorem addsUp_cloudRoom :
    let additions := [scoreAddition (.named "Cat") (.bool true) 1,
      scoreAddition .editing .nothing 0, scoreAddition (.place (.sprite "Cat")) (.text "ten") 0,
      scoreAddition .editing (.int (Nat.pow 2 70 + 1)) (Nat.pow 2 70 + 1)]
    cloudRoom.var? .stage "s" = some (ScalarCommand.cloudScore (.text "5")) ∧
      (ScalarCommand.cloudScore (.text "5")).value.toNumber = .ok (.int 5) ∧
      (∀ addition ∈ additions, cloudRoom.AddsTo "s" addition) ∧
      cloudRoom.AddsUp "s" (ScalarCommand.cloudScore (.text "5")) 5 additions := by
  intro additions
  have kept : cloudRoom.var? .stage "s" = some (ScalarCommand.cloudScore (.text "5")) := rfl
  have whole : (ScalarCommand.cloudScore (.text "5")).value.toNumber = .ok (.int 5) := by
    decide +kernel
  have ten : (Value.text "ten").toNumber = .ok (.int 0) := by decide +kernel
  have adds : ∀ addition ∈ additions, cloudRoom.AddsTo "s" addition := by
    simp only [additions, List.forall_mem_cons]
    exact ⟨addsTo_scoreAddition rfl rfl rfl, addsTo_scoreAddition rfl rfl rfl,
      addsTo_scoreAddition rfl rfl ten, addsTo_scoreAddition rfl rfl rfl,
      fun _ member => by cases member⟩
  exact ⟨kept, whole, adds, addsUp kept whole adds⟩

end Project

end BlockData
