/-
**Putting a project together.**

A project is put together from a stage and sprites, each given as a target or as the name of a new
one. The stage has to be a stage, the sprites must not be, and no two sprites have one name.
-/

import BlockData.Project.Basic

namespace BlockData

/-- What a target is given as: a target, or a value that should be its name. -/
inductive TargetSource where
  | built (target : Target)
  | other (value : Value)

namespace TargetSource

/-- The target that is given, a name standing for a new one without variables. -/
def settle (isStage : Bool) : TargetSource → Except Fault Target
  | .built target => .ok target
  | .other (.text name) => .ok (.bare name isStage)
  | .other value => .error (.notATarget value.typeName)

/-- The target that is given; a value in its place is a fault. -/
def builtTarget : TargetSource → Except Fault Target
  | .built target => .ok target
  | .other _ => .error .noSuchOperation

end TargetSource

namespace Project

/-- The stage that is given, if it is one. -/
def stageOf (source : TargetSource) : Except Fault Target := do
  let stage ← source.builtTarget
  if stage.isStage then return stage else throw (.notAStage stage.name)

/-- The sprites with one more. -/
def addSprite (sprites : Keyed Target) (source : TargetSource) : Except Fault (Keyed Target) := do
  let sprite ← source.builtTarget
  if sprite.isStage then throw (.spriteIsStage sprite.name)
  else if (sprites.find? sprite.name).isSome then throw (.duplicateSprite sprite.name)
  else return sprites.insert sprite.name sprite

/-- The project with a stage and sprites that are targets already; the stage is being edited. -/
def assemble (stage : TargetSource) (sprites : List TargetSource)
    (provider : Option (List CloudRequest)) (monitors : Monitors) (supply : Supply) :
    Except Fault Project := do
  let stage ← stageOf stage
  let sprites ← sprites.foldlM addSprite Keyed.empty
  return { stage, sprites, editing := .stage, provider, monitors, supply }

/-- The project with a stage and sprites that are targets or the names of new ones. -/
def create (stage : TargetSource) (sprites : List TargetSource)
    (provider : Option (List CloudRequest)) (monitors : Monitors) (supply : Supply) :
    Except Fault Project := do
  let stage ← stage.settle true
  let sprites ← sprites.mapM fun source => source.settle false
  assemble (.built stage) (sprites.map .built) provider monitors supply

end Project

end BlockData
