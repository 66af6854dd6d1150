/-
**Scopes.**

Blocks see two tiers of variables: those of the stage and those of the sprite that they run on;
blocks of the stage see one. A sprite's variable hides one of the stage with the same name and
kind. A name that is not found makes a new variable in the nearer tier.
-/

import BlockData.Reference
import BlockData.Step
import BlockData.Target

namespace BlockData

/-- The targets whose variables are seen: the stage, and a sprite unless the blocks are the
stage's own. -/
structure Scope where
  stage : Target
  sprite : Option Target

/-- One of the two tiers of a scope. -/
inductive Tier where
  | stage
  | sprite
  deriving DecidableEq

/-- A variable that was found, with the tier and the key that it is under. -/
structure Found where
  tier : Tier
  key : String
  var : Variable

namespace Scope

/-- The targets in order, the stage first. -/
def targets (scope : Scope) : List Target :=
  scope.stage :: scope.sprite.toList

/-- Every variable that is seen or hidden, those of the stage first. -/
def vars (scope : Scope) : List Variable :=
  scope.targets.flatMap fun target => target.vars.values

/-- The names of the variables of a kind. -/
def names (scope : Scope) (kind : Kind) : List String :=
  (scope.vars.filter fun var => var.kind = kind).map Variable.name

/-- The first variable of the stage with a name and kind. -/
def onStage? (scope : Scope) (name : String) (kind : Kind) : Option Found :=
  (scope.stage.byName? name kind).map fun entry => ⟨.stage, entry.1, entry.2⟩

/-- The first variable of the sprite with a name and kind. -/
def onSprite? (scope : Scope) (name : String) (kind : Kind) : Option Found := do
  let sprite ← scope.sprite
  let entry ← sprite.byName? name kind
  return ⟨.sprite, entry.1, entry.2⟩

/-- The variable that a name and kind stand for. -/
def lookup (scope : Scope) (name : String) (kind : Kind) : Option Found :=
  scope.onSprite? name kind <|> scope.onStage? name kind

/-- Creates a variable in the nearer tier, under a new identifier. -/
def createNearest (scope : Scope) (name : String) (kind : Kind) (supply : Supply) :
    Found × Scope × Supply :=
  let (id, supply) := supply.identifier Supply.identifierLength
  match scope.sprite with
  | some sprite =>
    let (var, sprite, supply) := sprite.create id name kind false supply
    (⟨.sprite, id, var⟩, { scope with sprite := some sprite }, supply)
  | none =>
    let (var, stage, supply) := scope.stage.create id name kind false supply
    (⟨.stage, id, var⟩, { scope with stage }, supply)

/-- The variable that a name and kind stand for, created if there is none. -/
def resolve (scope : Scope) (name : String) (kind : Kind) (supply : Supply) :
    Found × Scope × Supply :=
  match scope.lookup name kind with
  | some found => (found, scope, supply)
  | none => scope.createNearest name kind supply

/-- The scope with one variable replaced. -/
def update (scope : Scope) (tier : Tier) (key : String) (change : Variable → Variable) : Scope :=
  match tier with
  | .stage => { scope with stage := scope.stage.update key change }
  | .sprite => { scope with sprite := scope.sprite.map fun sprite => sprite.update key change }

end Scope

end BlockData
