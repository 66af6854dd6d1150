/-
**Lists of one's own.**

Commands change the list of a list variable in place. A second holder of the very list would see the
change, and the theory of blocks asks for projects without any: what a list variable holds is the
value of no other variable, and is inside nothing that variables hold or monitors show
(`Project.Unshared`). Lists inside of values may be shared, nothing changes them.

A block keeps a project that way if its arguments bring in no list of a list variable
(`Arguments.Outside`), and arguments that did not before still do not afterwards.

* `Held.brings_run`: what the variable in hand is made of after a command;
* `Project.Remakes.unshared`: one variable made anew shares no list of a list variable;
* `Project.Unshared.of_execute`: every call keeps a project unshared.
-/

import BlockData.Proofs.Project.Block
import BlockData.Proofs.Registry
import Mathlib.Data.List.InsertIdx

namespace BlockData

/-! ### What values are made of -/

namespace Value

/-- The token of a list or mapping. -/
def token? : Value → Option Nat
  | .list token _ | .map token _ => some token
  | _ => none

mutual

/-- The tokens of all lists and mappings that a value is made of. -/
def tokens : Value → List Nat
  | .list token items => token :: itemsTokens items
  | .map token entries => token :: entriesTokens entries
  | .object attributes _ => attributesTokens attributes
  | .nothing | .bool _ | .int _ | .double _ | .text _ | .reference _ | .field _ _ => []

/-- Those of items. -/
def itemsTokens : List Value → List Nat
  | [] => []
  | item :: rest => item.tokens ++ itemsTokens rest

/-- Those of the entries of a mapping. -/
def entriesTokens : List (Key × Value) → List Nat
  | [] => []
  | entry :: rest => entry.2.tokens ++ entriesTokens rest

/-- Those of the attributes of an object. -/
def attributesTokens : List (String × Value) → List Nat
  | [] => []
  | entry :: rest => entry.2.tokens ++ attributesTokens rest

end

/-- The tokens of the lists and mappings inside of a value. -/
def inside : Value → List Nat
  | .list _ items => itemsTokens items
  | .map _ entries => entriesTokens entries
  | .object attributes _ => attributesTokens attributes
  | _ => []

variable {value before after : Value} {token : Nat}

theorem mem_tokens_iff :
    token ∈ value.tokens ↔ value.token? = some token ∨ token ∈ value.inside := by
  cases value <;> simp [tokens, token?, inside, eq_comm]

theorem mem_itemsTokens_iff {items : List Value} :
    token ∈ itemsTokens items ↔ ∃ item ∈ items, token ∈ item.tokens := by
  induction items with
  | nil => simp [itemsTokens]
  | cons item rest ih => simp [itemsTokens, ih]

theorem mem_entriesTokens_iff {entries : List (Key × Value)} :
    token ∈ entriesTokens entries ↔ ∃ entry ∈ entries, token ∈ entry.2.tokens := by
  induction entries with
  | nil => simp [entriesTokens]
  | cons entry rest ih => simp [entriesTokens, ih]

theorem mem_putEntry {key : Key} {entries : List (Key × Value)} {entry : Key × Value}
    (member : entry ∈ putEntry key value entries) : entry ∈ entries ∨ entry.2 = value := by
  induction entries with
  | nil =>
    rw [putEntry, List.mem_singleton] at member
    exact .inr (congrArg Prod.snd member)
  | cons first rest ih =>
    rw [putEntry] at member
    split at member
    next =>
      rcases List.mem_cons.mp member with rfl | later
      · exact .inr rfl
      · exact .inl (List.mem_cons_of_mem _ later)
    next =>
      rcases List.mem_cons.mp member with rfl | later
      · exact .inl List.mem_cons_self
      · exact (ih later).imp_left (List.mem_cons_of_mem _)

end Value

namespace Items

variable {items : List Value} {item other : Value} {position : Nat}

theorem mem_add (member : other ∈ add items item) : other ∈ items ∨ other = item := by
  unfold add at member
  split at member
  next => simpa using member
  next => exact .inl member

theorem mem_insert (member : other ∈ insert items position item) :
    other ∈ items ∨ other = item := by
  have longer : other ∈ items.insertIdx (position - 1) item := by
    unfold insert at member
    simp only at member
    split at member
    next => exact List.dropLast_subset _ member
    next => exact member
  exact (List.eq_or_mem_of_mem_insertIdx longer).symm

theorem mem_replace (member : other ∈ replace items position item) :
    other ∈ items ∨ other = item :=
  List.mem_or_eq_of_mem_set member

end Items

/-- **A change in place brings in nothing but what it is given.** -/
theorem Value.InPlace.inside {given : List Value} {change : Value → Except Fault Value}
    {before after : Value} (inPlace : InPlace given change) (made : change before = .ok after) :
    after.token? = before.token? ∧
      ∀ token ∈ after.inside, token ∈ before.inside ∨ token ∈ itemsTokens given := by
  have listed {own : Nat} {old new : List Value}
      (brought : ∀ other ∈ new, other ∈ old ∨ other ∈ given) :
      ∀ token ∈ (Value.list own new).inside,
        token ∈ (Value.list own old).inside ∨ token ∈ itemsTokens given := by
    intro token member
    obtain ⟨other, present, among⟩ := mem_itemsTokens_iff.mp member
    exact (brought other present).imp (fun there => mem_itemsTokens_iff.mpr ⟨other, there, among⟩)
      fun there => mem_itemsTokens_iff.mpr ⟨other, there, among⟩
  cases inPlace with
  | @add item brought =>
    cases before with
    | list own items =>
      cases made
      refine ⟨rfl, listed fun other member => (Items.mem_add member).imp_right ?_⟩
      exact fun same => same ▸ brought
    | _ => cases made
  | @insert position item brought =>
    cases before with
    | list own items =>
      cases made
      refine ⟨rfl, listed fun other member => (Items.mem_insert member).imp_right ?_⟩
      exact fun same => same ▸ brought
    | _ => cases made
  | delete position =>
    cases before with
    | list own items =>
      cases made
      exact ⟨rfl, listed fun other member => .inl (List.mem_of_mem_eraseIdx member)⟩
    | map own entries =>
      simp only [deleteItem] at made
      split at made
      · cases made
        refine ⟨rfl, fun token member => .inl ?_⟩
        obtain ⟨entry, present, among⟩ := mem_entriesTokens_iff.mp member
        exact mem_entriesTokens_iff.mpr ⟨entry, List.mem_of_mem_filter present, among⟩
      · cases made
    | _ => cases made
  | @replace position item brought =>
    cases before with
    | list own items =>
      cases made
      refine ⟨rfl, listed fun other member => (Items.mem_replace member).imp_right ?_⟩
      exact fun same => same ▸ brought
    | map own entries =>
      cases made
      refine ⟨rfl, fun token member => ?_⟩
      obtain ⟨entry, present, among⟩ := mem_entriesTokens_iff.mp member
      rcases mem_putEntry present with there | rfl
      · exact .inl (mem_entriesTokens_iff.mpr ⟨entry, there, among⟩)
      · exact .inr (mem_itemsTokens_iff.mpr ⟨entry.2, brought, among⟩)
    | _ => cases made

/-- What a walk meets is inside of the value. -/
theorem Value.mem_inside_of_walk {value : Value} {items : List Value}
    (walked : value.walk? = some items) {token : Nat} (member : token ∈ itemsTokens items) :
    token ∈ value.inside := by
  obtain ⟨item, present, among⟩ := mem_itemsTokens_iff.mp member
  cases value with
  | list own held =>
    cases walked
    exact member
  | text content =>
    cases walked
    obtain ⟨letter, -, rfl⟩ := List.mem_map.mp present
    cases among
  | map own entries =>
    cases walked
    obtain ⟨⟨key, held⟩, -, rfl⟩ := List.mem_map.mp present
    cases key <;> cases among
  | reference target =>
    cases walked
    obtain ⟨field, -, rfl⟩ := List.mem_map.mp present
    cases among
  | _ => cases walked

/-! ### The variable in hand -/

/-- The tokens of what a variable holds inside of its value and in its snapshot. -/
def Variable.rest (var : Variable) : List Nat :=
  var.value.inside ++ var.snapshot.elim [] fun snapshot => snapshot.toValue.tokens

namespace Held

/-- What the variable in hand is made of was made before now. -/
def Made (held : Held) : Prop :=
  ∀ token, held.var.value.token? = some token ∨ token ∈ held.var.rest →
    token < held.supply.tokensUsed

/-- The second variable in hand is made of what the first one is made of, of what was given, and of
what was made since then. It holds what the first one holds, or something new that is not also
inside of it. -/
structure Remade (given : List Value) (before after : Held) : Prop where
  made : after.Made
  rest : ∀ token ∈ after.var.rest,
    token ∈ before.var.rest ∨ token ∈ Value.itemsTokens given ∨ before.supply.tokensUsed ≤ token
  own : ∀ token, after.var.value.token? = some token → before.var.value.token? = some token ∨
    before.supply.tokensUsed ≤ token ∧ token ∉ after.var.rest

/-- So it is if nothing was made later than now. -/
def Brings (given : List Value) (before after : Held) : Prop :=
  before.supply.tokensUsed ≤ after.supply.tokensUsed ∧
    (before.Made → (∀ token ∈ Value.itemsTokens given, token < before.supply.tokensUsed) →
      before.Remade given after)

instance (given : List Value) : Std.Refl (Brings given) where
  refl _ := ⟨Nat.le_refl _, fun made _ => ⟨made, fun _ member => .inl member, fun _ => .inl⟩⟩

instance (given : List Value) : Trans (Brings given) (Brings given) (Brings given) where
  trans {before middle after} first second := by
    obtain ⟨more, first⟩ := first
    obtain ⟨moreThen, second⟩ := second
    refine ⟨Nat.le_trans more moreThen, fun made old => ?_⟩
    have first := first made old
    have second := second first.made fun token member => Nat.lt_of_lt_of_le (old token member) more
    refine ⟨second.made, fun token member => ?_, fun token own => ?_⟩
    · rcases second.rest token member with there | given | new
      · exact first.rest token there
      · exact .inr (.inl given)
      · exact .inr (.inr (Nat.le_trans more new))
    · rcases second.own token own with there | ⟨new, apart⟩
      · refine (first.own token there).imp_right fun ⟨new, apart⟩ => ⟨new, fun member => ?_⟩
        -- What was new before the second change is not given, and the change makes newer things.
        have older := first.made token (.inl there)
        rcases second.rest token member with there | given | newer
        · exact apart there
        · exact absurd (old token given) (Nat.not_lt.mpr new)
        · exact absurd older (Nat.not_lt.mpr newer)
      · exact .inr ⟨Nat.le_trans more new, apart⟩

theorem tolerates_brings (given : List Value) : Tolerates given (Brings given) where
  drawn held supply drawn := by
    refine ⟨drawn.tokensUsed, fun made _ => ⟨?_, fun _ member => .inl member, fun _ => .inl⟩⟩
    exact fun token among => Nat.lt_of_lt_of_le (made token among) drawn.tokensUsed
  altered held change value inPlace changed := by
    obtain ⟨same, brought⟩ := inPlace.inside changed
    have rest (token : Nat)
        (member : token ∈ Variable.rest { held.var with value, isFresh := false }) :
        token ∈ held.var.rest ∨ token ∈ Value.itemsTokens given := by
      rcases List.mem_append.mp member with inside | saved
      · exact (brought token inside).imp_left (List.mem_append_left _)
      · exact .inl (List.mem_append_right _ saved)
    refine ⟨Nat.le_refl _, fun made old => ⟨fun token among => ?_, fun token member => ?_,
      fun token own => .inl (same ▸ own)⟩⟩
    · rcases among with own | member
      · exact made token (.inl (same ▸ own))
      · exact (rest token member).elim (fun there => made token (.inr there)) (old token)
    · exact (rest token member).imp_right .inl
  cleared held := by
    have rest (token : Nat) (member : token ∈ Variable.rest
        { held.var with value := .list held.supply.token.1 [], isFresh := false }) :
        token ∈ held.var.rest :=
      List.mem_append_right _ member
    refine ⟨Nat.le_succ _, fun made _ => ⟨fun token among => ?_, fun token member =>
      .inl (rest token member), fun token own => .inr ?_⟩⟩
    · rcases among with own | member
      · cases own
        exact Nat.lt_succ_self _
      · exact Nat.lt_succ_of_lt (made token (.inr (rest token member)))
    · cases own
      exact ⟨Nat.le_refl _, fun member =>
        absurd (made _ (.inr (rest _ member))) (Nat.lt_irrefl _)⟩
  marked held := ⟨Nat.le_refl _, fun made _ => ⟨made, fun _ member => .inl member, fun _ => .inl⟩⟩
  copied held items walked := by
    have rest (token : Nat) (member : token ∈ Variable.rest
        { held.var with snapshot := some ⟨held.supply.token.1, items⟩ }) :
        token ∈ held.var.rest ∨ token = held.supply.tokensUsed := by
      rcases List.mem_append.mp member with inside | saved
      · exact .inl (List.mem_append_left _ inside)
      · rcases List.mem_cons.mp saved with rfl | copied
        · exact .inr rfl
        · exact .inl (List.mem_append_left _ (Value.mem_inside_of_walk walked copied))
    refine ⟨Nat.le_succ _, fun made _ => ⟨fun token among => ?_, fun token member => ?_,
      fun _ => .inl⟩⟩
    · rcases among with own | member
      · exact Nat.lt_succ_of_lt (made token (.inl own))
      · rcases rest token member with there | rfl
        · exact Nat.lt_succ_of_lt (made token (.inr there))
        · exact Nat.lt_succ_self _
    · exact (rest token member).imp_right fun new => .inr (Nat.le_of_eq new.symm)

end Held

/-- **What the variable in hand is made of after a command.** -/
theorem ListCommand.brings_run (command : ListCommand) :
    Step.Within (Held.Brings command.given) command.run :=
  (Held.tolerates_brings command.given).within_command

/-! ### Projects -/

namespace Project

/-- A list variable holds the list or mapping with a token. -/
def Owns (project : Project) (place : Place) (key : String) (token : Nat) : Prop :=
  ∃ var, project.var? place key = some var ∧ var.kind = .list ∧ var.value.token? = some token

/-- The monitor of an identifier shows a value. -/
def Displays (project : Project) (id : String) (value : Value) : Prop :=
  ∃ known record, project.monitors = .registry known ∧ known.records.find? id = some record ∧
    record.value = value

/-- No list variable holds the list or mapping with a token. -/
def Free (project : Project) (token : Nat) : Prop :=
  ∀ place key, ¬ project.Owns place key token

/-- What list variables hold, and commands change in place, is nowhere else. -/
structure Unshared (project : Project) : Prop where
  /-- What variables hold was made before now, -/
  made : ∀ place key var, project.var? place key = some var → Held.Made ⟨var, project.supply⟩
  /-- and so was what monitors show. -/
  madeShown : ∀ id value, project.Displays id value →
    ∀ token ∈ value.tokens, token < project.supply.tokensUsed
  /-- What a list variable holds is the value of no other variable, -/
  own : ∀ place key token other asked var, project.Owns place key token →
    project.var? other asked = some var → var.value.token? = some token →
      other = place ∧ asked = key
  /-- it is inside of nothing that a variable holds, and no snapshot, -/
  apart : ∀ place key token other asked var, project.Owns place key token →
    project.var? other asked = some var → token ∉ var.rest
  /-- and it is inside of nothing that a monitor shows. -/
  apartShown : ∀ place key token id value, project.Owns place key token →
    project.Displays id value → token ∉ value.inside

/-- Of all variables only the one under a key at a place was made anew: of what it was made of
before, of what no list variable holds, and of what was made since then. If it is a list variable,
it holds what it held or something new. -/
structure Remakes (before : Project) (place : Place) (key : String) (after : Project) : Prop where
  supply : before.supply.tokensUsed ≤ after.supply.tokensUsed
  elsewhere : ∀ other asked var, after.var? other asked = some var →
    (other = place ∧ asked = key) ∨ before.var? other asked = some var
  made : ∀ var, after.var? place key = some var → Held.Made ⟨var, after.supply⟩
  rest : ∀ var, after.var? place key = some var → ∀ token ∈ var.rest,
    (∃ old, before.var? place key = some old ∧ token ∈ old.rest) ∨ before.Free token
  own : ∀ var, after.var? place key = some var → ∀ token, var.value.token? = some token →
    (∃ old, before.var? place key = some old ∧ old.kind = var.kind ∧
      old.value.token? = some token) ∨
    before.Free token ∧
      (var.kind = .list → before.supply.tokensUsed ≤ token ∧ token ∉ var.rest)
  shown : ∀ id value, after.Displays id value → before.Displays id value ∨ value = .nothing ∨
    ∃ var, after.var? place key = some var ∧ value = var.value

variable {project middle after : Project} {place : Place} {key : String} {token : Nat}

/-- What was made later than now belongs to no list variable. -/
theorem Unshared.free_of_le (unshared : project.Unshared)
    (new : project.supply.tokensUsed ≤ token) : project.Free token := by
  rintro place key ⟨var, kept, -, own⟩
  exact absurd (unshared.made place key var kept token (.inl own)) (Nat.not_lt.mpr new)

namespace Remakes

/-- A list variable holds what it held before or something new. -/
theorem owns_cases (remakes : project.Remakes place key after) {other : Place} {asked : String}
    (owns : after.Owns other asked token) :
    project.Owns other asked token ∨ (other = place ∧ asked = key ∧
      project.supply.tokensUsed ≤ token ∧
        ∀ var, after.var? other asked = some var → token ∉ var.rest) := by
  obtain ⟨var, kept, listed, own⟩ := owns
  rcases remakes.elsewhere other asked var kept with ⟨rfl, rfl⟩ | before
  · rcases remakes.own var kept token own with ⟨old, before, kind, same⟩ | ⟨-, new⟩
    · exact .inl ⟨old, before, kind.trans listed, same⟩
    · refine .inr ⟨rfl, rfl, (new listed).1, fun again keptAgain => ?_⟩
      cases kept.symm.trans keptAgain
      exact (new listed).2
  · exact .inl ⟨var, before, listed, own⟩

theorem free (remakes : project.Remakes place key after) (free : project.Free token)
    (old : token < project.supply.tokensUsed) : after.Free token := by
  intro other asked owns
  rcases remakes.owns_cases owns with before | ⟨-, -, new, -⟩
  · exact free other asked before
  · exact absurd old (Nat.not_lt.mpr new)

/-- **One variable made anew shares no list of a list variable.** -/
theorem unshared (remakes : project.Remakes place key after) (unshared : project.Unshared) :
    after.Unshared := by
  have made (other : Place) (asked : String) (var : Variable)
      (kept : after.var? other asked = some var) : Held.Made ⟨var, after.supply⟩ := by
    rcases remakes.elsewhere other asked var kept with ⟨rfl, rfl⟩ | before
    · exact remakes.made var kept
    · exact fun token among =>
        Nat.lt_of_lt_of_le (unshared.made other asked var before token among) remakes.supply
  have apart (one : Place) (name : String) (token : Nat) (other : Place) (asked : String)
      (var : Variable) (owns : after.Owns one name token)
      (kept : after.var? other asked = some var) : token ∉ var.rest := by
    intro member
    rcases remakes.owns_cases owns with before | ⟨rfl, rfl, new, apart⟩
    · rcases remakes.elsewhere other asked var kept with ⟨rfl, rfl⟩ | there
      · rcases remakes.rest var kept token member with ⟨old, there, among⟩ | free
        · exact unshared.apart one name token other asked old before there among
        · exact free one name before
      · exact unshared.apart one name token other asked var before there member
    · rcases remakes.elsewhere other asked var kept with ⟨rfl, rfl⟩ | there
      · exact apart var kept member
      · exact absurd (unshared.made other asked var there token (.inr member)) (Nat.not_lt.mpr new)
  refine ⟨made, ?madeShown, ?own, apart, ?apartShown⟩
  case madeShown =>
    intro id value shown token member
    rcases remakes.shown id value shown with before | rfl | ⟨var, kept, rfl⟩
    · exact Nat.lt_of_lt_of_le (unshared.madeShown id value before token member) remakes.supply
    · cases member
    · exact made place key var kept token
        ((Value.mem_tokens_iff.mp member).imp_right (List.mem_append_left _))
  case own =>
    intro one name token other asked var owns kept own
    rcases remakes.owns_cases owns with before | ⟨rfl, rfl, new, -⟩
    · rcases remakes.elsewhere other asked var kept with ⟨rfl, rfl⟩ | there
      · rcases remakes.own var kept token own with ⟨old, there, -, same⟩ | ⟨free, -⟩
        · exact unshared.own one name token other asked old before there same
        · exact absurd before (free one name)
      · exact unshared.own one name token other asked var before there own
    · rcases remakes.elsewhere other asked var kept with here | there
      · exact here
      · exact absurd (unshared.made other asked var there token (.inl own)) (Nat.not_lt.mpr new)
  case apartShown =>
    intro one name token id value owns shown member
    rcases remakes.shown id value shown with before | rfl | ⟨var, kept, rfl⟩
    · rcases remakes.owns_cases owns with ownsBefore | ⟨-, -, new, -⟩
      · exact unshared.apartShown one name token id value ownsBefore before member
      · exact absurd (unshared.madeShown id value before token
          (Value.mem_tokens_iff.mpr (.inr member))) (Nat.not_lt.mpr new)
    · cases member
    · exact apart one name token place key var owns kept (List.mem_append_left _ member)

end Remakes

/-! ### Blocks -/

/-- What was free and made before now is free after a step, and nothing came to be shared. -/
structure KeepsApart (before after : Project) : Prop where
  unshared : after.Unshared
  supply : before.supply.tokensUsed ≤ after.supply.tokensUsed
  free : ∀ token, token < before.supply.tokensUsed → before.Free token → after.Free token

theorem Unshared.keepsApart (unshared : project.Unshared) : project.KeepsApart project :=
  ⟨unshared, Nat.le_refl _, fun _ _ free => free⟩

theorem KeepsApart.trans (first : project.KeepsApart middle) (second : middle.KeepsApart after) :
    project.KeepsApart after where
  unshared := second.unshared
  supply := Nat.le_trans first.supply second.supply
  free token old free :=
    second.free token (Nat.lt_of_lt_of_le old first.supply) (first.free token old free)

/-- Projects with the same variables, supply and monitors share the same. -/
theorem KeepsApart.of_same (keeps : project.KeepsApart middle)
    (vars : ∀ place key, after.var? place key = middle.var? place key)
    (supply : after.supply = middle.supply) (monitors : after.monitors = middle.monitors) :
    project.KeepsApart after := by
  obtain ⟨⟨made, madeShown, own, apart, apartShown⟩, more, free⟩ := keeps
  refine ⟨⟨?_, ?_, ?_, ?_, ?_⟩, ?_, ?_⟩
  · simpa only [vars, supply] using made
  · simpa only [Displays, supply, monitors] using madeShown
  · simpa only [Owns, vars] using own
  · simpa only [Owns, vars] using apart
  · simpa only [Owns, Displays, vars, monitors] using apartShown
  · rw [supply]
    exact more
  · simpa only [Free, Owns, vars] using free

theorem Remakes.keepsApart (remakes : project.Remakes place key after)
    (unshared : project.Unshared) : project.KeepsApart after :=
  ⟨remakes.unshared unshared, remakes.supply, fun _ old free => remakes.free free old⟩

end Project

/-- The lists and mappings in arguments were made before now, and no list variable holds them. -/
def Arguments.Outside (arguments : Arguments) (project : Project) : Prop :=
  ∀ entry ∈ arguments, ∀ token ∈ entry.2.tokens,
    token < project.supply.tokensUsed ∧ project.Free token

/-- Arguments that are made of no lists and no mappings bring in none. -/
theorem Arguments.outside_of_plain {arguments : Arguments}
    (plain : ∀ entry ∈ arguments, entry.2.tokens = []) (project : Project) :
    arguments.Outside project := by
  intro entry member token among
  rw [plain entry member] at among
  cases among

/-- Arguments that bring in no list of a list variable still do not after a step. -/
theorem Arguments.Outside.mono {arguments : Arguments} {before after : Project}
    (outside : arguments.Outside before) (keeps : before.KeepsApart after) :
    arguments.Outside after := by
  intro entry member token among
  obtain ⟨old, free⟩ := outside entry member token among
  exact ⟨Nat.lt_of_lt_of_le old keeps.supply, keeps.free token old free⟩

/-- What a command on a list is given are arguments of its block. -/
theorem Opcode.read_of_given {opcode : Opcode} {arguments : Arguments} {forMonitor : Bool}
    {command : ListCommand} (commanded : opcode.command arguments forMonitor = .ok (.list command))
    {value : Value} (given : value ∈ command.given) : ∃ name, arguments.read name = .ok value := by
  cases opcode with
  | addToList | deleteOfList | itemOfList | itemNumberOfList | listContainsItem =>
    obtain ⟨argument, read, same⟩ := exists_of_bind_eq_ok commanded
    cases same
    cases List.mem_singleton.mp given
    exact ⟨_, read⟩
  | insertAtList | replaceItemOfList =>
    obtain ⟨index, readIndex, rest⟩ := exists_of_bind_eq_ok commanded
    obtain ⟨item, readItem, same⟩ := exists_of_bind_eq_ok rest
    cases same
    rcases List.mem_cons.mp given with rfl | later
    · exact ⟨_, readIndex⟩
    · cases List.mem_singleton.mp later
      exact ⟨_, readItem⟩
  | setVariable | changeVariable =>
    obtain ⟨argument, -, same⟩ := exists_of_bind_eq_ok commanded
    cases same
  | _ =>
    cases commanded
    try cases given

namespace Project

variable {project middle after : Project} {place : Place} {key name : String} {kind : Kind}
  {found : Found} {opcode : Opcode} {arguments : Arguments} {forMonitor : Bool}

theorem Unshared.of_resolves (unshared : project.Unshared)
    (resolves : project.Resolves place name kind found middle) : project.KeepsApart middle := by
  cases resolves with
  | known found seen => exact unshared.keepsApart
  | created tier unseen made nearest tiered unused =>
    let new := project.newcomer name kind
    have drawn : (project.supply.identifier Supply.identifierLength).2.tokensUsed =
        project.supply.tokensUsed := rfl
    have more := (Variable.drawn_create project.nextId name kind false
      (project.supply.identifier Supply.identifierLength).2).tokensUsed
    have rest : new.1.rest = [] := by cases kind <;> rfl
    have own (token : Nat) (own : new.1.value.token? = some token) :
        token = project.supply.tokensUsed ∧ token < new.2.tokensUsed := by
      cases kind with
      | list =>
        cases own
        exact ⟨rfl, Nat.lt_succ_self _⟩
      | scalar | broadcast => cases own
    have kept (var : Variable) (kept : Project.var?
        { project.put (project.near place) project.nextId new.1 with supply := new.2 }
          (project.near place) project.nextId = some var) : var = new.1 := by
      rcases var?_put_with kept with ⟨-, -, same⟩ | ⟨differs, -⟩
      · exact same
      · exact absurd ⟨rfl, rfl⟩ differs
    have remakes : project.Remakes (project.near place) project.nextId
        { project.put (project.near place) project.nextId new.1 with supply := new.2 } := by
      refine ⟨more, fun other asked var there => ?_, fun var there => ?_, fun var there => ?_,
        fun var there token owned => ?_, fun id value => ?_⟩
      · exact (var?_put_with there).imp (fun here => ⟨here.1, here.2.1⟩) And.right
      · rw [kept var there]
        intro token among
        rcases among with owned | member
        · exact (own token owned).2
        · rw [rest] at member
          cases member
      · rw [kept var there, rest]
        exact fun token member => by cases member
      · rw [kept var there] at owned ⊢
        have new := (own token owned).1
        refine .inr ⟨unshared.free_of_le (Nat.le_of_eq new.symm), fun _ =>
          ⟨Nat.le_of_eq new.symm, ?_⟩⟩
        rw [rest]
        exact List.not_mem_nil
      · rintro ⟨known, record, registry, found, rfl⟩
        exact .inl ⟨known, record, (monitors_updateTarget ..).symm.trans registry, found, rfl⟩
    exact remakes.keepsApart unshared

/-- Making the variable of a reference anew keeps a project unshared, and so does showing it. -/
theorem Unshared.of_var (unshared : project.Unshared) (located : project.Located place found)
    {var : Variable} {supply : Supply} {monitors : Monitors}
    (more : project.supply.tokensUsed ≤ supply.tokensUsed) (made : Held.Made ⟨var, supply⟩)
    (kind : var.kind = found.var.kind)
    (rest : ∀ token ∈ var.rest, token ∈ found.var.rest ∨ project.Free token)
    (own : ∀ token, var.value.token? = some token → found.var.value.token? = some token ∨
      project.Free token ∧
        (var.kind = .list → project.supply.tokensUsed ≤ token ∧ token ∉ var.rest))
    (shown : ∀ known, monitors = .registry known → ∀ id record,
      known.records.find? id = some record → project.Displays id record.value ∨
        record.value = .nothing ∨ record.value = var.value) :
    project.KeepsApart
      { project.put (found.home place) found.key var with supply, monitors } := by
  have here : Project.var? { project.put (found.home place) found.key var with supply, monitors }
      (found.home place) found.key = some var := (var?_with ..).trans (var?_put_self located.kept _)
  have remakes : project.Remakes (found.home place) found.key
      { project.put (found.home place) found.key var with supply, monitors } := by
    refine ⟨more, fun other asked now there => ?_, fun now there => ?_, fun now there token => ?_,
      fun now there token owned => ?_, fun id value => ?_⟩
    · exact (var?_put_with there).imp (fun here => ⟨here.1, here.2.1⟩) And.right
    · cases here.symm.trans there
      exact made
    · cases here.symm.trans there
      exact fun member => (rest token member).imp_left fun among => ⟨_, located.kept, among⟩
    · cases here.symm.trans there
      exact (own token owned).imp_left fun same => ⟨_, located.kept, kind.symm, same⟩
    · rintro ⟨known, record, registry, found, rfl⟩
      exact (shown known registry id record found).imp_right
        (Or.imp_right fun same => ⟨var, here, same⟩)
  exact remakes.keepsApart unshared

theorem Unshared.of_scalar (unshared : project.Unshared) (located : project.Located place found)
    (scalar : found.var.kind = .scalar) {command : ScalarCommand}
    {announcement : Option Announcement} {var : Variable}
    (leaves : command.Leaves found.var announcement var)
    (outside : ∀ value, command = .set value → ∀ token ∈ value.tokens,
      token < project.supply.tokensUsed ∧ project.Free token) :
    project.KeepsApart ((project.put (found.home place) found.key var).announce announcement) := by
  -- What a scalar command sets is given, or is a number, which is made of nothing.
  have given (value : Value) (given : command = .set value ∨ ∃ number, value = .ofNumber number)
      (token : Nat) (among : token ∈ value.tokens) :
      token < project.supply.tokensUsed ∧ project.Free token := by
    rcases given with set | ⟨number, rfl⟩
    · exact outside value set token among
    · cases number <;> cases among
  have old := unshared.made _ _ _ located.kept
  have left : project.KeepsApart { project.put (found.home place) found.key var with
      supply := project.supply, monitors := project.monitors } := by
    cases leaves with
    | same =>
      refine unshared.of_var located (Nat.le_refl _) old rfl (fun _ => .inl) (fun _ => .inl) ?_
      exact fun known registry id record found => .inl ⟨known, record, registry, found, rfl⟩
    | changed value set =>
      have set := given value set
      refine unshared.of_var located (Nat.le_refl _) ?_ rfl ?_ ?_ ?_
      · rintro token (own | member)
        · exact (set token (Value.mem_tokens_iff.mpr (.inl own))).1
        · rcases List.mem_append.mp member with inside | saved
          · exact (set token (Value.mem_tokens_iff.mpr (.inr inside))).1
          · exact old token (.inr (List.mem_append_right _ saved))
      · intro token member
        rcases List.mem_append.mp member with inside | saved
        · exact .inr (set token (Value.mem_tokens_iff.mpr (.inr inside))).2
        · exact .inl (List.mem_append_right _ saved)
      · intro token own
        refine .inr ⟨(set token (Value.mem_tokens_iff.mpr (.inl own))).2, fun listed => ?_⟩
        cases scalar.symm.trans listed
      · exact fun known registry id record found => .inl ⟨known, record, registry, found, rfl⟩
  refine left.of_same (fun other asked => (var?_announce ..).trans (var?_with ..).symm) ?_ ?_
  · rw [supply_announce]
    exact supply_updateTarget ..
  · rw [monitors_announce]
    exact monitors_updateTarget ..

theorem Unshared.of_list (unshared : project.Unshared) (located : project.Located place found)
    (command : ListCommand) {left : Held} {monitors : Monitors}
    (leaves : left = Step.after command.run ⟨found.var, project.supply⟩)
    (shown : monitors = project.monitors ∨ monitors = project.monitors.refresh left.var.value)
    (outside : ∀ value ∈ command.given, ∀ token ∈ value.tokens,
      token < project.supply.tokensUsed ∧ project.Free token) :
    project.KeepsApart
      { project.put (found.home place) found.key left.var with
        supply := left.supply, monitors } := by
  have given (token : Nat) (among : token ∈ Value.itemsTokens command.given) :
      token < project.supply.tokensUsed ∧ project.Free token := by
    obtain ⟨value, member, among⟩ := Value.mem_itemsTokens_iff.mp among
    exact outside value member token among
  obtain ⟨more, remade⟩ := command.brings_run ⟨found.var, project.supply⟩
  have kind := (command.within_run ⟨found.var, project.supply⟩).kind
  rw [← leaves] at more remade kind
  have old := unshared.made _ _ _ located.kept
  obtain ⟨made, rest, own⟩ := remade old fun token among => (given token among).1
  refine unshared.of_var located more made kind (fun token member => ?_) (fun token owned => ?_) ?_
  · rcases rest token member with there | brought | new
    · exact .inl there
    · exact .inr (given token brought).2
    · exact .inr (unshared.free_of_le new)
  · exact (own token owned).imp_right fun new => ⟨unshared.free_of_le new.1, fun _ => new⟩
  · rintro known registry id record there
    rcases shown with rfl | rfl
    · exact .inl ⟨known, record, registry, there, rfl⟩
    · cases before : project.monitors with
      | recorder events => rw [before] at registry; cases registry
      | registry earlier =>
        rw [before] at registry
        cases registry
        rw [Registry.refresh, Keyed.find?_map] at there
        obtain ⟨showed, was, same⟩ := Option.map_eq_some_iff.mp there
        split at same
        next => exact .inr (.inr (same ▸ rfl))
        next => exact .inl ⟨earlier, showed, before, was, same ▸ rfl⟩

theorem Unshared.of_shown (unshared : project.Unshared) (located : project.Located place found)
    (event : MonitorEvent) :
    project.KeepsApart { project with monitors := project.monitors.change event } := by
  have old := unshared.made _ _ _ located.kept
  have left : project.KeepsApart { project.put (found.home place) found.key found.var with
      supply := project.supply, monitors := project.monitors.change event } := by
    refine unshared.of_var located (Nat.le_refl _) old rfl (fun _ => .inl) (fun _ => .inl) ?_
    intro known registry id record there
    cases before : project.monitors with
    | recorder events => rw [before] at registry; cases registry
    | registry earlier =>
      rw [before] at registry
      cases registry
      rcases Registry.value_change event there with nothing | ⟨showed, was, same⟩
      · exact .inr (.inl nothing)
      · exact .inl ⟨earlier, showed, before, was, same⟩
  refine left.of_same (fun other asked => ?_) rfl rfl
  rw [var?_with, put_self located.kept]
  exact var?_with project _ project.supply other asked

/-- **A block keeps a project unshared** if its arguments bring in no list of a list variable. -/
theorem Unshared.of_ran (unshared : project.Unshared)
    (ran : project.Ran opcode arguments place forMonitor after)
    (outside : arguments.Outside project) : project.KeepsApart after := by
  have argument {middle : Project} (first : project.KeepsApart middle) {name : String}
      {value : Value} (read : arguments.read name = .ok value) (token : Nat)
      (among : token ∈ value.tokens) : token < middle.supply.tokensUsed ∧ middle.Free token :=
    outside.mono first _ (Arguments.mem_of_read read) token among
  cases ran with
  | idle quiet => exact unshared.keepsApart
  | resolved refers resolves quiet => exact unshared.of_resolves resolves
  | @scalar name found middle command announcement var refers resolves commanded leaves =>
    have first := unshared.of_resolves resolves
    have scalar := resolves.scalar_of_command commanded
    refine first.trans (first.unshared.of_scalar resolves.located scalar leaves ?_)
    rintro value rfl
    cases Opcode.does_of_command commanded with
    | set sets read => exact argument first read
  | @list name found middle command left monitors refers resolves commanded leaves shown =>
    have first := unshared.of_resolves resolves
    refine first.trans (first.unshared.of_list resolves.located command leaves
      (shown.imp_right And.right) fun value given => ?_)
    obtain ⟨name, read⟩ := Opcode.read_of_given commanded given
    exact argument first read
  | @shown name found middle visible refers resolves commanded =>
    have first := unshared.of_resolves resolves
    exact first.trans (first.unshared.of_shown resolves.located ⟨found.var.id, visible⟩)

/-- **So does a call**, whether it answers or fails. -/
theorem Unshared.of_execute (unshared : project.Unshared) (opcode : String)
    (arguments : Arguments) (destination : Destination) (forMonitor : Bool)
    (fresh : project.DrawsFresh
      (Step.after (execute opcode arguments destination forMonitor) project))
    (outside : arguments.Outside project) :
    project.KeepsApart (Step.after (execute opcode arguments destination forMonitor) project) := by
  rcases ran_execute opcode arguments destination forMonitor fresh with
    ⟨opcode, place, -, -, ran⟩ | ⟨same, -⟩
  · exact unshared.of_ran ran outside
  · rw [same]
    exact unshared.keepsApart

/-- Nothing is shared in a project without variables whose monitors show nothing. -/
theorem unshared_of_bare (bare : project.Bare) (unrecorded : project.monitors = .registry .empty) :
    project.Unshared where
  made place key var kept := by cases (bare place key).symm.trans kept
  madeShown id value shown := by
    obtain ⟨known, record, registry, found, -⟩ := shown
    cases unrecorded.symm.trans registry
    cases found
  own place key token other asked var owns kept := by cases (bare other asked).symm.trans kept
  apart place key token other asked var owns kept := by cases (bare other asked).symm.trans kept
  apartShown place key token id value owns := by
    obtain ⟨var, kept, -⟩ := owns
    cases (bare place key).symm.trans kept

end Project

end BlockData
