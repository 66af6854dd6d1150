/-
**How long lists get.**

Whatever is done to a project, its lists stay within the limit, but for those that were longer from
the start, which do not grow. The one way around the limit is an identifier that is made up for a
scalar and is that of a list: then the value of the scalar is written to the list.

* `Variable.law_staysShort`: what every operation keeps of a list;
* `Project.shortLists_last`: how long the lists of a project are after a run, and what becomes of
  the items on the way.
-/

import BlockData.Proofs.Listing.Conservation
import BlockData.Proofs.Project.Origin

namespace BlockData

namespace Variable

/-- The second variable is of the kind of the first one, and no longer than it or than the limit if
that is a list. -/
structure StaysShort (before after : Variable) : Prop where
  kind : after.kind = before.kind
  short : before.kind = .list → before.NoLonger after

instance : Std.Refl StaysShort where
  refl var := ⟨rfl, fun _ => Std.Refl.refl var⟩

instance : Trans StaysShort StaysShort StaysShort where
  trans first second := by
    refine ⟨second.kind.trans first.kind, fun listed => ?_⟩
    exact Trans.trans (first.short listed) (second.short (first.kind.trans listed))

/-- No operation makes a list longer than the limit, scalar commands being for what is no list. -/
theorem law_staysShort : Law (fun var => var.kind ≠ .list) StaysShort where
  renamed var name := ⟨rfl, fun _ => Nat.le_max_left ..⟩
  listed command held :=
    ⟨(command.within_run held).kind,
      fun _ => (Held.tolerates_noLonger command.given).within_command held⟩
  scalar unlisted leaves := by
    cases leaves with
    | same => exact Std.Refl.refl _
    | changed value given => exact ⟨rfl, fun listed => absurd listed unlisted⟩
  scalars var scalar listed := by cases scalar.symm.trans listed

end Variable

/-- If the turn runs a block on scalars and that makes up an identifier, it is not the one of a list
of the nearest target. -/
def Turn.SparesLists (turn : ProjectTurn) : Prop :=
  turn.asked.Spares (fun var => var.kind ≠ .list) turn.before

namespace Project

variable {project : Project} {place : Place} {key : String} {var : Variable}

theorem listLength_of_starts {name : String} {value : Value}
    (starts : Kind.Starts .list name value) : value.listLength = 0 := by
  obtain ⟨token, rfl⟩ := starts
  rfl

/-- A list that a move makes is empty. -/
theorem listLength_of_makes {move : Move} (makes : move.Makes project var)
    (listed : var.kind = .list) : var.value.listLength = 0 := by
  cases move with
  | run call =>
    obtain ⟨id, name, kind, pristine⟩ := makes
    have starts := pristine.value
    rw [pristine.kind.symm.trans listed] at starts
    exact listLength_of_starts starts
  | create place id name kind wantsCloud =>
    have made : var = (project.created place id name kind wantsCloud).1 := makes
    rw [made] at listed ⊢
    have listed : kind = .list := listed
    subst listed
    exact listLength_of_starts (Variable.starts_startingValue .list name project.supply)
  | _ => exact makes.elim

/-- After one move a list is within the limit, or it was a list before that was no shorter. -/
theorem short_of_move (move : Move) (spared : move.Spares (fun var => var.kind ≠ .list) project)
    (there : (Step.after move.perform project).var? place key = some var)
    (listed : var.kind = .list) :
    var.value.listLength ≤ itemLimit ∨ ∃ old, project.var? place key = some old ∧
      old.kind = .list ∧ var.value.listLength ≤ old.value.listLength := by
  rcases traced_of_move Variable.law_staysShort move spared place key var there with
    ⟨old, before, stays⟩ | ⟨-, new, makes, stays⟩
  · have wasListed : old.kind = .list := stays.kind.symm.trans listed
    have short : var.value.listLength ≤ max old.value.listLength itemLimit := stays.short wasListed
    rcases Nat.lt_or_ge itemLimit var.value.listLength with beyond | within
    · refine .inr ⟨old, before, wasListed, ?_⟩
      omega
    · exact .inl within
  · have newListed : new.kind = .list := stays.kind.symm.trans listed
    have short : var.value.listLength ≤ max new.value.listLength itemLimit := stays.short newListed
    rw [listLength_of_makes makes newListed] at short
    exact .inl (by omega)

/-- A list at the end of a run is within the limit, or it was there throughout and was no shorter at
the start. -/
theorem short_last {project : Project} (moves : List Move)
    (fair : ∀ turn ∈ Run.turns Move.perform project moves, turn.SparesLists)
    (there : (Run.last Move.perform project moves).var? place key = some var)
    (listed : var.kind = .list) :
    var.value.listLength ≤ itemLimit ∨ ∃ first, project.var? place key = some first ∧
      first.kind = .list ∧ var.value.listLength ≤ first.value.listLength ∧
      ∀ turn ∈ Run.turns Move.perform project moves,
        ∃ kept, turn.after.var? place key = some kept ∧ kept.kind = .list := by
  induction moves generalizing project with
  | nil => exact .inr ⟨var, there, listed, Nat.le_refl _, fun turn absent => nomatch absent⟩
  | cons move rest ih =>
    have spared := fair _ List.mem_cons_self
    have others := fun turn member => fair turn (List.mem_cons_of_mem _ member)
    rcases ih others there with within | ⟨second, between, wasListed, short, throughout⟩
    · exact .inl within
    rcases short_of_move move spared between wasListed with
      within | ⟨first, before, isListed, shorter⟩
    · exact .inl (Nat.le_trans short within)
    · refine .inr ⟨first, before, isListed, Nat.le_trans short shorter, ?_⟩
      exact List.forall_mem_cons.mpr ⟨⟨second, between, wasListed⟩, throughout⟩

/-- **Lists stay within the limit, and their items are conserved.** After every run of moves in which
no identifier that is made up for a scalar is the one of a list of the target that the block runs on,
every list is within the limit, or it was there throughout and was no shorter at the start. What
becomes of the items on the way is the same for every list in hand. -/
theorem shortLists_last (project : Project) (moves : List Move)
    (fair : ∀ turn ∈ Run.turns Move.perform project moves, turn.SparesLists) :
    (∀ place key var, (Run.last Move.perform project moves).var? place key = some var →
      var.kind = .list → var.value.listLength ≤ itemLimit ∨
        ∃ first, project.var? place key = some first ∧ first.kind = .list ∧
          var.value.listLength ≤ first.value.listLength ∧
          ∀ turn ∈ Run.turns Move.perform project moves,
            ∃ kept, turn.after.var? place key = some kept ∧ kept.kind = .list) ∧
    ∀ (held : Held) (token : Nat) (items : List Value), held.var.value = .list token items →
      ListCommand.ConservesItems held token items :=
  ⟨fun _ _ _ there listed => short_last moves fair there listed,
    fun _ _ _ listed => ListCommand.conservesItems listed⟩

/-! ### An identifier that is taken -/

/-- A list that has the identifier that the first block makes up. -/
def takenList : Variable where
  id := emptyRoom.nextId
  name := "scores"
  kind := .list
  value := .list 0 []
  isCloud := false
  isFresh := false
  snapshot := none

/-- A stage with that list. -/
def takenRoom : Project :=
  emptyRoom.put .stage emptyRoom.nextId takenList

/-- Sets a scalar that is not there to a list of items. -/
def setToList (items : List Value) : Move :=
  .run ⟨"data_setvariableto", [("VARIABLE", .text "x"), ("VALUE", .list 1 items)], .named "Stage",
    false⟩

/-- The list that has the identifier is set instead. -/
theorem var?_setToList (item : Value) (items : List Value) :
    (Step.after (setToList (item :: items)).perform takenRoom).var? .stage takenRoom.nextId =
      some { takenList with value := .list 1 (item :: items) } := by
  rw [setToList, Move.after_run]
  rfl

/-- So it gets longer than the limit and than it was. -/
theorem beyondLimit_takenRoom :
    ¬∀ (project : Project) (moves : List Move) (place : Place) (key : String) (var : Variable),
      (Run.last Move.perform project moves).var? place key = some var → var.kind = .list →
        var.value.listLength ≤ itemLimit ∨
          ∃ first, project.var? place key = some first ∧ first.kind = .list ∧
            var.value.listLength ≤ first.value.listLength := by
  intro bounded
  have short (items : List Value) : items.length + 1 ≤ itemLimit := by
    have left := var?_setToList (.int 0) items
    rcases bounded takenRoom [setToList (.int 0 :: items)] .stage takenRoom.nextId _ left rfl with
      within | ⟨first, there, -, within⟩
    · exact within
    · have same : first = takenList := Option.some.inj there.symm
      rw [same] at within
      exact absurd within (Nat.not_succ_le_zero _)
  have beyond := short (List.replicate itemLimit (.int 0))
  rw [List.length_replicate] at beyond
  omega

/-- Adding to a list that is there and to one that is not. -/
def addMoves : List Move :=
  [.create (.sprite "Cat") "l1" "scores" .list false,
    .run ⟨"data_addtolist", [("LIST", .text "scores"), ("ITEM", .int 5)], .named "Cat", false⟩,
    .run ⟨"data_setvariableto", [("VARIABLE", .text "x"), ("VALUE", .int 5)], .named "Cat", false⟩]

theorem shortLists_addMoves :
    (∀ turn ∈ Run.turns Move.perform emptyRoom addMoves, turn.SparesLists) ∧
      ((Run.last Move.perform emptyRoom addMoves).var? (.sprite "Cat") "l1").map
        (fun var => var.value.listLength) = some 1 ∧
      ∀ place key var, (Run.last Move.perform emptyRoom addMoves).var? place key = some var →
        var.kind = .list → var.value.listLength ≤ itemLimit := by
  have fair : ∀ turn ∈ Run.turns Move.perform emptyRoom addMoves, turn.SparesLists := by
    intro turn member
    simp only [addMoves, Run.turns, Run.turn, List.mem_cons, List.not_mem_nil, or_false] at member
    rcases member with rfl | rfl | rfl
    · trivial
    · intro opcode place var named scalar
      cases named
      cases scalar
    · intro opcode place var named scalar reached drawn taken
      cases named
      cases reached
      -- The identifier that is made up is not the one of the list.
      have present := Option.isSome_of_eq_some taken
      exact absurd present (by decide +kernel)
  refine ⟨fair, by decide +kernel, fun place key var there listed => ?_⟩
  rcases (shortLists_last emptyRoom addMoves fair).1 place key var there listed with
    within | ⟨first, before, -⟩
  · exact within
  · cases (bare_emptyRoom place key).symm.trans before

end Project

end BlockData
