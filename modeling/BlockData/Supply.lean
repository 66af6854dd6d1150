/-
**What runs draw from.**

A supply holds the sources of randomness, how much of them has been used, and how many list tokens
have been given out. It also settles what the content of values leaves open: whether an item that is
looked for in a list is the very one at a place of it. Identifiers are twenty letters of a fixed
alphabet, each chosen at random.
-/

import BlockData.Step
import BlockData.Value.Basic

namespace BlockData

/-- The sources that operations draw from, and how often they have. -/
structure Supply where
  /-- The choices of letters, one after the other. -/
  letter : Nat → Nat
  /-- The random fractions, at least zero and less than one, one after the other. -/
  fraction : Nat → Double
  /-- The number of letters chosen. -/
  lettersUsed : Nat := 0
  /-- The number of fractions used. -/
  fractionsUsed : Nat := 0
  /-- The number of list tokens given out; those to come are not less. -/
  tokensUsed : Nat := 0
  /-- Whether an item that is looked for in a list is the very one at a place of it, if that has the
  same content. -/
  itself : List Value → Value → Nat → Bool := fun _ _ _ => false

namespace Supply

/-- The alphabet of identifiers. -/
def alphabet : List Char :=
  ("!#%()*+,-./:;=?@[]^_" ++ "\x60\x7b|\x7d~" ++ "ABCDEFGHIJKLMNOPQRSTUVWXYZ" ++
    "abcdefghijklmnopqrstuvwxyz" ++ "0123456789").toList

/-- The letter at a place of the alphabet, which goes round. -/
def letterAt (choice : Nat) : Char :=
  alphabet.getD (choice % alphabet.length) '!'

/-- The usual length of identifiers. -/
def identifierLength : Nat := 20

/-- A new identifier of the given length. -/
def identifier (supply : Supply) (length : Nat) : String × Supply :=
  (String.ofList ((List.range length).map fun place =>
      letterAt (supply.letter (supply.lettersUsed + place))),
    { supply with lettersUsed := supply.lettersUsed + length })

/-- A token not given out before. -/
def token (supply : Supply) : Nat × Supply :=
  (supply.tokensUsed, { supply with tokensUsed := supply.tokensUsed + 1 })

/-- The next random fraction. -/
def nextFraction (supply : Supply) : Double × Supply :=
  (supply.fraction supply.fractionsUsed,
    { supply with fractionsUsed := supply.fractionsUsed + 1 })

/-- A random position from one to the given length; fails if that is beyond the finite doubles. -/
def randomPosition (length : Nat) : Step Supply Nat := do
  let fraction ← modifyGet nextFraction
  let size ← Step.ofExcept (Number.int length).toDouble
  return 1 + (fraction.mul size).floor.toNat

theorem letterAt_mem (choice : Nat) : letterAt choice ∈ alphabet := by
  have size : 0 < alphabet.length := by decide
  have inside : choice % alphabet.length < alphabet.length := Nat.mod_lt _ size
  unfold letterAt
  rw [List.getD_eq_getElem?_getD, List.getElem?_eq_getElem inside]
  exact List.getElem_mem inside

theorem length_identifier (supply : Supply) (length : Nat) :
    (supply.identifier length).1.length = length := by
  simp [identifier]

end Supply

end BlockData
