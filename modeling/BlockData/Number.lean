/-
**Numbers.**

A number is an integer of any size or a double. Two integers are added and subtracted exactly; as
soon as a double takes part, an integer is rounded to a double first, which fails beyond the finite
ones. Equality rounds nothing.
-/

import BlockData.Double.Arithmetic
import BlockData.Fault

namespace BlockData

/-- A number: an integer of any size, or a double. -/
inductive Number where
  | int (n : Int)
  | double (x : Double)
  deriving DecidableEq

namespace Number

/-- The integer zero. -/
def zero : Number := .int 0

/-- NaN. -/
def nan : Number := .double .nan

/-- The nearest double, for an integer only if that is finite. -/
def toDouble : Number → Except Fault Double
  | .int n =>
    let x := Double.ofInt n
    if x.isFinite then .ok x else .error .integerTooLarge
  | .double x => .ok x

/-- Whether the number is zero; `-0.0` is. -/
def isZero : Number → Bool
  | .int n => n = 0
  | .double x => x.isZero

/-- Whether the number is NaN; fails for an integer beyond the finite doubles. -/
def isNaN (number : Number) : Except Fault Bool := do
  let x ← number.toDouble
  return x.isNaN

/-- Exact equality across integers and doubles. -/
def equal : Number → Number → Bool
  | .int m, .int n => m = n
  | .int n, .double x => x.isFinite && x.units = n * unitsPerOne
  | .double x, .int n => x.isFinite && x.units = n * unitsPerOne
  | .double x, .double y => x.equal y

/-- The sum. -/
def add (first second : Number) : Except Fault Number :=
  match first, second with
  | .int m, .int n => .ok (.int (m + n))
  | _, _ => do
    let x ← first.toDouble
    let y ← second.toDouble
    return .double (x.add y)

/-- The difference. -/
def sub (first second : Number) : Except Fault Number :=
  match first, second with
  | .int m, .int n => .ok (.int (m - n))
  | _, _ => do
    let x ← first.toDouble
    let y ← second.toDouble
    return .double (x.sub y)

/-- The greatest integer below or at a finite number, nothing for the others; fails for an integer
beyond the finite doubles. -/
def floor? (number : Number) : Except Fault (Option Int) := do
  let x ← number.toDouble
  match number with
  | .int n => return some n
  | .double _ => return if x.isFinite then some x.floor else none

end Number

end BlockData
