/-
**Numerals.**

The texts that denote numbers: signed decimal numerals with an optional fraction and exponent,
unsigned hexadecimal, octal and binary numerals after `0x`, `0o` or `0b`, and the signed word
`Infinity`. `Numeral.read?` splits a text into the parts of a numeral, `Numeral.number` is what the
numeral denotes; `numberOfText` joins them, blanks around a numeral not counting.
-/

import BlockData.Double.Decimal
import BlockData.Number
import BlockData.Text.Blank

namespace BlockData

/-- A numeral, split into its parts. -/
inductive Numeral where
  /-- A sign and digits. -/
  | whole (negative : Bool) (digits : List Char)
  /-- A sign, the digits before and after the point together, the number of those after it, and
  the exponent. -/
  | decimal (negative : Bool) (digits : List Char) (places : Nat) (exponent : Int)
  /-- A base and the digits in it. -/
  | radix (base : Nat) (digits : List Char)
  /-- The signed word for infinity. -/
  | infinity (negative : Bool)
  deriving DecidableEq

namespace Numeral

/-- Whether a character is a decimal digit. -/
def isDecimalDigit (c : Char) : Bool :=
  '0' ≤ c && c ≤ '9'

/-- The value of a digit: `0` to `9`, then letters of either case from ten on. -/
def digitValue (c : Char) : Nat :=
  if c ≤ '9' then c.toNat - '0'.toNat
  else if c ≤ 'Z' then c.toNat - 'A'.toNat + 10
  else c.toNat - 'a'.toNat + 10

/-- Whether a character is a digit in the given base, up to sixteen. -/
def isDigitIn (base : Nat) (c : Char) : Bool :=
  (isDecimalDigit c || ('a' ≤ c && c ≤ 'f') || ('A' ≤ c && c ≤ 'F')) && digitValue c < base

/-- The number that digits denote in a base. -/
def ofDigits (base : Nat) (digits : List Char) : Nat :=
  digits.foldl (fun total digit => total * base + digitValue digit) 0

/-- The sign in front of a text, and the rest. -/
def splitSign : List Char → Bool × List Char
  | '-' :: rest => (true, rest)
  | '+' :: rest => (false, rest)
  | rest => (false, rest)

/-- The base that a letter after a zero stands for. -/
def baseOfLetter? : Char → Option Nat
  | 'x' => some 16
  | 'X' => some 16
  | 'o' => some 8
  | 'O' => some 8
  | 'b' => some 2
  | 'B' => some 2
  | _ => none

/-- Reads a numeral with a base mark. -/
def readRadix? : List Char → Option Numeral
  | '0' :: letter :: digits =>
    match baseOfLetter? letter with
    | some base =>
      if digits ≠ [] ∧ digits.all (isDigitIn base) then some (.radix base digits) else none
    | none => none
  | _ => none

/-- Reads what may follow the digits of a decimal numeral: nothing, or an exponent. -/
def readExponent? : List Char → Option Int
  | [] => some 0
  | mark :: rest =>
    let (negative, digits) := splitSign rest
    if (mark = 'e' ∨ mark = 'E') ∧ digits ≠ [] ∧ digits.all isDecimalDigit then
      some (signed negative (ofDigits 10 digits))
    else none

/-- Reads an unsigned decimal numeral. -/
def readDecimal? (negative : Bool) (text : List Char) : Option Numeral :=
  let digits := text.takeWhile isDecimalDigit
  match text.dropWhile isDecimalDigit with
  | [] => if digits = [] then none else some (.whole negative digits)
  | '.' :: rest =>
    let fraction := rest.takeWhile isDecimalDigit
    if digits = [] ∧ fraction = [] then none
    else
      (readExponent? (rest.dropWhile isDecimalDigit)).map fun exponent =>
        .decimal negative (digits ++ fraction) fraction.length exponent
  | rest =>
    if digits = [] then none
    else (readExponent? rest).map fun exponent => .decimal negative digits 0 exponent

/-- Reads a numeral; nothing may stand around it. -/
def read? (text : List Char) : Option Numeral :=
  match readRadix? text with
  | some numeral => some numeral
  | none =>
    let (negative, rest) := splitSign text
    if rest = "Infinity".toList then some (.infinity negative) else readDecimal? negative rest

/-- The greatest integer that a decimal numeral denotes as an integer. -/
def greatestInteger : Nat := Nat.pow 2 53 - 1

/-- The number that a numeral denotes. Whole decimal numerals denote integers up to
`greatestInteger`, beyond it the nearest double; their digits are limited in number. Numerals with a
base mark always denote integers. -/
def number : Numeral → Except Fault Number
  | .whole negative digits =>
    if Fault.digitLimit < digits.length then .error (.numeralTooLong digits.length)
    else
      let magnitude := ofDigits 10 digits
      if magnitude ≤ greatestInteger then .ok (.int (signed negative magnitude))
      else do
        let x ← (Number.int (signed negative magnitude)).toDouble
        return .double x
  | .decimal negative digits places exponent =>
    .ok (.double (Double.ofDecimal negative ⟨ofDigits 10 digits, exponent - places⟩))
  | .radix base digits => .ok (.int (ofDigits base digits))
  | .infinity negative => .ok (.double (.infinite negative))

end Numeral

/-- The number that a text denotes: zero if blank, NaN if it is no numeral. -/
def numberOfText (text : String) : Except Fault Number :=
  match Text.trim text.toList with
  | [] => .ok .zero
  | trimmed =>
    match Numeral.read? trimmed with
    | some numeral => numeral.number
    | none => .ok .nan

end BlockData
