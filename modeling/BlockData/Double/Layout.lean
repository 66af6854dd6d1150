/-
**Doubles as text.**

A double is written from the digits of its shortest decimal and the place of the point in front of
the first of them. Where the point lies not too far away the number is written positionally,
otherwise with an exponent. What else may differ between notations is a `Layout`: two of them are
in use, `Layout.plain` for names and nested values and `Layout.block` for what blocks report.
-/

import BlockData.Double.Decimal

namespace BlockData

/-- The decimal digits of a natural number, most significant first. -/
def decimalDigits (n : Nat) : List Char :=
  Nat.toDigits 10 n

/-- An integer in decimal, with a minus sign if negative. -/
def integerText (n : Int) : String :=
  if n < 0 then "-" ++ Nat.repr n.natAbs else Nat.repr n.natAbs

/-- The choices of a notation for doubles. -/
structure Layout where
  /-- The least place of the point that is written positionally. -/
  leastPlace : Int
  /-- The greatest place of the point that is written positionally. -/
  greatestPlace : Int
  /-- What follows a whole number that is written positionally. -/
  wholeMark : String
  /-- The least number of digits of an exponent. -/
  exponentWidth : Nat
  /-- The text of NaN. -/
  nanText : String
  /-- The text of the positive infinity. -/
  infinityText : String

namespace Layout

/-- The notation of names and nested values: positional from `0.0001` up to sixteen digits before
the point, a whole number marked by `.0`, exponents of two digits at least. -/
def plain : Layout where
  leastPlace := -3
  greatestPlace := 16
  wholeMark := ".0"
  exponentWidth := 2
  nanText := "nan"
  infinityText := "inf"

/-- The notation of block values: positional from `0.000001` up to twenty-one digits before the
point, no mark on whole numbers, exponents unpadded. -/
def block : Layout where
  leastPlace := -5
  greatestPlace := 21
  wholeMark := ""
  exponentWidth := 1
  nanText := "NaN"
  infinityText := "Infinity"

/-- The given digits with the point at a place: before them, among them or after them. -/
def positional (layout : Layout) (digits : List Char) (place : Int) : List Char :=
  if place ≤ 0 then '0' :: '.' :: List.replicate place.natAbs '0' ++ digits
  else if place < digits.length then
    digits.take place.toNat ++ '.' :: digits.drop place.toNat
  else digits ++ List.replicate (place.toNat - digits.length) '0' ++ layout.wholeMark.toList

/-- The first digit, the others after a point, and the exponent of the first. -/
def scientific (layout : Layout) (digits : List Char) (place : Int) : List Char :=
  let exponent := place - 1
  let exponentDigits := decimalDigits exponent.natAbs
  let padding := List.replicate (layout.exponentWidth - exponentDigits.length) '0'
  let mantissa :=
    match digits with
    | [] => []
    | [digit] => [digit]
    | digit :: rest => digit :: '.' :: rest
  mantissa ++ 'e' :: (if exponent < 0 then '-' else '+') :: (padding ++ exponentDigits)

/-- Digits and place of a decimal: trailing zeros dropped, zero being the one digit `0`. -/
def digitsAndPlace (decimal : Decimal) : List Char × Int :=
  if decimal.coefficient = 0 then (['0'], 1)
  else
    let digits := decimalDigits decimal.coefficient
    ((digits.reverse.dropWhile (· == '0')).reverse, digits.length + decimal.exponent)

/-- A decimal in the notation, positional where the place of its point allows. -/
def decimalText (layout : Layout) (decimal : Decimal) : List Char :=
  let (digits, place) := digitsAndPlace decimal
  if layout.leastPlace ≤ place ∧ place ≤ layout.greatestPlace then
    layout.positional digits place
  else layout.scientific digits place

/-- A double in the notation. -/
def text (layout : Layout) : Double → String
  | .nan => layout.nanText
  | .infinite negative => (if negative then "-" else "") ++ layout.infinityText
  | .finite negative rank _ =>
    (if negative then "-" else "") ++ String.ofList (layout.decimalText (shortestDecimal rank))

end Layout

end BlockData
