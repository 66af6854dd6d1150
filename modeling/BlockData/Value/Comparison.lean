/-
**Reading values as numbers, and comparing them.**

Every value counts as a number, NaN if nothing better. Values compare as numbers if both sides read
as such and neither is blank, otherwise as texts in small letters.
-/

import BlockData.Numeral
import BlockData.Text.LetterCase
import BlockData.Value.Display

namespace BlockData.Value

/-- What a value counts as: truth values as zero and one, nothing as zero, texts by their numeral,
everything else as NaN. -/
def reading : Value → Except Fault Number
  | .nothing => .ok .zero
  | .bool truth => .ok (.int (if truth then 1 else 0))
  | .int n => .ok (.int n)
  | .double x => .ok (.double x)
  | .text content => numberOfText content
  | _ => .ok .nan

/-- A value as a number, zero in place of NaN. -/
def toNumber (value : Value) : Except Fault Number := do
  match ← value.reading with
  | .double .nan => return .zero
  | number => return number

/-- Nothing and the texts of blanks only are blank. -/
def isBlank : Value → Bool
  | .nothing => true
  | .text content => Text.trim content.toList = []
  | _ => false

/-- The order of texts by code point as a number: negative, zero or positive. -/
def compareTexts (first second : List Char) : Number :=
  if first < second then .int (-1)
  else if second < first then .int 1
  else .int 0

/-- How the texts of two values compare in small letters. -/
def compareAsTexts (first second : Value) : Except Fault Number := do
  let firstText ← first.blockText
  let secondText ← second.blockText
  return compareTexts (Text.lower firstText.toList) (Text.lower secondText.toList)

/-- How two numbers compare: by their difference, equal infinities having none. -/
def compareNumbers (m n : Number) : Except Fault Number :=
  match m, n with
  | .double (.infinite p), .double (.infinite q) => if p = q then .ok .zero else m.sub n
  | _, _ => m.sub n

/-- How two values compare: zero if they count as equal, negative if the first comes first. A blank
that reads as zero counts as no number; of two of them only the first is so treated, which is
enough to compare as texts. -/
def compare (first second : Value) : Except Fault Number := do
  let firstReading ← first.reading
  let secondReading ← second.reading
  let firstBlank := firstReading.isZero && first.isBlank
  let secondBlank := !firstBlank && secondReading.isZero && second.isBlank
  let m := if firstBlank then Number.nan else firstReading
  let n := if secondBlank then Number.nan else secondReading
  if ← m.isNaN then compareAsTexts first second
  else if ← n.isNaN then compareAsTexts first second
  else compareNumbers m n

end BlockData.Value
