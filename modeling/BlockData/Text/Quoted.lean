/-
**Quoted text.**

A text in quotes for use in messages and inside nested values. The quotes are single unless the
text holds a single quote and no double one. Backslashes and the quote in use are escaped, so are
line breaks and tabs; what else is not printable is written by its code point.
-/

import BlockData.Text.PrintableRuns

namespace BlockData.Text

/-- Whether a character is printed as it is. -/
def isPrintable (c : Char) : Bool :=
  if c.toNat < 128 then ' ' ≤ c && c ≤ '~' else anyCovers printableRuns c.toNat

/-- The last `width` hexadecimal digits of a code point, small, with leading zeros. -/
def hexDigits (width code : Nat) : List Char :=
  match width with
  | 0 => []
  | width + 1 => hexDigits width (code / 16) ++ [Nat.digitChar (code % 16)]

/-- A character by its code point, in the shortest of three widths. -/
def escapeCode (code : Nat) : List Char :=
  if code < 0x100 then '\\' :: 'x' :: hexDigits 2 code
  else if code < 0x10000 then '\\' :: 'u' :: hexDigits 4 code
  else '\\' :: 'U' :: hexDigits 8 code

/-- A character as it stands between the given quotes. -/
def escape (quote c : Char) : List Char :=
  if c = '\\' || c = quote then ['\\', c]
  else if c = '\t' then ['\\', 't']
  else if c = '\n' then ['\\', 'n']
  else if c = '\r' then ['\\', 'r']
  else if isPrintable c then [c]
  else escapeCode c.toNat

/-- The quote that a text is put in. -/
def quoteFor (text : List Char) : Char :=
  if text.contains '\'' && !text.contains '"' then '"' else '\''

/-- A text in quotes. -/
def quoted (text : String) : String :=
  let quote := quoteFor text.toList
  String.ofList (quote :: text.toList.flatMap (escape quote) ++ [quote])

/-- Texts in quotes, in brackets. -/
def quotedList (texts : List String) : String :=
  "[" ++ ", ".intercalate (texts.map quoted) ++ "]"

end BlockData.Text
