/-
**Letter case.**

`lower` writes a text in small letters. Every letter has one small partner, but for two: a capital
I with a dot becomes an `i` and a combining dot, and a capital sigma becomes the final small sigma
where it ends a word, that is where a cased letter comes before it and none after it, the ignorable
characters between being passed over.
-/

import BlockData.Text.CaseRuns

namespace BlockData.Text

/-- Whether a character has the property Uppercase. -/
def isUpper (c : Char) : Bool :=
  if c.toNat < 128 then 'A' ≤ c && c ≤ 'Z' else anyCovers upperRuns c.toNat

/-- The small partner of a letter by the table, itself if it has none. -/
def lowerLetter (c : Char) : Char :=
  match lowerRuns.find? fun entry => entry.run.covers c.toNat with
  | some entry => Char.ofNat (entry.partner + (c.toNat - entry.run.first))
  | none => c

/-- The small form of a character standing alone. -/
def lowerChar (c : Char) : List Char :=
  if c.toNat < 128 then [c.toLower]
  else if c = '\u0130' then ['i', '\u0307']
  else [lowerLetter c]

/-- Whether a character has a case, as far as a neighbouring sigma is concerned. -/
def isCased (c : Char) : Bool :=
  anyCovers casedRuns c.toNat

/-- Whether a character is passed over beside a sigma. -/
def isIgnorable (c : Char) : Bool :=
  anyCovers ignorableRuns c.toNat

/-- Whether the first character that is not ignorable is a cased one. -/
def meetsCased (text : List Char) : Bool :=
  match text.dropWhile isIgnorable with
  | [] => false
  | c :: _ => isCased c

/-- The small letters of a text, given the characters before it, nearest first. -/
def lowerAfter (before : List Char) : List Char → List Char
  | [] => []
  | c :: rest =>
    let small :=
      if c = '\u03A3' then
        [if meetsCased before && !meetsCased rest then '\u03C2' else '\u03C3']
      else lowerChar c
    small ++ lowerAfter (c :: before) rest

/-- A text in small letters. -/
def lower (text : List Char) : List Char :=
  lowerAfter [] text

end BlockData.Text
