/-
**Wire names and attribute names.**

Devices are called by wire names, in which each word after the first starts with a capital; the
attribute that is looked up has the same words with underscores between them. The words can be read
back from the attribute name, so that no two wire names made of words meet in one attribute. Any
other text may be sent for a wire name as well, and still no attribute is looked up whose name
starts with an underscore.

* `WireName.snakeCase_spelling`: the attribute name of a wire name made of words;
* `WireName.joined_injective`: the words are known from the attribute name;
* `isPublic_attributeName`: no attribute name starts with an underscore;
* `CloudMember.existsUnique_wireName`: the wire names of the members of the cloud device;
* `Project.wireNames_decode`: what this means for calls of devices.
-/

import BlockData.Project.Device
import BlockData.Proofs.LetterCase
import Mathlib.Data.List.Basic

namespace BlockData

/-! ### Names made of words -/

/-- A small ASCII letter or a digit. -/
def isPlain (c : Char) : Bool :=
  c.isLower || c.isDigit

/-- A text of small ASCII letters and digits that starts with a letter. -/
def IsWord : List Char → Prop
  | [] => False
  | c :: rest => c.isLower = true ∧ rest.all isPlain = true

instance : DecidablePred IsWord
  | [] => inferInstanceAs (Decidable False)
  | c :: rest => inferInstanceAs (Decidable (c.isLower = true ∧ rest.all isPlain = true))

/-- A word of a name. -/
structure Word where
  letters : List Char
  isWord : IsWord letters

/-- The word with its first letter written as a capital. -/
def Word.capitalised (word : Word) : List Char :=
  word.letters.modifyHead Char.toUpper

/-- A name made of one word or more. -/
structure WireName where
  first : Word
  later : List Word

namespace WireName

/-- The words of a name. -/
def words (name : WireName) : List Word :=
  name.first :: name.later

/-- The wire name: the words in a row, each after the first with a capital. -/
def spelling (name : WireName) : List Char :=
  name.first.letters ++ name.later.flatMap Word.capitalised

/-- The words with single underscores between them. -/
def joined (name : WireName) : List Char :=
  List.intercalate ['_'] (name.words.map Word.letters)

end WireName

/-! ### Attributes of devices -/

/-- The name of the attribute that is looked up for a wire name. -/
def attributeName (wire : String) : String :=
  String.ofList (snakeCase wire.toList)

/-- Whether a name is not a private one: it does not start with an underscore. -/
def IsPublic (name : String) : Prop :=
  name.toList.head? ≠ some '_'

instance : DecidablePred IsPublic :=
  fun name => inferInstanceAs (Decidable (name.toList.head? ≠ some '_'))

/-- What a wire name reaches of a device that has these attributes, whatever they are. -/
def reached {α : Type} (attributes : String → Option α) (wire : String) : Option α :=
  attributes (attributeName wire)

/-- The attributes under public names. -/
def publicOnly {α : Type} (attributes : String → Option α) (name : String) : Option α :=
  if IsPublic name then attributes name else none

/-- The attributes of the cloud device. -/
def CloudMember.named? (name : String) : Option CloudMember :=
  every.find? fun member => member.name = name

namespace Project

/-- What can be called of devices, by the name of the device and of the attribute. -/
abbrev Methods : Type :=
  String → String → Option (List Value → Step Project Unit)

/-- The methods of the cloud device, which is the only one. -/
def cloudMethods : Methods := fun device name =>
  if device = "cloud" then (CloudMember.named? name).map callMember else none

/-- Calls one of any devices by its wire name. -/
def queryAmong (methods : Methods) (device wire : String) (arguments : List Value) :
    Step Project Unit :=
  match reached (methods device) wire with
  | some method => method arguments
  | none => return ()

end Project

variable {c : Char} {text : List Char} {wire : String}

/-! ### Characters -/

theorem ascii_of_isPlain (plain : isPlain c = true) : c.toNat < 128 := by
  have bound {limit : Char} (small : limit.toNat < 128) (order : c.val ≤ limit.val) :
      c.toNat < 128 :=
    Nat.lt_of_le_of_lt (UInt32.le_iff_toNat_le.mp order) small
  rcases Bool.or_eq_true_iff.mp plain with letter | digit
  · exact bound (by decide) (of_decide_eq_true (Bool.and_eq_true_iff.mp letter).2)
  · exact bound (by decide) (of_decide_eq_true (Bool.and_eq_true_iff.mp digit).2)

theorem isPlain_of_isLower (letter : c.isLower = true) : isPlain c = true :=
  Bool.or_eq_true_iff.mpr (.inl letter)

/-- A small letter or digit is kept. -/
theorem snakeChar_of_isPlain (plain : isPlain c = true) : snakeChar c = [c] := by
  have all : ∀ code < 128, isPlain (Char.ofNat code) = true →
      snakeChar (Char.ofNat code) = [Char.ofNat code] := by
    decide +kernel
  exact Text.of_ascii (motive := fun c => isPlain c = true → snakeChar c = [c]) all
    (ascii_of_isPlain plain) plain

/-- The capital of a small letter becomes an underscore and the letter. -/
theorem snakeChar_toUpper (letter : c.isLower = true) : snakeChar c.toUpper = ['_', c] := by
  have all : ∀ code < 128, (Char.ofNat code).isLower = true →
      snakeChar (Char.ofNat code).toUpper = ['_', Char.ofNat code] := by
    decide +kernel
  exact Text.of_ascii (motive := fun c => c.isLower = true → snakeChar c.toUpper = ['_', c]) all
    (ascii_of_isPlain (isPlain_of_isLower letter)) letter

theorem ne_underscore_of_isPlain (plain : isPlain c = true) : c ≠ '_' := by
  rintro rfl
  exact absurd plain (by decide)

theorem flatMap_snakeChar_of_plain (plain : ∀ c ∈ text, isPlain c = true) :
    text.flatMap snakeChar = text :=
  calc text.flatMap snakeChar
      _ = text.flatMap fun c => [c] :=
        List.flatMap_congr fun c member => snakeChar_of_isPlain (plain c member)
      _ = text := List.flatMap_singleton' text

/-! ### Words -/

namespace Word

theorem letters_injective : Function.Injective letters := by
  rintro ⟨letters, isWord⟩ ⟨_, _⟩ rfl
  rfl

/-- A word starts with a small letter. -/
theorem exists_letters_eq (word : Word) : ∃ letter rest, word.letters = letter :: rest ∧
    letter.isLower = true ∧ ∀ c ∈ rest, isPlain c = true := by
  obtain ⟨letters, isWord⟩ := word
  cases letters with
  | nil => exact isWord.elim
  | cons letter rest => exact ⟨letter, rest, rfl, isWord.1, List.all_eq_true.mp isWord.2⟩

theorem isPlain_of_mem_letters {word : Word} (member : c ∈ word.letters) : isPlain c = true := by
  obtain ⟨letter, rest, same, small, plain⟩ := word.exists_letters_eq
  rw [same] at member
  rcases List.mem_cons.mp member with rfl | member
  · exact isPlain_of_isLower small
  · exact plain c member

theorem underscore_notMem_letters (word : Word) : '_' ∉ word.letters :=
  fun member => ne_underscore_of_isPlain (isPlain_of_mem_letters member) rfl

theorem flatMap_snakeChar_letters (word : Word) :
    word.letters.flatMap snakeChar = word.letters :=
  flatMap_snakeChar_of_plain fun _ => isPlain_of_mem_letters

/-- The capital of a word sets it off by an underscore. -/
theorem flatMap_snakeChar_capitalised (word : Word) :
    word.capitalised.flatMap snakeChar = '_' :: word.letters := by
  obtain ⟨letter, rest, same, small, plain⟩ := word.exists_letters_eq
  rw [capitalised, same, List.modifyHead_cons, List.flatMap_cons, snakeChar_toUpper small,
    flatMap_snakeChar_of_plain plain]
  rfl

end Word

/-! ### Spelling and reading back -/

namespace WireName

/-- Each word after the first adds an underscore and itself. -/
theorem intercalate_letters (first : Word) (later : List Word) :
    List.intercalate ['_'] ((first :: later).map Word.letters) =
      first.letters ++ later.flatMap fun word => '_' :: word.letters := by
  -- The separator comes in front of each later word, so any word may be the first one.
  induction later generalizing first with
  | nil => simp
  | cons second later hypothesis =>
    rw [List.map_cons, List.map_cons, List.intercalate_cons_cons, ← List.map_cons,
      hypothesis second, List.flatMap_cons, List.append_assoc]
    rfl

/-- No underscore is left in front of a name, since its first word starts with a letter. -/
theorem dropWhile_joined (name : WireName) :
    name.joined.dropWhile (fun c => c == '_') = name.joined := by
  obtain ⟨letter, rest, same, small, -⟩ := name.first.exists_letters_eq
  have solid : (letter == '_') = false :=
    beq_false_of_ne (ne_underscore_of_isPlain (isPlain_of_isLower small))
  rw [joined, words, intercalate_letters, same, List.cons_append, List.dropWhile_cons, solid]
  rfl

/-- **A wire name made of words becomes these words with single underscores between them.** -/
theorem snakeCase_spelling (name : WireName) : snakeCase name.spelling = name.joined := by
  have later : (name.later.flatMap Word.capitalised).flatMap snakeChar =
      name.later.flatMap fun word => '_' :: word.letters := by
    rw [List.flatMap_assoc]
    exact List.flatMap_congr fun word _ => word.flatMap_snakeChar_capitalised
  have spelled : name.spelling.flatMap snakeChar = name.joined := by
    rw [spelling, List.flatMap_append, later, name.first.flatMap_snakeChar_letters, joined, words,
      intercalate_letters]
  rw [snakeCase, spelled, dropWhile_joined]

/-- The words are what stands between the underscores. -/
theorem splitOn_joined (name : WireName) :
    name.joined.splitOn '_' = name.words.map Word.letters := by
  refine List.splitOn_intercalate '_' (fun letters member => ?_) (List.cons_ne_nil _ _)
  obtain ⟨word, -, rfl⟩ := List.mem_map.mp member
  exact word.underscore_notMem_letters

/-- **Names with the same words and underscores have the same words.** -/
theorem joined_injective : Function.Injective joined := by
  rintro ⟨first, later⟩ ⟨other, others⟩ same
  have letters := congrArg (List.splitOn '_') same
  rw [splitOn_joined, splitOn_joined] at letters
  obtain ⟨rfl, rfl⟩ := List.cons_eq_cons.mp (Word.letters_injective.list_map letters)
  rfl

/-- The texts that are names made of words are those with words between their underscores. -/
theorem exists_joined_eq_iff :
    (∃ name : WireName, name.joined = text) ↔ ∀ piece ∈ text.splitOn '_', IsWord piece := by
  constructor
  · rintro ⟨name, rfl⟩ piece member
    rw [splitOn_joined] at member
    obtain ⟨word, -, rfl⟩ := List.mem_map.mp member
    exact word.isWord
  · intro allWords
    obtain ⟨words, same⟩ : ∃ words : List Word, words.map Word.letters = text.splitOn '_' := by
      refine ⟨(text.splitOn '_').pmap Word.mk allWords, ?_⟩
      rw [List.map_pmap]
      exact List.pmap_eq_self.mpr fun _ _ => rfl
    cases words with
    | nil => exact absurd same.symm (List.splitOn_ne_nil '_' text)
    | cons first later =>
      refine ⟨⟨first, later⟩, ?_⟩
      rw [joined, words, same, List.intercalate_splitOn]

end WireName

/-! ### Any text at all -/

/-- No text is left with an underscore in front. -/
theorem head?_snakeCase (name : List Char) : (snakeCase name).head? ≠ some '_' := by
  intro head
  have first := List.head?_dropWhile_not (fun c => c == '_') (name.flatMap snakeChar)
  rw [← snakeCase, head] at first
  exact absurd first (by decide)

/-- **No attribute that is looked up is a private one.** -/
theorem isPublic_attributeName (wire : String) : IsPublic (attributeName wire) := by
  rw [IsPublic, attributeName, String.toList_ofList]
  exact head?_snakeCase wire.toList

example : attributeName "__Class__" = "class__" := by decide

/-- What a device has under private names does not matter. -/
theorem reached_publicOnly {α : Type} (attributes : String → Option α) (wire : String) :
    reached (publicOnly attributes) wire = reached attributes wire :=
  if_pos (isPublic_attributeName wire)

theorem attributeName_spelling (name : WireName) :
    attributeName (String.ofList name.spelling) = String.ofList name.joined := by
  rw [attributeName, String.toList_ofList, name.snakeCase_spelling]

/-- **Names made of words meet in one attribute only if they are spelled alike.** -/
theorem attributeName_spelling_iff {name other : WireName} :
    attributeName (String.ofList name.spelling) = attributeName (String.ofList other.spelling) ↔
      name = other := by
  rw [attributeName_spelling, attributeName_spelling, String.ofList_inj,
    WireName.joined_injective.eq_iff]

/-! ### The cloud device -/

namespace CloudMember

theorem ofWireName?_eq_reached (wire : String) : ofWireName? wire = reached named? wire :=
  rfl

theorem named?_eq_some_iff {name : String} {member : CloudMember} :
    named? name = some member ↔ member.name = name := by
  constructor
  · intro found
    have named := List.find?_some found
    exact of_decide_eq_true named
  · rintro rfl
    cases member <;> decide

theorem ofWireName?_eq_some_iff {member : CloudMember} :
    ofWireName? wire = some member ↔ member.name = attributeName wire := by
  rw [ofWireName?_eq_reached, reached, named?_eq_some_iff]

/-- Each member is named by words. -/
theorem exists_joined_eq_name (member : CloudMember) :
    ∃ name : WireName, String.ofList name.joined = member.name := by
  obtain ⟨name, same⟩ : ∃ name : WireName, name.joined = member.name.toList := by
    rw [WireName.exists_joined_eq_iff]
    cases member <;> decide
  exact ⟨name, by rw [same, String.ofList_toList]⟩

/-- **Exactly one wire name made of words reaches a member.** -/
theorem existsUnique_wireName (member : CloudMember) :
    ∃! name : WireName, ofWireName? (String.ofList name.spelling) = some member := by
  obtain ⟨name, same⟩ := member.exists_joined_eq_name
  refine ⟨name, ?_, fun other found => ?_⟩
  · exact ofWireName?_eq_some_iff.mpr (by rw [attributeName_spelling, same])
  · refine attributeName_spelling_iff.mp ?_
    rw [← ofWireName?_eq_some_iff.mp found, attributeName_spelling, same]

example : ofWireName? "requestRenameVariable" = some requestRename := by decide

end CloudMember

namespace Project

/-- Calls know the cloud device and its members only. -/
theorem query_eq (device wire : String) (arguments : List Value) :
    query device wire arguments = queryAmong cloudMethods device wire arguments := by
  unfold query queryAmong reached cloudMethods
  split
  next cloud =>
    rw [CloudMember.ofWireName?_eq_reached, reached]
    cases CloudMember.named? (attributeName wire) <;> rfl
  next => rfl

/-- A call is the same if the devices have no private attributes. -/
theorem queryAmong_publicOnly (methods : Methods) (device wire : String)
    (arguments : List Value) :
    queryAmong (fun device => publicOnly (methods device)) device wire arguments =
      queryAmong methods device wire arguments := by
  rw [queryAmong, reached_publicOnly]
  rfl

/-- **Wire names decode to attribute names.** A wire name made of words stands for the words with
single underscores between them, and two of these reach the same attribute only if they are equal.
No wire name at all stands for a name that starts with an underscore, whatever the devices are, so
that calls do as if there were no attributes of such names. -/
theorem wireNames_decode :
    (∀ name : WireName, attributeName (String.ofList name.spelling) =
      String.ofList (List.intercalate ['_'] (name.words.map Word.letters))) ∧
    (∀ name other : WireName,
      attributeName (String.ofList name.spelling) = attributeName (String.ofList other.spelling) ↔
        String.ofList name.spelling = String.ofList other.spelling) ∧
    (∀ wire, IsPublic (attributeName wire)) ∧
    (∀ methods device wire arguments,
      queryAmong (fun device => publicOnly (methods device)) device wire arguments =
        queryAmong methods device wire arguments) ∧
    ∀ device wire arguments,
      query device wire arguments = queryAmong cloudMethods device wire arguments := by
  refine ⟨attributeName_spelling, fun name other => ?_, isPublic_attributeName,
    queryAmong_publicOnly, query_eq⟩
  constructor
  · intro same
    rw [attributeName_spelling_iff.mp same]
  · intro same
    rw [same]

end Project

end BlockData
