/-
**Items.**

What the commands on lists do to items: adding, deleting, inserting and replacing, looking up,
finding and joining. The functions on lists of items are total. Those on values also say what
becomes of values that are no lists: texts are read as their characters and mappings as their keys,
and of these only mappings can be changed. References can only be walked through.
-/

import BlockData.Value.Comparison
import BlockData.Value.Equality

namespace BlockData

/-- The greatest number of items that a list grows to. -/
def itemLimit : Nat := 200000

namespace Items

/-- The items with one more at the end, unless there are enough. -/
def add (items : List Value) (item : Value) : List Value :=
  if items.length < itemLimit then items ++ [item] else items

/-- The items without the one at a position. -/
def delete (items : List Value) (position : Nat) : List Value :=
  items.eraseIdx (position - 1)

/-- The items with one inserted in front of a position; past the limit the last one falls off. -/
def insert (items : List Value) (position : Nat) (item : Value) : List Value :=
  let longer := items.insertIdx (position - 1) item
  if itemLimit < longer.length then longer.dropLast else longer

/-- The items with the one at a position replaced. -/
def replace (items : List Value) (position : Nat) (item : Value) : List Value :=
  items.set (position - 1) item

theorem length_add_le (items : List Value) (item : Value) :
    (add items item).length ≤ max items.length itemLimit := by
  unfold add
  split
  · rw [List.length_append, List.length_singleton]
    omega
  · omega

theorem length_delete_le (items : List Value) (position : Nat) :
    (delete items position).length ≤ items.length := by
  unfold delete
  rw [List.length_eraseIdx]
  split <;> omega

theorem length_insert_le (items : List Value) (position : Nat) (item : Value) :
    (insert items position item).length ≤ max items.length itemLimit := by
  unfold insert
  simp only
  have longer : (items.insertIdx (position - 1) item).length ≤ items.length + 1 := by
    rw [List.length_insertIdx]
    split <;> omega
  split
  · rw [List.length_dropLast]
    omega
  · omega

theorem length_replace (items : List Value) (position : Nat) (item : Value) :
    (replace items position item).length = items.length :=
  List.length_set

/-- The item at a position. -/
def at? (items : List Value) (position : Nat) : Option Value :=
  items[position - 1]?

/-- The position of the first item that compares as equal, counted on from `passed`; zero if there
is none. -/
def indexFrom (item : Value) (passed : Nat) : List Value → Except Fault Nat
  | [] => .ok 0
  | first :: rest =>
    match first.compare item with
    | .error fault => .error fault
    | .ok order => if order.isZero then .ok (passed + 1) else indexFrom item (passed + 1) rest

/-- The position of the first item that compares as equal, zero if there is none. -/
def indexOf (items : List Value) (item : Value) : Except Fault Nat :=
  indexFrom item 0 items

/-- Whether the item at a place of a list is the one that is looked for: equal to it, or the very
same, which differs for NaN and for objects only. -/
def isAt (itself : List Value → Value → Nat → Bool) (items : List Value) (item : Value)
    (entry : Value × Nat) : Bool :=
  entry.1.equal item || entry.1.same item && itself items item entry.2

/-- Whether a list has an item. -/
def has (itself : List Value → Value → Nat → Bool) (items : List Value) (item : Value) : Bool :=
  items.zipIdx.any (isAt itself items item)

/-- Whether an item is a text of one character. -/
def isLetter : Value → Bool
  | .text content => content.length = 1
  | _ => false

/-- The texts of the items. -/
def texts (items : List Value) : Except Fault (List String) :=
  items.mapM Value.blockText

/-- The items as one text: put together if all are letters, with spaces between them otherwise. -/
def joined (items : List Value) : Except Fault String := do
  let parts ← texts items
  return (if items.all isLetter then "" else " ").intercalate parts

end Items

namespace Value

/-- Whether a text occurs in another one. -/
def occursIn (part whole : List Char) : Bool :=
  match whole with
  | [] => part.isEmpty
  | _ :: rest => part.isPrefixOf whole || occursIn part rest

/-- The key that a value stands for, if any: texts stand for names, whole numbers for places. Lists,
mappings and references cannot be looked up. -/
def key? : Value → Except Fault (Option Key)
  | .text content => .ok (some (.name content))
  | .bool truth => .ok (some (.place truth.toNat))
  | .int n => .ok (if 0 ≤ n then some (.place n.toNat) else none)
  | .double x => .ok (if x.isWhole && 0 ≤ x.floor then some (.place x.floor.toNat) else none)
  | .nothing => .ok none
  | .field _ _ => .ok none
  | .object _ _ => .ok none
  | .list _ _ => .error .wrongKind
  | .map _ _ => .error .wrongKind
  | .reference _ => .error .wrongKind

/-- Whether a value is found in another one: among the items of a list, as a part of a text, among
the keys of a mapping, among the fields of a reference. -/
def holds (itself : List Value → Value → Nat → Bool) (whole item : Value) : Except Fault Bool :=
  match whole, item with
  | .list _ items, _ => .ok (Items.has itself items item)
  | .text whole, .text part => .ok (occursIn part.toList whole.toList)
  | .map _ entries, _ => do
    match ← item.key? with
    | some key => return entries.any fun entry => entry.1 = key
    | none => return false
  | .reference target, _ => .ok (target.items.any fun other => other.equal item)
  | _, _ => .error .wrongKind

/-- The entries with a value under a key: in the place of the one that was there, or at the end. -/
def putEntry (key : Key) (value : Value) : List (Key × Value) → List (Key × Value)
  | [] => [(key, value)]
  | entry :: rest =>
      if entry.1 = key then (key, value) :: rest else entry :: putEntry key value rest

/-- The item at a position. Mappings have items at the places that were filled. -/
def itemAt (position : Nat) : Value → Except Fault Value
  | .map _ entries =>
    match entries.lookup (.place (position - 1)) with
    | some item => .ok item
    | none => .error (.missingPosition (position - 1))
  | value =>
    match value.items? with
    | some items => .ok ((Items.at? items position).getD (.text ""))
    | none => .error .wrongKind

/-- A list with an item added; nothing else can be added to. -/
def addItem (item : Value) : Value → Except Fault Value
  | .list token items => .ok (.list token (Items.add items item))
  | _ => .error .noSuchOperation

/-- A list with an item inserted in front of a position; nothing else can be inserted in. -/
def insertItem (position : Nat) (item : Value) : Value → Except Fault Value
  | .list token items => .ok (.list token (Items.insert items position item))
  | _ => .error .noSuchOperation

/-- A list or mapping without the item at a position. -/
def deleteItem (position : Nat) : Value → Except Fault Value
  | .list token items => .ok (.list token (Items.delete items position))
  | .map token entries =>
    if (entries.lookup (.place (position - 1))).isSome then
      .ok (.map token (entries.filter fun entry => entry.1 ≠ .place (position - 1)))
    else .error (.missingPosition (position - 1))
  | _ => .error .wrongKind

/-- A list or mapping with the item at a position replaced; in a mapping the place may be new. -/
def replaceItem (position : Nat) (item : Value) : Value → Except Fault Value
  | .list token items => .ok (.list token (Items.replace items position item))
  | .map token entries => .ok (.map token (putEntry (.place (position - 1)) item entries))
  | _ => .error .wrongKind

end Value

end BlockData
