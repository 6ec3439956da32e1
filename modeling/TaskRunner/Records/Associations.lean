import Std.Data.HashMap
import TaskRunner.Records.Value

/-! Arrays of the scripts that work on records: values under texts or whole numbers.  The members
stand on shelves, and an array is gone through shelf by shelf; what was touched last stands first on
its shelf. -/

namespace TaskRunner.Records

/-- What a member of an array stands under. -/
inductive Key where
  | number (n : Int)
  | text (text : String)
deriving DecidableEq, Repr

namespace Key

/-- The text of a key. -/
def toText : Key → String
  | number n => toString n
  | .text content => content

/-- The key that a text is. -/
def ofText (text : Text) : Key := .text (String.ofList text)

/-- The key that a value stands for. -/
def ofValue (format : Text) (value : Value) : Key :=
  match value with
  | .number x =>
    match whole? x with
    | some n => .number n
    | none => ofText (value.toText format)
  | value => ofText (value.toText format)

end Key

/-- The number by which a text is put on a shelf. -/
def shelfCode (text : String) : Nat :=
  let code := text.toList.foldl
    (fun (code : UInt32) c => (code ^^^ c.toNat.toUInt32) * 16777619) 2166136261
  code.toNat

/-- An array.  The lists on the shelves tell the order of the members, by number and by text; those
by text are there once they were asked for.  A dense array came of a text that was split, and
nothing but its own numbers has been asked for. -/
structure Associations where
  values : Std.HashMap String Value
  shelves : Nat
  numbers : Array (List Int)
  texts : Option (Array (List String))
  dense : Bool

namespace Associations

/-- How many shelves there are at first. -/
def firstShelves : Nat := 64

/-- How many members there are to a shelf before more shelves are put up. -/
def perShelf : Nat := 12

/-- The array without members. -/
def empty : Associations :=
  ⟨∅, firstShelves, Array.replicate firstShelves [], none, false⟩

instance : Inhabited Associations := ⟨empty⟩

/-- How many members there are. -/
def size (array : Associations) : Nat := array.values.size

/-- The shelf of a number. -/
def shelfOf (shelves : Nat) (n : Int) : Nat := (n % shelves).toNat

/-- Shelves with twice as many of them: what does not stay goes to the new half. -/
def doubled {α : Type} (place : α → Nat) (table : Array (List α)) : Array (List α) :=
  let kept := table.mapIdx fun i members => members.filter fun a => place a == i
  let moved := table.mapIdx fun i members => members.filter fun a => place a != i
  kept ++ moved

/-- The array with more shelves if it is full. -/
def grown (array : Associations) : Associations :=
  if array.size ≤ array.shelves * perShelf then array
  else
    let shelves := 2 * array.shelves
    { array with
      shelves
      numbers := doubled (shelfOf shelves) array.numbers
      texts := array.texts.map (doubled fun text => shelfCode text % shelves) }

/-- Puts something on top of a shelf. -/
def onTop {α : Type} [BEq α] (table : Array (List α)) (shelf : Nat) (a : α) : Array (List α) :=
  table.modify shelf fun members =>
    if members.head? == some a then members else a :: members.erase a

/-- The lists by text. -/
def textTable (array : Associations) : Array (List String) :=
  match array.texts with
  | some table => table
  | none =>
    array.numbers.foldl (fun table members =>
      members.foldl (fun table n =>
        let text := Key.toText (.number n)
        table.modify (shelfCode text % array.shelves) (text :: ·)) table)
      (Array.replicate array.shelves [])

/-- The array with lists by text. -/
def withTexts (array : Associations) : Associations :=
  { array with texts := some array.textTable, dense := false }

/-- The array after a text was asked for.  A member that is not there is added if `creates` says
so. -/
def touchText (creates : Bool) (text : String) (array : Associations) : Associations :=
  let table := array.textTable
  let array := { array with texts := none, dense := false }
  if array.values.contains text then
    { array with texts := some (onTop table (shelfCode text % array.shelves) text) }
  else if creates then
    let array := { array with values := array.values.insert text .missing, texts := some table }
    let array := array.grown
    let raised (table : Array (List String)) : Array (List String) :=
      onTop table (shelfCode text % array.shelves) text
    { array with texts := array.texts.map raised }
  else { array with texts := some table }

/-- The array after a number was asked for. -/
def touchNumber (creates : Bool) (n : Int) (array : Associations) : Associations :=
  let text := Key.toText (.number n)
  if array.dense ∧ array.values.contains text then array
  else
    let shelf := shelfOf array.shelves n
    let array := { array with dense := false }
    if (array.numbers.getD shelf []).contains n then
      { array with numbers := onTop array.numbers shelf n }
    else
      let array :=
        if array.texts.isSome then array.touchText creates text
        else if creates then { array with values := array.values.insert text .missing }.grown
        else array
      if array.values.contains text then
        { array with numbers := onTop array.numbers (shelfOf array.shelves n) n }
      else array

/-- The array after a key was asked for. -/
def touch (creates : Bool) (key : Key) (array : Associations) : Associations :=
  match key with
  | .number n => array.touchNumber creates n
  | .text text => array.touchText creates text

/-- There is a member under a key. -/
def has (array : Associations) (key : Key) : Bool :=
  array.values.contains key.toText

/-- The value under a key. -/
def value (array : Associations) (key : Key) : Value :=
  array.values.getD key.toText .missing

/-- The array with a value under a key. -/
def put (array : Associations) (key : Key) (value : Value) : Associations :=
  let array := array.touch true key
  { array with values := array.values.insert key.toText value }

/-- The array without a member. -/
def remove (array : Associations) (key : Key) : Associations :=
  let array := array.touch false key
  let text := key.toText
  if ¬ array.values.contains text then array
  else
    let values := array.values.erase text
    if values.isEmpty then empty
    else
      { array with
        values
        numbers := match text.toInt? with
          | some n => array.numbers.modify (shelfOf array.shelves n) (·.erase n)
          | none => array.numbers
        texts := array.texts.map fun table =>
          table.modify (shelfCode text % array.shelves) (·.erase text) }

/-- The array with lists by text, and its keys in the order in which it is gone through. -/
def keys (array : Associations) : List String × Associations :=
  let array := array.withTexts
  (array.textTable.toList.flatten, array)

/-- The array of the parts of a text. -/
def ofParts (parts : List Value) : Associations :=
  let shelves := Nat.repeat (fun n => if n * perShelf < parts.length then 2 * n else n) 32
    firstShelves
  let members := parts.zipIdx 1
  let values := members.foldl (fun (values : Std.HashMap String Value) member =>
    values.insert (Key.toText (.number member.2)) member.1) ∅
  let numbers := members.foldl (fun (table : Array (List Int)) member =>
    table.modify (member.2 % shelves) ((member.2 : Int) :: ·)) (Array.replicate shelves [])
  ⟨values, shelves, numbers, none, true⟩

end Associations

end TaskRunner.Records
