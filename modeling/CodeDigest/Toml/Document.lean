import CodeDigest.Toml.Statement

/-!
# TOML documents

The statements of a document are carried out one after the other on a tree of tables.  Every table
remembers how it came about: by a head of its own, by a head further below, or by a key with dots.
This decides what may still be added to it, for no table is defined twice.
-/

namespace CodeDigest.Toml

/-- How a table came about. -/
inductive Origin where
  /-- By a head of its own. -/
  | head
  /-- By the head of a table below it. -/
  | implied
  /-- By a key with dots. -/
  | dotted
deriving Repr, DecidableEq

/-- A value, a table, or an array of tables with the last one in front. -/
inductive Item where
  | value (v : Json)
  | table (origin : Origin) (entries : List (String × Item))
  | tables (items : List (List (String × Item)))

/-- The entries of a table. -/
abbrev Entries := List (String × Item)

/-- Changes the item of a key. -/
def alter (key : String) (f : Option Item → Option Item) : Entries → Option Entries
  | [] => (f none).map fun item => [(key, item)]
  | (k, item) :: rest =>
    if k == key then (f (some item)).map fun item => (k, item) :: rest
    else (alter key f rest).map ((k, item) :: ·)

/-- Changes the table that a path leads to.  Tables on the way that are missing are made with the
given origin; with dotted keys the way does not lead through tables that have a head of their
own. -/
def within (made : Origin) (f : Origin → Entries → Option Entries) :
    List String → Origin → Entries → Option Entries
  | [], origin, entries => f origin entries
  | key :: path, _, entries =>
    alter key
      (fun
        | none => (within made f path made []).map (.table made)
        | some (.value _) => none
        | some (.tables []) => none
        | some (.tables (last :: earlier)) =>
          (within made f path .head last).map fun last => .tables (last :: earlier)
        | some (.table origin inner) =>
          if made = .dotted && origin = .head then none
          else (within made f path origin inner).map (.table origin))
      entries

/-- Adds a value to a table, unless its key is taken or the table is of the wrong kind: a key with
dots needs a table that came about by such keys, and a key without needs any other. -/
def addValue (isDotted : Bool) (key : String) (v : Json) (origin : Origin) (entries : Entries) :
    Option Entries :=
  if (origin = .dotted) != isDotted then none
  else
    alter key
      (fun
        | none => some (.value v)
        | some _ => none)
      entries

/-- Assigns a value below a table. -/
def assign (path : List String) (v : Json) (entries : Entries) : Option Entries :=
  match path.getLast? with
  | none => none
  | some key =>
    let outer := path.dropLast
    within .dotted (addValue (!outer.isEmpty) key v) outer .head entries

/-- Opens a table by its head. -/
def openTable : Option Item → Option Item
  | none => some (.table .head [])
  | some (.table .implied entries) => some (.table .head entries)
  | some _ => none

/-- Opens one more table of an array by its head. -/
def openArrayTable : Option Item → Option Item
  | none => some (.tables [[]])
  | some (.tables items) => some (.tables ([] :: items))
  | some _ => none

/-- Opens something at a path. -/
def openAt (f : Option Item → Option Item) (path : List String) (entries : Entries) :
    Option Entries :=
  match path.getLast? with
  | none => none
  | some key => within .implied (fun _ inner => alter key f inner) path.dropLast .head entries

/-- Carries out a statement; the first component is the path of the open table. -/
def perform (state : List String × Entries) : Statement → Option (List String × Entries)
  | .assign path v =>
    (within .implied (fun _ inner => assign path v inner) state.1 .head state.2).map
      fun entries => (state.1, entries)
  | .table path => (openAt openTable path state.2).map fun entries => (path, entries)
  | .arrayTable path => (openAt openArrayTable path state.2).map fun entries => (path, entries)

mutual

/-- The value of an item. -/
def Item.toJson : Item → Json
  | .value v => v
  | .table _ entries => .object (membersOf entries)
  | .tables items => .array (elementsOf items).reverse

/-- The members that entries stand for. -/
def membersOf : List (String × Item) → List (String × Json)
  | [] => []
  | (k, item) :: rest => (k, item.toJson) :: membersOf rest

/-- The elements that tables stand for. -/
def elementsOf : List (List (String × Item)) → List Json
  | [] => []
  | entries :: rest => .object (membersOf entries) :: elementsOf rest

end

/-- The table that assignments within a line make up. -/
def inlineTable? (assignments : List (List String × Json)) : Option Json :=
  (assignments.foldlM (fun entries (path, v) => assign path v entries) []).map
    fun entries => .object (membersOf entries)

/-- The value of a document, which is an object. -/
def ofString? (text : String) : Option Json := do
  let statements ← statements? inlineTable? text
  let (_, entries) ← statements.foldlM perform ([], [])
  return .object (membersOf entries)

end CodeDigest.Toml
