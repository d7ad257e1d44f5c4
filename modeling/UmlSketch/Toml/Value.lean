import UmlSketch.Toml.Moment

/-! # TOML values
A TOML document describes one table. Tables are built up from statements: headers open a table, and
entries put a value at a key below it. A table may be named before it is opened, and each table
remembers how it came about, because that decides whether a later statement may still extend it. -/

namespace UmlSketch.Toml

/-- How a **table** came about. -/
inductive Origin
  /-- A header named it on the way to another table. -/
  | implied
  /-- A key with dots named it on the way to a value. -/
  | dotted
  /-- A header opened it. -/
  | declared
  /-- It is written as a value, between braces. -/
  | inline
  deriving DecidableEq, Repr

/-- A **value**. -/
inductive Value
  /-- A string. -/
  | string (text : Text)
  /-- A truth value. -/
  | boolean (value : Bool)
  /-- A number. -/
  | number (value : Number)
  /-- A date, a time or both. -/
  | moment (value : Moment)
  /-- An array that is written as a value. -/
  | array (items : List Value)
  /-- An array of tables that headers open one after the other: the earlier ones, and the entries of
  the last one. -/
  | tables (earlier : List Value) (entries : List (Text × Value))
  /-- A table. -/
  | table (origin : Origin) (entries : List (Text × Value))
  deriving Repr

/-- The entries of a table, in the order in which their keys are first named. -/
abbrev Entries := List (Text × Value)

/-- Changes what stands at a key, which may be nothing; the change may be refused. -/
def Entries.alter (key : Text) (change : Option Value → Option Value) : Entries → Option Entries
  | [] => (change none).map fun value => [(key, value)]
  | (name, value) :: rest =>
    if name = key then (change (some value)).map fun value => (name, value) :: rest
    else (alter key change rest).map ((name, value) :: ·)

/-- A **key**: the names of the tables on the way, and the name in the last of them. -/
structure Key where
  /-- The names on the way. -/
  path : List Text
  /-- The last name. -/
  name : Text
  deriving DecidableEq, Repr

namespace Value

/-! ## Range -/

mutual

/-- Whether all numbers in a value are in range. -/
def fits : Value → Bool
  | .string _ | .boolean _ | .moment _ => true
  | .number value => value.fits
  | .array items => itemsFit items
  | .tables earlier entries => itemsFit earlier && entriesFit entries
  | .table _ entries => entriesFit entries

/-- Whether all numbers in the items of an array are in range. -/
def itemsFit : List Value → Bool
  | [] => true
  | item :: rest => item.fits && itemsFit rest

/-- Whether all numbers in the entries of a table are in range. -/
def entriesFit : List (Text × Value) → Bool
  | [] => true
  | (_, value) :: rest => value.fits && entriesFit rest

end

/-! ## Putting tables together -/

/-- The table that a name on the way of a key leads to. A table that is missing is made, and one that is
written between braces is refused. The key of an entry makes a table its own that was only named on the
way to another, and is refused one that a header has opened; it may lead through an array of tables. -/
def passThrough? (forEntry : Bool) : Option Value → Option Value
  | none => some (.table (if forEntry then .dotted else .implied) [])
  | some (.table .inline _) => none
  | some (.table .declared entries) =>
    if forEntry then none else some (.table .declared entries)
  | some (.table .implied entries) =>
    some (.table (if forEntry then .dotted else .implied) entries)
  | some (.table .dotted entries) => some (.table .dotted entries)
  | some (.tables earlier entries) => some (.tables earlier entries)
  | some _ => none

/-- Changes the entries of a table, or of the last table of an array of tables. -/
def alterEntries (table : Value) (change : Entries → Option Entries) : Option Value :=
  match table with
  | .table origin entries => (change entries).map (.table origin)
  | .tables earlier entries => (change entries).map (.tables earlier)
  | _ => none

/-- Changes the table that a path leads to. -/
def alterAt (forEntry : Bool) (change : Value → Option Value) : List Text → Value → Option Value
  | [], target => change target
  | name :: path, target =>
    target.alterEntries (Entries.alter name fun old =>
      (passThrough? forEntry old).bind (alterAt forEntry change path))

/-- Puts a value at a name that is free. -/
def add (table : Value) (name : Text) (value : Value) : Option Value :=
  table.alterEntries (Entries.alter name fun old => if old.isNone then some value else none)

/-- Puts an entry into a table. A key with dots puts it into a table of its own, and not into one of an
array that headers open. -/
def insert (table : Value) (key : Key) (value : Value) : Option Value :=
  table.alterAt true (fun parent =>
    match key.path, parent with
    | _ :: _, .tables _ _ => none
    | _, _ => parent.add key.name value) key.path

/-- Opens the table of a header: one that is new, or that was only named on the way to another. -/
def openTable (root : Value) (key : Key) : Option Value :=
  root.alterAt false (fun parent => parent.alterEntries (Entries.alter key.name fun old =>
    match old with
    | none => some (.table .declared [])
    | some (.table .implied entries) => some (.table .declared entries)
    | some _ => none)) key.path

/-- Opens the next table of an array of tables. -/
def openItem (root : Value) (key : Key) : Option Value :=
  root.alterAt false (fun parent => parent.alterEntries (Entries.alter key.name fun old =>
    match old with
    | none => some (.tables [] [])
    | some (.tables earlier entries) => some (.tables (earlier ++ [.table .declared entries]) [])
    | some _ => none)) key.path

/-- The table of the entries between braces. -/
def ofInline? (entries : List (Key × Value)) : Option Value :=
  let opened : Value := .table .declared []
  match entries.foldlM (fun (table : Value) (key, value) => table.insert key value) opened with
  | some (.table _ entries) => some (.table .inline entries)
  | _ => none

end Value

end UmlSketch.Toml
