import HtmlTemplate.Text.Order
import HtmlTemplate.Toml.Value

/-!
# Tables under construction

The statements of a document enter values and open tables one after the other. While
that goes on, every table remembers how it came to be, because that decides which later
statements may add to it.
-/

namespace HtmlTemplate.Toml

/-- How a table came to be. -/
inductive Origin where
  /-- It has a header of its own. -/
  | header
  /-- It is a part of the path in the header of another table. -/
  | path
  /-- It is a part of a dotted key. -/
  | dottedKey
deriving DecidableEq, Repr

/-- What stands under a key while a table is under construction. -/
inductive Slot where
  | value (value : Value)
  | table (origin : Origin) (entries : List (Text × Slot))
  /-- An array of tables that have headers, the latest first. -/
  | tables (tables : List (List (Text × Slot)))
deriving Inhabited

/-- The entries of a table under construction, in order of entry. -/
abbrev Slots := Dictionary Slot

/-- The entries with one more, which is put in its place by its key. -/
def enter {α : Type} (entry : Text × α) : List (Text × α) → List (Text × α)
  | [] => [entry]
  | other :: rest =>
    if Text.notAfter entry.1 other.1 then entry :: other :: rest else other :: enter entry rest

mutual

/-- The value of what stands under a key. -/
def Slot.finish : Slot → Value
  | .value value => value
  | .table _ entries => .table (finishEntries entries)
  | .tables tables => .array (finishTables tables [])

/-- The entries of a table, in the order of their keys. -/
def finishEntries : List (Text × Slot) → List (Text × Value)
  | [] => []
  | entry :: rest => enter (finishEntry entry) (finishEntries rest)

/-- An entry of a table. -/
def finishEntry : Text × Slot → Text × Value
  | (key, slot) => (key, slot.finish)

/-- The tables of an array, of which the latest come first, in front of those that are
already finished. -/
def finishTables : List (List (Text × Slot)) → List Value → List Value
  | [], finished => finished
  | entries :: rest, finished => finishTables rest (.table (finishEntries entries) :: finished)

end

/-- Enters a value under a dotted key, of which `path` is all but the last part. Tables
along the path are those of other dotted keys; only such a table can take the value.
`own` says whether the table at hand is one of them. -/
def Slots.enterValue (entries : Slots) (own : Bool) (path : List Text) (key : Text)
    (value : Value) : Option Slots :=
  match path with
  | [] =>
    if own && (entries.get? key).isNone then some (entries.insert key (.value value)) else none
  | step :: path =>
    match entries.get? step with
    | none =>
      (Slots.enterValue [] true path key value).map fun inner =>
        entries.insert step (.table .dottedKey inner)
    | some (.table .header _) => none
    | some (.table origin inner) =>
      (Slots.enterValue inner (origin = .dottedKey) path key value).map fun inner =>
        entries.insert step (.table origin inner)
    | some (.tables (latest :: earlier)) =>
      (Slots.enterValue latest false path key value).map fun latest =>
        entries.insert step (.tables (latest :: earlier))
    | some _ => none

/-- Changes the table that a path from the header of another table leads to, or else
fails; missing tables along the path come to be. -/
def Slots.change (entries : Slots) (path : List Text) (change : Slots → Option Slots) :
    Option Slots :=
  match path with
  | [] => change entries
  | step :: path =>
    match entries.get? step with
    | none =>
      (Slots.change [] path change).map fun inner =>
        entries.insert step (.table .path inner)
    | some (.table origin inner) =>
      (Slots.change inner path change).map fun inner =>
        entries.insert step (.table origin inner)
    | some (.tables (latest :: earlier)) =>
      (Slots.change latest path change).map fun latest =>
        entries.insert step (.tables (latest :: earlier))
    | some _ => none

/-- Opens the table of a header under its last key. A table that came to be as a part of
a path may still have its header. -/
def Slots.openTable (key : Text) (entries : Slots) : Option Slots :=
  match entries.get? key with
  | none => some (entries.insert key (.table .header []))
  | some (.table .path inner) => some (entries.insert key (.table .header inner))
  | some _ => none

/-- Opens a further table of an array of tables under the last key of its header. -/
def Slots.openElement (key : Text) (entries : Slots) : Option Slots :=
  match entries.get? key with
  | none => some (entries.insert key (.tables [[]]))
  | some (.tables tables) => some (entries.insert key (.tables ([] :: tables)))
  | some _ => none

/-- A statement of a document. -/
inductive Statement where
  /-- A value under a dotted key. -/
  | value (path : List Text) (key : Text) (value : Value)
  /-- The header of a table. -/
  | table (path : List Text) (key : Text)
  /-- The header of a table in an array of tables. -/
  | element (path : List Text) (key : Text)

/-- The table that some statements make up from a table on, if no two of them are at
odds; `header` is the path of the table that values go to. -/
def Slots.follow (entries : Slots) (header : List Text) : List Statement → Option Slots
  | [] => some entries
  | .value path key value :: statements => do
    let entries ← entries.change header (·.enterValue path.isEmpty path key value)
    entries.follow header statements
  | .table path key :: statements => do
    let entries ← entries.change path (Slots.openTable key)
    entries.follow (path ++ [key]) statements
  | .element path key :: statements => do
    let entries ← entries.change path (Slots.openElement key)
    entries.follow (path ++ [key]) statements

/-- The table that some statements make up, if no two of them are at odds. -/
def Table.ofStatements (statements : List Statement) : Option Table :=
  (Slots.follow [] [] statements).map finishEntries

/-- The table that the entries of an inline table make up, if no two of them are at
odds. -/
def Table.ofInline (pairs : List (List Text × Text × Value)) : Option Table :=
  Table.ofStatements (pairs.map fun (path, key, value) => .value path key value)

end HtmlTemplate.Toml
