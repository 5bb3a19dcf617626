import HtmlTemplate.Text.Basic

/-!
# Dictionaries

Entries under text keys, in the order in which the keys were first entered. No
operation here gives a key a second entry.
-/

namespace HtmlTemplate

/-- Entries under text keys, in order of entry. -/
abbrev Dictionary (α : Type) := List (Text × α)

namespace Dictionary

/-- The keys, in order. -/
def keys {α : Type} (entries : Dictionary α) : List Text :=
  entries.map Prod.fst

/-- The value under a key. -/
def get? {α : Type} (entries : Dictionary α) (key : Text) : Option α :=
  entries.lookup key

/-- Enters a value. A key that is there already keeps its place and takes the new
value. -/
def insert {α : Type} : Dictionary α → Text → α → Dictionary α
  | [], key, value => [(key, value)]
  | (k, v) :: rest, key, value =>
    if k = key then (key, value) :: rest else (k, v) :: insert rest key value

/-- Enters a value unless the key is there already. -/
def insertNew {α : Type} (entries : Dictionary α) (key : Text) (value : α) :
    Dictionary α :=
  if entries.any (·.1 = key) then entries else entries ++ [(key, value)]

/-- Enters all entries of a second dictionary, in order. -/
def extend {α : Type} (entries more : Dictionary α) : Dictionary α :=
  more.foldl (fun all entry => all.insert entry.1 entry.2) entries

/-- Enters those entries of a second dictionary whose keys are new, in order. -/
def extendNew {α : Type} (entries more : Dictionary α) : Dictionary α :=
  more.foldl (fun all entry => all.insertNew entry.1 entry.2) entries

/-- The dictionary of a list of entries, of which some may have the same key. -/
def ofList {α : Type} (entries : List (Text × α)) : Dictionary α :=
  extend [] entries

end Dictionary

end HtmlTemplate
