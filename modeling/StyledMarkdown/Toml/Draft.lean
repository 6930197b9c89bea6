import StyledMarkdown.Toml.Value
/-!
# Tables under construction

A table comes about in pieces: headers open it, and keys with dots reach
into it. How a table came about decides what may still be added to it.
No piece of a document is ever overwritten, so each addition either
finds its place free or fails.
-/

namespace StyledMarkdown.Toml

/-- How a table came about. -/
inductive Origin where
  /-- By a header of its own. -/
  | header
  /-- By the header of a table inside it. -/
  | implied
  /-- By a key with dots. -/
  | dotted
deriving DecidableEq

/-- A value, or a table or an array of tables that may still grow. -/
inductive Draft where
  | value (v : Value)
  | table (origin : Origin) (entries : List (String × Draft))
  /-- The tables of an array, latest first. -/
  | tables (elements : List (List (String × Draft)))

abbrev Entries := List (String × Draft)

/-- Puts an entry in the place of the one with the same key, or behind all
others. -/
def Entries.put (key : String) (draft : Draft) : Entries → Entries
  | [] => [(key, draft)]
  | (other, old) :: rest =>
    if other == key then (key, draft) :: rest else (other, old) :: put key draft rest

/-- **Changes the table at the end of a path**, making the tables on the
way that are missing. A path inside a key does not enter a table that
has a header. -/
def Entries.changeAt (dotted : Bool) (change : Origin → Entries → Option Entries)
    (origin : Origin) (entries : Entries) : List String → Option Entries
  | [] => change origin entries
  | key :: path =>
    match entries.lookup key with
    | none => do
      let origin : Origin := if dotted then .dotted else .implied
      return entries.put key (.table origin (← changeAt dotted change origin [] path))
    | some (.table origin inner) =>
      if dotted && origin = .header then none
      else do return entries.put key (.table origin (← changeAt dotted change origin inner path))
    | some (.tables (last :: earlier)) => do
      return entries.put key (.tables ((← changeAt dotted change .header last path) :: earlier))
    | _ => none

/-- Adds a value under a path of keys. Its last table is the one the path
starts from or came about by dots as well. -/
def Entries.add (path : List String) (key : String) (v : Value) (entries : Entries) :
    Option Entries :=
  let insert (origin : Origin) (inner : Entries) : Option Entries :=
    if (!path.isEmpty && origin ≠ .dotted) || (inner.lookup key).isSome then none
    else some (inner.put key (.value v))
  entries.changeAt true insert .header path

/-- Opens a table by its header, once. -/
def Entries.openTable (path : List String) (key : String) (entries : Entries) : Option Entries :=
  let insert (_ : Origin) (inner : Entries) : Option Entries :=
    match inner.lookup key with
    | none => some (inner.put key (.table .header []))
    | some (.table .implied content) => some (inner.put key (.table .header content))
    | _ => none
  entries.changeAt false insert .header path

/-- Opens the next table of an array. -/
def Entries.openElement (path : List String) (key : String) (entries : Entries) : Option Entries :=
  let insert (_ : Origin) (inner : Entries) : Option Entries :=
    match inner.lookup key with
    | none => some (inner.put key (.tables [[]]))
    | some (.tables elements) => some (inner.put key (.tables ([] :: elements)))
    | _ => none
  entries.changeAt false insert .header path

mutual

/-- A draft as it stands. -/
def Draft.toValue : Draft → Value
  | .value v => v
  | .table _ entries => .table (valuesOf entries)
  | .tables elements => .array (tablesOf elements).reverse

def valuesOf : List (String × Draft) → List (String × Value)
  | [] => []
  | (key, draft) :: rest => (key, draft.toValue) :: valuesOf rest

def tablesOf : List (List (String × Draft)) → List Value
  | [] => []
  | entries :: rest => .table (valuesOf entries) :: tablesOf rest

end

end StyledMarkdown.Toml
