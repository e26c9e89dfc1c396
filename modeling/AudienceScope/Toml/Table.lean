import AudienceScope.Decimal.Binary64

/-!
Tables of a TOML text while it is being read. A key is set once. A header opens a table once, but
may add what a deeper header or a dotted key left open: a deeper header creates the tables above it
implicitly, and a dotted key creates tables that only dotted keys may extend.
-/

set_option autoImplicit false

namespace AudienceScope.Toml

/-- How a table came about: by a deeper header or dotted key, and whether by a dotted key. -/
structure Standing where
  implicit : Bool
  dotted : Bool
deriving DecidableEq

namespace Standing

def headed : Standing := ⟨false, false⟩

end Standing

/-- What a key holds. Lists of tables keep the last table apart, since only that one grows. -/
inductive Node where
  | text (value : String)
  | integer (value : Int)
  | float (value : Binary64)
  | boolean (value : Bool)
  | moment
  | list (items : List Node)
  | inline (entries : List (String × Node))
  | table (standing : Standing) (entries : List (String × Node))
  | tables (earlier : List (List (String × Node))) (last : List (String × Node))

abbrev Entries := List (String × Node)

namespace Entries

def replace (key : String) (node : Node) (entries : Entries) : Entries :=
  entries.map fun entry => if entry.1 = key then (key, node) else entry

def remove (key : String) (entries : Entries) : Entries :=
  entries.filter fun entry => entry.1 ≠ key

def append (key : String) (node : Node) (entries : Entries) : Entries := entries ++ [(key, node)]

/-- Changes the table at a path, creating the tables on the way. A dotted path goes only through
tables that were created implicitly. -/
def change (dotted : Bool) (edit : Standing → Entries → Option Entries) :
    (path : List String) → Standing → Entries → Option Entries
  | [], standing, entries => edit standing entries
  | key :: path, _, entries =>
    match entries.lookup key with
    | none =>
      (change dotted edit path ⟨true, dotted⟩ []).map fun inner =>
        entries.append key (.table ⟨true, dotted⟩ inner)
    | some (.table standing inner) =>
      if dotted ∧ !standing.implicit then none
      else (change dotted edit path standing inner).map fun inner =>
        entries.replace key (.table standing inner)
    | some (.tables earlier last) =>
      (change dotted edit path .headed last).map fun last =>
        entries.replace key (.tables earlier last)
    | some _ => none

def set (path : List String) (key : String) (node : Node) : Standing → Entries → Option Entries :=
  change true
    (fun standing entries =>
      if standing.dotted = path.isEmpty then none
      else if (entries.lookup key).isSome then none
      else some (entries.append key node))
    path

def openTable (path : List String) (key : String) : Entries → Option Entries :=
  change false
    (fun _ entries =>
      match entries.lookup key with
      | none => some (entries.append key (.table .headed []))
      | some (.table ⟨true, false⟩ inner) =>
        some ((entries.remove key).append key (.table .headed inner))
      | some _ => none)
    path .headed

def openTables (path : List String) (key : String) : Entries → Option Entries :=
  change false
    (fun _ entries =>
      match entries.lookup key with
      | none => some (entries.append key (.tables [] []))
      | some (.tables earlier last) =>
        some (entries.replace key (.tables (earlier ++ [last]) []))
      | some _ => none)
    path .headed

end Entries

/-- The entries read so far, and the path of the latest header. -/
structure Page where
  entries : Entries
  header : List String

namespace Page

def empty : Page := ⟨[], []⟩

def splitLast : List String → Option (List String × String)
  | [] => none
  | keys@(_ :: _) => keys.getLast?.map fun key => (keys.dropLast, key)

def set (page : Page) (keys : List String) (node : Node) : Option Page :=
  match splitLast keys with
  | none => none
  | some (path, key) =>
    (Entries.change false (Entries.set path key node) page.header .headed page.entries).map
      fun entries => { page with entries }

def openHeader (page : Page) (keys : List String) (listed : Bool) : Option Page :=
  match splitLast keys with
  | none => none
  | some (path, key) =>
    let opened := if listed then page.entries.openTables path key
      else page.entries.openTable path key
    opened.map fun entries => ⟨entries, keys⟩

end Page

end AudienceScope.Toml
