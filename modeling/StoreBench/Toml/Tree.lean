import StoreBench.Toml.Value

/-!
Contract: how the sections of a configuration text make up one table.

No name is given twice, and no table is written out twice.  A table may come to be before it is
written out, because a longer name or the header of an inner table mentions it.

Owns:
- `Key`, `Header` and `Section`, the parts of a text;
- `Node`, an entry under construction, with the origin of each table;
- `tableOf?` and `ofSections?`, which put entries and sections together.
-/

namespace StoreBench.Toml

/-- A name with dots: the names before the last dot, and the last name. -/
structure Key where
  parents : List String
  name : String
  deriving DecidableEq, Repr

/-- Where the entries of a section go. -/
inductive Header
  /-- Into the outermost table: no header was written yet. -/
  | top
  | table (key : Key)
  /-- Into a new table at the end of a list of tables. -/
  | row (key : Key)
  deriving DecidableEq, Repr

/-- A header and the entries below it. -/
structure Section where
  header : Header
  entries : List (Key × Value)

/-- How a table came to be. -/
inductive Origin
  /-- It was written out, below a header of its own or between braces. -/
  | stated
  /-- The header of a table inside it mentioned it. -/
  | mentioned
  /-- The name of an entry inside it mentioned it. -/
  | dotted
  deriving DecidableEq, Repr

/-- An entry under construction. -/
inductive Node
  | value (value : Value)
  | table (origin : Origin) (entries : List (String × Node))
  /-- A list of tables that were written out, the last one first. -/
  | tables (rows : List (List (String × Node)))

/-- Entries under construction, each under its own name. -/
abbrev Entries := List (String × Node)

def lookup (name : String) (entries : Entries) : Option Node :=
  (entries.find? (·.1 == name)).map Prod.snd

/-- Replaces the entry of a name, or adds one at the end. -/
def alter (name : String) (change : Option Node → Option Node) : Entries → Option Entries
  | [] => (change none).map fun node => [(name, node)]
  | (first, node) :: rest =>
    if first = name then (change (some node)).map fun node => (first, node) :: rest
    else (alter name change rest).map ((first, node) :: ·)

/-- Follows a path of names from a table to a table inside it and lets `finish` change that one.
Missing tables come to be on the way.  The way leads into the last table of a list, but not into a
plain value, and the names of an entry do not lead into a table that was written out. -/
def descend (origin : Origin) (finish : Origin → Entries → Option Entries) :
    List String → Origin → Entries → Option Entries
  | [], here, entries => finish here entries
  | name :: path, _, entries =>
    alter name (fun
      | none => (descend origin finish path origin []).map (.table origin)
      | some (.value _) => none
      | some (.table there inner) =>
        if origin = .dotted ∧ there = .stated then none
        else (descend origin finish path there inner).map (.table there)
      | some (.tables []) => none
      | some (.tables (last :: earlier)) =>
        (descend origin finish path .stated last).map fun last => .tables (last :: earlier))
      entries

/-- Adds an entry to a table that was written out.  A name without dots adds to that table itself,
and one with dots only to a table that such names made. -/
def addEntry (entries : Entries) (key : Key) (value : Value) : Option Entries :=
  descend .dotted (fun here entries =>
    if (here = .dotted) = key.parents.isEmpty then none
    else alter key.name (fun
      | none => some (.value value)
      | some _ => none) entries) key.parents .stated entries

/-- Adds entries to a table that was written out. -/
def addEntries (start : Entries) (entries : List (Key × Value)) : Option Entries :=
  entries.foldlM (fun gathered (key, value) => addEntry gathered key value) start

/-- Adds a section.  A table may be written out after it was mentioned; it then moves to the end. -/
def addSection (root : Entries) (block : Section) : Option Entries :=
  match block.header with
  | .top => addEntries root block.entries
  | .table key =>
    descend .mentioned (fun _ entries => do
      let start ← match lookup key.name entries with
        | none => some []
        | some (.table .mentioned inner) => some inner
        | some _ => none
      let filled ← addEntries start block.entries
      return entries.filter (·.1 != key.name) ++ [(key.name, .table .stated filled)])
      key.parents .stated root
  | .row key =>
    descend .mentioned (fun _ entries => do
      let filled ← addEntries [] block.entries
      alter key.name (fun
        | none => some (.tables [filled])
        | some (.tables rows) => some (.tables (filled :: rows))
        | some _ => none) entries)
      key.parents .stated root

mutual

def Node.finished (inline : Bool) : Node → Value
  | .value value => value
  | .table _ entries => .table inline (finishedEntries inline entries)
  | .tables rows => .array (finishedRows inline rows).reverse

def finishedEntries (inline : Bool) : List (String × Node) → List (String × Value)
  | [] => []
  | (name, node) :: rest => (name, node.finished inline) :: finishedEntries inline rest

/-- The values of a list of tables. -/
def finishedRows (inline : Bool) : List (List (String × Node)) → List Value
  | [] => []
  | row :: rest => .table inline (finishedEntries inline row) :: finishedRows inline rest

end

/-- The table of entries that stand between braces. -/
def tableOf? (entries : List (Key × Value)) : Option Value :=
  (addEntries [] entries).map fun entries => .table true (finishedEntries true entries)

/-- The table of a whole text. -/
def ofSections? (blocks : List Section) : Option Value :=
  (blocks.foldlM addSection []).map fun entries => .table false (finishedEntries false entries)

end StoreBench.Toml
