import SensorCluster.Toml.Basic

/-!
# Tables under construction

The lines of a TOML document fill tables bit by bit. An outline is a list of named nodes, and a node
remembers how it came to be, because **that decides what may still be added to it**: a value is
closed; a table with a header of its own takes no second header and nothing through dotted keys from
outside; a table that only a longer header implied may still get its own, or be used by a dotted
key; a table that a dotted key made or used takes more dotted keys but no header; a list of tables
takes further tables, and its last table further keys, though a dotted key only leads through it.

A longer header may lead through any table and through the last one of a list.

`Outline.assign` adds a key with its value, `Outline.openTable` and `Outline.pushTable` begin a
table, and each answers none where TOML forbids the step.
-/

namespace SensorCluster.Toml

/-- How a table came to be. -/
inductive Origin
  /-- It has a header. -/
  | header
  /-- The header of a table inside it implies it, and no dotted key leads to it. -/
  | implied
  /-- A dotted key leads to it or through it. -/
  | dotted
  deriving DecidableEq, Repr

/-- A part of an unfinished document. -/
inductive Node
  /-- A value, to which nothing is added. -/
  | closed (value : Toml)
  | table (origin : Origin) (members : List (String × Node))
  /-- A list of tables, the last one first. -/
  | tables (items : List (List (String × Node)))

/-- An unfinished table. -/
abbrev Outline := List (String × Node)

namespace Outline

/-- Changes what a key stands for, or adds the key. -/
def alter (key : String) (change : Option Node → Option Node) : Outline → Option Outline
  | [] => (change none).map fun node ↦ [(key, node)]
  | (key', node) :: rest =>
    if key' = key then (change (some node)).map fun node ↦ (key', node) :: rest
    else (alter key change rest).map ((key', node) :: ·)

/-- Gives a value to a dotted key. `isOpen` says whether the table at hand takes keys; the last
table of a list does not, but a dotted key may lead through it. -/
def assign (isOpen : Bool) : List String → Toml → Outline → Option Outline
  | [], _, _ => none
  | [key], value, outline =>
    if isOpen then
      outline.alter key fun
        | none => some (.closed value)
        | some _ => none
    else none
  | key :: path, value, outline =>
    outline.alter key fun
      | none => (assign true path value []).map (.table .dotted)
      | some (.table .dotted members) | some (.table .implied members) =>
        (assign true path value members).map (.table .dotted)
      | some (.tables (last :: earlier)) =>
        (assign false path value last).map fun last ↦ .tables (last :: earlier)
      | _ => none

/-- Changes the table that a header names, and implies the tables on the way to it. -/
def descend (change : Outline → Option Outline) : List String → Outline → Option Outline
  | [], outline => change outline
  | key :: path, outline =>
    outline.alter key fun
      | none => (descend change path []).map (.table .implied)
      | some (.table origin members) => (descend change path members).map (.table origin)
      | some (.tables (last :: earlier)) =>
        (descend change path last).map fun last ↦ .tables (last :: earlier)
      | _ => none

/-- Begins the table with this header. -/
def openTable (path : List String) (outline : Outline) : Option Outline :=
  match path.getLast? with
  | none => none
  | some key =>
    outline.descend (fun parent ↦ parent.alter key fun
      | none => some (.table .header [])
      | some (.table .implied members) => some (.table .header members)
      | _ => none) path.dropLast

/-- Begins another table of the list with this header. -/
def pushTable (path : List String) (outline : Outline) : Option Outline :=
  match path.getLast? with
  | none => none
  | some key =>
    outline.descend (fun parent ↦ parent.alter key fun
      | none => some (.tables [[]])
      | some (.tables items) => some (.tables ([] :: items))
      | _ => none) path.dropLast

/-- Gives a value to a dotted key of the table with this header. -/
def assignUnder (header path : List String) (value : Toml) (outline : Outline) :
    Option Outline :=
  outline.descend (assign true path value) header

end Outline

mutual

/-- The finished value of a node. -/
def Node.finish : Node → Toml
  | .closed value => value
  | .table _ members => .table (finishMembers members)
  | .tables items => .list (finishTables items).reverse

/-- The finished members of a table. -/
def finishMembers : List (String × Node) → List (String × Toml)
  | [] => []
  | (key, node) :: rest => (key, node.finish) :: finishMembers rest

/-- The finished tables of a list. -/
def finishTables : List (List (String × Node)) → List Toml
  | [] => []
  | members :: rest => .table (finishMembers members) :: finishTables rest

end

end SensorCluster.Toml
