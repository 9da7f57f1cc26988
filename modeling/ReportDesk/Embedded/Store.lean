import ReportDesk.Embedded.Value
import ReportDesk.Text.Case

/-! # What the embedded database stores

    Tables with declared columns and rows in the order of their keys, and views, which show another
    table under a name of their own. Names are compared without ASCII case.
-/

namespace ReportDesk.Embedded

/-- A column as it is declared. -/
structure Declaration where
  /-- Its name. -/
  name : String
  /-- Its type, perhaps nothing. -/
  type : String
  /-- Further conditions, perhaps none. -/
  constraint : String := ""
  deriving DecidableEq, Repr

namespace Declaration

/-- The affinity of the column. -/
def affinity (column : Declaration) : Affinity :=
  .ofType column.type

/-- Whether a constraint has some words in it. -/
def requires (column : Declaration) (words : String) : Bool :=
  Text.occursIn words.toList (Text.asciiUpper column.constraint).toList

/-- Whether the column can be null. -/
def nullable (column : Declaration) : Bool :=
  !column.requires "NOT NULL"

/-- Whether the column is the integer key that orders the rows. -/
def isKey (column : Declaration) : Bool :=
  Text.eqFolded column.type "INTEGER" && column.requires "PRIMARY KEY"

/-- The types whose names are told in upper case however they are written. -/
def standardTypes : List String :=
  ["ANY", "BLOB", "INT", "INTEGER", "REAL", "TEXT"]

/-- The type as it is told. -/
def toldType (column : Declaration) : String :=
  let upper := Text.asciiUpper column.type
  if standardTypes.contains upper then upper else column.type

end Declaration

/-- A table or a view. -/
structure Relation where
  /-- Its name. -/
  name : String
  /-- Its columns. -/
  columns : List Declaration
  /-- Its rows in order, each with its values in the order of the columns. -/
  rows : List (List Value) := []
  /-- Whether it is a view. -/
  isView : Bool := false

namespace Relation

/-- The place of the column that orders the rows, if there is one. -/
def key? (relation : Relation) : Option Nat :=
  relation.columns.findIdx? Declaration.isKey

/-- The place of the column of a name. -/
def columnIndex? (relation : Relation) (name : String) : Option Nat :=
  relation.columns.findIdx? fun column => Text.eqFolded column.name name

/-- The key of a row. -/
def keyOf (place : Nat) (row : List Value) : Int :=
  match row[place]? with
  | some (.integer n) => n.toInt
  | _ => 0

/-- A key above those of all rows. -/
def freeKey (place : Nat) (rows : List (List Value)) : Int :=
  rows.foldl (fun key row => max key (keyOf place row + 1)) 1

/-- Adds a row: each value as its column holds it, a missing key replaced by a free one. -/
def insert (relation : Relation) (values : List Value) : Relation :=
  let stored := List.zipWith (fun column value => column.affinity.store value)
    relation.columns values
  match relation.key? with
  | none => { relation with rows := relation.rows ++ [stored] }
  | some place =>
    let row :=
      match stored[place]? with
      | some .null => stored.set place (Value.ofInt (freeKey place relation.rows))
      | _ => stored
    let key := keyOf place row
    let before (other : List Value) : Bool := keyOf place other < key
    { relation with
      rows := relation.rows.takeWhile before ++ row :: relation.rows.dropWhile before }

/-- A table with rows added one after the other. -/
def ofRows (name : String) (columns : List Declaration) (rows : List (List Value)) : Relation :=
  rows.foldl insert { name := name, columns := columns }

/-- A view of all that a relation has. -/
def view (relation : Relation) (name : String) : Relation :=
  { relation with name := name, isView := true }

end Relation

/-- The tables and views of a database. -/
structure Store where
  /-- All of them, in the order they were made. -/
  relations : List Relation := []

namespace Store

/-- The table or view of a name. -/
def find? (store : Store) (name : String) : Option Relation :=
  store.relations.find? fun relation => Text.eqFolded relation.name name

/-- Adds a table. -/
def addTable (store : Store) (table : Relation) : Store :=
  { relations := store.relations ++ [table] }

/-- Adds a view of the table or view of a name. -/
def addView (store : Store) (name of : String) : Store :=
  match store.find? of with
  | some relation => { relations := store.relations ++ [relation.view name] }
  | none => store

/-- Whether a name is kept from those who list tables. -/
def isInternal (name : String) : Bool :=
  Text.eqFolded (String.ofList (name.toList.take 6)) "sqlite" && name.length > 6

/-- The names of the tables and views, in order. -/
def names (store : Store) : List String :=
  ((store.relations.map (·.name)).filter fun name => !isInternal name).mergeSort fun a b => a ≤ b

end Store

end ReportDesk.Embedded
