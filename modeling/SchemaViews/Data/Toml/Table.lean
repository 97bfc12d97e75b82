import SchemaViews.Data.Basic
import SchemaViews.Data.Toml.Key

/-!
# Tables of TOML

Changes to tables at a path, and the marks that keep tables from being changed twice.
-/

namespace SchemaViews.Toml

/-- Why a table may not be changed: it is complete, or it has been opened by name. -/
inductive Mark where
  | frozen
  | opened
  deriving DecidableEq, Repr

/-- A mark on a table; a mark `within` a table holds for all tables inside it too. -/
structure Marked where
  path : Path
  mark : Mark
  within : Bool
  deriving DecidableEq, Repr

def isMarked (marks : List Marked) (path : Path) (mark : Mark) : Bool :=
  marks.any fun entry =>
    entry.mark = mark && (entry.path == path || (entry.within && entry.path.isPrefixOf path))

/-- Changes the table at a path, which is created if it is missing. In an array of
tables the last one is meant. -/
def updateTable (throughLists : Bool)
    (change : List (String × Data) → Option (List (String × Data))) :
    Path → List (String × Data) → Option (List (String × Data))
  | [], fields => change fields
  | key :: path, fields =>
    match Data.get? key fields with
    | none =>
      (updateTable throughLists change path []).map fun inner => Data.put key (.record inner) fields
    | some (.record inner) =>
      (updateTable throughLists change path inner).map fun changed =>
        Data.put key (.record changed) fields
    | some (.list items) =>
      match throughLists, items.getLast? with
      | true, some (.record inner) =>
        (updateTable throughLists change path inner).map fun changed =>
          Data.put key (.list (items.dropLast ++ [.record changed])) fields
      | _, _ => none
    | some _ => none

def addField (key : String) (value : Data) (fields : List (String × Data)) :
    Option (List (String × Data)) :=
  if (Data.get? key fields).isSome then none else some (fields ++ [(key, value)])

def appendTable (key : String) (fields : List (String × Data)) : Option (List (String × Data)) :=
  match Data.get? key fields with
  | none => some (fields ++ [(key, .list [.record []])])
  | some (.list items) => some (Data.put key (.list (items ++ [.record []])) fields)
  | some _ => none

def isNest : Data → Bool
  | .record _ | .list _ => true
  | _ => false

end SchemaViews.Toml
