import KeyProvisioning.Toml.Scalar

/-!
# Tables of TOML documents

A document is a table whose entries are values, tables and lists of tables. A table can come into
being by a header of its own, by a header of a table below it, or by a dotted key, and each of
the three allows different additions later on; a key may be given only once.
-/

namespace KeyProvisioning.Toml

/-- How a table came into being. -/
inductive Standing
  /-- By a header of its own. -/
  | header
  /-- By a header of a table below it. -/
  | implied
  /-- By a dotted key. -/
  | dotted
  deriving DecidableEq, Repr

/-- An entry's value. -/
inductive Node
  | scalar (value : Scalar)
  | array (elements : List Node)
  /-- A table written between braces, to which nothing can be added. -/
  | inlineTable (entries : List (String × Node))
  | table (standing : Standing) (entries : List (String × Node))
  /-- The tables of a repeated header. -/
  | tables (elements : List (List (String × Node)))

/-- The entries of a table in the order in which they were added. -/
abbrev Entries := List (String × Node)

namespace Entries

/-- The value under a name. -/
def get? (entries : Entries) (name : String) : Option Node :=
  match entries with
  | [] => none
  | (key, node) :: rest => if key = name then some node else get? rest name

/-- Replace the value under a name that is there. -/
def replace (entries : Entries) (name : String) (node : Node) : Entries :=
  entries.map fun (key, old) => if key = name then (key, node) else (key, old)

/-- Add an entry under a new name. -/
def add (entries : Entries) (name : String) (node : Node) : Entries :=
  entries ++ [(name, node)]

end Entries

/-- A dotted key: the tables on the way and the name at the end. -/
structure Key where
  path : List String
  name : String
  deriving DecidableEq, Repr

/-- A key with the value it is given. -/
structure Assignment where
  key : Key
  value : Node

/-- Change the last of a list of tables. -/
def onLast (change : Entries → Option Entries) : List Entries → Option (List Entries)
  | [] => none
  | [last] => (change last).map fun last' => [last']
  | first :: rest => (onLast change rest).map (first :: ·)

/-- Give a name below a path of dotted names a value. The tables on the way must have come into
being by dotted keys, where the path ends; those before it may be implied or the last of a
list. -/
def insert (name : String) (value : Node) : Entries → (path : List String) → Option Entries
  | entries, [] =>
    match entries.get? name with
    | some _ => none
    | none => some (entries.add name value)
  | entries, step :: path =>
    match entries.get? step with
    | none => (insert name value [] path).map fun inner => entries.add step (.table .dotted inner)
    | some (.table standing inner) =>
      if standing = .header ∨ (standing = .implied ∧ path = []) then none
      else
        (insert name value inner path).map fun inner' =>
          entries.replace step (.table standing inner')
    | some (.tables elements) =>
      if path = [] then none
      else
        (onLast (fun inner => insert name value inner path) elements).map fun elements' =>
          entries.replace step (.tables elements')
    | some _ => none

/-- Make assignments one after another. -/
def insertAll (entries : Entries) : List Assignment → Option Entries
  | [] => some entries
  | assignment :: rest =>
    match insert assignment.key.name assignment.value entries assignment.key.path with
    | none => none
    | some entries' => insertAll entries' rest

/-- Change the table that the path of a header leads to; tables on the way that are not there yet
are implied. -/
def descend (change : Entries → Option Entries) : Entries → (path : List String) → Option Entries
  | entries, [] => change entries
  | entries, step :: path =>
    match entries.get? step with
    | none => (descend change [] path).map fun inner => entries.add step (.table .implied inner)
    | some (.table standing inner) =>
      (descend change inner path).map fun inner' => entries.replace step (.table standing inner')
    | some (.tables elements) =>
      (onLast (fun inner => descend change inner path) elements).map fun elements' =>
        entries.replace step (.tables elements')
    | some _ => none

/-- A header: of a table, or of one more table of a list. -/
structure Header where
  repeated : Bool
  key : Key
  deriving DecidableEq, Repr

/-- A header with the assignments under it. -/
structure Section where
  header : Header
  assignments : List Assignment

/-- Add the table of a section to the table in which its header names it. A table that was only
implied so far keeps what is below it. -/
def Section.define (part : Section) (parent : Entries) : Option Entries :=
  let name := part.header.key.name
  match part.header.repeated, parent.get? name with
  | false, none =>
    (insertAll [] part.assignments).map fun inner => parent.add name (.table .header inner)
  | false, some (.table .implied inner) =>
    (insertAll inner part.assignments).map fun inner' =>
      parent.replace name (.table .header inner')
  | true, none =>
    (insertAll [] part.assignments).map fun inner => parent.add name (.tables [inner])
  | true, some (.tables elements) =>
    (insertAll [] part.assignments).map fun inner =>
      parent.replace name (.tables (elements ++ [inner]))
  | _, _ => none

/-- Add sections one after another. -/
def defineAll (root : Entries) : List Section → Option Entries
  | [] => some root
  | part :: rest =>
    match descend part.define root part.header.key.path with
    | none => none
    | some root' => defineAll root' rest

/-- One line of a document that is not blank. -/
inductive Statement
  | assign (assignment : Assignment)
  | header (header : Header)

/-- The assignments before the first header, and the sections. -/
def sections : List Statement → List Assignment × List Section
  | [] => ([], [])
  | .assign assignment :: rest =>
    ((assignment :: (sections rest).1), (sections rest).2)
  | .header header :: rest => ([], ⟨header, (sections rest).1⟩ :: (sections rest).2)

/-- The table that the lines of a document describe. -/
def build (statements : List Statement) : Option Entries :=
  match insertAll [] (sections statements).1 with
  | none => none
  | some root => defineAll root (sections statements).2

end KeyProvisioning.Toml
