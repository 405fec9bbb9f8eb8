import Multiplex.Toml.Value

/-!
# Building TOML tables

A table is built from assignments, and a document from assignments and headers.
What may be added where is decided here.

* An assignment makes the tables on its dotted key as it goes.  It may enter
  tables that other dotted keys made, and pass through tables that a header
  implied, but it ends in a table that a dotted key made.  It enters no table that
  has a header and no table in braces.
* A header makes the tables on its way as implied ones.  It may enter every table
  that is not in braces, and of repeated tables the last one.  The table that it
  names must be new, or implied by an earlier header.
* A header in double brackets adds a table to repeated ones, and to nothing else.
* No key is assigned twice.
-/

namespace Multiplex.Toml

/-! ## Assignments -/

/-- A dotted key, its last part apart, with the value that it gets. -/
structure Assignment where
  path : List String
  key : String
  value : Value
  deriving Inhabited

/-- Changes the last of several repeated tables. -/
def changeLast (change : Entries → Option Entries) :
    List Entries → Option (List Entries)
  | [] => none
  | [element] => (change element).map fun changed => [changed]
  | element :: elements => (changeLast change elements).map fun changed => element :: changed

/-- Assigns a value behind the rest of a dotted key. -/
def Entries.assign (entries : Entries) (key : String) (value : Value) :
    List String → Option Entries
  | [] =>
    match entries.get? key with
    | none => some (entries ++ [(key, value)])
    | some _ => none
  | part :: path =>
    match entries.get? part with
    | none =>
      (Entries.assign [] key value path).map fun inner =>
        entries ++ [(part, .table .dotted inner)]
    | some (.table .dotted inner) =>
      (Entries.assign inner key value path).map fun inner =>
        entries.replace part (.table .dotted inner)
    | some (.table .implied inner) =>
      if path.isEmpty then none
      else
        (Entries.assign inner key value path).map fun inner =>
          entries.replace part (.table .implied inner)
    | some (.tables elements) =>
      if path.isEmpty then none
      else
        (changeLast (fun inner => Entries.assign inner key value path) elements).map
          fun elements => entries.replace part (.tables elements)
    | some _ => none

/-- Makes several assignments one after the other. -/
def Entries.assignAll (entries : Entries) (assignments : List Assignment) : Option Entries :=
  assignments.foldlM (fun entries assignment =>
    entries.assign assignment.key assignment.value assignment.path) entries

/-! ## Headers -/

/-- A header: the table that it names, and whether it adds to repeated tables. -/
structure Header where
  path : List String
  key : String
  repeats : Bool
  deriving DecidableEq, Repr, Inhabited

/-- A header with the assignments below it. -/
structure Section where
  header : Header
  assignments : List Assignment
  deriving Inhabited

/-- Changes the table that a header path leads to. -/
def Entries.within (entries : Entries) (change : Entries → Option Entries) :
    List String → Option Entries
  | [] => change entries
  | part :: path =>
    match entries.get? part with
    | none =>
      (Entries.within [] change path).map fun inner =>
        entries ++ [(part, .table .implied inner)]
    | some (.table .inline _) => none
    | some (.table origin inner) =>
      (Entries.within inner change path).map fun inner =>
        entries.replace part (.table origin inner)
    | some (.tables elements) =>
      (changeLast (fun inner => Entries.within inner change path) elements).map
        fun elements => entries.replace part (.tables elements)
    | some _ => none

/-- Adds a table with its own header. -/
def Entries.addTable (entries : Entries) (key : String) (assignments : List Assignment) :
    Option Entries :=
  match entries.get? key with
  | none =>
    (Entries.assignAll [] assignments).map fun inner => entries ++ [(key, .table .header inner)]
  | some (.table .implied inner) =>
    (Entries.assignAll inner assignments).map fun inner =>
      entries.replace key (.table .header inner)
  | some _ => none

/-- Adds one of several repeated tables. -/
def Entries.addRepeated (entries : Entries) (key : String) (assignments : List Assignment) :
    Option Entries :=
  match entries.get? key with
  | none =>
    (Entries.assignAll [] assignments).map fun inner => entries ++ [(key, .tables [inner])]
  | some (.tables elements) =>
    (Entries.assignAll [] assignments).map fun inner =>
      entries.replace key (.tables (elements ++ [inner]))
  | some _ => none

/-- Adds a section to a document. -/
def Entries.addSection (entries : Entries) (part : Section) : Option Entries :=
  entries.within (fun found =>
    if part.header.repeats then found.addRepeated part.header.key part.assignments
    else found.addTable part.header.key part.assignments) part.header.path

/-! ## Documents -/

/-- Builds a document from the assignments before the first header and from its
sections. -/
def Entries.ofSections (assignments : List Assignment) (sections : List Section) :
    Option Entries :=
  (Entries.assignAll [] assignments).bind fun entries => sections.foldlM Entries.addSection entries

end Multiplex.Toml
