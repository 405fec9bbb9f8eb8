import Multiplex.Toml.Scalar
import Multiplex.Toml.Table

/-!
# Reading TOML documents

A document is a list of lines: blank ones, assignments and headers, each with an
optional comment.  Values may go over several lines.

Arrays and tables in braces nest up to a limit, and keys have no more parts than
that; the limit is also what the recursion goes down on.  Lists of items and of
lines are as long as the text at most, so the length of the text bounds their
recursion.
-/

namespace Multiplex.Toml

/-- How deep arrays and tables in braces nest, and how many parts a key has, at
most. -/
def nestingLimit : Nat := 79

/-! ## Values -/

/-- Reads the items of an array behind its opening bracket, so many at most.  A
comma may stand behind the last one. -/
def arrayItems (item : Reader Value) : Nat → Reader (List Value)
  | 0, _ => none
  | bound + 1, cs =>
    match skipFiller false cs with
    | ']' :: cs => some ([], cs)
    | cs =>
      match item cs with
      | none => none
      | some (value, cs) =>
        match skipFiller false cs with
        | ',' :: cs => (arrayItems item bound cs).map fun (items, rest) => (value :: items, rest)
        | ']' :: cs => some ([value], cs)
        | _ => none

/-- Reads a dotted key, the sign `=` and a value. -/
def assignment? (item : Reader Value) : Reader Assignment := fun cs =>
  match keyPath? nestingLimit cs with
  | none => none
  | some (path, cs) =>
    match path.getLast?, cs with
    | some key, '=' :: cs =>
      (item (skipBlanks cs)).map fun (value, rest) => (⟨path.dropLast, key, value⟩, rest)
    | _, _ => none

/-- Reads the assignments of a table in braces, so many at most.  There is at
least one. -/
def inlineAssignments (item : Reader Value) : Nat → Reader (List Assignment)
  | 0, _ => none
  | bound + 1, cs =>
    match assignment? item cs with
    | none => none
    | some (assignment, cs) =>
      match skipBlanks cs with
      | ',' :: cs =>
        (inlineAssignments item bound cs).map fun (assignments, rest) =>
          (assignment :: assignments, rest)
      | '}' :: cs => some ([assignment], cs)
      | _ => none

/-- Reads a table in braces behind its opening brace. -/
def inlineTable? (item : Reader Value) : Reader Value := fun cs =>
  match skipBlanks cs with
  | '}' :: rest => some (.table .inline [], rest)
  | _ =>
    match inlineAssignments item (cs.length + 1) cs with
    | none => none
    | some (assignments, rest) =>
      (Entries.assignAll [] assignments).map fun entries => (.table .inline entries, rest)

/-- Reads a value in which arrays and tables nest up to a limit. -/
def value? : Nat → Reader Value
  | 0, cs => scalar? cs
  | limit + 1, cs =>
    match cs with
    | '[' :: cs =>
      (arrayItems (value? limit) (cs.length + 1) cs).map fun (items, rest) => (.array items, rest)
    | '{' :: cs => inlineTable? (value? limit) cs
    | cs => scalar? cs

/-! ## Lines -/

/-- Reads a header behind its opening bracket or brackets. -/
def header? (repeats : Bool) : Reader Header := fun cs =>
  match keyPath? nestingLimit cs with
  | none => none
  | some (path, cs) =>
    match path.getLast?, repeats, cs with
    | some key, true, ']' :: ']' :: cs => some (⟨path.dropLast, key, true⟩, cs)
    | some key, false, ']' :: cs => some (⟨path.dropLast, key, false⟩, cs)
    | _, _, _ => none

/-- What stands on a line. -/
inductive Line
  | blank
  | header (header : Header)
  | assignment (assignment : Assignment)
  deriving Inhabited

/-- Reads what stands on a line, up to the comment or the line end. -/
def content? : Reader Line := fun cs =>
  match cs with
  | '#' :: _ => some (.blank, cs)
  | '\n' :: _ => some (.blank, cs)
  | '\r' :: _ => some (.blank, cs)
  | '[' :: '[' :: cs => (header? true cs).map fun (header, rest) => (.header header, rest)
  | '[' :: cs => (header? false cs).map fun (header, rest) => (.header header, rest)
  | cs =>
    (assignment? (value? nestingLimit) cs).map fun (assignment, rest) =>
      (.assignment assignment, rest)

/-- Reads the lines of a document, so many at most. -/
def lines? : Nat → List Char → Option (List Line)
  | 0, _ => none
  | bound + 1, cs =>
    match skipBlanks cs with
    | [] => some []
    | cs =>
      match content? cs with
      | none => none
      | some (line, cs) =>
        match lineEnd? cs with
        | none => none
        | some rest => (lines? bound rest).map (line :: ·)

/-! ## Documents -/

/-- Gathers lines: the assignments before the first header, and the sections. -/
def gather : List Line → List Assignment × List Section
  | [] => ([], [])
  | .blank :: lines => gather lines
  | .assignment assignment :: lines =>
    let (assignments, sections) := gather lines
    (assignment :: assignments, sections)
  | .header header :: lines =>
    let (assignments, sections) := gather lines
    ([], ⟨header, assignments⟩ :: sections)

/-- Drops the mark that may stand in front of a document. -/
def dropByteOrderMark : List Char → List Char
  | '\uFEFF' :: cs => cs
  | cs => cs

/-- Reads a document. -/
def parse (text : String) : Option Entries :=
  let cs := dropByteOrderMark text.toList
  match lines? (cs.length + 1) cs with
  | none => none
  | some lines =>
    let (assignments, sections) := gather lines
    Entries.ofSections assignments sections

end Multiplex.Toml
