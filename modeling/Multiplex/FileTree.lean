import Multiplex.Octets

/-!
# File trees

Folders hold files and folders under names; files hold octets.  A place in a tree is
given by the names on the way from the root.  What is below a file is not there.

Making the folders down to a place and writing a file at a place are functions from
trees to trees.  They look at the whole way before they change anything, so where they
fail they give no tree.
-/

namespace Multiplex

/-- A file, or a folder with what is in it. -/
inductive FileTree
  | file (contents : Octets)
  | folder (entries : List (String × FileTree))
  deriving Inhabited

/-- The answer of a host that refuses: the number of the fault, and what it is called. -/
structure Refusal where
  number : Nat
  name : String
  deriving DecidableEq, Repr, Inhabited

/-- Why a file or a folder cannot be read or made. -/
inductive FileFault
  | missing
  | exists
  | notFolder
  | isFolder
  | notText
  | refused (refusal : Refusal)
  deriving DecidableEq, Repr, Inhabited

/-- Whether a fault says that something is missing on the way. -/
def FileFault.isMissing : FileFault → Bool
  | .missing => true
  | .refused refusal => refusal.number == 2
  | _ => false

/-- The wording of a file fault. -/
def FileFault.message : FileFault → String
  | .missing => "No such file or directory (os error 2)"
  | .exists => "File exists (os error 17)"
  | .notFolder => "Not a directory (os error 20)"
  | .isFolder => "Is a directory (os error 21)"
  | .notText => "stream did not contain valid UTF-8"
  | .refused refusal => refusal.name ++ " (os error " ++ toString refusal.number ++ ")"

/-- The names on a written path.  Empty names and single dots stand for no step. -/
def pathNames (path : String) : List String :=
  ((path.toList.splitOn '/').map String.ofList).filter fun name => name != "" && name != "."

/-- Puts a name behind a path. -/
def joinPath (path name : String) : String :=
  if path.isEmpty || path.endsWith "/" then path ++ name else path ++ "/" ++ name

namespace FileTree

/-- A tree with nothing in it. -/
def empty : FileTree := .folder []

/-- Entries with one name replaced or added. -/
def put (entries : List (String × FileTree)) (name : String) (tree : FileTree) :
    List (String × FileTree) :=
  match entries with
  | [] => [(name, tree)]
  | entry :: entries =>
    if entry.1 == name then (name, tree) :: entries else entry :: put entries name tree

theorem lookup_put_self (entries : List (String × FileTree)) (name : String)
    (tree : FileTree) : (put entries name tree).lookup name = some tree := by
  induction entries with
  | nil => simp [put]
  | cons entry entries ih =>
      obtain ⟨first, found⟩ := entry
      by_cases hname : first = name
      · simp [put, hname]
      · have hne : (name == first) = false := by simpa using Ne.symm hname
        simp [put, List.lookup_cons, hname, hne, ih]

theorem lookup_put_of_ne (entries : List (String × FileTree)) {name other : String}
    (tree : FileTree) (hne : other ≠ name) :
    (put entries name tree).lookup other = entries.lookup other := by
  have hother : (other == name) = false := by simpa using hne
  induction entries with
  | nil => simp [put, List.lookup_cons, hother]
  | cons entry entries ih =>
      obtain ⟨first, found⟩ := entry
      by_cases hname : first = name
      · subst hname
        simp [put, List.lookup_cons, hother]
      · by_cases hfirst : other = first
        · simp [put, hname, hfirst]
        · have hlookup : (other == first) = false := by simpa using hfirst
          simp [put, List.lookup_cons, hname, hlookup, ih]

/-- What is at a place. -/
def find? (tree : FileTree) : List String → Option FileTree
  | [] => some tree
  | name :: path =>
    match tree with
    | .file _ => none
    | .folder entries => (entries.lookup name).bind fun found => found.find? path

/-- Makes the folders down to a place that are missing. -/
def makeFolders (tree : FileTree) : List String → Except FileFault FileTree
  | [] =>
    match tree with
    | .file _ => .error .exists
    | .folder _ => .ok tree
  | name :: path =>
    match tree with
    | .file _ => .error .notFolder
    | .folder entries =>
      match ((entries.lookup name).getD empty).makeFolders path with
      | .ok changed => .ok (.folder (put entries name changed))
      | .error fault => .error fault

/-- Writes a file into a folder that is there. -/
def writeFile (tree : FileTree) (contents : Octets) : List String → Except FileFault FileTree
  | [] =>
    match tree with
    | .file _ => .ok (.file contents)
    | .folder _ => .error .isFolder
  | name :: path =>
    match tree with
    | .file _ => .error .notFolder
    | .folder entries =>
      match entries.lookup name, path with
      | none, [] => .ok (.folder (put entries name (.file contents)))
      | none, _ :: _ => .error .missing
      | some found, path =>
        match found.writeFile contents path with
        | .ok changed => .ok (.folder (put entries name changed))
        | .error fault => .error fault

end FileTree

end Multiplex
