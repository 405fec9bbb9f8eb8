import Multiplex.FileTree

/-!
# Paths as they are written

A written path is a list of steps, each into an entry of a folder, to the folder
above, or to no other place.  Whoever follows a path must be in a folder at every
step, so a path may lead nowhere although the same path without a detour leads to a
file.  A path that ends in a slash leads to a folder or nowhere.

To make a folder and to write a file by a path means here what the tree alone lets one do;
what else may come in between is told by the host of the tree.
-/

namespace Multiplex

/-! ## Paths -/

/-- A step on a path. -/
inductive PathStep
  | enter (name : String)
  | leave
  | stay
  deriving DecidableEq, Repr, Inhabited

/-- The step that a part of a path between slashes stands for, if it stands for one. -/
def PathStep.ofPart? (part : String) : Option PathStep :=
  if part = "" then none
  else if part = "." then some .stay
  else if part = ".." then some .leave
  else some (.enter part)

/-- The place that a step leads to.  Above the root there is only the root. -/
def PathStep.goal (place : List String) : PathStep → List String
  | .enter name => place ++ [name]
  | .leave => place.dropLast
  | .stay => place

/-- A written path: its steps, and whether it ends in a slash. -/
structure FilePath where
  steps : List PathStep
  endsInSlash : Bool := false
  deriving DecidableEq, Repr, Inhabited

namespace FilePath

/-- Reads a path. -/
def ofText (text : String) : FilePath where
  steps := ((text.toList.splitOn '/').map String.ofList).filterMap PathStep.ofPart?
  endsInSlash := text.toList.getLast? == some '/'

/-- The steps to take where a path is looked up: behind a slash at the end there must be a
folder to stay in. -/
def fullSteps (path : FilePath) : List PathStep :=
  path.steps ++ if path.endsInSlash then [.stay] else []

/-- The steps to the folder that the path lies in.  Steps that stay do not count. -/
def folderSteps (path : FilePath) : List PathStep := (path.steps.filter (· != .stay)).dropLast

end FilePath

/-! ## What is at a place -/

/-- What there is to see at a place of a tree. -/
inductive Node
  | file (contents : Octets)
  | folder
  deriving DecidableEq

namespace FileTree

/-- A tree without what is in it. -/
def node : FileTree → Node
  | .file contents => .file contents
  | .folder _ => .folder

/-- What there is to see at a place, which is given by the names from the root. -/
def at? (tree : FileTree) (place : List String) : Option Node := (tree.find? place).map node

/-! ## Following a path -/

/-- The place that steps lead to.  Every step is taken in a folder. -/
def follow (tree : FileTree) (place : List String) :
    List PathStep → Except FileFault (List String)
  | [] => .ok place
  | step :: steps =>
    match tree.at? place with
    | none => .error .missing
    | some (.file _) => .error .notFolder
    | some .folder =>
      if (tree.at? (step.goal place)).isSome then tree.follow (step.goal place) steps
      else .error .missing

/-- What a path leads to.  A path without any step, not even a slash, leads nowhere. -/
def look? (tree : FileTree) (path : FilePath) : Option Node :=
  if path.fullSteps.isEmpty then none
  else
    match tree.follow [] path.fullSteps with
    | .error _ => none
    | .ok place => tree.at? place

/-! ## Making a folder -/

/-- Makes the folder that the last step leads into.  The folders before it must be there. -/
def makeFolder (tree : FileTree) (before : List PathStep) (last : PathStep) :
    Except FileFault FileTree :=
  match tree.follow [] before with
  | .error fault => .error fault
  | .ok place =>
    match tree.at? place, last with
    | none, _ => .error .missing
    | some (.file _), _ => .error .notFolder
    | some .folder, .enter name =>
      if (tree.at? (place ++ [name])).isSome then .error .exists
      else tree.makeFolders (place ++ [name])
    | some .folder, _ => .error .exists

/-! ## Writing a file -/

/-- Writes the file that a path leads to, in a folder that is there. -/
def write (tree : FileTree) (contents : Octets) (path : FilePath) :
    Except FileFault FileTree :=
  match path.steps.getLast? with
  | none => .error (if path.endsInSlash then .isFolder else .missing)
  | some last =>
    match tree.follow [] path.steps.dropLast with
    | .error fault => .error fault
    | .ok place =>
      match tree.at? place, last with
      | none, _ => .error .missing
      | some (.file _), _ => .error .notFolder
      | some .folder, .enter name =>
        if path.endsInSlash then .error .isFolder
        else tree.writeFile contents (place ++ [name])
      | some .folder, _ => .error .isFolder

end FileTree

end Multiplex
