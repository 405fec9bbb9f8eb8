import Multiplex.FilePath

/-!
# Hosts of file trees

A tree says what there is, and its host what one may do with it.  For reasons that are not
in the tree, such as permissions, a full disk or names that are too long, a host can refuse
to show what a path leads to, to read it, to make a folder, or to open a file for writing.
It can also break off a write when the file is open already and holds a part of what was to
be written.

The folders on a path are made from the last one backwards: first the last folder is tried,
and only where the way to it is missing the folders before it are made.  A failure can
therefore come after some folders were made, and these stay; so the tree is a result of its
own here, as it is where a file is written.
-/

namespace Multiplex

/-! ## What a host is asked -/

/-- What somebody wants to do with a path. -/
inductive FileAct
  | inspect
  | read
  | makeFolder
  | openFile
  deriving DecidableEq, Repr, Inhabited

/-- A host: what it refuses, and after how many octets it breaks off a write.  Unless it is
told otherwise it does neither. -/
structure FileHost where
  refusal? : FileTree → FileAct → FilePath → Option Refusal := fun _ _ _ => none
  breakOff? : FileTree → FilePath → Octets → Option (Nat × Refusal) := fun _ _ _ => none

namespace FileHost

/-! ## Looking and reading -/

/-- What a path leads to, as far as the host shows it. -/
def inspect? (host : FileHost) (tree : FileTree) (path : FilePath) : Option Node :=
  match host.refusal? tree .inspect path with
  | some _ => none
  | none => tree.look? path

/-- Reads the file that a path leads to. -/
def read (host : FileHost) (tree : FileTree) (path : FilePath) : Except FileFault Octets :=
  match host.refusal? tree .read path with
  | some refusal => .error (.refused refusal)
  | none =>
    match tree.look? path with
    | none => .error .missing
    | some .folder => .error .isFolder
    | some (.file contents) => .ok contents

/-! ## Making folders -/

/-- Makes the folder that the last step leads into. -/
def makeFolder (host : FileHost) (tree : FileTree) (before : List PathStep) (last : PathStep) :
    Except FileFault FileTree :=
  match host.refusal? tree .makeFolder ⟨before ++ [last], false⟩ with
  | some refusal => .error (.refused refusal)
  | none => tree.makeFolder before last

/-- What comes of a way whose last folder was not made: it need not be made if it shows
already. -/
def settle (host : FileHost) (tree : FileTree) (way : List PathStep) (fault : FileFault) :
    FileTree × Except FileFault Unit :=
  (tree, if host.inspect? tree ⟨way.reverse, false⟩ = some .folder then .ok () else .error fault)

/-- Makes the folders on a way, whose steps are given from the last to the first. -/
def makeWay (host : FileHost) (tree : FileTree) : List PathStep → FileTree × Except FileFault Unit
  | [] => (tree, .ok ())
  | last :: before =>
    match host.makeFolder tree before.reverse last with
    | .ok made => (made, .ok ())
    | .error fault =>
      if fault.isMissing then
        match host.makeWay tree before with
        | (made, .error fault) => (made, .error fault)
        | (made, .ok ()) =>
          match host.makeFolder made before.reverse last with
          | .ok complete => (complete, .ok ())
          | .error fault => host.settle made (last :: before) fault
      else host.settle tree (last :: before) fault

/-! ## Writing a file -/

/-- Opens the file that a path leads to, which empties it, and writes it.  Where the host
breaks off, the file keeps what came before. -/
def write (host : FileHost) (tree : FileTree) (contents : Octets) (path : FilePath) :
    FileTree × Except FileFault Unit :=
  match host.refusal? tree .openFile path with
  | some refusal => (tree, .error (.refused refusal))
  | none =>
    let (written, result) :=
      match host.breakOff? tree path contents with
      | none => (contents, .ok ())
      | some (count, refusal) => (contents.take count, .error (.refused refusal))
    match tree.write written path with
    | .error fault => (tree, .error fault)
    | .ok changed => (changed, result)

end FileHost

/-! ## The usual host -/

/-- How many octets a step takes. -/
def PathStep.size : PathStep → Nat
  | .enter name => name.utf8ByteSize
  | .leave => 2
  | .stay => 1

/-- How many octets a path takes, with one behind every step. -/
def FilePath.size (path : FilePath) : Nat :=
  path.steps.foldl (fun count step => count + step.size + 1) (if path.endsInSlash then 1 else 0)

/-- Whether somebody who takes steps comes to a name that no folder can hold. -/
def FileTree.meetsLongName (tree : FileTree) (place : List String) : List PathStep → Bool
  | [] => false
  | step :: steps =>
    tree.at? place == some .folder &&
      (255 < step.size || tree.meetsLongName (step.goal place) steps)

/-- A host that refuses paths and names that are too long, and nothing else. -/
def FileHost.usual : FileHost where
  refusal? tree _ path :=
    if 4096 < path.size || tree.meetsLongName [] path.steps then
      some ⟨36, "File name too long"⟩
    else none

end Multiplex
