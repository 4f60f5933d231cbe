import ScriptedDialog.Files.Listing
import ScriptedDialog.TestCase.Failure
import ScriptedDialog.TestCase.Basic

/-! Finding test cases: the directories of a tree that hold a case file, in the
order of their paths, which compare component by component. -/

namespace ScriptedDialog.TestCase

open Files

/-- The ways from a listing down to the directories that hold a case file. -/
def caseWays : Listing → List (List String)
  | .nil => []
  | .file name _ rest => if name = fileName then [] :: caseWays rest else caseWays rest
  | .directory name contents rest => (caseWays contents).map (name :: ·) ++ caseWays rest

def wayOrder (a b : List String) : Bool := !decide (b < a)

/-- The path by which the directory at the end of a way is opened from a root. -/
def openPath (root : String) (way : List String) : String := way.foldl Path.join root

/-- A directory whose path is too long cannot be opened, and nothing in it is found. -/
def opens (root : String) (way : List String) : Bool :=
  (openPath root way).utf8ByteSize < Listing.maxPath

/-- The path of the directory that a way leads to from a root. -/
def wayPath (root : String) (way : List String) : String :=
  Path.parent (Path.join (openPath root way) fileName)

/-- The case directories at or below a root, which may also be a case file. -/
def directories (top : Listing) (root : String) : List String :=
  match top.lookup root with
  | .error _ => []
  | .ok (.file _) => if Path.name root = fileName then [Path.parent root] else []
  | .ok (.directory contents) =>
    (((caseWays contents).filter (opens root)).mergeSort wayOrder).map (wayPath root)

def discover (top : Listing) (root : String) : Except Failure (List String) :=
  match directories top root with
  | [] => .error (.noCases fileName root)
  | found => .ok found

end ScriptedDialog.TestCase
