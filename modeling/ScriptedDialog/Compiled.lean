import ScriptedDialog.Command.Hierarchy
import ScriptedDialog.Script
import ScriptedDialog.Store

/-! Compiled scripts: the command tree and the declared variables, with all that
was found wrong. A trigger that cannot be used leaves its command out. -/

namespace ScriptedDialog

structure Compiled where
  tree : Tree
  store : Store
  diagnostics : List Diagnostic
  deriving DecidableEq, Repr

/-- A script part way through, with the commands refused so far. -/
structure Assembly where
  store : Store
  refused : List Diagnostic
  hierarchy : Hierarchy

namespace Assembly

open Script

def empty : Assembly := ⟨.empty, [], .empty⟩

/-- Adds a command whose trigger is still text. -/
def addCommand (a : Assembly) (level : Nat) (trigger response : String) (line : Nat) :
    Except Fault Assembly := do
  let trigger ← Trigger.ofText trigger
  let (hierarchy, _) ← a.hierarchy.add ⟨level, trigger, response, line⟩
  return { a with hierarchy }

def add (a : Assembly) : Statement → Assembly
  | .declaration name value _ => { a with store := a.store.set name (Value.ofText value) }
  | .command level trigger response line =>
    match a.addCommand level trigger response line with
    | .ok a => a
    | .error fault => { a with refused := a.refused ++ [⟨fault, line⟩] }

def addAll (a : Assembly) (statements : List Statement) : Assembly := statements.foldl add a

/-- The refused commands come before what the hierarchy has found. -/
def finish (a : Assembly) : Compiled :=
  ⟨a.hierarchy.tree, a.store, a.refused ++ a.hierarchy.diagnostics⟩

end Assembly

namespace Compiled

def empty : Compiled := ⟨.empty, .empty, []⟩

def ofStatements (statements : List Script.Statement) : Compiled :=
  (Assembly.empty.addAll statements).finish

/-- Orders diagnostics by line; those without a line come first. -/
def lineOrder (a b : Diagnostic) : Bool :=
  match a.line, b.line with
  | none, _ => true
  | some _, none => false
  | some m, some n => m ≤ n

/-- The diagnostics of all stages are in the order of their lines. -/
def ofSource (source : String) : Compiled :=
  let script := Script.ofSource source
  let compiled := ofStatements script.statements
  { compiled with
    diagnostics := (script.diagnostics ++ compiled.diagnostics).mergeSort lineOrder }

end Compiled

end ScriptedDialog
