import ScriptedDialog.Compiled
import ScriptedDialog.Random.Generator

/-! Dialogs: one conversation on a compiled script. Besides the script's tree and
diagnostics it has the variables as they are now, the command whose children are
tried first, and the generator for the next random choice. -/

namespace ScriptedDialog

structure Dialog where
  tree : Tree
  store : Store
  context : Option CommandId
  diagnostics : List Diagnostic
  generator : Generator
  deriving DecidableEq, Repr

namespace Dialog

def ofCompiled (script : Compiled) (g : Generator) : Dialog :=
  ⟨script.tree, script.store, none, script.diagnostics, g⟩

/-- A dialog without commands and variables, which has no replies. -/
def inert (g : Generator) : Dialog := ofCompiled .empty g

def ofSource (source : String) (g : Generator) : Dialog := ofCompiled (.ofSource source) g

def isInert (d : Dialog) : Bool := d.tree.isEmpty && d.store.isEmpty

/-- The command in whose context the next turn is taken. -/
def contextNode? (d : Dialog) : Option Node := d.context.bind d.tree.get?

/-- The trigger of that command, as it is written. -/
def contextTrigger? (d : Dialog) : Option String := d.contextNode?.map (·.trigger.source)

/-- Leaves the context; variables are kept. -/
def reset (d : Dialog) : Dialog := { d with context := none }

end Dialog

end ScriptedDialog
