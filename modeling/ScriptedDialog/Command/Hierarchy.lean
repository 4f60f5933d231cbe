import ScriptedDialog.Command.Tree

/-! Building the tree from the levels of the commands. A command of level zero is
a root; any other becomes a child of the nearest command before it that has a
lower level, and is left out when there is none. The builder keeps the chain of
commands that can still become parents, innermost first. -/

namespace ScriptedDialog

structure Hierarchy where
  tree : Tree
  ancestors : List (Nat × CommandId)
  diagnostics : List Diagnostic
  deriving DecidableEq, Repr

namespace Hierarchy

def empty : Hierarchy := ⟨.empty, [], []⟩

/-- The chain without the commands that are not above a level. -/
def above (level : Nat) (ancestors : List (Nat × CommandId)) : List (Nat × CommandId) :=
  ancestors.dropWhile fun a => level ≤ a.1

def addRoot (h : Hierarchy) (c : Command) : Hierarchy :=
  let id := h.tree.nextId
  let redefinition := (h.tree.root? c.key).map fun previous : CommandId =>
    let previousLine := ((h.tree.get? previous).map (·.line)).getD 0
    (⟨.rootDuplicate c.key previousLine, some c.line⟩ : Diagnostic)
  { tree := (h.tree.push c).insertRoot c.key id
    ancestors := [(0, id)]
    diagnostics := h.diagnostics ++ redefinition.toList }

/-- Adds a command, and says where it is unless it has been left out. -/
def add (h : Hierarchy) (c : Command) : Except Fault (Hierarchy × Option CommandId) :=
  let id := h.tree.nextId
  if c.level = 0 then .ok (h.addRoot c, some id)
  else match above c.level h.ancestors with
    | [] =>
      let orphan : Diagnostic := ⟨.parentMissing c.level c.key, some c.line⟩
      .ok ({ h with ancestors := [], diagnostics := h.diagnostics ++ [orphan] }, none)
    | (level, parent) :: outer =>
      match (h.tree.push c).attach parent id with
      | .error fault => .error fault
      | .ok tree =>
        .ok ({ h with tree, ancestors := (c.level, id) :: (level, parent) :: outer }, some id)

end Hierarchy

end ScriptedDialog
