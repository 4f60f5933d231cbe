import ScriptedDialog.Trigger

/-! The command tree: all commands in the order of their declaration, linked to
their parents and children by position, and the roots by their keys. A key has
one place among the roots, which later commands of that key take over. -/

namespace ScriptedDialog

/-- The position of a command in the order of declaration. -/
abbrev CommandId := Nat

structure Command where
  level : Nat
  trigger : Trigger
  response : String
  line : Nat
  deriving DecidableEq, Repr

/-- A command in its place in a tree. -/
structure Node extends Command where
  children : List CommandId
  parent : Option CommandId
  deriving DecidableEq, Repr

namespace Command

/-- A command without links. -/
def node (c : Command) : Node := ⟨c, [], none⟩

/-- The trigger text under which a root is known. -/
def key (c : Command) : String := c.trigger.source

end Command

structure Tree where
  nodes : Array Node
  rootEntries : List (String × CommandId)
  deriving DecidableEq, Repr

namespace Tree

def empty : Tree := ⟨#[], []⟩

def size (t : Tree) : Nat := t.nodes.size

def isEmpty (t : Tree) : Bool := t.nodes.isEmpty

def get? (t : Tree) (id : CommandId) : Option Node := t.nodes[id]?

def children (t : Tree) (id : CommandId) : List CommandId := ((t.get? id).map (·.children)).getD []

def roots (t : Tree) : List CommandId := t.rootEntries.map (·.2)

def rootIn (key : String) : List (String × CommandId) → Option CommandId
  | [] => none
  | (k, id) :: rest => if k = key then some id else rootIn key rest

/-- The command that is known as a root under a key. -/
def root? (t : Tree) (key : String) : Option CommandId := rootIn key t.rootEntries

/-- The position that the next command takes. -/
def nextId (t : Tree) : CommandId := t.nodes.size

def push (t : Tree) (c : Command) : Tree := { t with nodes := t.nodes.push c.node }

/-- Enters an id under a key, in the place of the key if it has one. -/
def enter (key : String) (id : CommandId) : List (String × CommandId) → List (String × CommandId)
  | [] => [(key, id)]
  | (k, i) :: rest => if k = key then (k, id) :: rest else (k, i) :: enter key id rest

/-- Makes a command the root of a key. The id that the key had before is `root?`. -/
def insertRoot (t : Tree) (key : String) (id : CommandId) : Tree :=
  { t with rootEntries := enter key id t.rootEntries }

def attach (t : Tree) (parent child : CommandId) : Except Fault Tree :=
  if parent < t.size ∧ child < t.size then
    let nodes := t.nodes.modify parent fun node => { node with children := node.children ++ [child] }
    .ok { t with nodes := nodes.modify child fun node => { node with parent := some parent } }
  else .error (.attachMissing parent child)

end Tree

end ScriptedDialog
