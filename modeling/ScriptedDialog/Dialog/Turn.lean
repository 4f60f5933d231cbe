import ScriptedDialog.Dialog.Basic
import ScriptedDialog.Template.Resolve
import ScriptedDialog.Trigger.Captures

/-! One turn of a dialog. The children of the context are tried in order and then
the roots; the first command whose trigger accepts the input answers. What its
pattern captures is assigned only when the response has been resolved, so a turn
that fails changes nothing but the generator. -/

namespace ScriptedDialog

/-- Pairs of a variable and the text captured for it. -/
abbrev Bindings := List (String × String)

/-- The assignments that bindings stand for. -/
def Bindings.assignments (b : Bindings) : List (String × Value) :=
  b.map fun (name, captured) => (name, .scalar captured)

/-- Accepts an input or not. A reference accepts anything while its variable is a
scalar, and the items of a list. A pattern pairs its captures with the
placeholders of the response, in order, as far as both go. -/
def Command.bindings? (c : Command) (store : Store) (input : String) : Option Bindings :=
  match c.trigger with
  | .literal text => if text = input then some [] else none
  | .reference name =>
    match store.get? name with
    | none => none
    | some (.scalar _) => some []
    | some (.list items) => if input ∈ items then some [] else none
  | .wildcard text => (Trigger.wildcardCaptures? text input).map (Template.placeholders c.response).zip

namespace Dialog

/-- The first of some commands that accepts an input. -/
def firstMatch? (d : Dialog) (input : String) : List CommandId → Option (CommandId × Bindings)
  | [] => none
  | id :: ids =>
    match (d.tree.get? id).bind (·.bindings? d.store input) with
    | some bindings => some (id, bindings)
    | none => firstMatch? d input ids

/-- The children of the context. -/
def contextual (d : Dialog) : List CommandId := (d.context.map d.tree.children).getD []

/-- The command that answers an input. -/
def answer? (d : Dialog) (input : String) : Option (CommandId × Bindings) :=
  (d.firstMatch? input d.contextual).or (d.firstMatch? input d.tree.roots)

/-- The dialog after a command has answered. -/
def advance (d : Dialog) (id : CommandId) (node : Node) (bindings : Bindings) (g : Generator) :
    Dialog :=
  { d with
    store := d.store.setAll bindings.assignments
    context := if node.children.isEmpty then none else some id
    generator := g }

/-- The reply to an input, if any command answers it, and the dialog afterwards. -/
def turn (d : Dialog) (input : String) : Except Fault (Option String) × Dialog :=
  match d.answer? input with
  | none => (.ok none, d)
  | some (id, bindings) =>
    match d.tree.get? id with
    | none => (.error (.matchedMissing id), d)
    | some node =>
      match Template.resolve node.response (d.store.view bindings.assignments) d.generator with
      | (.error fault, g) => (.error fault, { d with generator := g })
      | (.ok reply, g) => (.ok (some reply), d.advance id node bindings g)

/-- What a user can do. -/
inductive Move where
  | say (input : String)
  | reset
  deriving DecidableEq, Repr

def after (d : Dialog) : Move → Dialog
  | .say input => (d.turn input).2
  | .reset => d.reset

def afterAll (d : Dialog) (moves : List Move) : Dialog := moves.foldl after d

end Dialog

end ScriptedDialog
