import ScriptedDialog.Dialog.Basic
import ScriptedDialog.Json.Printer
import ScriptedDialog.Text.Quoted

/-! Accounts of a dialog: a description for people, one line for each command and
variable, and a summary as JSON. -/

namespace ScriptedDialog

namespace Value

def describe : Value → String
  | .scalar text => s!"\"{text}\""
  | .list items => Text.quotedList items

def toJson : Value → Json
  | .scalar text => .text text
  | .list items => .texts items

end Value

namespace Node

def describe (node : Node) (id : CommandId) : String :=
  let margin := String.ofList (List.replicate (2 * node.level) ' ')
  s!"{margin} - [{id}] Level: {node.level}, Trigger: {node.trigger.source} ({node.trigger.kind}), " ++
    s!"Response: {node.response}, Children: {node.children.length}"

def toJson (node : Node) (id : CommandId) : Json :=
  .record [("id", .nat id), ("level", .nat node.level), ("kind", .text node.trigger.kind),
    ("trigger", .text node.trigger.source), ("response", .text node.response),
    ("line", .nat node.line), ("parent", .ofNat? node.parent),
    ("children", .array (node.children.map .nat))]

end Node

namespace Dialog

/-- The context as descriptions and logs show it. -/
def contextLabel (d : Dialog) : String :=
  match d.contextTrigger? with
  | none => "<root>"
  | some trigger => s!"\"{trigger}\""

def describeLines (d : Dialog) : List String :=
  ["Commands:"]
    ++ (d.tree.nodes.toList.zipIdx.map fun (node, id) => node.describe id)
    ++ ["Variables:"]
    ++ (d.store.entries.map fun (name, value) => s!" - Name: \"{name}\", Value: {value.describe}")
    ++ [s!"Context: {d.contextLabel}"]

def describe (d : Dialog) : String := String.join (d.describeLines.map (· ++ "\n"))

def summary (d : Dialog) : Json :=
  .record [("commands", .array (d.tree.nodes.toList.zipIdx.map fun (node, id) => node.toJson id)),
    ("roots", .array (d.tree.roots.map .nat)),
    ("variables", .record (d.store.entries.map fun (name, value) => (name, value.toJson))),
    ("context", .ofText? d.contextTrigger?)]

end Dialog

end ScriptedDialog
