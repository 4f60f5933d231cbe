import ScriptedDialog.Dialog.Describe
import ScriptedDialog.Dialog.Turn

/-! The log: what compiling a script and taking a turn have to report, in the
order in which it comes up. -/

namespace ScriptedDialog

namespace Log

inductive Severity where
  | error | warn | info | debug
  deriving DecidableEq, Repr

namespace Severity

def name : Severity → String
  | .error => "ERROR"
  | .warn => "WARN"
  | .info => "INFO"
  | .debug => "DEBUG"

/-- The verbosity from which entries of a severity are shown. -/
def rank : Severity → Nat
  | .error | .warn => 0
  | .info => 1
  | .debug => 2

end Severity

structure Entry where
  severity : Severity
  text : String
  deriving DecidableEq, Repr

def Entry.render (e : Entry) : String := s!"{e.severity.name}: {e.text}\n"

/-- The entries that a verbosity shows, one to a line. -/
def render (verbosity : Nat) (entries : List Entry) : String :=
  String.join ((entries.filter (·.severity.rank ≤ verbosity)).map Entry.render)

end Log

open Log

/-! ### Compiling -/

/-- A warning for a diagnostic, with its line in front if it has one. -/
def Diagnostic.warning (d : Diagnostic) : Entry :=
  match d.line with
  | some line => ⟨.warn, s!"line {line}: {d.display}"⟩
  | none => ⟨.warn, d.display⟩

/-- The warnings that come up on the way from one assembly to a later one. What
the hierarchy finds is shown without its line. -/
def Assembly.warnings (before after : Assembly) : List Entry :=
  (after.refused.drop before.refused.length).map (·.warning)
    ++ (after.hierarchy.diagnostics.drop before.hierarchy.diagnostics.length).map
      fun d => ⟨.warn, d.display⟩

/-- The warnings of all statements, one after the other. -/
def Assembly.log (a : Assembly) : List Script.Statement → List Entry
  | [] => []
  | s :: later => a.warnings (a.add s) ++ (a.add s).log later

/-- The warnings of a source, and then the counts of what came out of it. -/
def Compiled.log (source : String) : List Entry :=
  let script := Script.ofSource source
  let compiled := ofSource source
  script.diagnostics.map (·.warning) ++ Assembly.empty.log script.statements
    ++ [⟨.info, s!"compiled {compiled.tree.size} commands ({compiled.tree.roots.length} roots), " ++
      s!"{compiled.store.size} variables, {compiled.diagnostics.length} diagnostics"⟩]

/-! ### Turns -/

def Value.debugText : Value → String
  | .scalar text => s!"Scalar({Text.quoted text})"
  | .list items => s!"List({Text.quotedList items})"

/-- What a turn reports: names left undefined, then, if it has a reply, each
capture and the command that answered. -/
def Dialog.turnLog (d : Dialog) (input : String) : List Entry :=
  match d.answer? input with
  | none => [⟨.debug, s!"no match for input \"{input}\""⟩]
  | some (id, bindings) =>
    match d.tree.get? id with
    | none => []
    | some node =>
      let undefined := Template.undefinedNames node.response (d.store.view bindings.assignments)
      (undefined.map fun name => ⟨.warn, s!"response references undefined variable ~{name}"⟩)
        ++ match d.turn input with
          | (.error _, _) => []
          | (.ok _, d) =>
            (bindings.assignments.map fun (name, value) =>
                ⟨.debug, s!"captured {name} = {value.debugText}"⟩)
              ++ [⟨.debug, s!"matched \"{node.trigger.source}\" (line {node.line}); " ++
                s!"context is now {d.contextLabel}"⟩]

end ScriptedDialog
