import ScriptedDialog.Main
import ScriptedDialog.TestCase.Discover
import ScriptedDialog.TestCase.Run
import ScriptedDialog.Proofs.Dialog.Lockstep
import ScriptedDialog.Proofs.Dialog.Atomic
import ScriptedDialog.Proofs.Command.Growth
import ScriptedDialog.Proofs.Command.Nearest
import ScriptedDialog.Proofs.Command.Building
import ScriptedDialog.Proofs.Command.Compiling
import ScriptedDialog.Proofs.Dialog.Context
import ScriptedDialog.Proofs.Command.Order
import ScriptedDialog.Proofs.Dialog.Automaton
import ScriptedDialog.Proofs.Trigger.Captures
import ScriptedDialog.Proofs.Script.Declarations
import ScriptedDialog.Proofs.Dialog.Variables
import ScriptedDialog.Proofs.Compiled.Outcomes
import ScriptedDialog.Proofs.Compiled.Lines
import ScriptedDialog.Proofs.Script.Printing
import ScriptedDialog.Proofs.Template.Advancing
import ScriptedDialog.Proofs.Dialog.Commit
import ScriptedDialog.Proofs.Dialog.Stability
import ScriptedDialog.Proofs.Command.Nesting
import ScriptedDialog.Proofs.Command.Forest
import ScriptedDialog.Proofs.Script.Emptying
import ScriptedDialog.Proofs.Compiled.Skipped
import ScriptedDialog.Proofs.Compiled.Appending
import ScriptedDialog.Proofs.Dialog.Fallback
import ScriptedDialog.Proofs.Cli.Drivers
import ScriptedDialog.Proofs.TestCase.RoundTrip
import ScriptedDialog.Proofs.Dialog.Placeholders
import ScriptedDialog.Proofs.Dialog.Unused
import ScriptedDialog.Proofs.Value.Brackets
import ScriptedDialog.Proofs.Value.Writing
import ScriptedDialog.Proofs.Command.Keys
import ScriptedDialog.Proofs.Script.LineShapes
import ScriptedDialog.Proofs.Script.Instructions
import ScriptedDialog.Proofs.Compiled.Interleaving
import ScriptedDialog.Proofs.Command.History
import ScriptedDialog.Proofs.Text.OneLine
import ScriptedDialog.Proofs.Template.OneLine
import ScriptedDialog.Proofs.Dialog.OneLine
import ScriptedDialog.Proofs.Cli.Describing
import ScriptedDialog.Proofs.Cli.Asking
import ScriptedDialog.Proofs.TestCase.Verdict
import ScriptedDialog.Proofs.Files.Paths
import ScriptedDialog.Proofs.Files.Trees
import ScriptedDialog.Proofs.TestCase.Discovery
