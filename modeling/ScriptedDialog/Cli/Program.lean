import ScriptedDialog.Cli.Arguments
import ScriptedDialog.Cli.Ask
import ScriptedDialog.Cli.Chat
import ScriptedDialog.Cli.Describe

/-! The whole program, as a function of its arguments, its files and its input. -/

namespace ScriptedDialog.Cli

/-- The generator of a source; `entropy` is the seed where none is given. -/
def Source.generator (s : Source) (entropy : UInt64) : Generator :=
  .ofSeed (s.seed.getD entropy)

def Command.run (read : ReadFile) (entropy : UInt64) (input : ByteArray) : Command → Outcome
  | .chat source lowercase =>
    Cli.chat read source.script (source.generator entropy) lowercase (inputLines input)
  | .ask source lowercase texts =>
    Cli.ask read source.script (source.generator entropy) lowercase texts
  | .describe source json => Cli.describe read source.script (source.generator entropy) json

def usage : String :=
  "Usage: [-v] chat|ask|describe [--script PATH] [--seed N] [--lowercase] [--text TEXT] [--json]\n"

def Stop.code : Stop → Nat
  | .usage => 2
  | .help => 0

end ScriptedDialog.Cli
