import ScriptedDialog.Files.Path
import ScriptedDialog.Log

/-! Loading a dialog from a script file. Files are read through a function from
paths, so that a directory tree and a file system serve alike. -/

namespace ScriptedDialog

/-- Reads a file as text. -/
abbrev ReadFile := String → Except Files.ReadFault String

namespace Load

/-- The name of a script within its directory. -/
def defaultScript : String := "dialog.txt"

/-- A directory stands for the default script in it. -/
def scriptPath (read : ReadFile) (path : String) : String :=
  match read path with
  | .error .isDirectory => Files.Path.join path defaultScript
  | _ => path

def source (read : ReadFile) (path : String) : Except Fault String :=
  match read (scriptPath read path) with
  | .ok source => .ok source
  | .error cause => .error (.scriptUnreadable (scriptPath read path) cause)

def dialog (read : ReadFile) (path : String) (g : Generator) : Except Fault Dialog :=
  (source read path).map fun source => .ofSource source g

def log (read : ReadFile) (path : String) : List Log.Entry :=
  match source read path with
  | .ok source => Compiled.log source
  | .error fault => [⟨.error, fault.display⟩]

end Load

end ScriptedDialog
