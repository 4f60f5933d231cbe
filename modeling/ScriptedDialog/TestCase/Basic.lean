import ScriptedDialog.Json.Printer
import ScriptedDialog.Load

/-! Test cases: a script, a seed, and turns with the replies that are expected.
They are kept as JSON. -/

namespace ScriptedDialog

inductive ExpectedReply where
  | exactly (text : String)
  | oneOf (choices : List String)
  | noReply
  deriving DecidableEq, Repr

structure TestTurn where
  input : String
  expect : ExpectedReply
  deriving DecidableEq, Repr

structure TestCase where
  schemaVersion : String
  script : String
  randomSeed : UInt64
  expectedDiagnostics : List String
  turns : List TestTurn
  deriving DecidableEq, Repr

namespace ExpectedReply

def accepts : ExpectedReply → Option String → Bool
  | .exactly wanted, some actual => wanted = actual
  | .oneOf choices, some actual => actual ∈ choices
  | .noReply, none => true
  | _, _ => false

def toJson : ExpectedReply → Json
  | .exactly wanted => .record [("kind", .text "text"), ("text", .text wanted)]
  | .oneOf choices => .record [("kind", .text "oneOf"), ("choices", .texts choices)]
  | .noReply => .record [("kind", .text "none")]

end ExpectedReply

def TestTurn.toJson (t : TestTurn) : Json :=
  .record [("input", .text t.input), ("expect", t.expect.toJson)]

namespace TestCase

/-- The schema that test cases follow. -/
def schema : String := "td-tool-case.v1"

/-- The name of a test case within its directory. -/
def fileName : String := "testcase.json"

def defaultSeed : UInt64 := 1

def toJson (c : TestCase) : Json :=
  .record [("schemaVersion", .text c.schemaVersion), ("script", .text c.script),
    ("randomSeed", .nat c.randomSeed.toNat), ("expectedDiagnostics", .texts c.expectedDiagnostics),
    ("turns", .array (c.turns.map (·.toJson)))]

end TestCase

end ScriptedDialog
