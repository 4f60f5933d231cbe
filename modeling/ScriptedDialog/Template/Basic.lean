import ScriptedDialog.Text.WordChar

/-! Response templates as pieces. A reference is a tilde or a dollar sign with a
name directly after it, and a name is a maximal run of word characters; all else
is plain text. -/

namespace ScriptedDialog.Template

open Text

/-- How a reference is written: with a tilde it is lenient and takes any value,
with a dollar sign it insists on a scalar. -/
inductive Sigil where
  | tilde
  | dollar
  deriving DecidableEq, Repr

def Sigil.char : Sigil → Char
  | .tilde => '~'
  | .dollar => '$'

def Sigil.ofChar? (c : Char) : Option Sigil :=
  if c = '~' then some .tilde else if c = '$' then some .dollar else none

inductive Piece where
  | text (cs : List Char)
  | reference (sigil : Sigil) (name : List Char)
  deriving DecidableEq, Repr

/-- The run of word characters at the front of a template, and the pieces after
that run. -/
def frontRun : List Char → List Char × List Piece
  | [] => ([], [])
  | c :: cs =>
    let (run, later) := frontRun cs
    if isWordChar c then (c :: run, later)
    else match Sigil.ofChar? c with
      | some sigil =>
        if run.isEmpty then ([], .text [c] :: later) else ([], .reference sigil run :: later)
      | none => ([], .text (c :: run) :: later)

def pieces (template : List Char) : List Piece :=
  let (run, later) := frontRun template
  if run.isEmpty then later else .text run :: later

/-- The names that are written with one of the two signs, in order. -/
def namesAfter (sigil : Sigil) : List Char → List (List Char)
  | [] => []
  | c :: cs =>
    let run := cs.takeWhile isWordChar
    if c = sigil.char ∧ ¬ run.isEmpty then run :: namesAfter sigil cs else namesAfter sigil cs

/-- The names that a response lets captures fill, in order. -/
def placeholders (response : String) : List String :=
  (namesAfter .dollar response.toList).map String.ofList

/-- The names that a response refers to leniently, in order. -/
def mentions (response : String) : List String :=
  (namesAfter .tilde response.toList).map String.ofList

end ScriptedDialog.Template
