import ScriptedDialog.Proofs.Cli.Drivers
import ScriptedDialog.Proofs.Dialog.Context
import ScriptedDialog.Proofs.Json.Reading
import ScriptedDialog.Proofs.Text.OneLine

/-! The output of asking, which is all or nothing. Replies, triggers and messages are put
out as JSON, which has no line feed whatever they hold, and is read back as what it stands
for. So the output can be cut at its line feeds and taken apart again. Nothing is put out
before the last turn, so that after a fault there is nothing but the fault. -/

namespace ScriptedDialog

open Text

/-! ### Texts as JSON -/

namespace Json

/-- The text that JSON stands for, or none where it is null. -/
def decode? (payload : String) : Option (Option String) :=
  match read? payload with
  | some .null => some none
  | some (.string (some s)) => some (some s)
  | _ => none

theorem plain_ofText? (s : Option String) : (ofText? s).Plain := by
  cases s with
  | none => simp [Plain, ofText?, tokens, Token.Plain]
  | some s => exact plain_text s

theorem decode?_compact (s : Option String) : decode? (ofText? s).compact = some s := by
  rw [decode?, read?_written (plain_ofText? s) (written_compact _)]
  cases s <;> rfl

/-- A line feed has an escape, and no escape has a line feed. -/
theorem lineFeed_not_mem_escapeChar (c : Char) : '\n' ∉ escapeChar c := by
  unfold escapeChar
  split
  case h_8 hfeed _ _ =>
    split
    · next hc =>
      have hhigh := lineFeed_ne_digitChar (c.toNat / 16) (by omega)
      have hlow := lineFeed_ne_digitChar (c.toNat % 16) (by omega)
      simp [hhigh, hlow]
    · simpa using Ne.symm hfeed
  all_goals decide

theorem oneLine_compact (s : Option String) : OneLine (ofText? s).compact := by
  rw [compact, oneLine_ofList_iff]
  cases s with
  | none => decide
  | some s =>
    show '\n' ∉ '"' :: s.toList.flatMap escapeChar ++ ['"'] ++ []
    simp [lineFeed_not_mem_escapeChar]

end Json

namespace Cli

/-! ### Lines -/

/-- The output is the lines, each ended by a line feed, if they are what it falls into when it
is cut at its line feeds. -/
def Prints (output : String) (lines : List String) : Prop :=
  output.toList.splitOn '\n' = lines.map String.toList ++ [[]]

theorem Prints.cons {output line : String} {lines : List String} (h : Prints output lines)
    (hline : OneLine line) : Prints (line ++ "\n" ++ output) (line :: lines) := by
  have htext : (line ++ "\n" ++ output).toList = line.toList ++ '\n' :: output.toList := by simp
  rw [Prints, htext, List.splitOn_append_cons_self_of_not_mem hline, h, List.map_cons,
    List.cons_append]

theorem Prints.replyLines {output : String} {lines : List String} (h : Prints output lines)
    (replies : List (Option String)) :
    Prints (String.join (replies.map replyLine) ++ output)
      (replies.map (fun reply => "REPLY_JSON:" ++ (Json.ofText? reply).compact) ++ lines) := by
  induction replies with
  | nil => simpa using h
  | cons reply replies ih =>
    have hline : OneLine ("REPLY_JSON:" ++ (Json.ofText? reply).compact) := by
      rw [oneLine_append_iff]
      exact ⟨by decide, Json.oneLine_compact reply⟩
    rw [List.map_cons, String.join_cons, String.append_assoc]
    exact ih.cons hline

theorem askOutput_eq (replies : List (Option String)) (d : Dialog) : askOutput replies d =
    "RESULT:OK" ++ "\n" ++ (String.join (replies.map replyLine) ++
      ("CONTEXT_JSON:" ++ (Json.ofText? d.contextTrigger?).compact ++ "\n")) := by
  have hmark : "RESULT:OK\n" = "RESULT:OK" ++ "\n" := by decide
  unfold askOutput
  rw [hmark]
  simp only [String.append_assoc]
  rfl

theorem prints_askOutput (replies : List (Option String)) (d : Dialog) :
    Prints (askOutput replies d) ("RESULT:OK" ::
      (replies.map (fun reply => "REPLY_JSON:" ++ (Json.ofText? reply).compact) ++
        ["CONTEXT_JSON:" ++ (Json.ofText? d.contextTrigger?).compact])) := by
  have hcontext : OneLine ("CONTEXT_JSON:" ++ (Json.ofText? d.contextTrigger?).compact) := by
    rw [oneLine_append_iff]
    exact ⟨by decide, Json.oneLine_compact _⟩
  have hend : Prints "" [] := rfl
  have hlines := ((hend.cons hcontext).replyLines replies).cons (by decide : OneLine "RESULT:OK")
  rwa [String.append_empty, ← askOutput_eq] at hlines

theorem oneLine_code (f : Fault) : OneLine f.code := by
  cases f <;> simp only [Fault.code] <;> decide

theorem faultBlock_eq (f : Fault) : faultBlock f = "RESULT:ERROR" ++ "\n" ++
    ("ERROR_CODE:" ++ f.code ++ "\n" ++
      ("ERROR_MSG_JSON:" ++ (Json.ofText? (some f.message)).compact ++ "\n")) := by
  have hcode : "RESULT:ERROR\nERROR_CODE:" = "RESULT:ERROR" ++ "\n" ++ "ERROR_CODE:" := by decide
  have hmessage : "\nERROR_MSG_JSON:" = "\n" ++ "ERROR_MSG_JSON:" := by decide
  unfold faultBlock
  rw [hcode, hmessage]
  simp only [String.append_assoc]
  rfl

theorem prints_faultBlock (f : Fault) :
    Prints (faultBlock f) ["RESULT:ERROR", "ERROR_CODE:" ++ f.code,
      "ERROR_MSG_JSON:" ++ (Json.ofText? (some f.message)).compact] := by
  have hcode : OneLine ("ERROR_CODE:" ++ f.code) := by
    rw [oneLine_append_iff]
    exact ⟨by decide, oneLine_code f⟩
  have hmessage : OneLine ("ERROR_MSG_JSON:" ++ (Json.ofText? (some f.message)).compact) := by
    rw [oneLine_append_iff]
    exact ⟨by decide, Json.oneLine_compact _⟩
  have hend : Prints "" [] := rfl
  have hlines := ((hend.cons hmessage).cons hcode).cons (by decide : OneLine "RESULT:ERROR")
  rwa [String.append_empty, ← faultBlock_eq] at hlines

/-- A line that begins as those on an error do neither reports success nor has a reply. -/
theorem no_reply_of_head? {line : String} (h : line.toList.head? = some 'E') :
    line ≠ "RESULT:OK" ∧ ¬ "REPLY_JSON:".toList <+: line.toList := by
  constructor
  · rintro rfl
    revert h
    decide
  · rintro ⟨rest, hrest⟩
    rw [← hrest] at h
    simp at h

/-! ### Asking -/

/-- The first thing that goes wrong when a script is asked: it cannot be read, or after some
turns without a fault a turn has one. -/
inductive FirstFault (read : ReadFile) (script : String) (g : Generator) (inputs : List String) :
    Fault → Prop
  | load {fault} (h : Load.dialog read script g = .error fault) :
      FirstFault read script g inputs fault
  | turn {d earlier input later fault} {replies : List (Option String)}
      (h : Load.dialog read script g = .ok d) (hinputs : inputs = earlier ++ input :: later)
      (hearlier : d.turnResults earlier = replies.map .ok)
      (hfault : ((d.afterAll (earlier.map .say)).turn input).1 = .error fault) :
      FirstFault read script g inputs fault

section
variable {read : ReadFile} {script : String} {g : Generator} {lowercase : Bool}
  {texts : List String}

theorem ask_of_firstFault {fault : Fault}
    (h : FirstFault read script g (texts.map (normalized lowercase)) fault) :
    (ask read script g lowercase texts).code = 1 ∧
      (ask read script g lowercase texts).output = faultBlock fault := by
  cases h with
  | load h => simp only [ask, h, and_self]
  | turn h hinputs hearlier hfault => exact ask_of_fault h hinputs hearlier hfault

/-- The context of a dialog that was loaded is a command, and is there if it has a trigger. -/
theorem contextTrigger?_eq_none_iff {d : Dialog} (h : Load.dialog read script g = .ok d)
    (moves : List Dialog.Move) :
    (d.afterAll moves).contextTrigger? = none ↔ (d.afterAll moves).context = none := by
  have hstart : d.Anchored := by
    unfold Load.dialog at h
    cases hs : Load.source read script with
    | error fault =>
      rw [hs] at h
      cases h
    | ok source =>
      rw [hs] at h
      cases h
      exact Dialog.anchored_of_none rfl
  have hanchored := Dialog.afterAll_induction (fun _ m h => h.after m) hstart moves
  rw [Dialog.contextTrigger?, Dialog.contextNode?, Option.map_eq_none_iff]
  cases hc : (d.afterAll moves).context with
  | none => simp
  | some id =>
    obtain ⟨-, node, hn, -⟩ := hanchored id hc
    simp [hn]

end

end Cli

end ScriptedDialog
