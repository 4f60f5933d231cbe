import Mathlib.Data.List.DropRight
import ScriptedDialog.Cli.Program
import ScriptedDialog.Proofs.Cli.InputLines
import ScriptedDialog.Proofs.Dialog.Atomic
import ScriptedDialog.TestCase.Run

/-! The three ways to drive a dialog: asking, chatting and running a test case. On the
same script, seed and texts they take the same turns. Asking and running stop at the
first turn that fails, with its fault; a chat reports the fault and goes on from the
dialog that the turn leaves, which is the one before it but for what was drawn. -/

namespace ScriptedDialog

/-! ### Results of turns -/

namespace Dialog

/-- The results of turns taken one after the other, whether they fail or not. -/
def turnResults (d : Dialog) : List String → List (Except Fault (Option String))
  | [] => []
  | input :: inputs => (d.turn input).1 :: turnResults (d.turn input).2 inputs

theorem length_turnResults (d : Dialog) (inputs : List String) :
    (d.turnResults inputs).length = inputs.length := by
  induction inputs generalizing d with
  | nil => rfl
  | cons input inputs ih => rw [turnResults, List.length_cons, ih, List.length_cons]

theorem length_of_turnResults {d : Dialog} {inputs : List String} {replies : List (Option String)}
    (h : d.turnResults inputs = replies.map .ok) : replies.length = inputs.length := by
  rw [← d.length_turnResults inputs, h, List.length_map]

theorem turnResults_append (d : Dialog) (earlier later : List String) :
    d.turnResults (earlier ++ later) =
      d.turnResults earlier ++ (d.afterAll (earlier.map .say)).turnResults later := by
  induction earlier generalizing d with
  | nil => rfl
  | cons input earlier ih =>
    show (d.turn input).1 :: (d.turn input).2.turnResults (earlier ++ later) = _
    rw [ih]
    rfl

/-- If no turn fails, the first does not and neither do those after it. -/
theorem turnResults_cons_eq_map_ok {d : Dialog} {input : String} {inputs : List String}
    {replies : List (Option String)} (h : d.turnResults (input :: inputs) = replies.map .ok) :
    ∃ reply later, replies = reply :: later ∧ d.turn input = (.ok reply, d.after (.say input)) ∧
      (d.after (.say input)).turnResults inputs = later.map .ok := by
  cases replies with
  | nil => cases h
  | cons reply later =>
    obtain ⟨hturn, hlater⟩ := List.cons.inj h
    exact ⟨reply, later, rfl, Prod.ext hturn rfl, hlater⟩

/-- Either no turn fails or there is a first one that does. -/
theorem exists_replies (d : Dialog) (inputs : List String) :
    (∃ replies : List (Option String), d.turnResults inputs = replies.map .ok) ∨
      ∃ earlier input later, ∃ replies : List (Option String), ∃ fault,
        inputs = earlier ++ input :: later ∧ d.turnResults earlier = replies.map .ok ∧
        ((d.afterAll (earlier.map .say)).turn input).1 = .error fault := by
  induction inputs generalizing d with
  | nil => exact Or.inl ⟨[], rfl⟩
  | cons input inputs ih =>
    cases hr : (d.turn input).1 with
    | error fault => exact Or.inr ⟨[], input, inputs, [], fault, rfl, rfl, hr⟩
    | ok reply =>
      have hcons {replies : List (Option String)} {rest : List String}
          (h : (d.turn input).2.turnResults rest = replies.map .ok) :
          d.turnResults (input :: rest) = (reply :: replies).map .ok :=
        congrArg₂ List.cons hr h
      rcases ih (d.turn input).2 with hall | hfirst
      · obtain ⟨replies, h⟩ := hall
        exact Or.inl ⟨reply :: replies, hcons h⟩
      · obtain ⟨earlier, failing, later, replies, fault, rfl, h, hf⟩ := hfirst
        exact Or.inr ⟨input :: earlier, failing, later, reply :: replies, fault, rfl, hcons h, hf⟩

end Dialog

/-! ### Asking and running -/

section
variable {d : Dialog} {earlier : List String} {replies : List (Option String)}

theorem Cli.askAll_append (h : d.turnResults earlier = replies.map .ok) (later : List String) :
    askAll d (earlier ++ later) =
      (askAll (d.afterAll (earlier.map .say)) later).map fun (more, e) => (replies ++ more, e) := by
  induction earlier generalizing d replies with
  | nil =>
    obtain rfl : replies = [] := List.map_eq_nil_iff.mp h.symm
    show askAll d later = (askAll d later).map id
    cases askAll d later <;> rfl
  | cons input earlier ih =>
    obtain ⟨reply, replies, rfl, hturn, hlater⟩ := Dialog.turnResults_cons_eq_map_ok h
    rw [List.cons_append, askAll, hturn]
    show (askAll (d.after (.say input)) (earlier ++ later)).map _ = _
    rw [ih hlater]
    show _ = (askAll ((d.after (.say input)).afterAll (earlier.map .say)) later).map _
    cases askAll ((d.after (.say input)).afterAll (earlier.map .say)) later <;> rfl

theorem TestCase.replies_append (h : d.turnResults earlier = replies.map .ok) (index : Nat)
    (later : List String) :
    TestCase.replies d index (earlier ++ later) =
      (TestCase.replies (d.afterAll (earlier.map .say)) (index + earlier.length) later).map
        (replies ++ ·) := by
  induction earlier generalizing d replies index with
  | nil =>
    obtain rfl : replies = [] := List.map_eq_nil_iff.mp h.symm
    show TestCase.replies d index later = (TestCase.replies d index later).map id
    cases TestCase.replies d index later <;> rfl
  | cons input earlier ih =>
    obtain ⟨reply, replies, rfl, hturn, hlater⟩ := Dialog.turnResults_cons_eq_map_ok h
    rw [List.cons_append, TestCase.replies, hturn]
    show (TestCase.replies (d.after (.say input)) (index + 1) (earlier ++ later)).map _ = _
    have hindex : index + 1 + earlier.length = index + (input :: earlier).length := by
      rw [List.length_cons]
      omega
    rw [ih hlater, hindex]
    show _ = (TestCase.replies ((d.after (.say input)).afterAll (earlier.map .say)) _ later).map _
    cases TestCase.replies ((d.after (.say input)).afterAll (earlier.map .say))
      (index + (input :: earlier).length) later <;> rfl

variable {read : ReadFile} {script directory : String} {g : Generator} {lowercase : Bool}
  {texts later : List String} {input : String} {fault : Fault}

theorem Cli.ask_of_replies (hload : Load.dialog read script g = .ok d)
    (h : d.turnResults (texts.map (normalized lowercase)) = replies.map .ok) :
    (ask read script g lowercase texts).code = 0 ∧
      (ask read script g lowercase texts).output =
        askOutput replies (d.afterAll ((texts.map (normalized lowercase)).map .say)) := by
  have hall := askAll_append h []
  rw [List.append_nil] at hall
  simp only [ask, hload, hall, askAll]
  show _ ∧ askOutput (replies ++ []) _ = _
  rw [List.append_nil]
  exact ⟨rfl, rfl⟩

theorem Cli.ask_of_fault (hload : Load.dialog read script g = .ok d)
    (htexts : texts.map (normalized lowercase) = earlier ++ input :: later)
    (h : d.turnResults earlier = replies.map .ok)
    (hf : ((d.afterAll (earlier.map .say)).turn input).1 = .error fault) :
    (ask read script g lowercase texts).code = 1 ∧
      (ask read script g lowercase texts).output = faultBlock fault := by
  have hall := askAll_append h (input :: later)
  have hturn : (d.afterAll (earlier.map .say)).turn input = (.error fault, _) := Prod.ext hf rfl
  rw [askAll, hturn] at hall
  simp only [ask, hload, htexts, hall]
  exact ⟨rfl, rfl⟩

theorem TestCase.run_of_replies {c : TestCase}
    (hload : Load.dialog read (Files.Path.join directory c.script) (.ofSeed c.randomSeed) = .ok d)
    (h : d.turnResults (c.turns.map (·.input)) = replies.map .ok) :
    c.run read directory = .ok ⟨replies, d.diagnostics.map (·.fault.code)⟩ := by
  have hall := replies_append h 0 []
  rw [List.append_nil] at hall
  simp only [run, hload, hall, TestCase.replies]
  show Except.ok (Report.mk (replies ++ []) _) = _
  rw [List.append_nil]

theorem TestCase.run_of_fault {c : TestCase}
    (hload : Load.dialog read (Files.Path.join directory c.script) (.ofSeed c.randomSeed) = .ok d)
    (hturns : c.turns.map (·.input) = earlier ++ input :: later)
    (h : d.turnResults earlier = replies.map .ok)
    (hf : ((d.afterAll (earlier.map .say)).turn input).1 = .error fault) :
    c.run read directory = .error (.turn earlier.length input fault) := by
  have hall := replies_append h 0 (input :: later)
  have hturn : (d.afterAll (earlier.map .say)).turn input = (.error fault, _) := Prod.ext hf rfl
  rw [TestCase.replies, hturn, Nat.zero_add] at hall
  simp only [run, hload, hturns, hall]
  rfl

end

/-! ### Chatting -/

namespace Cli

/-- The lines that a chat obeys. -/
def colonCommands : List String := [":help", ":describe", ":reset", ":quit"]

/-- A text that, typed as a line, is a turn. -/
structure IsTurn (text : String) : Prop where
  noLineFeed : '\n' ∉ text.toList
  noReturn : text.toList.getLast? ≠ some '\r'
  noCommand : Text.trimmed text ∉ colonCommands

instance (text : String) : Decidable (IsTurn text) :=
  decidable_of_iff ('\n' ∉ text.toList ∧ text.toList.getLast? ≠ some '\r' ∧
      Text.trimmed text ∉ colonCommands)
    ⟨fun ⟨hfeed, hreturn, hcommand⟩ => ⟨hfeed, hreturn, hcommand⟩,
      fun h => ⟨h.noLineFeed, h.noReturn, h.noCommand⟩⟩

/-- A text in lower case, if that is asked for. -/
def cased (lowercase : Bool) (text : String) : String :=
  if lowercase then Text.lowercase text else text

/-- What a chat puts out for the result of a turn. -/
def shown : Except Fault (Option String) → String
  | .ok (some reply) => reply ++ "\n"
  | .ok none => ""
  | .error fault => s!"[{fault.code}] {fault.message}\n"

/-- The output of a chat that consists of turns, with a prompt before each and one
before the end of the input. -/
def chatOutput (results : List (Except Fault (Option String))) : String :=
  String.join (results.map fun r => prompt ++ shown r) ++ (prompt ++ "\n")

theorem withoutLineEnd_eq {text : String} (h : IsTurn text) : withoutLineEnd text = text := by
  have hdrop : text.toList.rdropWhile (fun c => c = '\r' || c = '\n') = text.toList := by
    rw [List.rdropWhile_eq_self_iff]
    intro hne
    have hlast := List.getLast?_eq_some_getLast hne
    simp only [Bool.or_eq_true, decide_eq_true_eq]
    rintro (hc | hc)
    · exact h.noReturn (hlast.trans (congrArg some hc))
    · exact h.noLineFeed (hc ▸ List.getLast_mem hne)
  show String.ofList (text.toList.rdropWhile _) = text
  rw [hdrop, String.ofList_toList]

theorem withoutLineEnd_typed {text : String} (h : IsTurn text) :
    withoutLineEnd (text ++ "\n") = text := by
  have hdrop : (text ++ "\n").toList.rdropWhile (fun c => c = '\r' || c = '\n') =
      text.toList.rdropWhile (fun c => c = '\r' || c = '\n') := by
    rw [String.toList_append]
    exact List.rdropWhile_concat_pos _ _ _ rfl
  show String.ofList ((text ++ "\n").toList.rdropWhile _) = text
  rw [hdrop]
  exact withoutLineEnd_eq h

theorem normalized_eq (lowercase : Bool) {text : String} (h : IsTurn text) :
    normalized lowercase text = cased lowercase text := by
  rw [normalized, withoutLineEnd_eq h, cased]

theorem chatStep_of_not_mem {lowercase : Bool} {d : Dialog} {line : String}
    (h : Text.trimmed (withoutLineEnd line) ∉ colonCommands) :
    chatStep lowercase d line = chatTurn lowercase d (withoutLineEnd line) := by
  rw [chatStep]
  split
  iterate 4 next hc => exact absurd (hc ▸ by decide) h
  rfl

/-- A line that is a turn is put to the dialog, and its result is shown. -/
theorem chatStep_typed (lowercase : Bool) (d : Dialog) {text : String} (h : IsTurn text) :
    (chatStep lowercase d (text ++ "\n")).output = shown (d.turn (cased lowercase text)).1 ∧
      (chatStep lowercase d (text ++ "\n")).next = some (d.turn (cased lowercase text)).2 := by
  have hline := withoutLineEnd_typed h
  have hcommand : Text.trimmed (withoutLineEnd (text ++ "\n")) ∉ colonCommands := by
    rw [hline]
    exact h.noCommand
  rw [chatStep_of_not_mem hcommand, hline, chatTurn, normalized_eq lowercase h]
  rcases d.turn (cased lowercase text) with ⟨⟨fault⟩ | ⟨_ | reply⟩, e⟩ <;> exact ⟨rfl, rfl⟩

theorem chatLines_typed (lowercase : Bool) (d : Dialog) {texts : List String}
    (h : ∀ text ∈ texts, IsTurn text) :
    (chatLines lowercase d (texts.map fun text => .ok (text ++ "\n"))).output =
      chatOutput (d.turnResults (texts.map (cased lowercase))) := by
  induction texts generalizing d with
  | nil => rfl
  | cons text texts ih =>
    obtain ⟨htext, htexts⟩ := List.forall_mem_cons.mp h
    obtain ⟨houtput, hnext⟩ := chatStep_typed lowercase d htext
    rw [List.map_cons, chatLines]
    simp only [hnext, houtput]
    rw [ih _ htexts]
    simp [chatOutput, Dialog.turnResults, String.join_cons, String.append_assoc]

/-- A chat on lines that can be read ends well, whatever they are. -/
theorem code_chatLines (lowercase : Bool) (d : Dialog) (lines : List String) :
    (chatLines lowercase d (lines.map .ok)).code = 0 := by
  induction lines generalizing d with
  | nil => rfl
  | cons line lines ih =>
    rw [List.map_cons, chatLines]
    cases hnext : (chatStep lowercase d line).next with
    | none => rfl
    | some e => exact ih e

/-! ### All three -/

/-- A chat on valid text ends well, whatever its script and its lines are. -/
theorem code_chat (read : ReadFile) (entropy : UInt64) (origin : Source) (lowercase : Bool)
    {bytes : ByteArray} (h : bytes.IsValidUTF8) :
    (Command.run read entropy bytes (.chat origin lowercase)).code = 0 := by
  have hlines : inputLines bytes = _ := inputLines_toUTF8 (.ofByteArray bytes h)
  have hcode := code_chatLines lowercase (chatStart read origin.script (origin.generator entropy)).1
    ((textLines (String.ofByteArray bytes h).toList).map String.ofList)
  rw [List.map_map] at hcode
  show (chatLines lowercase _ (inputLines bytes)).code = 0
  rw [hlines]
  exact hcode

theorem output_chat_typed {read : ReadFile} {script : String} {g : Generator} {d : Dialog}
    (hload : Load.dialog read script g = .ok d) (lowercase : Bool) {texts : List String}
    (h : ∀ text ∈ texts, IsTurn text) :
    (chat read script g lowercase (inputLines (typed texts))).output =
      greeting ++ chatOutput (d.turnResults (texts.map (cased lowercase))) := by
  have hstart : (chatStart read script g).1 = d := by rw [chatStart, hload]
  have hlines : inputLines (typed texts) = texts.map fun text => .ok (text ++ "\n") :=
    inputLines_typed fun text htext => (h text htext).noLineFeed
  show greeting ++ (chatLines lowercase (chatStart read script g).1 _).output = _
  rw [hstart, hlines, chatLines_typed lowercase d h]

end Cli

end ScriptedDialog
