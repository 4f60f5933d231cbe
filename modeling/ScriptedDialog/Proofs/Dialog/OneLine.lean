import ScriptedDialog.Proofs.Command.Compiling
import ScriptedDialog.Proofs.Dialog.Commit
import ScriptedDialog.Proofs.Dialog.Variables
import ScriptedDialog.Proofs.Script.LineShapes
import ScriptedDialog.Proofs.Template.OneLine
import ScriptedDialog.Proofs.Trigger.Shapes

/-! Dialogs without line feeds. Each statement of a script is taken from one line, and what
a turn assigns is a word that it captures, not the input as a whole. So no text of a dialog
that a script leads to has a line feed, and no reply, whatever is said. -/

namespace ScriptedDialog

/-! ### Statements -/

namespace Script

theorem unwrap_sublist (cs : List Char) : (unwrap cs).Sublist cs := by
  have hbody := Text.trim_sublist cs
  unfold unwrap
  simp only
  split
  · exact (Text.trim_sublist _).trans <| (List.dropLast_sublist _).trans <|
      (List.tail_sublist _).trans hbody
  · exact hbody

namespace Statement

theorem IsDeclaration.subset {cs name text : List Char} (h : IsDeclaration cs name text) :
    name ⊆ cs ∧ text ⊆ cs := by
  cases h
  constructor <;> intro c hc <;> simp [hc]

theorem IsCommand.subset {cs digits inner text : List Char} (h : IsCommand cs digits inner text) :
    inner ⊆ cs ∧ text ⊆ cs := by
  cases h
  constructor <;> intro c hc <;> simp [hc]

/-- No text of the statement has a line feed. -/
def OneLine : Statement → Prop
  | .declaration name value _ => Text.OneLine name ∧ Text.OneLine value
  | .command _ trigger response _ => Text.OneLine trigger ∧ Text.OneLine response

theorem oneLine_of_ofLine {line : SourceLine} (h : IsEnding line.text.toList) {s : Statement}
    (hread : ofLine line = .ok s) : s.OneLine := by
  cases s with
  | declaration name value n =>
    obtain ⟨-, text, hshape, hvalue⟩ := (ofLine_eq_declaration_iff h).mp hread
    refine ⟨fun hm => h.one_line (hshape.subset.1 hm), fun hm => h.one_line (hshape.subset.2 ?_)⟩
    exact (Text.trim_sublist text).subset (hvalue ▸ hm)
  | command level trigger response n =>
    obtain ⟨-, digits, inner, text, hshape, -, -, htrigger, hresponse⟩ :=
      (ofLine_eq_command_iff h).mp hread
    constructor
    · intro hm
      exact h.one_line (hshape.subset.1 ((Text.trim_sublist inner).subset (htrigger ▸ hm)))
    · intro hm
      exact h.one_line (hshape.subset.2 ((unwrap_sublist text).subset (hresponse ▸ hm)))

end Statement

theorem oneLine_of_mem_statements {source : String} {s : Statement}
    (h : s ∈ (ofSource source).statements) : s.OneLine := by
  obtain ⟨line, hline, hread⟩ := mem_statements.mp h
  exact Statement.oneLine_of_ofLine (isPlain_of_mem_instructionLines hline).2.isEnding hread

end Script

/-! ### Scripts -/

/-- No text of the command has a line feed. -/
def Command.OneLine (c : Command) : Prop :=
  Text.OneLine c.trigger.source ∧ Text.OneLine c.response

namespace Store

/-- No name and no value has a line feed. -/
def OneLine (s : Store) : Prop := ∀ e ∈ s.entries, Text.OneLine e.1 ∧ e.2.OneLine

theorem OneLine.setAll {s : Store} (hs : s.OneLine) {assignments : List (String × Value)}
    (h : ∀ a ∈ assignments, Text.OneLine a.1 ∧ a.2.OneLine) : (s.setAll assignments).OneLine := by
  induction assignments generalizing s with
  | nil => exact hs
  | cons a later ih =>
    obtain ⟨ha, hlater⟩ := List.forall_mem_cons.mp h
    refine @ih (s.set a.1 a.2) (fun e he => ?_) hlater
    rcases mem_insert he with rfl | he
    · exact ha
    · exact hs e he

theorem OneLine.get? {s : Store} (hs : s.OneLine) {name : String} {value : Value}
    (h : s.get? name = some value) : value.OneLine :=
  (hs _ (mem_of_find?_eq_some h)).2

end Store

theorem Compiled.oneLine_of_mem_commands {source : String} {c : Command}
    (h : c ∈ (ofSource source).tree.commands) : c.OneLine := by
  obtain ⟨s, hs, hc⟩ := exists_statement_of_mem_commands h
  obtain ⟨text, rfl, htext⟩ := Script.Statement.command?_eq_some_iff.mp hc
  obtain ⟨htrigger, hresponse⟩ := Script.oneLine_of_mem_statements hs
  exact ⟨by rwa [Trigger.source_ofText htext], hresponse⟩

theorem Compiled.oneLine_store (source : String) : (ofSource source).store.OneLine := by
  have hempty : Store.empty.OneLine := nofun
  rw [store_ofSource]
  refine hempty.setAll ?_
  rintro ⟨name, value⟩ hdeclared
  obtain ⟨text, n, hs, rfl⟩ := Script.Statement.mem_filterMap_declared?.mp hdeclared
  obtain ⟨hname, htext⟩ := Script.oneLine_of_mem_statements hs
  exact ⟨hname, Value.oneLine_ofText htext⟩

/-! ### Dialogs -/

namespace Dialog

/-- No text of the dialog has a line feed. -/
structure OneLine (d : Dialog) : Prop where
  commands : ∀ c ∈ d.tree.commands, c.OneLine
  store : d.store.OneLine

theorem oneLine_ofSource (source : String) (g : Generator) : (ofSource source g).OneLine :=
  ⟨fun _ hc => Compiled.oneLine_of_mem_commands hc, Compiled.oneLine_store source⟩

section
variable {d : Dialog} (hd : d.OneLine)
include hd

/-- The input may have line feeds, but what is captured of it has none. -/
theorem OneLine.after (m : Move) : (d.after m).OneLine := by
  refine ⟨by rw [tree_after]; exact hd.commands, ?_⟩
  rw [store_after]
  refine hd.store.setAll fun a ha => ?_
  obtain ⟨text, hb, hvalue⟩ := mem_assignments.mp ha
  obtain ⟨input, -, hname, htext, -⟩ := Step.isName_of_bound hb
  rw [hvalue]
  exact ⟨Text.oneLine_of_isName hname, Text.oneLine_of_isName htext⟩

omit hd in
theorem OneLine.afterAll (hd : d.OneLine) (moves : List Move) : (d.afterAll moves).OneLine :=
  afterAll_induction (fun _ m h => h.after m) hd moves

theorem OneLine.get? {id : CommandId} {node : Node} (h : d.tree.get? id = some node) :
    node.toCommand.OneLine :=
  hd.commands _ (Tree.mem_commands_of_get? h)

/-- The reply is resolved on the variables that the turn leaves. -/
theorem OneLine.reply {input reply : String} (h : (d.turn input).1 = .ok (some reply)) :
    Text.OneLine reply := by
  obtain ⟨id, b, node, g, -, hn, hr, hafter⟩ := turn_of_reply h
  have hstore : (d.advance id node b g).store.OneLine := hafter ▸ (hd.after (.say input)).store
  rw [← Store.get?_setAll, ← store_advance d id node b g] at hr
  exact Template.oneLine_of_resolve (fun _ _ hv => hstore.get? hv) (hd.get? hn).2 hr

end

end Dialog

end ScriptedDialog
