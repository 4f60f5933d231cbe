import ScriptedDialog.Proofs.Cli.Drivers
import ScriptedDialog.Proofs.Dialog.OneLine

/-! Line by line output. A dialog without line feeds has a description with one line for
each command and each variable, and cutting the description into lines loses nothing, even
where a trigger has a carriage return. A chat goes on with dialogs to which moves lead, so
that it never puts out more than one line for a reply. -/

namespace ScriptedDialog

open Text

/-! ### Lines of a description -/

theorem Value.isLine_describe {v : Value} (h : v.OneLine) : IsLine v.describe := by
  cases v with
  | list items => exact isLine_quotedList items
  | scalar text =>
    have htext : Text.OneLine text := h
    exact .append (by simp +decide [htext]) (by decide)

theorem Trigger.oneLine_kind (t : Trigger) : OneLine t.kind := by
  cases t <;> simp only [kind] <;> decide

theorem Node.isLine_describe {node : Node} (h : node.toCommand.OneLine) (id : CommandId) :
    IsLine (node.describe id) := by
  have hmargin : OneLine (.ofList (List.replicate (2 * node.level) ' ')) := by
    rw [oneLine_ofList_iff, List.mem_replicate]
    exact fun hc => absurd hc.2 (by decide)
  refine .append ?_ (.append ?_ (isLine_repr _))
  · simp +decide [h.1, node.trigger.oneLine_kind, hmargin]
  · simp +decide [h.2]

namespace Dialog

section
variable {d : Dialog} (hd : d.OneLine)
include hd

theorem OneLine.isLine_contextLabel : IsLine s!"Context: {d.contextLabel}" := by
  refine .append (by decide) ?_
  unfold contextLabel
  split
  · decide
  · next trigger htrigger =>
    obtain ⟨node, hnode, rfl⟩ := Option.map_eq_some_iff.mp htrigger
    obtain ⟨id, -, hid⟩ := Option.bind_eq_some_iff.mp hnode
    have hsource := (hd.get? hid).1
    exact .append (by simp +decide [hsource]) (by decide)

theorem OneLine.isLine_describe : ∀ line ∈ d.describeLines, IsLine line := by
  intro line hline
  simp only [describeLines, List.mem_append, List.mem_singleton, List.mem_map, Prod.exists] at hline
  rcases hline with (((rfl | ⟨node, id, hmem, rfl⟩) | rfl) | ⟨name, value, hmem, rfl⟩) | rfl
  · decide
  · have hnode : d.tree.get? id = some node := by
      simpa [Tree.get?] using List.mk_mem_zipIdx_iff_getElem?.mp hmem
    exact Node.isLine_describe (hd.get? hnode) id
  · decide
  · obtain ⟨hname, hvalue⟩ := hd.store _ hmem
    exact .append (by simp +decide [hname]) (Value.isLine_describe hvalue)
  · exact hd.isLine_contextLabel

theorem OneLine.lines_describe : lines d.describe.toList = d.describeLines.map String.toList :=
  lines_join hd.isLine_describe

end

theorem length_describeLines (d : Dialog) :
    d.describeLines.length = 3 + d.tree.size + d.store.size := by
  simp [describeLines, Tree.size, Store.size]
  omega

end Dialog

/-! ### Chats -/

namespace Cli

theorem descriptionOutput_eq {d : Dialog} (h : d.OneLine) : descriptionOutput d = d.describe := by
  rw [descriptionOutput, h.lines_describe, List.map_map, Dialog.describe]
  congr 2
  funext line
  simp only [Function.comp_apply, String.ofList_toList]

theorem chatStep_of_describe {lowercase : Bool} {d : Dialog} {line : String}
    (h : trimmed (withoutLineEnd line) = ":describe") :
    chatStep lowercase d line = ⟨descriptionOutput d, [], some d⟩ := by
  simp only [chatStep, h]

theorem chatTurn_of_reply {lowercase : Bool} {d : Dialog} {raw reply : String}
    (h : (d.turn (normalized lowercase raw)).1 = .ok (some reply)) :
    (chatTurn lowercase d raw).output = reply ++ "\n" := by
  have hturn : d.turn (normalized lowercase raw) = (.ok (some reply), _) := Prod.ext h rfl
  rw [chatTurn, hturn]

theorem next_chatTurn (lowercase : Bool) (d : Dialog) (raw : String) :
    (chatTurn lowercase d raw).next = some (d.after (.say (normalized lowercase raw))) := by
  rw [chatTurn, Dialog.after]
  rcases d.turn (normalized lowercase raw) with ⟨⟨fault⟩ | ⟨_ | reply⟩, e⟩ <;> rfl

/-- What a chat goes on with comes from at most one move. -/
theorem exists_moves_of_next {lowercase : Bool} {d e : Dialog} {line : String}
    (h : (chatStep lowercase d line).next = some e) : ∃ moves, e = d.afterAll moves := by
  unfold chatStep at h
  simp only at h
  split at h
  · exact ⟨[], (Option.some.inj h).symm⟩
  · exact ⟨[], (Option.some.inj h).symm⟩
  · exact ⟨[.reset], (Option.some.inj h).symm⟩
  · cases h
  · rw [next_chatTurn] at h
    exact ⟨[.say _], (Option.some.inj h).symm⟩

/-- Whatever is said to a dialog, no trigger, response, variable or reply has a line feed.
So its description has a line for each command and each variable besides the two headings
and the context. A chat puts the description out as it is, and each reply as one line, and
goes on with a dialog of which the same holds. -/
theorem ofSource_oneLine (source : String) (g : Generator) (moves : List Dialog.Move) :
    let d := (Dialog.ofSource source g).afterAll moves
    (∀ id node, d.tree.get? id = some node →
      OneLine node.trigger.source ∧ OneLine node.response) ∧
    (∀ name value, d.store.get? name = some value → OneLine name ∧ value.OneLine) ∧
    (∀ input reply, (d.turn input).1 = .ok (some reply) → OneLine reply) ∧
    (lines d.describe.toList).length = 3 + d.tree.size + d.store.size ∧
    ∀ (lowercase : Bool) (line : String),
      let raw := withoutLineEnd line
      (trimmed raw = ":describe" → (chatStep lowercase d line).output = d.describe) ∧
      (trimmed raw ∉ colonCommands → ∀ reply,
        (d.turn (normalized lowercase raw)).1 = .ok (some reply) →
          (chatStep lowercase d line).output = reply ++ "\n" ∧ OneLine reply) ∧
      ∀ e, (chatStep lowercase d line).next = some e → ∃ later, e = d.afterAll later := by
  intro d
  have hd : d.OneLine := (Dialog.oneLine_ofSource source g).afterAll moves
  refine ⟨fun id node hn => hd.get? hn, fun name value hv => ?_,
    fun input reply hr => hd.reply hr, ?_, fun lowercase line => ⟨?_, ?_, fun e he => ?_⟩⟩
  · exact hd.store _ (Store.mem_of_find?_eq_some hv)
  · rw [hd.lines_describe, List.length_map, d.length_describeLines]
  · intro hline
    rw [chatStep_of_describe hline, descriptionOutput_eq hd]
  · intro hline reply hr
    rw [chatStep_of_not_mem hline]
    exact ⟨chatTurn_of_reply hr, hd.reply hr⟩
  · exact exists_moves_of_next he

-- A hole takes a word, and not the line feeds around it.
example : ((Dialog.ofSource "u: (i am _) : hi $name" (.ofSeed 7)).turn "i am\nbob\nsmith").1 =
    .ok (some "hi bob") := by decide +kernel

end Cli

end ScriptedDialog
