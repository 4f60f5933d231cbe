import Mathlib.Logic.Relation
import ScriptedDialog.Proofs.Script.Appending
import ScriptedDialog.Proofs.Script.LineShapes

/-! Instructions as what stands on a line before its comment, without the blanks around it. A
line counts for its number whether it holds an instruction or not. So blanks around a line and
a comment behind it have no influence on what a script compiles to. -/

namespace ScriptedDialog

namespace Text

/-! ### Physical lines -/

/-- A text with its lines. Each of them has its line end, a line feed or a carriage return and
a line feed, but for a last line that is not empty. -/
inductive Lined : List Char → List (List Char) → Prop where
  | nil : Lined [] []
  | last {line} (ne_nil : line ≠ []) (one_line : '\n' ∉ line) : Lined line [line]
  | feed {line rest later} (one_line : '\n' ∉ line) (no_return : line.getLast? ≠ some '\r')
      (rest_lined : Lined rest later) : Lined (line ++ '\n' :: rest) (line :: later)
  | returnFeed {line rest later} (one_line : '\n' ∉ line) (rest_lined : Lined rest later) :
      Lined (line ++ '\r' :: '\n' :: rest) (line :: later)

/-- A carriage return before a line feed belongs to the line end. -/
theorem lines_append_return {line : List Char} (hn : '\n' ∉ line) (rest : List Char) :
    lines (line ++ '\r' :: '\n' :: rest) = line :: lines rest := by
  induction line with
  | nil =>
    rw [List.nil_append, lines_return rfl, lines_lineFeed]
  | cons c cs ih =>
    obtain ⟨hc, hcs⟩ := not_or.mp (mt List.mem_cons.mpr hn)
    have hreturn : ¬ (c = '\r' ∧ (cs ++ '\r' :: '\n' :: rest).head? = some '\n') := by
      rintro ⟨-, hhead⟩
      cases cs with
      | nil => cases hhead
      | cons d ds => exact hcs (List.mem_of_head? hhead)
    rw [List.cons_append, lines_cons (Ne.symm hc) hreturn, ih hcs]
    rfl

theorem Lined.lines_eq {cs : List Char} {ls : List (List Char)} (h : Lined cs ls) :
    lines cs = ls := by
  induction h with
  | nil => rfl
  | last ne_nil one_line => exact lines_eq_singleton one_line ne_nil
  | feed one_line no_return _ ih => rw [lines_append one_line no_return, ih]
  | returnFeed one_line _ ih => rw [lines_append_return one_line, ih]

/-- Every text has its lines: the first goes up to the first line feed, and what stands behind
that is shorter. -/
theorem exists_lined (cs : List Char) : ∃ ls, Lined cs ls := by
  induction hn : cs.length using Nat.strongRecOn generalizing cs with
  | ind n ih =>
    by_cases hmem : '\n' ∈ cs
    · obtain ⟨front, rest, rfl, hfront⟩ := List.eq_append_cons_of_mem hmem
      have hlt : rest.length < n := by
        rw [← hn, List.length_append, List.length_cons]
        omega
      obtain ⟨later, hlater⟩ := ih _ hlt rest rfl
      by_cases hreturn : front.getLast? = some '\r'
      · obtain ⟨line, rfl⟩ := List.getLast?_eq_some_iff.mp hreturn
        rw [List.append_assoc]
        exact ⟨line :: later, .returnFeed (fun h => hfront (List.mem_append_left _ h)) hlater⟩
      · exact ⟨front :: later, .feed hfront hreturn hlater⟩
    · by_cases hne : cs = []
      · exact ⟨[], hne ▸ .nil⟩
      · exact ⟨[cs], .last hne hmem⟩

theorem lined_iff {cs : List Char} {ls : List (List Char)} : Lined cs ls ↔ lines cs = ls := by
  constructor
  · exact Lined.lines_eq
  · rintro rfl
    obtain ⟨ls, h⟩ := exists_lined cs
    exact h.lines_eq.symm ▸ h

end Text

namespace Script

open Text

/-! ### What is kept of a line -/

/-- What stands on a line before its comment, without the blanks around it. -/
def kept (line : List Char) : List Char := trim (line.takeWhile (· ≠ '#'))

theorem kept_blanks {left right : List Char} (hleft : ∀ c ∈ left, isBlank c = true)
    (hright : ∀ c ∈ right, isBlank c = true) (line : List Char) :
    kept (left ++ (line ++ right)) = kept line := by
  have hmark : ∀ c, isBlank c = true → decide (c ≠ '#') = true := by
    intro c hc
    refine decide_eq_true ?_
    rintro rfl
    exact absurd hc (by decide)
  unfold kept
  rw [List.takeWhile_append_of_pos fun c hc => hmark c (hleft c hc), trim_blanks_append hleft,
    List.takeWhile_append]
  split
  · next hlength =>
    have hall : line.takeWhile (· ≠ '#') = line := (List.takeWhile_prefix _).eq_of_length hlength
    rw [hall, List.takeWhile_eq_self_iff.mpr fun c hc => hmark c (hright c hc),
      trim_append_blanks hright]
  · rfl

theorem kept_append_comment (line text : List Char) : kept (line ++ '#' :: text) = kept line := by
  unfold kept
  rw [List.takeWhile_append]
  split
  · next hlength =>
    have hall : line.takeWhile (· ≠ '#') = line := (List.takeWhile_prefix _).eq_of_length hlength
    rw [hall]
    simp
  · rfl

/-- A trimmed text is kept up to its comment but for the blanks before that. -/
theorem kept_trim (line : List Char) :
    kept (trim line) = trimEnd ((trim line).takeWhile (· ≠ '#')) := by
  have hstart : trimStart ((trim line).takeWhile (· ≠ '#')) = (trim line).takeWhile (· ≠ '#') := by
    refine trimStart_eq_self_iff.mpr fun c hc => ?_
    rw [List.head?_takeWhile] at hc
    exact not_isBlank_of_head?_trim (Option.filter_eq_some_iff.mp hc).1
  rw [kept, trim, hstart]

/-- The instruction on a line is what is kept of it, unless that is nothing. -/
theorem instruction?_eq (line : List Char) :
    instruction? line = if kept line = [] then none else some (kept line) := by
  have hkept : trimEnd ((trim line).takeWhile (· ≠ '#')) = kept line := by
    obtain ⟨left, right, hleft, hright, hline⟩ := exists_blanks_trim line
    calc trimEnd ((trim line).takeWhile (· ≠ '#')) = kept (trim line) := (kept_trim line).symm
      _ = kept (left ++ (trim line ++ right)) := (kept_blanks hleft hright _).symm
      _ = kept line := congrArg kept hline.symm
  unfold instruction?
  simp only [hkept, List.isEmpty_iff]
  split
  · next hcomment =>
    have hnil : kept line = [] := by
      obtain ⟨after, hbody⟩ := List.head?_eq_some_iff.mp hcomment
      rw [← hkept, hbody]
      rfl
    rw [if_pos hnil]
  · rfl

theorem numbered?_congr {line line' : List Char} (h : kept line' = kept line) (n : Nat) :
    numbered? (line', n) = numbered? (line, n) := by
  simp only [numbered?, instruction?_eq, h]

/-! ### Changes to a source -/

/-- What stands behind a line, and the lines after it. The last line need not have a line
end. -/
inductive Behind : List Char → List Char → Prop where
  | nothing : Behind [] []
  | feed (rest) : Behind ('\n' :: rest) rest
  | returnFeed (rest) : Behind ('\r' :: '\n' :: rest) rest

theorem numbered?_cons (line : List Char) (later : List (List Char)) (n : Nat) :
    ((line :: later).zipIdx n).filterMap numbered? =
      (numbered? (line, n)).toList ++ (later.zipIdx (n + 1)).filterMap numbered? := by
  cases hl : numbered? (line, n) <;> simp [hl]

theorem Behind.numbered_lines {after rest : List Char} (h : Behind after rest) {line : List Char}
    (hn : '\n' ∉ line) (n : Nat) : ((lines (line ++ after)).zipIdx n).filterMap numbered? =
      (numbered? (line, n)).toList ++ ((lines rest).zipIdx (n + 1)).filterMap numbered? := by
  cases h with
  | nothing =>
    rw [List.append_nil]
    by_cases hne : line = []
    · subst hne
      rfl
    · rw [lines_eq_singleton hn hne, numbered?_cons, lines_nil]
  | feed =>
    by_cases hreturn : line.getLast? = some '\r'
    · -- The carriage return goes to the line end. It is a blank, so that nothing is lost.
      obtain ⟨front, rfl⟩ := List.getLast?_eq_some_iff.mp hreturn
      have hblank : ∀ c ∈ ['\r'], isBlank c = true := List.forall_mem_singleton.mpr (by decide)
      have hkept : kept (front ++ ['\r']) = kept front := @kept_blanks [] _ nofun hblank front
      rw [List.append_assoc, List.singleton_append,
        lines_append_return fun hm => hn (List.mem_append_left _ hm), numbered?_cons,
        numbered?_congr hkept]
    · rw [lines_append hn hreturn, numbered?_cons]
  | returnFeed => rw [lines_append_return hn, numbered?_cons]

/-- A source by the instructions before a line, on the line and behind it. -/
theorem instructionLines_split {before line after rest : List Char} (hb : Ended before)
    (ha : Behind after rest) (hn : '\n' ∉ line) :
    instructionLines (String.ofList (before ++ (line ++ after))) =
      ((lines before).zipIdx 1).filterMap numbered? ++
        ((numbered? (line, 1 + (lines before).length)).toList ++
          ((lines rest).zipIdx (1 + (lines before).length + 1)).filterMap numbered?) := by
  rw [instructionLines_eq_filterMap, String.toList_ofList, lines_append_of_ended hb,
    List.zipIdx_append, List.filterMap_append, ha.numbered_lines hn]

/-- A line counts only for what is kept of it. -/
theorem instructionLines_congr {before line line' after rest : List Char} (hb : Ended before)
    (ha : Behind after rest) (hn : '\n' ∉ line) (hn' : '\n' ∉ line') (hk : kept line' = kept line) :
    instructionLines (String.ofList (before ++ (line' ++ after))) =
      instructionLines (String.ofList (before ++ (line ++ after))) := by
  rw [instructionLines_split hb ha hn, instructionLines_split hb ha hn', numbered?_congr hk]

/-- A change of a source that adds blanks around a line or a comment behind it. -/
inductive Retouched : String → String → Prop where
  | blanks {before left line right after rest} (before_ended : Ended before)
      (one_line : '\n' ∉ line) (behind : Behind after rest)
      (left_blank : ∀ c ∈ left, isBlank c = true ∧ c ≠ '\n')
      (right_blank : ∀ c ∈ right, isBlank c = true ∧ c ≠ '\n') :
      Retouched (.ofList (before ++ (line ++ after)))
        (.ofList (before ++ (left ++ (line ++ right) ++ after)))
  | comment {before line text after rest} (before_ended : Ended before)
      (one_line : '\n' ∉ line) (behind : Behind after rest) (text_one_line : '\n' ∉ text) :
      Retouched (.ofList (before ++ (line ++ after)))
        (.ofList (before ++ (line ++ '#' :: text ++ after)))

theorem Retouched.instructionLines_eq {source other : String} (h : Retouched source other) :
    instructionLines other = instructionLines source := by
  cases h with
  | @blanks before left line right after rest before_ended one_line behind left_blank
      right_blank =>
    have hline : '\n' ∉ left ++ (line ++ right) := by
      simp only [List.mem_append, not_or]
      exact ⟨fun h => (left_blank _ h).2 rfl, one_line, fun h => (right_blank _ h).2 rfl⟩
    exact instructionLines_congr before_ended behind one_line hline
      (kept_blanks (fun c hc => (left_blank c hc).1) (fun c hc => (right_blank c hc).1) line)
  | @comment before line text after rest before_ended one_line behind text_one_line =>
    have hline : '\n' ∉ line ++ '#' :: text := by simp [one_line, text_one_line]
    exact instructionLines_congr before_ended behind one_line hline (kept_append_comment line text)

/-- A source has one reading as physical lines, and its instruction lines are those of them of
which something is kept, with their numbers. The numbers go up, and an instruction is a text
that is not empty, has no blanks around it and holds neither a comment nor a line feed. Blanks
that are added around lines and comments that are added behind them leave all that the source
compiles to as it is. -/
theorem instructionLines_kept (source : String) :
    (∃ ls, (∀ ls', Lined source.toList ls' ↔ ls' = ls) ∧
      instructionLines source = (ls.zipIdx 1).filterMap fun (line, number) =>
        if kept line = [] then none else some ⟨number, String.ofList (kept line)⟩) ∧
    (instructionLines source).Pairwise (fun l m => l.number < m.number) ∧
    (∀ line ∈ instructionLines source, line.text ≠ "" ∧ trimmed line.text = line.text ∧
      '#' ∉ line.text.toList ∧ '\n' ∉ line.text.toList) ∧
    ∀ other, Relation.ReflTransGen Retouched source other →
      Compiled.ofSource other = Compiled.ofSource source := by
  refine ⟨⟨lines source.toList, fun ls' => lined_iff.trans eq_comm, ?_⟩,
    instructionLines_sorted source, fun line hline => ?_, fun other h => ?_⟩
  · rw [instructionLines_eq_filterMap]
    refine List.filterMap_congr fun l _ => ?_
    simp only [numbered?, instruction?_eq]
    split <;> rfl
  · obtain ⟨hne, htrim, hfeed, hmark⟩ := isPlain_of_mem_instructionLines hline
    refine ⟨fun h => hne (by rw [h]; rfl), ?_, hmark, hfeed⟩
    rw [trimmed, htrim, String.ofList_toList]
  · have hlines : instructionLines other = instructionLines source := by
      induction h with
      | refl => rfl
      | tail _ step ih => rw [step.instructionLines_eq, ih]
    simp only [Compiled.ofSource, ofSource, hlines]

end Script

end ScriptedDialog
