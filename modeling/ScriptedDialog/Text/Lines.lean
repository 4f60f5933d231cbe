/-! The lines of a text. A line ends at a line feed, and one carriage return
directly before that line feed belongs to the line end. The last line need not
be ended, and a text that ends with a line end has no empty line after it. -/

namespace ScriptedDialog.Text

def lines : List Char → List (List Char)
  | [] => []
  | c :: cs =>
    if c = '\n' then [] :: lines cs
    else if c = '\r' ∧ cs.head? = some '\n' then lines cs
    else match lines cs with
      | [] => [[c]]
      | line :: later => (c :: line) :: later

theorem lines_nil : lines [] = [] := rfl

theorem not_mem_lines {cs line : List Char} (h : line ∈ lines cs) : '\n' ∉ line := by
  induction cs generalizing line with
  | nil => simp [lines] at h
  | cons c cs ih =>
    unfold lines at h
    split at h
    · rcases List.mem_cons.mp h with rfl | h
      · simp
      · exact ih h
    · split at h
      · exact ih h
      · next hc _ =>
        split at h
        · simp only [List.mem_singleton] at h
          subst h
          simpa using fun h => hc h.symm
        · next hl =>
          rcases List.mem_cons.mp h with rfl | h
          · simpa [not_or] using ⟨fun h => hc h.symm, ih (hl ▸ List.mem_cons_self ..)⟩
          · exact ih (hl ▸ List.mem_cons_of_mem _ h)

/-- A text is ended by the line feed after it, unless that takes a carriage return
away. -/
theorem lines_append {line : List Char} (hn : '\n' ∉ line) (hr : line.getLast? ≠ some '\r')
    (rest : List Char) : lines (line ++ '\n' :: rest) = line :: lines rest := by
  induction line with
  | nil => simp [lines]
  | cons c cs ih =>
    obtain ⟨hc, hcs⟩ := not_or.mp (mt List.mem_cons.mpr hn)
    have hreturn : ¬ (c = '\r' ∧ (cs ++ '\n' :: rest).head? = some '\n') := by
      rintro ⟨rfl, hhead⟩
      cases cs with
      | nil => exact hr rfl
      | cons d ds =>
        obtain rfl : d = '\n' := Option.some.inj hhead
        exact hcs List.mem_cons_self
    have hlast : cs.getLast? ≠ some '\r' := by
      cases cs with
      | nil => nofun
      | cons d ds => rwa [List.getLast?_cons_cons] at hr
    rw [List.cons_append, lines, if_neg (Ne.symm hc), if_neg hreturn, ih hcs hlast]

/-- The last line needs no line end. -/
theorem lines_eq_singleton {line : List Char} (hn : '\n' ∉ line) (hne : line ≠ []) :
    lines line = [line] := by
  induction line with
  | nil => exact absurd rfl hne
  | cons c cs ih =>
    obtain ⟨hc, hcs⟩ := not_or.mp (mt List.mem_cons.mpr hn)
    have hreturn : ¬ (c = '\r' ∧ cs.head? = some '\n') := fun h =>
      hcs (List.mem_of_head? h.2)
    rw [lines, if_neg (Ne.symm hc), if_neg hreturn]
    cases cs with
    | nil => rfl
    | cons d ds => rw [ih hcs (List.cons_ne_nil d ds)]

theorem lines_flatMap {ls : List (List Char)}
    (h : ∀ line ∈ ls, '\n' ∉ line ∧ line.getLast? ≠ some '\r') :
    lines (ls.flatMap (· ++ ['\n'])) = ls := by
  induction ls with
  | nil => rfl
  | cons line later ih =>
    obtain ⟨⟨hn, hr⟩, hlater⟩ := List.forall_mem_cons.mp h
    rw [List.flatMap_cons, List.append_assoc, List.singleton_append, lines_append hn hr, ih hlater]

theorem lines_intercalate {ls : List (List Char)} (hne : [] ∉ ls)
    (h : ∀ line ∈ ls, '\n' ∉ line ∧ line.getLast? ≠ some '\r') :
    lines (['\n'].intercalate ls) = ls := by
  induction ls with
  | nil => rfl
  | cons line later ih =>
    obtain ⟨⟨hn, hr⟩, hlater⟩ := List.forall_mem_cons.mp h
    obtain ⟨hl, hnext⟩ := not_or.mp (mt List.mem_cons.mpr hne)
    cases later with
    | nil => rw [List.intercalate_singleton, lines_eq_singleton hn (Ne.symm hl)]
    | cons next rest =>
      rw [List.intercalate_cons_cons, List.append_assoc, List.singleton_append,
        lines_append hn hr, ih hnext hlater]

end ScriptedDialog.Text
