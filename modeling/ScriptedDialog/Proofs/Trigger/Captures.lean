import ScriptedDialog.Dialog.Turn

/-! What a pattern captures, and what a command binds. A capture is a word of the input,
and it is bound to a name of the response. -/

namespace ScriptedDialog

namespace Trigger

open Text

theorem after?_eq_some {word cs rest : List Char} (h : after? word cs = some rest) :
    cs = word ++ rest := by
  induction word generalizing cs with
  | nil => exact Option.some.inj h
  | cons w word ih =>
    cases cs with
    | nil => cases h
    | cons c cs =>
      rw [after?] at h
      split at h
      · next he => rw [he, ih h, List.cons_append]
      · cases h

/-- A word of a pattern is taken off the front, and a capture is a word of the input. -/
theorem takeWord?_eq_some {word cs rest : List Char} {captured : List (List Char)}
    (h : takeWord? word cs = some (captured, rest)) :
    rest <:+ cs ∧ ∀ run ∈ captured, IsName run ∧ run <:+: cs := by
  unfold takeWord? at h
  split at h
  · simp only at h
    split at h
    · cases h
    · next hne =>
      cases h
      refine ⟨List.dropWhile_suffix _, fun run hr => ?_⟩
      obtain rfl := List.mem_singleton.mp hr
      exact ⟨isName_takeWhile fun hnil => hne (List.isEmpty_iff.mpr hnil),
        (List.takeWhile_prefix _).isInfix⟩
  · obtain ⟨rest', hr, he⟩ := Option.map_eq_some_iff.mp h
    cases he
    exact ⟨⟨word, (after?_eq_some hr).symm⟩, nofun⟩

theorem mem_captures? {words : List (List Char)} {cs run : List Char}
    {captures : List (List Char)} (h : captures? words cs = some captures)
    (hr : run ∈ captures) : IsName run ∧ run <:+: cs := by
  fun_induction captures? words cs generalizing captures with
  | case1 => cases h; cases hr
  | case2 word cs =>
    obtain ⟨⟨captured, rest⟩, ht, rfl⟩ := Option.map_eq_some_iff.mp h
    exact (takeWord?_eq_some ht).2 run hr
  | case3 => cases h
  | case4 word cs next later captured rest ht hb ih =>
    obtain ⟨captures', hc, rfl⟩ := Option.map_eq_some_iff.mp h
    obtain ⟨hsuffix, hcaptured⟩ := takeWord?_eq_some ht
    rcases List.mem_append.mp hr with hr | hr
    · exact hcaptured run hr
    · obtain ⟨hname, hinfix⟩ := ih hc hr
      exact ⟨hname, hinfix.trans ((List.dropWhile_suffix _).trans hsuffix).isInfix⟩
  | case5 => cases h

end Trigger

namespace Template

open Text

theorem isName_of_mem_namesAfter {sigil : Sigil} {cs name : List Char}
    (h : name ∈ namesAfter sigil cs) : IsName name := by
  induction cs with
  | nil => cases h
  | cons c cs ih =>
    simp only [namesAfter] at h
    split at h
    · next hc =>
      rcases List.mem_cons.mp h with rfl | h
      · exact isName_takeWhile fun hnil => hc.2 (List.isEmpty_iff.mpr hnil)
      · exact ih h
    · exact ih h

end Template

/-- A name of the response is bound, to a word of the input. -/
theorem Command.isName_of_bindings? {c : Command} {store : Store} {input name text : String}
    {b : Bindings} (h : c.bindings? store input = some b) (hb : (name, text) ∈ b) :
    Text.IsName name.toList ∧ Text.IsName text.toList ∧ text.toList <:+: input.toList := by
  unfold bindings? at h
  split at h
  · split at h <;> cases h
    cases hb
  · split at h
    · cases h
    · cases h
      cases hb
    · split at h <;> cases h
      cases hb
  · obtain ⟨captures, hc, rfl⟩ := Option.map_eq_some_iff.mp h
    obtain ⟨runs, hruns, rfl⟩ := Option.map_eq_some_iff.mp hc
    obtain ⟨hname, htext⟩ := List.of_mem_zip hb
    obtain ⟨cs, hcs, rfl⟩ := List.mem_map.mp hname
    obtain ⟨run, hrun, rfl⟩ := List.mem_map.mp htext
    rw [String.toList_ofList, String.toList_ofList]
    exact ⟨Template.isName_of_mem_namesAfter hcs, Trigger.mem_captures? hruns hrun⟩

end ScriptedDialog
