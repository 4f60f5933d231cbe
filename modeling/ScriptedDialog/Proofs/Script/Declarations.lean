import ScriptedDialog.Compiled
import ScriptedDialog.Proofs.Script.Grammar

/-! The variables of a script are those that it declares, each with the value of its last
declaration, and a variable has a word of word characters for its name. -/

namespace ScriptedDialog

namespace Script.Statement

/-- The variable that a statement declares, with its value. -/
def declared? : Statement → Option (String × Value)
  | .declaration name value _ => some (name, Value.ofText value)
  | .command .. => none

theorem mem_filterMap_declared? {statements : List Statement} {name : String} {value : Value} :
    (name, value) ∈ statements.filterMap (·.declared?) ↔
      ∃ text n, .declaration name text n ∈ statements ∧ value = Value.ofText text := by
  constructor
  · intro h
    obtain ⟨s, hs, hd⟩ := List.mem_filterMap.mp h
    cases s with
    | command => cases hd
    | declaration _ text n =>
      cases hd
      exact ⟨text, n, hs, rfl⟩
  · rintro ⟨text, n, hs, rfl⟩
    exact List.mem_filterMap.mpr ⟨_, hs, rfl⟩

end Script.Statement

namespace Assembly

open Script

theorem store_add (a : Assembly) (s : Statement) :
    (a.add s).store = a.store.setAll s.declared?.toList := by
  cases s with
  | declaration => rfl
  | command level trigger response line =>
    simp only [add, addCommand, bind, Except.bind, pure, Except.pure]
    cases Trigger.ofText trigger with
    | error => rfl
    | ok trigger =>
      simp only
      cases a.hierarchy.add ⟨level, trigger, response, line⟩ <;> rfl

theorem store_addAll (a : Assembly) (statements : List Statement) :
    (a.addAll statements).store = a.store.setAll (statements.filterMap (·.declared?)) := by
  induction statements generalizing a with
  | nil => rfl
  | cons s later ih =>
    have hlater : (a.addAll (s :: later)).store = _ := ih (a.add s)
    rw [hlater, store_add, ← Store.setAll_append]
    congr 1
    cases hs : s.declared? <;> simp [hs]

end Assembly

theorem Compiled.store_ofStatements (statements : List Script.Statement) :
    (ofStatements statements).store = Store.ofList (statements.filterMap (·.declared?)) :=
  Assembly.store_addAll .empty statements

theorem Compiled.store_ofSource (source : String) : (ofSource source).store =
    Store.ofList ((Script.ofSource source).statements.filterMap (·.declared?)) :=
  store_ofStatements _

/-- A statement of a script is what one of its lines says. -/
theorem Script.mem_statements {lines : List SourceLine} {s : Statement} :
    s ∈ (ofLines lines).statements ↔ ∃ line ∈ lines, Statement.ofLine line = .ok s := by
  simp only [ofLines, List.mem_filterMap]
  refine exists_congr fun line => and_congr_right fun _ => ?_
  cases Statement.ofLine line <;> simp [Except.toOption]

/-- A variable that a script defines is declared in it, by a name. -/
theorem Compiled.isName_of_get?_ofSource {source name : String}
    (h : (ofSource source).store.get? name ≠ none) : Text.IsName name.toList := by
  obtain ⟨value, hv⟩ := Option.ne_none_iff_exists'.mp h
  rw [store_ofSource] at hv
  rcases Store.mem_of_get?_setAll hv with hmem | hempty
  · obtain ⟨text, n, hs, -⟩ := Script.Statement.mem_filterMap_declared?.mp hmem
    obtain ⟨line, -, hline⟩ := Script.mem_statements.mp hs
    exact Script.Statement.isName_of_ofLine hline
  · cases hempty

/-- A variable that a script declares is defined. -/
theorem Compiled.get?_ofSource_of_declaration {source name value : String} {n : Nat}
    (h : .declaration name value n ∈ (Script.ofSource source).statements) :
    (ofSource source).store.get? name ≠ none := by
  rw [store_ofSource]
  have hdeclared := Script.Statement.mem_filterMap_declared?.mpr ⟨value, n, h, rfl⟩
  exact Store.get?_setAll_ne_none (Or.inl ⟨_, hdeclared⟩)

end ScriptedDialog
