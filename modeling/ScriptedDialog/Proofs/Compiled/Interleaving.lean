import Mathlib.Data.List.Basic
import ScriptedDialog.Proofs.Script.Declarations

/-! Declarations and commands side by side. A declaration reads and changes the variables
alone, and a command neither reads nor changes them. So it does not matter to a script how its
declarations stand between its commands, and a variable has the value that its last declaration
gives. -/

namespace ScriptedDialog

namespace Script.Statement

def isDeclaration : Statement → Bool
  | .declaration .. => true
  | .command .. => false

theorem filterMap_declared?_filter (statements : List Statement) :
    (statements.filter (·.isDeclaration)).filterMap (·.declared?) =
      statements.filterMap (·.declared?) := by
  rw [List.filterMap_filter]
  refine List.filterMap_congr fun s _ => ?_
  cases s <;> rfl

end Script.Statement

namespace Assembly

open Script

/-- The assembly with other variables. -/
def withStore (a : Assembly) (store : Store) : Assembly := { a with store }

theorem withStore_store (a : Assembly) : a.withStore a.store = a := rfl

theorem add_withStore_of_declaration (a : Assembly) (store : Store) {s : Statement}
    (h : s.isDeclaration = true) : ∃ later, (a.withStore store).add s = a.withStore later := by
  cases s with
  | declaration name value n => exact ⟨_, rfl⟩
  | command => cases h

theorem add_withStore_of_command (a : Assembly) (store : Store) {s : Statement}
    (h : s.isDeclaration = false) : (a.withStore store).add s = (a.add s).withStore store := by
  cases s with
  | declaration => cases h
  | command level trigger response n =>
    simp only [add, addCommand, bind, Except.bind, pure, Except.pure]
    cases Trigger.ofText trigger with
    | error => rfl
    | ok trigger =>
      simp only [withStore]
      cases a.hierarchy.add ⟨level, trigger, response, n⟩ <;> rfl

/-- But for the variables an assembly is that of its commands alone, whatever the variables
were at first. -/
theorem addAll_withStore (a : Assembly) (s t : Store) (statements : List Statement) :
    ((a.withStore s).addAll statements).withStore t =
      (a.addAll (statements.filter (!·.isDeclaration))).withStore t := by
  induction statements generalizing a s with
  | nil => rfl
  | cons first later ih =>
    show (((a.withStore s).add first).addAll later).withStore t = _
    cases hf : first.isDeclaration with
    | true =>
      obtain ⟨u, hu⟩ := a.add_withStore_of_declaration s hf
      rw [hu, ih, List.filter_cons_of_neg (by simp [hf])]
    | false =>
      rw [a.add_withStore_of_command s hf, ih, List.filter_cons_of_pos (by simp [hf])]
      rfl

/-- An assembly by its two streams of statements. -/
theorem addAll_eq (a : Assembly) (statements : List Statement) : a.addAll statements =
    (a.addAll (statements.filter (!·.isDeclaration))).withStore
      (a.store.setAll ((statements.filter (·.isDeclaration)).filterMap (·.declared?))) := by
  rw [Statement.filterMap_declared?_filter, ← store_addAll, ← addAll_withStore a a.store,
    withStore_store, withStore_store]

end Assembly

namespace Compiled

open Script

variable {statements : List Statement} {name : String}

theorem get?_ofStatements_eq_none_iff : (ofStatements statements).store.get? name = none ↔
    ∀ text n, .declaration name text n ∉ statements := by
  rw [store_ofStatements]
  constructor
  · intro hnone text n hs
    have hdeclared := Statement.mem_filterMap_declared?.mpr ⟨text, n, hs, rfl⟩
    exact Store.get?_setAll_ne_none (Or.inl ⟨_, hdeclared⟩) hnone
  · intro h
    refine (Store.get?_setAll_of_not_mem fun value hmem => ?_).trans (Store.get?_empty name)
    obtain ⟨text, n, hs, -⟩ := Statement.mem_filterMap_declared?.mp hmem
    exact h text n hs

/-- A declaration decides unless its name is declared again. -/
theorem get?_ofStatements_of_last {earlier later : List Statement} {text : String} {n : Nat}
    (hlast : ∀ text' n', .declaration name text' n' ∉ later) :
    (ofStatements (earlier ++ .declaration name text n :: later)).store.get? name =
      some (Value.ofText text) := by
  have hlater : ∀ value, (name, value) ∉ later.filterMap (·.declared?) := by
    intro value hmem
    obtain ⟨text', n', hs, -⟩ := Statement.mem_filterMap_declared?.mp hmem
    exact hlast text' n' hs
  have hsplit : (earlier ++ .declaration name text n :: later).filterMap (·.declared?) =
      earlier.filterMap (·.declared?) ++
        ([(name, Value.ofText text)] ++ later.filterMap (·.declared?)) := by
    rw [List.filterMap_append]
    rfl
  rw [store_ofStatements, hsplit, Store.ofList, Store.setAll_append, Store.setAll_append,
    Store.get?_setAll_of_not_mem hlater]
  show (Store.set _ name _).get? name = _
  rw [Store.get?_set, if_pos rfl]

/-- Of the declarations of a name one is the last. -/
theorem exists_last_declaration (h : ∃ text n, .declaration name text n ∈ statements) :
    ∃ earlier text n later, statements = earlier ++ .declaration name text n :: later ∧
      ∀ text' n', .declaration name text' n' ∉ later := by
  induction statements with
  | nil =>
    obtain ⟨_, _, hs⟩ := h
    cases hs
  | cons s rest ih =>
    by_cases hrest : ∃ text n, .declaration name text n ∈ rest
    · obtain ⟨earlier, text, n, later, rfl, hlast⟩ := ih hrest
      exact ⟨s :: earlier, text, n, later, rfl, hlast⟩
    · obtain ⟨text, n, hs⟩ := h
      have hfirst := (List.mem_cons.mp hs).resolve_right fun hs => hrest ⟨text, n, hs⟩
      exact ⟨[], text, n, rest, congrArg (· :: rest) hfirst.symm,
        fun text' n' hs => hrest ⟨text', n', hs⟩⟩

/-- A script compiles to what any other with the same declarations in their order and the same
commands in theirs compiles to. The value of a name is the one that its last declaration is
written with, and a name that is not declared has none. -/
theorem ofStatements_interleaved (statements : List Statement) :
    (∀ others : List Statement,
      others.filter (·.isDeclaration) = statements.filter (·.isDeclaration) →
      others.filter (!·.isDeclaration) = statements.filter (!·.isDeclaration) →
      ofStatements others = ofStatements statements) ∧
    (∀ name value, (ofStatements statements).store.get? name = some value ↔
      ∃ earlier text n later, statements = earlier ++ .declaration name text n :: later ∧
        (∀ text' n', .declaration name text' n' ∉ later) ∧ value = Value.ofText text) ∧
    ∀ name, (ofStatements statements).store.get? name = none ↔
      ∀ text n, .declaration name text n ∉ statements := by
  refine ⟨fun others hdeclarations hcommands => ?_, fun name value => ⟨fun h => ?_, ?_⟩,
    fun name => get?_ofStatements_eq_none_iff⟩
  · unfold ofStatements
    rw [Assembly.addAll_eq, hdeclarations, hcommands, ← Assembly.addAll_eq]
  · have hdeclared : ∃ text n, .declaration name text n ∈ statements := by
      by_contra hnone
      have hundefined := get?_ofStatements_eq_none_iff.mpr
        fun text n hs => hnone ⟨text, n, hs⟩
      rw [hundefined] at h
      cases h
    obtain ⟨earlier, text, n, later, rfl, hlast⟩ := exists_last_declaration hdeclared
    rw [get?_ofStatements_of_last hlast] at h
    exact ⟨earlier, text, n, later, rfl, hlast, (Option.some.inj h).symm⟩
  · rintro ⟨earlier, text, n, later, rfl, hlast, rfl⟩
    exact get?_ofStatements_of_last hlast

end Compiled

end ScriptedDialog
