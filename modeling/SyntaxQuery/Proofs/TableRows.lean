import SyntaxQuery.Condition

/-! What becomes of the rows of a table when one of them changes. The table may have to grow first, which
no row shows. Conditions pushed in any order, with patterns left out between them, are all kept, each in the
row of its pattern. -/
namespace SyntaxQuery

namespace PredicateTable

theorem forPattern_new (patternCount pattern : Nat) : (new patternCount).forPattern pattern = [] := by
  simp only [forPattern, new, List.getElem?_replicate]
  split <;> rfl

/-- One row changes, in the table or in the empty rows behind it. -/
theorem forPattern_modify (table : PredicateTable) (pattern other : Nat)
    (change : List Condition → List Condition) :
    let rows := table.rows ++ List.replicate (pattern + 1 - table.rows.length) []
    (PredicateTable.mk (rows.modify pattern change)).forPattern other =
      if other = pattern then change (table.forPattern pattern) else table.forPattern other := by
  intro rows
  have inside : pattern < rows.length := by
    rw [List.length_append, List.length_replicate]
    omega
  have grown : ∀ index, (rows[index]?).getD [] = table.forPattern index := by
    intro index
    rw [forPattern, List.getElem?_append]
    split
    · rfl
    · rw [List.getElem?_replicate]
      split <;> simp_all
  rw [forPattern, List.getElem?_modify]
  by_cases here : other = pattern
  · subst here
    rw [if_pos rfl, ← grown other, List.getElem?_eq_getElem inside]
    simp
  · rw [if_neg here, ← grown other]
    simp [Ne.symm here]

theorem forPattern_push (table : PredicateTable) (pattern other : Nat) (condition : Condition) :
    (table.push pattern condition).forPattern other =
      if other = pattern then table.forPattern pattern ++ [condition] else table.forPattern other :=
  table.forPattern_modify pattern other (· ++ [condition])

theorem patternCount_push_max (table : PredicateTable) (pattern : Nat) (condition : Condition) :
    (table.push pattern condition).patternCount = max table.patternCount (pattern + 1) := by
  simp only [patternCount, push, List.length_modify, List.length_append, List.length_replicate]
  omega

theorem patternCount_push (table : PredicateTable) (condition : Condition)
    (inside : pattern < table.patternCount) :
    (table.push pattern condition).patternCount = table.patternCount := by
  rw [patternCount_push_max, Nat.max_eq_left inside]

/-- There is nothing to a table but how many rows it has and what is read from it, also from behind it. -/
theorem eq_of_rows {table other : PredicateTable} (count : table.patternCount = other.patternCount)
    (rows : ∀ pattern, table.forPattern pattern = other.forPattern pattern) : table = other := by
  suffices same : table.rows = other.rows from congrArg mk same
  refine List.ext_getElem count fun pattern here there => ?_
  simpa [forPattern, here, there] using rows pattern

theorem isEmpty_iff (table : PredicateTable) : table.isEmpty ↔ ∀ pattern, table.forPattern pattern = [] := by
  rw [isEmpty, List.all_eq_true]
  constructor
  · intro empty pattern
    rw [forPattern]
    cases row : table.rows[pattern]? with
    | none => rfl
    | some conditions => simpa using empty conditions (List.mem_of_getElem? row)
  · intro empty row member
    obtain ⟨pattern, inside, rfl⟩ := List.mem_iff_getElem.mp member
    simpa [forPattern, inside] using empty pattern

/-- Rows do not get into each other's way, and whichever push comes last, the table has grown for both. -/
theorem push_comm (table : PredicateTable) (apart : pattern ≠ other) (condition second : Condition) :
    (table.push pattern condition).push other second = (table.push other second).push pattern condition := by
  apply eq_of_rows
  · simp only [patternCount_push_max]
    omega
  · intro row
    simp only [forPattern_push]
    grind

def pushAll (table : PredicateTable) (pushes : List (Nat × Condition)) : PredicateTable :=
  pushes.foldl (fun table push => table.push push.1 push.2) table

theorem pushAll_append (table : PredicateTable) (pushes more : List (Nat × Condition)) :
    table.pushAll (pushes ++ more) = (table.pushAll pushes).pushAll more := List.foldl_append

theorem pushAll_cons (table : PredicateTable) (push : Nat × Condition) (pushes : List (Nat × Condition)) :
    table.pushAll (push :: pushes) = (table.push push.1 push.2).pushAll pushes := rfl

theorem forPattern_pushAll (table : PredicateTable) (pushes : List (Nat × Condition)) (pattern : Nat) :
    (table.pushAll pushes).forPattern pattern =
      table.forPattern pattern ++ (pushes.filter (·.1 = pattern)).map (·.2) := by
  induction pushes generalizing table with
  | nil => exact (List.append_nil _).symm
  | cons push pushes ih =>
    rw [pushAll_cons, ih, forPattern_push]
    by_cases here : pattern = push.1
    · simp [here]
    · simp [here, Ne.symm here]

theorem patternCount_pushAll (table : PredicateTable) (pushes : List (Nat × Condition)) :
    (table.pushAll pushes).patternCount = (pushes.map (·.1 + 1)).foldl max table.patternCount := by
  induction pushes generalizing table with
  | nil => rfl
  | cons push pushes ih => rw [pushAll_cons, ih, patternCount_push_max, List.map_cons, List.foldl_cons]

/-- Conditions are pushed in any order onto a new table, or onto the default one, which is the new table of no
patterns. Then each pattern has exactly those that were pushed for it, in their order, and there are as many
patterns as at first or as the last of the pushes asks for. The table is empty only if there were no pushes,
and two neighbours among them can be swapped if they are not for the same pattern. -/
theorem pushes_kept (patternCount : Nat) (pushes : List (Nat × Condition)) :
    let table := (new patternCount).pushAll pushes
    default = new 0 ∧
    (∀ pattern, table.forPattern pattern = (pushes.filter (·.1 = pattern)).map (·.2)) ∧
    (patternCount :: pushes.map (·.1 + 1)).max? = some table.patternCount ∧
    (table.isEmpty ↔ pushes = []) ∧
    ∀ earlier first second later, pushes = earlier ++ first :: second :: later → first.1 ≠ second.1 →
      (new patternCount).pushAll (earlier ++ second :: first :: later) = table := by
  intro table
  have rows (pattern : Nat) : table.forPattern pattern = (pushes.filter (·.1 = pattern)).map (·.2) := by
    rw [forPattern_pushAll, forPattern_new, List.nil_append]
  refine ⟨rfl, rows, ?_, ?_, ?_⟩
  · have start : (new patternCount).patternCount = patternCount := List.length_replicate
    rw [List.max?_cons', patternCount_pushAll, start]
  · rw [isEmpty_iff]
    constructor
    · intro empty
      refine List.eq_nil_iff_forall_not_mem.mpr fun push member => ?_
      have none := (rows push.1).symm.trans (empty push.1)
      simp only [List.map_eq_nil_iff, List.filter_eq_nil_iff, decide_eq_true_eq] at none
      exact none push member rfl
    · rintro rfl pattern
      exact rows pattern
  · rintro earlier first second later rfl apart
    change _ = (new patternCount).pushAll _
    rw [pushAll_append, pushAll_append, pushAll_cons, pushAll_cons, pushAll_cons, pushAll_cons,
      push_comm _ apart]

/-- The first push leaves a gap of two rows behind the one that there was. -/
theorem pushes_with_gap_kept :
    let condition (capture : Nat) : Condition := .new capture (.equals [120])
    let table := (new 1).pushAll [(3, condition 0), (0, condition 1), (3, condition 2)]
    (3 : Nat) ≠ 0 ∧ (new 1).pushAll [(0, condition 1), (3, condition 0), (3, condition 2)] = table ∧
      table.forPattern 3 = [condition 0, condition 2] ∧ table.forPattern 1 = [] ∧ table.forPattern 9 = [] ∧
      table.patternCount = 4 ∧ ¬table.isEmpty := by
  intro condition table
  obtain ⟨-, rows, count, empty, swapped⟩ :=
    pushes_kept 1 [(3, condition 0), (0, condition 1), (3, condition 2)]
  have apart : (3 : Nat) ≠ 0 := by decide
  exact ⟨apart, swapped [] (3, condition 0) (0, condition 1) [(3, condition 2)] rfl apart, rows 3, rows 1, rows 9,
    (Option.some.inj count).symm, fun none => nomatch empty.mp none⟩

end PredicateTable

end SyntaxQuery
