import SyntaxQuery.Filter

/-! One advance of a filter: what a pull can do, that the limit on pulls is only a device, and that a
search ends when its source does. Nothing is assumed of the provider. -/
namespace SyntaxQuery

namespace MatchSource

/-- Every sequence of pulls comes after finitely many candidates to one that finds nothing, whatever
becomes of the provider between the pulls. -/
inductive Exhaustible (source : MatchSource σ π) : σ → List Capture → Prop where
  | intro : (∀ provider pattern next rest left,
      source.next s captures provider = (some pattern, next, rest, left) →
      Exhaustible source rest next) → Exhaustible source s captures

/-- Even a script that goes on after a pull that finds nothing. -/
theorem replay_exhaustible (script : List (Option Match)) (captures : List Capture) :
    (replay π).Exhaustible script captures := by
  induction script generalizing captures with
  | nil => exact .intro fun _ _ _ _ _ next => by simp [replay] at next
  | cons pull rest ih =>
    refine .intro fun provider pattern script buffer left next => ?_
    cases pull with
    | none => simp [replay] at next
    | some candidate =>
      simp only [replay, Prod.mk.injEq] at next
      obtain ⟨-, rfl, rfl, -⟩ := next
      exact ih _

end MatchSource

namespace Filter

variable {source : MatchSource σ π} {table : PredicateTable} {p : Provider π}

inductive Pulled (source : MatchSource σ π) (table : PredicateTable) (p : Provider π)
    (before : Filter σ π) : Bool → Filter σ π → Prop where
  | passed {pattern : Nat} {captures : List Capture} {rest : σ} {lent left : π}
      {checker : Evaluator} : source.next before.source before.current.captures before.provider =
        (some pattern, captures, rest, lent) →
      before.evaluator.evaluate ⟨pattern, captures⟩ (table.forPattern pattern) p lent =
        (true, checker, left) →
      Pulled source table p before true
        ⟨rest, left, checker, ⟨pattern, captures⟩, true, before.finished, before.accepted + 1,
          before.rejected⟩
  | failed {pattern : Nat} {captures : List Capture} {rest : σ} {lent left : π}
      {checker : Evaluator} : source.next before.source before.current.captures before.provider =
        (some pattern, captures, rest, lent) →
      before.evaluator.evaluate ⟨pattern, captures⟩ (table.forPattern pattern) p lent =
        (false, checker, left) →
      Pulled source table p before false
        ⟨rest, left, checker, ⟨pattern, captures⟩, before.hasCurrent, before.finished,
          before.accepted, before.rejected + 1⟩
  | dry : source.next before.source before.current.captures before.provider =
        (none, captures, rest, left) →
      Pulled source table p before true
        ⟨rest, left, before.evaluator, ⟨before.current.pattern, captures⟩, before.hasCurrent, true,
          before.accepted, before.rejected⟩

theorem pull_cases {filter pulled : Filter σ π}
    (result : filter.pull source table p = (ended, pulled)) :
    Pulled source table p filter ended pulled := by
  rcases next : source.next filter.source filter.current.captures filter.provider with
    ⟨_ | pattern, captures, rest, lent⟩
  · simp only [pull, next, Prod.mk.injEq] at result
    obtain ⟨rfl, rfl⟩ := result
    exact .dry next
  · rcases checked : filter.evaluator.evaluate ⟨pattern, captures⟩ (table.forPattern pattern) p lent
      with ⟨_ | _, checker, left⟩ <;>
      simp only [pull, next, checked, Bool.false_eq_true, ↓reduceIte, Prod.mk.injEq] at result <;>
      obtain ⟨rfl, rfl⟩ := result
    · exact .failed next checked
    · exact .passed next checked

theorem search_succ (filter : Filter σ π) (limit : Nat) :
    filter.search source table p (limit + 1) =
      if (filter.pull source table p).1 then some (filter.pull source table p).2
      else (filter.pull source table p).2.search source table p limit := by
  rw [search]
  split <;> simp_all

/-- An advance that starts with no match shown has nothing to hide. -/
theorem clear_hidden {filter : Filter σ π} (hidden : filter.hasCurrent = false) :
    { filter with hasCurrent := false } = filter := by
  obtain ⟨⟩ := filter
  obtain rfl : _ = false := hidden
  rfl

/-- What a search has found, it also finds with more pulls to spend. -/
theorem search_mono {filter last : Filter σ π} (le : limit ≤ more)
    (found : filter.search source table p limit = some last) :
    filter.search source table p more = some last := by
  induction limit generalizing more filter with
  | zero => simp [search] at found
  | succ limit ih =>
    obtain ⟨more, rfl⟩ := Nat.exists_eq_add_of_le' (Nat.lt_of_lt_of_le (Nat.succ_pos limit) le)
    rw [search_succ] at found ⊢
    split at found
    · rwa [if_pos ‹_›]
    · rw [if_neg ‹_›]
      exact ih (by omega) found

theorem advance_mono {filter last : Filter σ π} (le : limit ≤ more)
    (found : filter.advance source table p limit = some last) :
    filter.advance source table p more = some last := by
  simp only [advance] at found ⊢
  split at found
  · rwa [if_pos ‹_›]
  · rw [if_neg ‹_›]
    exact search_mono le found

/-- The source has had nothing, or will have nothing after finitely many more candidates. -/
def Ending (source : MatchSource σ π) (filter : Filter σ π) : Prop :=
  filter.finished = true ∨ source.Exhaustible filter.source filter.current.captures

theorem search_terminates (table : PredicateTable) (p : Provider π) (filter : Filter σ π)
    (exhaustible : source.Exhaustible filter.source filter.current.captures) :
    ∃ limit last, filter.search source table p limit = some last ∧ last.Ending source := by
  generalize atSource : filter.source = s, buffer : filter.current.captures = captures at exhaustible
  induction exhaustible generalizing filter with
  | intro later ih =>
    subst atSource buffer
    rcases result : filter.pull source table p with ⟨ended, pulled⟩
    cases pull_cases result with
    | passed next =>
      exact ⟨1, _, by rw [search_succ, result]; rfl, .inr (later _ _ _ _ _ next)⟩
    | failed next =>
      obtain ⟨limit, last, found, ending⟩ := ih _ _ _ _ _ next (filter.pull source table p).2
        (by rw [result]) (by rw [result])
      exact ⟨limit + 1, last, by rw [search_succ, if_neg (by simp [result])]; exact found, ending⟩
    | dry => exact ⟨1, _, by rw [search_succ, result]; rfl, .inl rfl⟩

end Filter

end SyntaxQuery
