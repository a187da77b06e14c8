import SyntaxQuery.Proofs.FilterSearch
import SyntaxQuery.Proofs.Steps

/-! A run of a filter, item by item. The source drops an item within a pull or hands it out as a candidate,
which is then accepted or rejected. Once this is known of one item, a run is told by its steps: whom it
yields, what it counts, and where it leaves the provider. -/
namespace SyntaxQuery

namespace Filter

structure Handling (α β π : Type) where
  step : α → π → β
  after : β → π
  candidate : β → Match
  /-- The source hands the candidate out. -/
  handed : β → Bool
  accepted : β → Bool

namespace Handling

/-- Handed out and then dropped. -/
def rejected (handling : Handling α β π) (one : β) : Bool :=
  handling.handed one && !handling.accepted one

def steps (handling : Handling α β π) (pulls : Nat) (items : List α) (s : π) : List β :=
  quota handling.step handling.after handling.accepted pulls items s

theorem steps_nil (handling : Handling α β π) (pulls : Nat) (s : π) : handling.steps pulls [] s = [] := by
  cases pulls <;> rfl

theorem steps_cons (handling : Handling α β π) (pulls : Nat) (item : α) (later : List α) (s : π) :
    let one := handling.step item s
    handling.steps (pulls + 1) (item :: later) s =
      one :: handling.steps (if handling.accepted one then pulls else pulls + 1) later
        (handling.after one) := rfl

structure Of (handling : Handling α β π) (source : MatchSource σ π) (table : PredicateTable)
    (p : Provider π) (has : List α → σ → Prop) : Prop where
  handed : ∀ one, handling.accepted one = true → handling.handed one = true
  none : ∀ state captures s, has [] state →
    ∃ rest, source.next state captures s = (none, captures, rest, s)
  drops : ∀ item later state s, has (item :: later) state →
    handling.handed (handling.step item s) = false →
    ∃ rest, has later rest ∧ ∀ captures, source.next state captures s =
      source.next rest captures (handling.after (handling.step item s))
  hands : ∀ item later state s, has (item :: later) state →
    let one := handling.step item s
    handling.handed one = true → ∃ rest lent, has later rest ∧
      (∀ captures, source.next state captures s =
        (some (handling.candidate one).pattern, (handling.candidate one).captures, rest, lent)) ∧
      ∀ evaluator : Evaluator, ∃ checker,
        evaluator.evaluate (handling.candidate one) (table.forPattern (handling.candidate one).pattern)
          p lent = (handling.accepted one, checker, handling.after one)

end Handling

structure Faces (has : List α → σ → Prop) (items : List α) (s : π) (accepted rejected : Nat)
    (filter : Filter σ π) : Prop where
  source : has items filter.source
  provider : filter.provider = s
  accepted : filter.accepted = accepted
  rejected : filter.rejected = rejected
  running : filter.finished = false

section Faces

variable {source : MatchSource σ π} {table : PredicateTable} {p : Provider π}
  {handling : Handling α β π} {has : List α → σ → Prop} {filter : Filter σ π} {item : α}
  {items later : List α} {s : π} {a b limit : Nat}

theorem Faces.cleared (faces : Faces has items s a b filter) :
    Faces has items s a b { filter with hasCurrent := false } :=
  ⟨faces.source, faces.provider, faces.accepted, faces.rejected, faces.running⟩

theorem Faces.advance_eq (faces : Faces has items s a b filter) (limit : Nat) :
    filter.advance source table p limit =
      { filter with hasCurrent := false }.search source table p limit :=
  if_neg (by simp [faces.running])

variable (of : handling.Of source table p has)

include of

theorem Faces.pull_nil (faces : Faces has [] s a b filter) :
    ∃ next, filter.pull source table p = (true, next) ∧ next.provider = s ∧ next.accepted = a ∧
      next.rejected = b ∧ next.finished = true ∧ next.hasCurrent = filter.hasCurrent := by
  obtain ⟨rest, none⟩ := of.none filter.source filter.current.captures filter.provider faces.source
  simp only [pull, none]
  exact ⟨_, rfl, faces.provider, faces.accepted, faces.rejected, rfl, rfl⟩

/-- An item that the source drops is passed over within one pull, and counted nowhere. -/
theorem Faces.pull_dropped (faces : Faces has (item :: later) s a b filter)
    (dropped : handling.handed (handling.step item s) = false) :
    ∃ next, filter.pull source table p = next.pull source table p ∧
      Faces has later (handling.after (handling.step item s)) a b next ∧
      next.hasCurrent = filter.hasCurrent := by
  obtain ⟨rest, before, same⟩ := of.drops item later filter.source s faces.source dropped
  refine ⟨{ filter with source := rest, provider := handling.after (handling.step item s) }, ?_,
    ⟨before, rfl, faces.accepted, faces.rejected, faces.running⟩, rfl⟩
  simp only [pull, faces.provider, same]

/-- An item that is handed out ends the pull, and is counted as accepted or rejected. -/
theorem Faces.pull_handed (faces : Faces has (item :: later) s a b filter) :
    let one := handling.step item s
    handling.handed one = true → ∃ next,
      filter.pull source table p = (handling.accepted one, next) ∧
      Faces has later (handling.after one) (a + (handling.accepted one).toNat)
        (b + (!handling.accepted one).toNat) next ∧
      next.current = handling.candidate one ∧
      next.hasCurrent = (handling.accepted one || filter.hasCurrent) := by
  intro one handed
  obtain ⟨rest, lent, before, next, evaluates⟩ := of.hands item later filter.source s faces.source handed
  obtain ⟨checker, checked⟩ := evaluates filter.evaluator
  refine ⟨{ filter with
      source := rest
      provider := handling.after one
      evaluator := checker
      current := handling.candidate one
      hasCurrent := handling.accepted one || filter.hasCurrent
      accepted := filter.accepted + (handling.accepted one).toNat
      rejected := filter.rejected + (!handling.accepted one).toNat }, ?_, ?_, rfl, rfl⟩
  · simp only [pull, faces.provider, next, checked, one]
    cases handling.accepted (handling.step item s) <;> rfl
  · exact ⟨before, rfl, congrArg (· + _) faces.accepted, congrArg (· + _) faces.rejected,
      faces.running⟩

/-- With more pulls to spend than there are items, a search comes to an end. -/
theorem Faces.search_ends (faces : Faces has items s a b filter) (enough : items.length < limit) :
    ∃ last, filter.search source table p limit = some last := by
  induction items generalizing limit filter s a b with
  | nil =>
    obtain ⟨limit, rfl⟩ := Nat.exists_eq_succ_of_ne_zero (Nat.ne_zero_of_lt enough)
    obtain ⟨next, pulled, -⟩ := faces.pull_nil of
    exact ⟨next, by rw [search_succ, pulled]; rfl⟩
  | cons item later ih =>
    obtain ⟨limit, rfl⟩ := Nat.exists_eq_succ_of_ne_zero (Nat.ne_zero_of_lt enough)
    have fewer : later.length < limit := Nat.lt_of_succ_lt_succ enough
    cases handed : handling.handed (handling.step item s) with
    | false =>
      obtain ⟨next, pulled, rest, -⟩ := faces.pull_dropped of handed
      obtain ⟨last, found⟩ := ih rest (Nat.lt_succ_of_lt fewer)
      exact ⟨last, by rw [search_succ, pulled, ← search_succ]; exact found⟩
    | true =>
      obtain ⟨next, pulled, rest, -⟩ := faces.pull_handed of handed
      cases accepted : handling.accepted (handling.step item s) with
      | true => exact ⟨next, by rw [search_succ, pulled, accepted]; rfl⟩
      | false =>
        obtain ⟨last, found⟩ := ih rest fewer
        exact ⟨last, by rw [search_succ, pulled, accepted]; exact found⟩

theorem Faces.advance_nil (faces : Faces has [] s a b filter) (enough : 0 < limit) :
    ∃ next, filter.advance source table p limit = some next ∧ next.get = none ∧
      next.provider = s ∧ next.accepted = a ∧ next.rejected = b ∧ next.finished = true := by
  obtain ⟨limit, rfl⟩ := Nat.exists_eq_succ_of_ne_zero (Nat.ne_zero_of_lt enough)
  obtain ⟨next, pulled, provider, accepted, rejected, finished, hidden⟩ := faces.cleared.pull_nil of
  refine ⟨next, ?_, by simp [get, hidden], provider, accepted, rejected, finished⟩
  rw [faces.advance_eq, search_succ, pulled]
  rfl

theorem Faces.advance_accepted (faces : Faces has (item :: later) s a b filter) (enough : 0 < limit)
    (accepted : handling.accepted (handling.step item s) = true) :
    ∃ next, filter.advance source table p limit = some next ∧
      next.get = some (handling.candidate (handling.step item s)) ∧
      Faces has later (handling.after (handling.step item s)) (a + 1) b next := by
  obtain ⟨limit, rfl⟩ := Nat.exists_eq_succ_of_ne_zero (Nat.ne_zero_of_lt enough)
  obtain ⟨next, pulled, rest, current, shown⟩ := faces.cleared.pull_handed of (of.handed _ accepted)
  rw [accepted] at pulled rest shown
  refine ⟨next, ?_, by simp [get, shown, current], rest⟩
  rw [faces.advance_eq, search_succ, pulled]
  rfl

/-- An advance goes past an item that is not accepted as if that had not been before it, except that one
which was handed out is counted. -/
theorem Faces.advance_past (faces : Faces has (item :: later) s a b filter)
    (enough : later.length + 1 < limit)
    (refused : handling.accepted (handling.step item s) = false) :
    ∃ next, filter.advance source table p limit = next.advance source table p limit ∧
      Faces has later (handling.after (handling.step item s)) a
        (b + (handling.handed (handling.step item s)).toNat) next := by
  obtain ⟨limit, rfl⟩ := Nat.exists_eq_succ_of_ne_zero (Nat.ne_zero_of_lt enough)
  cases handed : handling.handed (handling.step item s) with
  | false =>
    obtain ⟨next, pulled, rest, hidden⟩ := faces.cleared.pull_dropped of handed
    refine ⟨next, ?_, rest⟩
    rw [faces.advance_eq, rest.advance_eq, clear_hidden hidden, search_succ, pulled, ← search_succ]
  | true =>
    obtain ⟨next, pulled, rest, -, hidden⟩ := faces.cleared.pull_handed of handed
    rw [refused] at pulled rest hidden
    obtain ⟨last, found⟩ := rest.search_ends of (Nat.lt_of_succ_lt_succ enough)
    refine ⟨next, ?_, rest⟩
    rw [faces.advance_eq, rest.advance_eq, clear_hidden hidden,
      search_mono (Nat.le_succ limit) found, search_succ, pulled]
    exact found

/-- A run yields the candidates that its steps accept, and counts the others that were handed out. -/
theorem Faces.collect_steps (faces : Faces has items s a b filter) (enough : items.length < limit)
    (pulls : Nat) :
    let steps := handling.steps pulls items s
    ∃ last, filter.collect source table p limit pulls =
        ((steps.filter handling.accepted).map handling.candidate, last) ∧
      last.provider = behind handling.after s steps ∧
      last.accepted = a + steps.countP handling.accepted ∧
      last.rejected = b + steps.countP handling.rejected ∧
      last.finished = decide (steps.countP handling.accepted < pulls) := by
  induction items generalizing filter s a b pulls with
  | nil =>
    cases pulls with
    | zero => exact ⟨filter, rfl, faces.provider, faces.accepted, faces.rejected, faces.running⟩
    | succ pulls =>
      obtain ⟨next, advanced, hidden, provider, accepted, rejected, finished⟩ :=
        faces.advance_nil of enough
      exact ⟨next, by simp [collect, advanced, hidden, handling.steps_nil], provider, accepted,
        rejected, finished⟩
  | cons item later ih =>
    cases pulls with
    | zero => exact ⟨filter, rfl, faces.provider, faces.accepted, faces.rejected, faces.running⟩
    | succ pulls =>
      have fewer : later.length < limit := Nat.lt_of_succ_lt enough
      rw [handling.steps_cons]
      cases accepted : handling.accepted (handling.step item s) with
      | true =>
        obtain ⟨next, advanced, shown, rest⟩ :=
          faces.advance_accepted of (Nat.zero_lt_of_lt enough) accepted
        obtain ⟨last, others, provider, counted, rejected, finished⟩ := ih rest fewer pulls
        refine ⟨last, ?_, provider, ?_, ?_, ?_⟩
        · simp [collect, advanced, shown, others, accepted]
        · simp [counted, accepted]
          omega
        · simp [rejected, accepted, Handling.rejected]
        · simp only [finished, List.countP_cons, accepted, if_true, Nat.add_lt_add_iff_right]
      | false =>
        -- The match is still to be found, and the pulls that are left stay as many.
        obtain ⟨next, past, rest⟩ := faces.advance_past of enough accepted
        obtain ⟨last, others, provider, counted, rejected, finished⟩ := ih rest fewer (pulls + 1)
        obtain ⟨ended, found⟩ := rest.cleared.search_ends of fewer
        rw [← rest.advance_eq] at found
        refine ⟨last, ?_, provider, ?_, ?_, ?_⟩
        · rw [collect, past, found]
          rw [collect, found] at others
          simpa [accepted] using others
        · simp [counted, accepted]
        · rw [rejected, List.countP_cons, Handling.rejected, accepted, Bool.not_false, Bool.and_true]
          cases handling.handed (handling.step item s) with
          | false => simp
          | true =>
            simp
            omega
        · simp [finished, accepted]

end Faces

end Filter

end SyntaxQuery
