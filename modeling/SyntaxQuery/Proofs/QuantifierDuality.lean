import SyntaxQuery.Proofs.Screening

/-! Duality of the quantifiers. "Not all nodes pass" is "some node fails", and a check finds out about the
one as it does about the other: it asks for the same texts, stops at the same node and comes to the opposite
answer. Where there is no node to look at both hold, since a condition on nothing holds. -/
namespace SyntaxQuery

namespace Inquiry

def opposite : Inquiry → Inquiry
  | verdict holds => verdict !holds
  | read node next => read node fun text => (next text).opposite

theorem hear_opposite (p : Provider σ) (inquiry : Inquiry) (s : σ) :
    inquiry.opposite.hear p s =
      { inquiry.hear p s with verdict := !(inquiry.hear p s).verdict } := by
  induction inquiry generalizing s with
  | verdict holds => rfl
  | read node next ih => simp only [opposite, hear, ih]

theorem opposite_bind (inquiry : Inquiry) (next : Bool → Inquiry) :
    (inquiry.bind next).opposite = inquiry.opposite.bind fun holds => (next !holds).opposite := by
  induction inquiry with
  | verdict holds => simp only [bind, opposite, Bool.not_not]
  | read node rest ih => simp only [bind, opposite, ih]

/-- The opposite of a search looks for the opposite verdict. -/
theorem opposite_seek (stop : Bool) (last : Inquiry) (inquiries : List Inquiry) :
    (seek stop last inquiries).opposite = seek (!stop) last.opposite (inquiries.map opposite) := by
  induction inquiries with
  | nil => rfl
  | cons first later ih =>
    rw [List.map_cons, seek, seek, opposite_bind]
    congr 1
    funext holds
    cases holds <;> cases stop <;> simp [opposite, ih]

end Inquiry

/-- With something to ask, the other quantifier over the opposites is the opposite. -/
theorem Quantifier.inquiry_dual (quantifier : Quantifier) {inquiries : List Inquiry}
    (some : inquiries ≠ []) :
    quantifier.dual.inquiry (inquiries.map .opposite) = (quantifier.inquiry inquiries).opposite := by
  obtain ⟨first, later, rfl⟩ := List.exists_cons_of_ne_nil some
  cases quantifier with
  | all => exact (Inquiry.opposite_seek false (.verdict true) (first :: later)).symm
  | any => exact (Inquiry.opposite_seek true (.verdict false) (first :: later)).symm

namespace Condition

/-- The other quantifier, over the opposite outcome for each node. -/
def dual (condition : Condition) : Condition :=
  condition.negate.withQuantifier condition.quantifier.dual

@[simp] theorem dual_dual (condition : Condition) : condition.dual.dual = condition := by
  obtain ⟨capture, test, negated, quantifier⟩ := condition
  cases quantifier <;> simp [dual, negate, withQuantifier, Quantifier.dual]

@[simp] theorem places_dual (m : Match) (condition : Condition) :
    condition.dual.places m = condition.places m := rfl

/-- At each place the dual condition asks the opposite. -/
theorem about_dual (m : Match) (condition : Condition) :
    (condition.dual.places m).map (.about condition.dual.suits) =
      ((condition.places m).map (.about condition.suits)).map Inquiry.opposite := by
  obtain ⟨capture, test, negated, quantifier⟩ := condition
  cases test <;>
    simp [places, dual, negate, withQuantifier, suits, Inquiry.about, Inquiry.opposite, Function.comp_def]

theorem inquiry_dual (m : Match) (condition : Condition) (bound : condition.places m ≠ []) :
    condition.dual.inquiry m = (condition.inquiry m).opposite := by
  have some : (condition.places m).map (Inquiry.about condition.suits) ≠ [] := by simpa using bound
  rw [inquiry_eq, inquiry_eq, about_dual]
  exact condition.quantifier.inquiry_dual some

/-- With nothing to look at a condition holds, and nothing is heard. -/
theorem hear_unbound (p : Provider σ) {m : Match} {condition : Condition} (unbound : condition.places m = [])
    (s : σ) : (condition.inquiry m).hear p s = ⟨true, [], s⟩ := by
  rw [inquiry_eq, unbound]
  cases condition.quantifier <;> rfl

/-- Bound or not, the dual condition hears the same. -/
theorem hear_dual (p : Provider σ) (m : Match) (condition : Condition) (s : σ) :
    (condition.dual.inquiry m).hear p s =
      { (condition.inquiry m).hear p s with
        verdict := (condition.places m).isEmpty || !((condition.inquiry m).hear p s).verdict } := by
  by_cases unbound : condition.places m = []
  · rw [hear_unbound p ((condition.places_dual m).trans unbound), hear_unbound p unbound, unbound]
    rfl
  · rw [inquiry_dual m condition unbound, Inquiry.hear_opposite, List.isEmpty_eq_false_iff.mpr unbound,
      Bool.false_or]

end Condition

/-- An evaluation of one condition is the check of that condition. -/
theorem Evaluator.evaluate_single (p : Provider σ) (m : Match) (condition : Condition) :
    Conducts p (condition.inquiry m) fun t : Evaluator × σ => t.1.evaluate m [condition] p t.2 := by
  intro evaluator s
  obtain ⟨left, checked⟩ := check_conducts p m condition evaluator s
  refine ⟨left, ?_⟩
  simp only [evaluate, allPass, checked]
  cases ((condition.inquiry m).hear p s).verdict <;> rfl

/-- A condition and its dual are evaluated from the same state of the provider, by any evaluators. If a node
or a pair of nodes is bound, the answers are opposite; if none is, both are true and nothing is asked. Either
way the requests are the same, each with the same chunk, and so is the provider behind them. Keeping the
transcript that shows this does not disturb the evaluations. -/
theorem dual_opposes (p : Provider σ) (m : Match) (condition : Condition) (evaluator other : Evaluator)
    (s : σ) :
    let plain := evaluator.evaluate m [condition] p s
    let dual := other.evaluate m [condition.dual] p s
    let recorded := evaluator.evaluate m [condition] p.transcribed (s, [])
    let recordedDual := other.evaluate m [condition.dual] p.transcribed (s, [])
    (if (condition.places m).isEmpty then
      plain.1 = true ∧ dual.1 = true ∧ recorded.2.2 = (s, [])
    else dual.1 = !plain.1) ∧
    dual.2.2 = plain.2.2 ∧
    recordedDual.2.2 = recorded.2.2 ∧
    recorded.1 = plain.1 ∧ recordedDual.1 = dual.1 ∧ recorded.2.2.1 = plain.2.2 ∧
    p.Converse s recorded.2.2.2 plain.2.2 := by
  intro plain dual recorded recordedDual
  have heard := (condition.inquiry m).hear_transcribed p s []
  obtain ⟨_, one⟩ : ∃ left, plain = _ := Evaluator.evaluate_single p m condition evaluator s
  obtain ⟨_, two⟩ : ∃ left, dual = _ := Evaluator.evaluate_single p m condition.dual other s
  obtain ⟨_, noted⟩ : ∃ left, recorded = _ :=
    Evaluator.evaluate_single p.transcribed m condition evaluator (s, [])
  obtain ⟨_, notedDual⟩ : ∃ left, recordedDual = _ :=
    Evaluator.evaluate_single p.transcribed m condition.dual other (s, [])
  rw [condition.hear_dual] at two notedDual
  rw [heard] at noted notedDual
  rw [one, two, noted, notedDual]
  refine ⟨?_, rfl, rfl, rfl, rfl, rfl, (condition.inquiry m).hear_converse p s⟩
  cases unbound : (condition.places m).isEmpty with
  | false => exact Bool.false_or _
  | true =>
    rw [condition.hear_unbound p (List.isEmpty_iff.mp unbound)]
    exact ⟨rfl, rfl, rfl⟩

end SyntaxQuery
