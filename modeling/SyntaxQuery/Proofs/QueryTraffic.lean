import SyntaxQuery.Proofs.QueryVisits

/-! What a run of a query asks of its provider: for one raw match after the other what its visit
exchanges, and nothing else. The provider answers every request in the state that the requests before
it have left, and comes back in the state behind the last one. -/
namespace SyntaxQuery

theorem Visit.countP_passed (visits : List (Visit σ)) :
    visits.countP (·.accepted) + visits.countP (·.rejected) = visits.countP (·.passed) := by
  induction visits with
  | nil => rfl
  | cons visit later ih =>
    have outcome : visit.accepted.toNat + visit.rejected.toNat = visit.passed.toNat := by
      rw [rejected, accepted]
      cases visit.passed <;> cases visit.attached.verdict <;> rfl
    rw [countP_cons, countP_cons, countP_cons, ← ih, ← outcome]
    omega

variable [Engine]

/-- The visits of a run over raw matches. They begin with the first raw match and leave none out. -/
structure Course (p : Provider σ) (query : PredicateQuery) (raws : List Match) (pulls : Nat) (s : σ)
    (visits : List (Visit σ)) : Prop where
  inOrder : visits.map (·.raw) <+: raws
  each : ∀ earlier visit later, visits = earlier ++ visit :: later →
    visit = query.visit p (Visit.final s earlier) visit.raw
  atMost : visits.countP (·.accepted) ≤ pulls
  /-- Raw matches are left over only where the last one accepted was the last one asked for. -/
  stops : visits.length < raws.length → visits.countP (·.accepted) = pulls ∧
    ∀ visit ∈ visits.getLast?, visit.accepted = true
  /-- Of the attached conditions nothing is asked but for a raw match that was handed out. -/
  attached : ∀ visit ∈ visits, visit.passed = false ∨ query.table.forPattern visit.raw.pattern = [] →
    visit.attached.exchanges = []

namespace PredicateQuery

theorem attached_silent (query : PredicateQuery) (p : Provider σ) (s : σ) (raw : Match)
    (silent : (query.visit p s raw).passed = false ∨ query.table.forPattern raw.pattern = []) :
    (query.visit p s raw).attached.exchanges = [] := by
  rcases silent with dropped | none
  · simp only [Visit.passed, visit] at dropped
    simp [visit, dropped, Hearing.exchanges]
  · simp only [visit, PredicateQuery.attached, none]
    split <;> rfl

theorem visits_course (query : PredicateQuery) (p : Provider σ) (pulls : Nat) (raws : List Match)
    (s : σ) : Course p query raws pulls s (query.visits p pulls raws s) := by
  have steps : Quota Visit.raw Visit.after (·.accepted)
      (fun s visit => visit = query.visit p s visit.raw) pulls raws s (query.visits p pulls raws s) := by
    rw [visits_eq_steps]
    exact quota_sound pulls raws s (fun _ _ => rfl) fun _ _ => rfl
  refine ⟨steps.inOrder, steps.each, steps.atMost, fun left => ⟨steps.enough left, steps.last_passes left⟩,
    fun visit member silent => ?_⟩
  obtain ⟨earlier, later, split⟩ := List.mem_iff_append.mp member
  have same := steps.each earlier visit later split
  rw [same] at silent ⊢
  exact query.attached_silent p _ visit.raw silent

end PredicateQuery

theorem QueryRun.finish_of_provider {run : QueryRun σ} (both : run.provider = ⟨s, false, [0, 1], 2⟩) :
    run.finish = some s := by
  rw [QueryRun.finish, both]
  rfl

/-- A run of a query has its course: the matches, the counts, the provider in the end and the
transcript of its requests are those of the visits, and the transcript holds what the provider by
itself says to these requests. Keeping the transcript does not disturb the run. -/
theorem query_traffic (p : Provider σ) (query : PredicateQuery) (raws : List (Match × Cursor))
    (cursor last : Cursor) (s : σ) (pulls : Nat) :
    let ran := QueryRun.collect p query pulls (.before raws cursor last s)
    let recorded := QueryRun.collect p.transcribed query pulls (.before raws cursor last (s, []))
    ∃ visits : List (Visit σ), Course p query (raws.map (·.1)) pulls s visits ∧
      ran.1 = (visits.filter (·.accepted)).map (·.raw) ∧
      ran.2.accepted + ran.2.rejected = visits.countP (·.passed) ∧
      ran.2.provider.busy = false ∧
      ran.2.finish = some (Visit.final s visits) ∧
      recorded.1 = ran.1 ∧
      recorded.2.finish = some (Visit.final s visits, visits.flatMap (·.exchanges)) ∧
      p.Converse s (visits.flatMap (·.exchanges)) (Visit.final s visits) := by
  intro ran recorded
  obtain ⟨run, collected, provider, accepted, rejected⟩ :=
    QueryRun.collectFrom_before p.responder query raws cursor last s pulls
  obtain ⟨noted, transcribed, lent⟩ :=
    QueryRun.collectFrom_transcribed p.responder query raws cursor last s pulls
  rw [Provider.responder_alone] at collected provider accepted rejected transcribed lent
  rw [← Provider.responder_transcribed] at transcribed
  refine ⟨query.visits p pulls (raws.map (·.1)) s, query.visits_course p pulls _ s, ?_, ?_, ?_, ?_,
    ?_, ?_, query.visits_converse p pulls _ s⟩
  all_goals simp only [ran, recorded, QueryRun.collect, collected, transcribed]
  · rw [accepted, rejected, Visit.countP_passed]
  · rw [provider]
  · exact QueryRun.finish_of_provider provider
  · exact QueryRun.finish_of_provider lent

end SyntaxQuery
