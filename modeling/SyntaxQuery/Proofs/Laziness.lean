import SyntaxQuery.Proofs.FilterSteps
import SyntaxQuery.Proofs.Screening
import SyntaxQuery.Provider.Slice

/-! How little a filter reads. A run screens the candidates that it pulls and no others, each up to its
first condition that fails, and its requests are those of the screenings. What was not looked at may be
replaced, and the run does not change. -/
namespace SyntaxQuery

namespace PredicateTable

def screenings (p : Provider σ) (table : PredicateTable) (pulls : Nat) (candidates : List Match)
    (s : σ) : List (Screening σ) :=
  quota (table.screening p) Screening.after (·.passed) pulls candidates s

theorem screenings_zero (p : Provider σ) (table : PredicateTable) (candidates : List Match) (s : σ) :
    table.screenings p 0 candidates s = [] := quota_zero candidates s

theorem screenings_nil (p : Provider σ) (table : PredicateTable) (pulls : Nat) (s : σ) :
    table.screenings p pulls [] s = [] := by cases pulls <;> rfl

theorem screenings_cons (p : Provider σ) (table : PredicateTable) (pulls : Nat) (m : Match)
    (later : List Match) (s : σ) :
    let screening := table.screening p m s
    table.screenings p (pulls + 1) (m :: later) s =
      screening :: table.screenings p (if screening.passed then pulls else pulls + 1) later
        screening.after := rfl

theorem screenings_quota (p : Provider σ) (table : PredicateTable) (pulls : Nat)
    (candidates : List Match) (s : σ) :
    Quota Screening.candidate Screening.after (·.passed) (Screening.Sound p table) pulls candidates s
      (table.screenings p pulls candidates s) :=
  quota_sound pulls candidates s (table.screening_candidate p) (table.screening_sound p)

/-- What screenings leave in a transcript are their own exchanges, in order. -/
theorem screenings_transcribed (p : Provider σ) (table : PredicateTable) (pulls : Nat)
    (candidates : List Match) (s : σ) (earlier : List Exchange) :
    let screenings := table.screenings p pulls candidates s
    let recorded := table.screenings p.transcribed pulls candidates (s, earlier)
    recorded.map (·.verdict) = screenings.map (·.verdict) ∧
      behind Screening.after (s, earlier) recorded =
        (behind Screening.after s screenings, earlier ++ screenings.flatMap (·.exchanges)) := by
  induction candidates generalizing pulls s earlier with
  | nil => simp [screenings_nil, behind]
  | cons m later ih =>
    cases pulls with
    | zero => simp [screenings_zero, behind]
    | succ pulls =>
      obtain ⟨passed, after⟩ := table.screening_transcribed p m s earlier
      obtain ⟨verdicts, left⟩ := ih (if (table.screening p m s).passed then pulls else pulls + 1)
        (table.screening p m s).after (earlier ++ (table.screening p m s).exchanges)
      rw [screenings_cons, screenings_cons, passed, after]
      refine ⟨?_, ?_⟩
      · rw [List.map_cons, List.map_cons, verdicts, Screening.verdict, passed]
        rfl
      · rw [List.flatMap_cons, ← List.append_assoc]
        simp only [behind, List.foldl_cons, after] at left ⊢
        exact left

theorem screenings_converse (p : Provider σ) (table : PredicateTable) (pulls : Nat)
    (candidates : List Match) (s : σ) :
    p.Converse s ((table.screenings p pulls candidates s).flatMap (·.exchanges))
      (behind Screening.after s (table.screenings p pulls candidates s)) := by
  induction candidates generalizing pulls s with
  | nil =>
    rw [screenings_nil]
    rfl
  | cons m later ih =>
    cases pulls with
    | zero => rfl
    | succ pulls => exact (table.screening_converse p m s).append (ih _ _)

def handling (p : Provider σ) (table : PredicateTable) : Filter.Handling Match (Screening σ) σ :=
  ⟨table.screening p, Screening.after, Screening.candidate, fun _ => true, Screening.passed⟩

theorem handling_of (p : Provider σ) (table : PredicateTable) :
    (table.handling p).Of (.replay σ) table p fun candidates script => script = candidates.map some where
  handed _ _ := rfl
  none := by
    rintro _ captures s rfl
    exact ⟨[], rfl⟩
  drops _ _ _ _ _ dropped := nomatch dropped
  hands := by
    rintro m later _ s rfl one -
    refine ⟨later.map some, s, rfl, fun _ => rfl, fun evaluator => ?_⟩
    obtain ⟨checker, checked⟩ := Evaluator.evaluate_conducts p m (table.forPattern m.pattern) evaluator s
    rw [table.hear_all] at checked
    exact ⟨checker, checked⟩

end PredicateTable

namespace Filter

structure Outcome (π : Type) where
  found : List Match
  accepted : Nat
  rejected : Nat
  finished : Bool
  provider : π

/-- A run over these candidates that is asked for so many matches. One pull more than there are
candidates decides every advance. -/
def sift (p : Provider σ) (table : PredicateTable) (pulls : Nat) (candidates : List Match) (s : σ) :
    Outcome σ :=
  let (found, last) :=
    (new (candidates.map some) s).collect (.replay σ) table p (candidates.length + 1) pulls
  ⟨found, last.accepted, last.rejected, last.finished, last.provider⟩

def Outcome.ofVerdicts (pulls : Nat) (verdicts : List (Match × Bool)) (provider : π) : Outcome π where
  found := (verdicts.filter (·.2)).map (·.1)
  accepted := verdicts.countP (·.2)
  rejected := verdicts.countP (!·.2)
  finished := decide (verdicts.countP (·.2) < pulls)
  provider := provider

theorem sift_eq (p : Provider σ) (table : PredicateTable) (pulls : Nat) (candidates : List Match)
    (s : σ) :
    let screenings := table.screenings p pulls candidates s
    sift p table pulls candidates s =
      .ofVerdicts pulls (screenings.map (·.verdict)) (behind Screening.after s screenings) := by
  have faces : Faces (fun candidates script => script = candidates.map some) candidates s 0 0
      (new (candidates.map some) s) := ⟨rfl, rfl, rfl, rfl, rfl⟩
  obtain ⟨last, collected, provider, accepted, rejected, finished⟩ :=
    faces.collect_steps (table.handling_of p) (Nat.lt_succ_self candidates.length) pulls
  rw [Nat.zero_add] at accepted rejected
  simp only [sift, collected, provider, accepted, rejected, finished, Outcome.ofVerdicts,
    List.filter_map, List.map_map, List.countP_map]
  rfl

structure Sifted (p : Provider σ) (table : PredicateTable) (pulls : Nat) (candidates : List Match)
    (s : σ) (screenings : List (Screening σ)) : Prop where
  screened : Quota Screening.candidate Screening.after (·.passed) (Screening.Sound p table) pulls
    candidates s screenings
  outcome : sift p table pulls candidates s =
    .ofVerdicts pulls (screenings.map (·.verdict)) (behind Screening.after s screenings)
  recorded : sift p.transcribed table pulls candidates (s, []) =
    .ofVerdicts pulls (screenings.map (·.verdict))
      (behind Screening.after s screenings, screenings.flatMap (·.exchanges))
  converse : p.Converse s (screenings.flatMap (·.exchanges)) (behind Screening.after s screenings)

theorem sift_sifted (p : Provider σ) (table : PredicateTable) (pulls : Nat) (candidates : List Match)
    (s : σ) : Sifted p table pulls candidates s (table.screenings p pulls candidates s) where
  screened := table.screenings_quota p pulls candidates s
  outcome := sift_eq p table pulls candidates s
  recorded := by
    obtain ⟨verdicts, left⟩ := table.screenings_transcribed p pulls candidates s []
    rw [sift_eq, verdicts, left, List.nil_append]
  converse := table.screenings_converse p pulls candidates s

/-- Another table and other candidates that leave alone all that these screenings have looked at. -/
structure Spares (table other : PredicateTable) (others : List Match)
    (screenings : List (Screening σ)) : Prop where
  pulled : screenings.map (·.candidate) <+: others
  passed : ∀ screening ∈ screenings, screening.passed = true →
    other.forPattern screening.candidate.pattern = table.forPattern screening.candidate.pattern
  rejected : ∀ screening ∈ screenings, screening.passed = false →
    screening.trials.map (·.condition) <+: other.forPattern screening.candidate.pattern

theorem Spares.prefix_screenings {reached : List (Screening σ)}
    (spares : Spares table other others reached)
    (begins : reached <+: table.screenings p pulls candidates s) :
    reached <+: other.screenings p pulls others s := by
  have steps : Quota Screening.candidate Screening.after (·.passed)
      (fun s screening => table.screening p screening.candidate s = screening) pulls candidates s
      (table.screenings p pulls candidates s) :=
    quota_sound pulls candidates s (table.screening_candidate p) fun _ _ => rfl
  -- What was reached is what the other table comes to as well, in the same state.
  refine quota_kept reached begins spares.pulled fun earlier screening later split => ?_
  obtain ⟨rest, whole⟩ := begins
  have here := steps.each earlier screening (later ++ rest) (by rw [← whole, split]; simp)
  have member : screening ∈ reached := by simp [split]
  refine (table.screening_spared p other screening.candidate _ ?_ ?_).trans here
  · rw [here]
    exact spares.passed screening member
  · rw [here]
    exact spares.rejected screening member

/-- A run asks for what its screenings ask for, and for nothing else; candidates without conditions cause
no request. The screenings up to any point are still those of a run in which candidates that have not
been pulled by then, or conditions that have not been tried, are replaced. If the whole run has not come
to them, nothing becomes of replacing them. -/
theorem sift_lazy (p : Provider σ) (table : PredicateTable) (pulls : Nat) (candidates : List Match)
    (s : σ) :
    ∃ screenings : List (Screening σ), Sifted p table pulls candidates s screenings ∧
      (∀ screening ∈ screenings, table.forPattern screening.candidate.pattern = [] →
        screening.passed = true ∧ screening.exchanges = []) ∧
      ∀ (other : PredicateTable) (others : List Match),
        (∀ reached, reached <+: screenings → Spares table other others reached →
          ∃ continued, Sifted p other pulls others s continued ∧ reached <+: continued) ∧
        (Spares table other others screenings →
          (screenings.countP (·.passed) < pulls → others = candidates) →
          Sifted p other pulls others s screenings ∧
          sift p other pulls others s = sift p table pulls candidates s ∧
          sift p.transcribed other pulls others (s, []) =
            sift p.transcribed table pulls candidates (s, [])) := by
  have sifted := sift_sifted p table pulls candidates s
  refine ⟨_, sifted, fun screening member silent => ?_, fun other others => ⟨?upTo, ?whole⟩⟩
  · obtain ⟨earlier, later, split⟩ := List.mem_iff_append.mp member
    have none := (sifted.screened.each earlier screening later split).trials.inOrder
    rw [silent] at none
    have none : screening.trials = [] := by simpa using none
    simp [Screening.passed, Screening.exchanges, none]
  case upTo =>
    intro reached begins spares
    exact ⟨_, sift_sifted p other pulls others s, spares.prefix_screenings begins⟩
  case whole =>
    intro spares ends
    have begins := spares.prefix_screenings (List.prefix_refl _)
    have same := sifted.screened.no_further (other.screenings_quota p pulls others s) begins ends
    have replaced := sift_sifted p other pulls others s
    rw [same] at replaced
    exact ⟨replaced, replaced.outcome.trans sifted.outcome.symm,
      replaced.recorded.trans sifted.recorded.symm⟩

/-- The first condition fails: the node of the second one is not asked for, and the candidate behind the
match is not pulled. -/
example :
    let condition (capture : Nat) : Condition := .new capture (.equals [98])
    let candidate (a b : Offset) : Match := ⟨0, [⟨0, a, a + 1, ⟨0, 0⟩⟩, ⟨1, b, b + 1, ⟨0, 0⟩⟩]⟩
    let ran := sift (Slice.whole [97, 98, 98]).provider.transcribed ⟨[[condition 0, condition 1]]⟩ 1
      [candidate 0 1, candidate 1 2, candidate 0 2] ((), [])
    ran.rejected = 1 ∧ ran.provider.2.map (·.request.offset) = [0, 1, 2] := by decide +kernel

end Filter

end SyntaxQuery
