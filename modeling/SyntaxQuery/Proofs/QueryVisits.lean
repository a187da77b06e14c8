import SyntaxQuery.Proofs.CheckInquiry
import SyntaxQuery.Proofs.FilterSteps

/-! A run of a query, raw match by raw match. A visit is what becomes of one raw match against the
bare provider: what the predicates in the query's text hear, and then what the attached conditions
hear. A run through the shared provider yields the raw matches whose visits were accepted, counts
them, and leaves the provider as its last visit did. -/
namespace SyntaxQuery

structure Visit (σ : Type) where
  raw : Match
  /-- The provider's state when the raw match comes up. -/
  before : σ
  written : Hearing σ
  /-- Nothing is heard unless what is written came out well. -/
  attached : Hearing σ

namespace Visit

def passed (visit : Visit σ) : Bool := visit.written.verdict

def accepted (visit : Visit σ) : Bool := visit.passed && visit.attached.verdict

/-- The raw match is handed out and then dropped. -/
def rejected (visit : Visit σ) : Bool := visit.passed && !visit.accepted

def after (visit : Visit σ) : σ := visit.attached.state

def exchanges (visit : Visit σ) : List Exchange :=
  visit.written.exchanges ++ visit.attached.exchanges

def mapState (lift : σ → τ) (visit : Visit σ) : Visit τ :=
  ⟨visit.raw, lift visit.before, visit.written.mapState lift, visit.attached.mapState lift⟩

@[simp] theorem raw_mapState (lift : σ → τ) (visit : Visit σ) :
    (visit.mapState lift).raw = visit.raw := rfl

@[simp] theorem passed_mapState (lift : σ → τ) (visit : Visit σ) :
    (visit.mapState lift).passed = visit.passed := rfl

@[simp] theorem accepted_mapState (lift : σ → τ) (visit : Visit σ) :
    (visit.mapState lift).accepted = visit.accepted := rfl

@[simp] theorem rejected_mapState (lift : σ → τ) (visit : Visit σ) :
    (visit.mapState lift).rejected = visit.rejected := rfl

theorem countP_cons (counts : Visit σ → Bool) (visit : Visit σ) (later : List (Visit σ)) :
    (visit :: later).countP counts = later.countP counts + (counts visit).toNat := by
  rw [List.countP_cons]
  cases counts visit <;> rfl

/-- The provider's state behind the last visit. -/
def final (s : σ) (visits : List (Visit σ)) : σ := visits.foldl (fun _ visit => visit.after) s

@[simp] theorem final_nil (s : σ) : final s [] = s := rfl

@[simp] theorem final_cons (s : σ) (visit : Visit σ) (later : List (Visit σ)) :
    final s (visit :: later) = final visit.after later := rfl

theorem final_mapState (lift : σ → τ) (s : σ) (visits : List (Visit σ)) :
    final (lift s) (visits.map (mapState lift)) = lift (final s visits) := by
  induction visits generalizing s with
  | nil => rfl
  | cons visit later ih => exact ih visit.after

end Visit

variable [Engine]

namespace PredicateQuery

/-- What the query's text asks of a raw match: its pattern's predicates, up to the first that
fails. -/
def written (query : PredicateQuery) (raw : Match) : Inquiry :=
  .all ((query.query.predicates[raw.pattern]?.getD []).map (·.inquiry raw))

def attached (query : PredicateQuery) (raw : Match) : Inquiry :=
  .all ((query.table.forPattern raw.pattern).map (·.inquiry raw))

def visit (query : PredicateQuery) (p : Provider σ) (s : σ) (raw : Match) : Visit σ :=
  let written := (query.written raw).hear p s
  ⟨raw, s, written,
    if written.verdict then (query.attached raw).hear p written.state
    else ⟨false, [], written.state⟩⟩

@[simp] theorem visit_raw (query : PredicateQuery) (p : Provider σ) (s : σ) (raw : Match) :
    (query.visit p s raw).raw = raw := rfl

/-- The raw matches that come up until so many are accepted, each in the state that the one before
left. -/
def visits (query : PredicateQuery) (p : Provider σ) : Nat → List Match → σ → List (Visit σ)
  | 0, _, _ => []
  | _ + 1, [], _ => []
  | pulls + 1, raw :: raws, s =>
    let visit := query.visit p s raw
    visit :: visits query p (if visit.accepted then pulls else pulls + 1) raws visit.after

theorem visit_lifts {p : Provider σ} {q : Provider τ} (lifts : p.Lifts lift q)
    (query : PredicateQuery) (s : σ) (raw : Match) :
    query.visit q (lift s) raw = (query.visit p s raw).mapState lift := by
  simp only [visit, Inquiry.hear_lifts lifts, Hearing.mapState, Visit.mapState]
  split <;> rfl

theorem visits_lifts {p : Provider σ} {q : Provider τ} (lifts : p.Lifts lift q)
    (query : PredicateQuery) (pulls : Nat) (raws : List Match) (s : σ) :
    query.visits q pulls raws (lift s) =
      (query.visits p pulls raws s).map (Visit.mapState lift) := by
  induction raws generalizing pulls s with
  | nil => cases pulls <;> rfl
  | cons raw raws ih =>
    cases pulls with
    | zero => rfl
    | succ pulls =>
      simp only [visits, visit_lifts lifts, List.map_cons]
      exact congrArg (_ :: ·) (ih _ _)

theorem visit_transcribed (p : Provider σ) (query : PredicateQuery) (s : σ)
    (earlier : List Exchange) (raw : Match) :
    (query.visit p.transcribed (s, earlier) raw).after =
      ((query.visit p s raw).after, earlier ++ (query.visit p s raw).exchanges) := by
  simp only [visit, Visit.after, Visit.exchanges, Inquiry.hear_transcribed]
  split
  · simp only [List.append_assoc]
  · simp [Hearing.exchanges]

/-- What visits leave in a transcript are their own exchanges, in order. -/
theorem final_transcribed (p : Provider σ) (query : PredicateQuery) (pulls : Nat)
    (raws : List Match) (s : σ) (earlier : List Exchange) :
    Visit.final (s, earlier) (query.visits p.transcribed pulls raws (s, earlier)) =
      (Visit.final s (query.visits p pulls raws s),
        earlier ++ (query.visits p pulls raws s).flatMap (·.exchanges)) := by
  induction raws generalizing pulls s earlier with
  | nil => cases pulls <;> simp [visits]
  | cons raw raws ih =>
    cases pulls with
    | zero => simp [visits]
    | succ pulls =>
      have erased := query.visit_lifts p.transcribed_erases (s, earlier) raw
      have accepted : (query.visit p.transcribed (s, earlier) raw).accepted =
          (query.visit p s raw).accepted := by rw [erased]; rfl
      simp only [visits, Visit.final_cons, accepted, query.visit_transcribed p, ih,
        List.flatMap_cons, List.append_assoc]

theorem visit_converse (p : Provider σ) (query : PredicateQuery) (s : σ) (raw : Match) :
    p.Converse s (query.visit p s raw).exchanges (query.visit p s raw).after := by
  have heard := Inquiry.hear_converse p (query.written raw) s
  simp only [visit, Visit.exchanges, Visit.after]
  split
  · exact heard.append (Inquiry.hear_converse p _ _)
  · exact heard.append rfl

theorem visits_converse (p : Provider σ) (query : PredicateQuery) (pulls : Nat) (raws : List Match)
    (s : σ) :
    p.Converse s ((query.visits p pulls raws s).flatMap (·.exchanges))
      (Visit.final s (query.visits p pulls raws s)) := by
  induction raws generalizing pulls s with
  | nil => cases pulls <;> rfl
  | cons raw raws ih =>
    cases pulls with
    | zero => rfl
    | succ pulls => exact (query.visit_converse p s raw).append (ih _ _)

end PredicateQuery

namespace RawMatches

/-- A raw match is handed out if the predicates in the query's text pass it. If not, the pull goes
on behind it. -/
theorem pull_cons (r : Responder σ) (query : PredicateQuery) (last : Cursor) (raw : Match)
    (cursor : Cursor) (pending : List (Match × Cursor)) (assembler : Assembler) (cell : Shared σ) :
    ∃ left, pull r query.query last ((raw, cursor) :: pending) assembler cell =
      let visit := query.visit (Shared.provider r) cell raw
      if visit.passed then (some raw, ⟨pending, left, cursor, last⟩, visit.written.state)
      else pull r query.query last pending left visit.written.state := by
  obtain ⟨left, checked⟩ : ∃ left, query.query.satisfies r raw (assembler, cell) = _ :=
    allPass_conducts (Query.TextPredicate.holds_conducts r raw) _ assembler cell
  refine ⟨left, ?_⟩
  rw [pull, checked]
  simp only [Visit.passed, PredicateQuery.visit, PredicateQuery.written]
  split <;> simp_all

end RawMatches

namespace PredicateQuery

def handling (query : PredicateQuery) (p : Provider σ) : Filter.Handling Match (Visit σ) σ :=
  ⟨fun raw s => query.visit p s raw, Visit.after, Visit.raw, Visit.passed, Visit.accepted⟩

theorem visits_eq_steps (query : PredicateQuery) (p : Provider σ) (pulls : Nat) (raws : List Match)
    (s : σ) : query.visits p pulls raws s = (query.handling p).steps pulls raws s := by
  induction raws generalizing pulls s with
  | nil => cases pulls <;> rfl
  | cons raw raws ih =>
    cases pulls with
    | zero => rfl
    | succ pulls => exact congrArg (_ :: ·) (ih _ _)

theorem handling_of (r : Responder σ) (query : PredicateQuery) :
    (query.handling (Shared.provider r)).Of (RawMatches.source r query.query) query.table
      (Shared.provider r) fun raws state => state.pending.map (·.1) = raws where
  handed _ accepted := (Bool.and_eq_true_iff.mp accepted).1
  none state captures cell dry := by
    have dry : state.pending = [] := List.map_eq_nil_iff.mp dry
    exact ⟨_, by simp only [RawMatches.source, dry, RawMatches.pull]; rfl⟩
  drops raw later state cell before dropped := by
    obtain ⟨⟨raw, cursor⟩, pending, split, rfl, rest⟩ := List.map_eq_cons_iff.mp before
    obtain ⟨left, pulled⟩ := RawMatches.pull_cons r query state.last raw cursor pending
      state.assembler cell
    have dropped : (query.visit (Shared.provider r) cell raw).passed = false := dropped
    simp only [dropped, Bool.false_eq_true, ↓reduceIte] at pulled
    have after : (query.visit (Shared.provider r) cell raw).written.state =
        (query.visit (Shared.provider r) cell raw).after := by
      simp only [Visit.passed, visit] at dropped
      simp [visit, Visit.after, dropped]
    rw [after] at pulled
    refine ⟨{ state with pending := pending, assembler := left }, rest, fun captures => ?_⟩
    simp only [RawMatches.source, split, pulled, handling]
  hands := by
    intro _ later state cell before visit handed
    obtain ⟨⟨raw, cursor⟩, pending, split, rfl, rest⟩ := List.map_eq_cons_iff.mp before
    obtain ⟨left, pulled⟩ := RawMatches.pull_cons r query state.last raw cursor pending
      state.assembler cell
    have passed : visit.passed = true := handed
    replace pulled := pulled.trans (if_pos passed)
    refine ⟨⟨pending, left, cursor, state.last⟩, visit.written.state, rest, fun captures => ?_,
      fun evaluator => ?_⟩
    · simp only [RawMatches.source, split, pulled]
      rfl
    · obtain ⟨checker, checked⟩ := Evaluator.evaluate_conducts (Shared.provider r) raw
        (query.table.forPattern raw.pattern) evaluator visit.written.state
      have attached : visit.attached = (query.attached raw).hear (Shared.provider r)
          visit.written.state := if_pos passed
      have accepted : visit.accepted = visit.attached.verdict := by
        rw [Visit.accepted, passed, Bool.true_and]
      refine ⟨checker, checked.trans ?_⟩
      change (_, checker, _) = (visit.accepted, checker, visit.attached.state)
      rw [accepted, attached]
      rfl

end PredicateQuery

namespace QueryRun

/-- The run of a query is told by its visits of the bare provider. In the end the shared provider is
idle, with both handles alive. -/
theorem collectFrom_before (r : Responder σ) (query : PredicateQuery) (raws : List (Match × Cursor))
    (cursor last : Cursor) (s : σ) (pulls : Nat) :
    let visits := query.visits r.alone pulls (raws.map (·.1)) s
    ∃ run, collectFrom r query pulls (before raws cursor last s) =
        ((visits.filter (·.accepted)).map (·.raw), run) ∧
      run.provider = ⟨Visit.final s visits, false, [0, 1], 2⟩ ∧
      run.accepted = visits.countP (·.accepted) ∧
      run.rejected = visits.countP (·.rejected) := by
  intro visits
  have lifts := Shared.provider_lifts r (Shared.new s).clone.2 rfl
  have lifted : query.visits (Shared.provider r) pulls (raws.map (·.1)) (Shared.new s).clone.2 =
      visits.map (Visit.mapState fun inner => ⟨inner, false, [0, 1], 2⟩) :=
    PredicateQuery.visits_lifts lifts query pulls (raws.map (·.1)) s
  have faces : Filter.Faces (fun raws (state : RawMatches) => state.pending.map (·.1) = raws)
      (raws.map (·.1)) (Shared.new s).clone.2 0 0 (before raws cursor last s) :=
    ⟨rfl, rfl, rfl, rfl, rfl⟩
  have limit : (raws.map (·.1)).length < limit (before raws cursor last s) := by
    simp [limit, before, Filter.new]
  obtain ⟨run, collected, provider, accepted, rejected, -⟩ :=
    faces.collect_steps (query.handling_of r) limit pulls
  rw [← query.visits_eq_steps, lifted] at collected provider accepted rejected
  have final := Visit.final_mapState (fun inner => (⟨inner, false, [0, 1], 2⟩ : Shared σ)) s visits
  refine ⟨run, collected.trans ?_, provider.trans final, ?_, ?_⟩
  · simp [PredicateQuery.handling, List.filter_map, Function.comp_def]
  · simpa [PredicateQuery.handling, List.countP_map, Function.comp_def] using accepted
  · simpa [PredicateQuery.handling, Filter.Handling.rejected, Visit.rejected, List.countP_map,
      Function.comp_def] using rejected

/-- A transcript that is kept along with the run holds what the visits exchange, and does not disturb
it. -/
theorem collectFrom_transcribed (r : Responder σ) (query : PredicateQuery)
    (raws : List (Match × Cursor)) (cursor last : Cursor) (s : σ) (pulls : Nat) :
    let visits := query.visits r.alone pulls (raws.map (·.1)) s
    ∃ run, collectFrom r.transcribed query pulls (before raws cursor last (s, [])) =
        ((visits.filter (·.accepted)).map (·.raw), run) ∧
      run.provider = ⟨(Visit.final s visits, visits.flatMap (·.exchanges)), false, [0, 1], 2⟩ := by
  intro visits
  obtain ⟨run, collected, provider, -⟩ :=
    collectFrom_before r.transcribed query raws cursor last (s, []) pulls
  have erased : visits = (query.visits r.alone.transcribed pulls (raws.map (·.1)) (s, [])).map
      (Visit.mapState Prod.fst) :=
    PredicateQuery.visits_lifts r.alone.transcribed_erases query pulls (raws.map (·.1)) (s, [])
  have transcript := query.final_transcribed r.alone pulls (raws.map (·.1)) s []
  rw [Responder.transcribed_alone] at collected provider
  refine ⟨run, collected.trans ?_, provider.trans ?_⟩
  · simp [erased, List.filter_map, Function.comp_def]
  · rw [transcript, List.nil_append]

end QueryRun

end SyntaxQuery
