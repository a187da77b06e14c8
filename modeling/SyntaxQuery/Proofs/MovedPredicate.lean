import SyntaxQuery.Engine.Standard
import SyntaxQuery.Proofs.QueryVisits
import SyntaxQuery.Proofs.TableRows

/-! A predicate moved out of the query's text. If it is the last one of its pattern and becomes the
first attached condition, the same node texts are asked for in the same order, so that a run yields the
same matches with the same requests. What the predicate drops is then counted as rejected. -/
namespace SyntaxQuery

def Condition.signed (positive : Bool) (condition : Condition) : Condition :=
  if positive then condition else condition.negate

/-- The condition that asks the same of every node. -/
def Query.TextPredicate.condition? : Query.TextPredicate → Option Condition
  | .equals capture literal positive true => some (.signed positive (.new capture (.equals literal)))
  | .search capture regex positive true => some (.signed positive (.new capture (.search regex)))
  | _ => none

def PredicateTable.pushFront (table : PredicateTable) (pattern : Nat) (condition : Condition) :
    PredicateTable :=
  let rows := table.rows ++ List.replicate (pattern + 1 - table.rows.length) []
  ⟨rows.modify pattern (condition :: ·)⟩

/-- The query without the last text predicate of the pattern, whose place the condition takes. -/
def PredicateQuery.moveLast [Engine] (query : PredicateQuery) (pattern : Nat) (condition : Condition) :
    PredicateQuery where
  query := { query.query with predicates := query.query.predicates.modify pattern List.dropLast }
  table := query.table.pushFront pattern condition

/-- Whether the last of its text predicates is what drops a raw match: all before it hold. -/
def PredicateQuery.lastDrops [Engine] (query : PredicateQuery) (p : Provider σ) (visit : Visit σ) : Bool :=
  let predicates := query.query.predicates[visit.raw.pattern]?.getD []
  let others := Inquiry.all (predicates.dropLast.map (·.inquiry visit.raw))
  (others.hear p visit.before).verdict && !visit.passed

theorem PredicateTable.forPattern_pushFront (table : PredicateTable) (pattern other : Nat)
    (condition : Condition) :
    (table.pushFront pattern condition).forPattern other =
      if other = pattern then condition :: table.forPattern pattern else table.forPattern other :=
  table.forPattern_modify pattern other (condition :: ·)

theorem Inquiry.hear_all_append (p : Provider σ) (first second : List Inquiry) (s : σ) :
    (all (first ++ second)).hear p s =
      if ((all first).hear p s).verdict = true then
        ((all first).hear p s).followedBy ((all second).hear p ((all first).hear p s).state)
      else (all first).hear p s := by
  induction first generalizing s with
  | nil => rfl
  | cons inquiry first ih =>
    unfold all at ih ⊢
    rw [List.cons_append, hear_seek_cons, hear_seek_cons, ih]
    cases stopped : (inquiry.hear p s).verdict with
    | false => simp [stopped]
    | true =>
      simp only [Bool.true_eq_false, ↓reduceIte, Hearing.followedBy]
      split <;> simp

theorem Condition.signed_new (positive : Bool) (capture : Nat) (test : TextTest) :
    signed positive (.new capture test) = ⟨capture, test, !positive, .all⟩ := by
  cases positive <;> rfl

theorem Query.inquireNodes_all (accepts : Bytes → Bool) (positive : Bool) (nodes : List Span) :
    inquireNodes accepts positive true nodes =
      .all (nodes.map (.test fun text => accepts text != !positive)) := by
  have agrees : (fun text => accepts text == positive) = fun text => accepts text != !positive := by
    funext text
    cases positive <;> simp
  rw [inquireNodes, agrees]
  rfl

/-- The two forms of the predicate ask for the same texts and judge them alike. -/
theorem Query.TextPredicate.inquiry_of_condition? {predicate : Query.TextPredicate}
    {condition : Condition} (same : predicate.condition? = some condition) (m : Match) :
    predicate.inquiry m = condition.inquiry m := by
  cases predicate with
  | equals capture literal positive all =>
    cases all with
    | false => cases same
    | true =>
      obtain rfl := Option.some.inj same
      rw [Condition.signed_new]
      exact inquireNodes_all _ positive _
  | search capture regex positive all =>
    cases all with
    | false => cases same
    | true =>
      obtain rfl := Option.some.inj same
      rw [Condition.signed_new]
      exact inquireNodes_all _ positive _
  | sameText | among => cases same

namespace PredicateQuery

variable [Engine]

theorem predicates_moveLast (query : PredicateQuery) (pattern other : Nat) (condition : Condition) :
    (query.moveLast pattern condition).query.predicates[other]?.getD [] =
      if other = pattern then (query.query.predicates[pattern]?.getD []).dropLast
      else query.query.predicates[other]?.getD [] := by
  rw [moveLast, List.getElem?_modify]
  by_cases here : other = pattern
  · subst here
    cases query.query.predicates[other]? <;> simp
  · simp [here, Ne.symm here]

theorem written_moveLast (query : PredicateQuery) (pattern : Nat) (condition : Condition)
    (raw : Match) :
    (query.moveLast pattern condition).written raw =
      if raw.pattern = pattern then
        .all ((query.query.predicates[pattern]?.getD []).dropLast.map (·.inquiry raw))
      else query.written raw := by
  rw [written, predicates_moveLast]
  split <;> rfl

theorem attached_moveLast (query : PredicateQuery) (pattern : Nat) (condition : Condition)
    (raw : Match) :
    (query.moveLast pattern condition).attached raw =
      if raw.pattern = pattern then
        .all (condition.inquiry raw :: (query.table.forPattern pattern).map (·.inquiry raw))
      else query.attached raw := by
  rw [attached, moveLast, PredicateTable.forPattern_pushFront]
  split <;> rfl

variable {query : PredicateQuery} {pattern : Nat} {predicate : Query.TextPredicate}
  {condition : Condition}

theorem written_last (last : (query.query.predicates[pattern]?.getD []).getLast? = some predicate)
    (here : raw.pattern = pattern) :
    query.written raw =
      .all ((query.query.predicates[pattern]?.getD []).dropLast.map (·.inquiry raw) ++
        [predicate.inquiry raw]) := by
  obtain ⟨earlier, predicates⟩ := List.getLast?_eq_some_iff.mp last
  rw [written, here, predicates, List.dropLast_concat, List.map_append, List.map_singleton]

/-- A visit does not see where the predicate stands, but for the count. -/
theorem visit_moveLast (p : Provider σ)
    (last : (query.query.predicates[pattern]?.getD []).getLast? = some predicate)
    (same : ∀ m, predicate.inquiry m = condition.inquiry m) (s : σ) (raw : Match) :
    let visit := query.visit p s raw
    let moved := (query.moveLast pattern condition).visit p s raw
    moved.accepted = visit.accepted ∧ moved.exchanges = visit.exchanges ∧ moved.after = visit.after ∧
      moved.rejected.toNat = visit.rejected.toNat +
        (visit.raw.pattern == pattern && query.lastDrops p visit).toNat := by
  intro visit moved
  have movedWritten := query.written_moveLast pattern condition raw
  have movedAttached := query.attached_moveLast pattern condition raw
  by_cases here : raw.pattern = pattern
  · rw [if_pos here] at movedWritten movedAttached
    rw [← List.singleton_append] at movedAttached
    have written := written_last last here
    have attached : query.attached raw =
        .all ((query.table.forPattern pattern).map (·.inquiry raw)) := by
      rw [PredicateQuery.attached, here]
    rw [same] at written
    rw [lastDrops, visit_raw, here]
    -- Both visits hear the others, then the condition, then the conditions that were attached before,
    -- as far as all comes out well.
    generalize (query.query.predicates[pattern]?.getD []).dropLast.map (·.inquiry raw) = others at *
    simp only [moved, visit, PredicateQuery.visit, Visit.rejected, Visit.accepted, Visit.passed,
      Visit.exchanges, Visit.after, written, movedWritten, attached, movedAttached,
      Inquiry.hear_all_append]
    cases ahead : ((Inquiry.all others).hear p s).verdict with
    | false => simp [ahead]
    | true =>
      cases held : ((Inquiry.all [condition.inquiry raw]).hear p
          ((Inquiry.all others).hear p s).state).verdict with
      | false => simp [held, Hearing.followedBy, Hearing.exchanges]
      | true => simp [held, Hearing.followedBy, Hearing.exchanges]
  · rw [if_neg here] at movedWritten movedAttached
    have elsewhere : moved = visit := by
      simp only [moved, visit, PredicateQuery.visit, movedWritten, movedAttached]
    simp [elsewhere, here, visit]

/-- Visit by visit both forms accept the same raw matches and leave the provider alike. -/
theorem visits_moveLast (p : Provider σ)
    (last : (query.query.predicates[pattern]?.getD []).getLast? = some predicate)
    (same : ∀ m, predicate.inquiry m = condition.inquiry m) (pulls : Nat) (raws : List Match) (s : σ) :
    let visits := query.visits p pulls raws s
    let moved := (query.moveLast pattern condition).visits p pulls raws s
    (moved.filter (·.accepted)).map (·.raw) = (visits.filter (·.accepted)).map (·.raw) ∧
      moved.flatMap (·.exchanges) = visits.flatMap (·.exchanges) ∧
      Visit.final s moved = Visit.final s visits ∧
      moved.countP (·.rejected) = visits.countP (·.rejected) +
        visits.countP fun visit => visit.raw.pattern == pattern && query.lastDrops p visit := by
  induction raws generalizing pulls s with
  | nil => cases pulls <;> simp [visits]
  | cons raw raws ih =>
    cases pulls with
    | zero => simp [visits]
    | succ pulls =>
      obtain ⟨accepted, exchanges, after, counts⟩ := visit_moveLast p last same s raw
      obtain ⟨yielded, asked, final, rejected⟩ :=
        ih (if (query.visit p s raw).accepted then pulls else pulls + 1) (query.visit p s raw).after
      simp only [visits, accepted, after, Visit.final_cons, List.flatMap_cons, exchanges, asked]
      refine ⟨?_, trivial, final, ?_⟩
      · simp only [List.filter_cons, accepted]
        cases kept : (query.visit p s raw).accepted <;> rw [kept] at yielded <;> simpa using yielded
      · simp only [Visit.countP_cons, rejected, counts]
        omega

end PredicateQuery

/-- A last text predicate that becomes the first attached condition changes nothing of what a run
yields, accepts, asks for and leaves, whether or not the provider asks for text itself. What it drops
is then counted as rejected. -/
theorem predicate_moved [Engine] (r : Responder σ) (query : PredicateQuery) (pattern : Nat)
    (predicate : Query.TextPredicate) (condition : Condition)
    (last : (query.query.predicates[pattern]?.getD []).getLast? = some predicate)
    (same : predicate.condition? = some condition) (raws : List (Match × Cursor))
    (cursor final : Cursor) (s : σ) (pulls : Nat) :
    let ran := fun query => QueryRun.collectFrom r query pulls (.before raws cursor final s)
    let recorded := fun query =>
      (QueryRun.collectFrom r.transcribed query pulls (.before raws cursor final (s, []))).2.provider.inner
    let moved := query.moveLast pattern condition
    (ran moved).1 = (ran query).1 ∧
      (ran moved).2.accepted = (ran query).2.accepted ∧
      (ran moved).2.provider = (ran query).2.provider ∧
      recorded moved = recorded query ∧
      (recorded query).1 = (ran query).2.provider.inner ∧
      (ran moved).2.rejected = (ran query).2.rejected +
        (query.visits r.alone pulls (raws.map (·.1)) s).countP fun visit =>
          visit.raw.pattern == pattern && query.lastDrops r.alone visit := by
  intro ran recorded moved
  have asks := Query.TextPredicate.inquiry_of_condition? same
  obtain ⟨yielded, asked, left, counts⟩ := PredicateQuery.visits_moveLast r.alone last asks pulls
    (raws.map (·.1)) s
  obtain ⟨run, collected, provider, accepted, rejected⟩ :=
    QueryRun.collectFrom_before r query raws cursor final s pulls
  obtain ⟨movedRun, movedCollected, movedProvider, movedAccepted, movedRejected⟩ :=
    QueryRun.collectFrom_before r moved raws cursor final s pulls
  obtain ⟨log, logged, transcript⟩ :=
    QueryRun.collectFrom_transcribed r query raws cursor final s pulls
  obtain ⟨movedLog, movedLogged, movedTranscript⟩ :=
    QueryRun.collectFrom_transcribed r moved raws cursor final s pulls
  simp only [ran, recorded, collected, movedCollected, logged, movedLogged]
  refine ⟨yielded, ?_, ?_, ?_, ?_, ?_⟩
  · have sizes := congrArg List.length yielded
    rw [List.length_map, List.length_map, ← List.countP_eq_length_filter,
      ← List.countP_eq_length_filter] at sizes
    rw [accepted, movedAccepted, sizes]
  · rw [provider, movedProvider, left]
  · rw [transcript, movedTranscript, left, asked]
  · rw [transcript, provider]
  · rw [rejected, movedRejected, counts]

/-- A node whose text is not the literal is passed over by the query's text, and counted once the
predicate is attached. -/
theorem mismatch_counted :
    let provider : Provider Bytes := ⟨fun rest _ => (rest.take 1, rest.drop 1)⟩
    let plan : Query.Plan := ⟨.ofClauses [], #[]⟩
    let query : PredicateQuery := ⟨⟨["name"], 1, [[.equals 0 [98] true true]], plan⟩, .new 1⟩
    let moved := query.moveLast 0 (.new 0 (.equals [98]))
    let ran := fun query => QueryRun.collectFrom provider.responder query 1
      (.before [(⟨0, [⟨0, 0, 1, ⟨0, 0⟩⟩]⟩, .new)] .new .new [97, 97])
    (ran moved).1 = (ran query).1 ∧ (ran moved).2.rejected = (ran query).2.rejected + 1 := by
  intro provider plan query moved ran
  obtain ⟨yielded, -, -, -, -, counts⟩ := predicate_moved provider.responder query 0
    (.equals 0 [98] true true) (.new 0 (.equals [98])) rfl rfl
    [(⟨0, [⟨0, 0, 1, ⟨0, 0⟩⟩]⟩, .new)] .new .new [97, 97] 1
  have text : provider.read ⟨0, 1, ⟨0, 0⟩⟩ [97, 97] =
      (⟨⟨0, 1, ⟨0, 0⟩⟩, ⟨[97], 1⟩, [⟨⟨0, ⟨0, 0⟩⟩, [97]⟩]⟩, [97]) := by
    rw [Provider.read_eq_fill, Assembler.fill_chunk _ _ (by decide) rfl,
      Assembler.fill_done _ _ _ _ (by decide)]
    rfl
  have dropped : (query.visit provider [97, 97] ⟨0, [⟨0, 0, 1, ⟨0, 0⟩⟩]⟩).passed = false := by
    simp [PredicateQuery.visit, Visit.passed, PredicateQuery.written, query, Match.nodesFor,
      Query.TextPredicate.inquiry, Query.inquireNodes, Inquiry.all, Inquiry.seek, Inquiry.bind,
      Inquiry.test, Inquiry.hear, text]
  refine ⟨yielded, counts.trans ?_⟩
  rw [Provider.responder_alone, List.map_singleton, PredicateQuery.visits, Visit.accepted,
    List.countP_cons, PredicateQuery.lastDrops, dropped]
  rfl

end SyntaxQuery
