import SyntaxQuery.Proofs.MovedPredicate
import SyntaxQuery.Proofs.QueryMeaning
import SyntaxQuery.Provider.Slice

/-! Two captures compared, in the query's text and as an attached condition. Pair by pair both ask the
same. Where one capture has more nodes, the predicate in the text fails for that alone, while the
attached condition leaves the nodes without a partner aside. -/
namespace SyntaxQuery

def Match.balanced (m : Match) (left right : Nat) : Bool :=
  (m.nodesFor left).length == (m.nodesFor right).length

/-- The predicate asks what the condition asks, and for a partner to every node. -/
theorem Query.TextPredicate.under_sameText (text : Span → Bytes) (left right : Nat) (positive : Bool)
    (raw : Match) :
    ((sameText left right positive true).inquiry raw).under text =
      (((Condition.signed positive (.new left (.sameAs right))).inquiry raw).under text &&
        raw.balanced left right) := by
  rw [Condition.signed_new]
  change (Inquiry.seek false (.verdict (raw.balanced left right)) _).under text =
    ((Inquiry.all _).under text && _)
  rw [Inquiry.under_seek_false, Inquiry.under_all]
  rfl

/-- In the query's text the predicate admits less than in front of the attached conditions: the raw
matches in which both captures are bound equally often. -/
theorem PredicateQuery.admits_moveLast [Engine] {query : PredicateQuery} {pattern left right : Nat}
    {positive : Bool}
    (last : (query.query.predicates[pattern]?.getD []).getLast? =
      some (.sameText left right positive true)) (text : Span → Bytes) (raw : Match) :
    query.admits text raw =
      ((query.moveLast pattern (.signed positive (.new left (.sameAs right)))).admits text raw &&
        (raw.pattern != pattern || raw.balanced left right)) := by
  rw [admits, admits, written_moveLast, attached_moveLast]
  by_cases here : raw.pattern = pattern
  · rw [if_pos here, if_pos here, written_last last here, PredicateQuery.attached, here]
    simp only [Inquiry.under_all, List.all_append, List.all_cons, List.all_nil,
      Query.TextPredicate.under_sameText, bne_self_eq_false, Bool.false_or, Bool.and_true]
    ac_rfl
  · simp [here]

/-- Over a provider that is true to a source, a comparison of two captures in the query's text lets
those matches through that the attached comparison lets through and in which both captures are bound
equally often. -/
theorem capture_pairs_agree [Engine] (r : Responder σ) (query : PredicateQuery) (pattern left right : Nat)
    (positive : Bool)
    (last : (query.query.predicates[pattern]?.getD []).getLast? =
      some (.sameText left right positive true))
    (raws : List (Match × Cursor)) (cursor final : Cursor) (source : Bytes) (s : σ)
    (faithful : r.alone.Faithful source s) (pulls : Nat) :
    let yields := fun query pulls => (QueryRun.collectFrom r query pulls (.before raws cursor final s)).1
    let moved := query.moveLast pattern (.signed positive (.new left (.sameAs right)))
    yields query pulls =
      ((yields moved raws.length).filter fun m =>
        m.pattern != pattern || m.balanced left right).take pulls := by
  intro yields moved
  have few : ((raws.map (·.1)).filter (moved.admits (·.textIn source))).length ≤ raws.length := by
    simpa using List.length_filter_le (moved.admits (·.textIn source)) (raws.map (·.1))
  simp only [yields, QueryRun.collectFrom_faithful r _ raws cursor final _ faithful]
  rw [List.take_of_length_le few, List.filter_filter]
  congr 2
  funext raw
  rw [PredicateQuery.admits_moveLast last, Bool.and_comm]

/-- Both captures are bound to one node, and the texts differ in no byte. -/
theorem equal_pair_yielded :
    let plan : Query.Plan := ⟨.ofClauses [], #[]⟩
    let query : PredicateQuery :=
      ⟨⟨["first", "second"], 1, [[.sameText 0 1 true true]], plan⟩, .new 1⟩
    let raw : Match := ⟨0, [⟨0, 0, 1, ⟨0, 0⟩⟩, ⟨1, 2, 3, ⟨0, 2⟩⟩]⟩
    (QueryRun.collectFrom (Slice.whole [97, 44, 97]).provider.responder query 1
      (.before [(raw, .new)] .new .new ())).1 = [raw] := by
  intro plan query raw
  have faithful : (Slice.whole [97, 44, 97]).provider.responder.alone.Faithful [97, 44, 97] () :=
    Slice.whole_faithful _
  refine (capture_pairs_agree _ query 0 0 1 true rfl [(raw, .new)] .new .new _ _ faithful 1).trans ?_
  simp only [QueryRun.collectFrom_faithful _ _ _ _ _ _ faithful]
  decide

/-- A capture that is bound once and one that is not bound have no pair of nodes. The predicate in the
query's text drops the raw match, the attached condition lets it through. -/
theorem unpaired_node_separates :
    let captures := ["first", "second"]
    let plan : Query.Plan := ⟨.ofClauses [], #[]⟩
    let inText : PredicateQuery := ⟨⟨captures, 1, [[.sameText 0 1 true true]], plan⟩, .new 1⟩
    let attached : PredicateQuery := ⟨⟨captures, 1, [[]], plan⟩, ⟨[[.new 0 (.sameAs 1)]]⟩⟩
    let raw : Match := ⟨0, [⟨0, 1, 4, ⟨0, 1⟩⟩]⟩
    let yields := fun query => (QueryRun.collect (Slice.whole [91, 34, 97, 34, 93]).provider query 1
      (.before [(raw, .new)] .new .new ())).1
    yields inText = [] ∧ yields attached = [raw] := by
  decide

end SyntaxQuery
