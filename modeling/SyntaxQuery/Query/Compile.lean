import SyntaxQuery.Query
import SyntaxQuery.Query.PredicateCall
import SyntaxQuery.Query.Reader
import SyntaxQuery.Query.Structure

/-! Reading a query's text against the grammar of its language. -/
namespace SyntaxQuery.Query

def rowOf (source : Bytes) (offset : Nat) : Nat := (source.take offset).count Bytes.newline

/-- Text is read first, then checked against the grammar; predicates are looked at last. -/
def ofText (grammar : Grammar) (source : String) : Except Fault (Query Plan) := do
  let (clauses, captures) ← read grammar source
  let program := Program.ofClauses clauses
  let certainty ← analyse grammar program clauses
  let bytes := Bytes.ofString source
  let predicates ← clauses.mapM fun clause => do
    let found ← clause.predicates.mapM fun call =>
      (TextPredicate.ofCall captures call).mapError (.predicate (rowOf bytes clause.offset) ·)
    return found.filterMap id
  return ⟨captures, program.runs.length, predicates, ⟨program, certainty⟩⟩

end SyntaxQuery.Query
