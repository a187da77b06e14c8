import SyntaxQuery.Config.Basic
import SyntaxQuery.PredicateQuery

/-! From a configuration to the query with its conditions. -/
namespace SyntaxQuery

variable [Engine] [RegexCompiler]

namespace PredicateSpec

def test (spec : PredicateSpec) (query : PredicateQuery) : Cached QueryError TextTest :=
  match spec.kind with
  | .equals => return .equals (Bytes.ofString spec.value)
  | .matching => return .search (← RegexCache.resolve spec.value)
  | .equalsCapture => return .sameAs (← query.captureIndex spec.value)

def condition (spec : PredicateSpec) (query : PredicateQuery) : Cached QueryError Condition := do
  let capture ← query.captureIndex spec.capture
  return ⟨capture, ← spec.test query, spec.negate, spec.quantifier⟩

def attachTo (query : PredicateQuery) (spec : PredicateSpec) : Cached QueryError PredicateQuery := do
  query.attach spec.pattern (← spec.condition query)

end PredicateSpec

/-- The query of the configuration, with a condition for each predicate in their order. -/
def QueryConfig.compile (config : QueryConfig) : Cached QueryError PredicateQuery := do
  let language ← Language.resolve config.language
  config.predicates.foldlM PredicateSpec.attachTo (← PredicateQuery.compile language config.query)

end SyntaxQuery
