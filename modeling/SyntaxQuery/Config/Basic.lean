import SyntaxQuery.Condition
import SyntaxQuery.Cursor

/-! Query files: a query with its language, the conditions that its matches have to satisfy, and the
settings of a run. -/
namespace SyntaxQuery

structure ProviderConfig where
  /-- The number of bytes in one read. -/
  chunkSize : Nat
deriving Repr, DecidableEq

def ProviderConfig.standard : ProviderConfig := ⟨4096⟩

inductive PredicateKind where
  | equals
  | matching
  /-- The value is the name of another capture. -/
  | equalsCapture
deriving Repr, DecidableEq

structure PredicateSpec where
  pattern : Nat
  kind : PredicateKind
  capture : String
  value : String
  negate : Bool
  quantifier : Quantifier
deriving Repr, DecidableEq

structure QueryConfig where
  language : String
  query : String
  cursor : CursorConfig
  provider : ProviderConfig
  predicates : List PredicateSpec
deriving Repr, DecidableEq

def QueryConfig.blank : QueryConfig := ⟨"", "", .empty, .standard, []⟩

end SyntaxQuery
