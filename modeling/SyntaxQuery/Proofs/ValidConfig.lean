import SyntaxQuery.Proofs.BuilderCalls
import SyntaxQuery.Proofs.LoadedTexts
import SyntaxQuery.Toml.Reader

/-! What validation promises to compilation. The two are separate passes over a configuration and share
nothing but the cache of regexes, on which other calls may be made before, between and during them. All the
same a valid configuration fails to compile for three reasons only, each of which takes the compiled query
to be seen. -/
namespace SyntaxQuery

/-- A fault that does not show before the query itself is compiled. -/
inductive QueryError.OfQuery : QueryError → Prop where
  | invalidQuery : OfQuery (.invalidQuery source report)
  | captureNotFound : OfQuery (.captureNotFound name)
  | patternOutOfRange : OfQuery (.patternOutOfRange index count)

section Amid

variable [RegexCompiler]

def RegexCache.meanwhile (calls : List CacheCall) : StateM RegexCache Unit :=
  modify (·.after calls)

/-- From every proper cache the step comes to a value as described or to a fault of the query, and it leaves
the cache proper. -/
def Cached.Safe (step : Cached QueryError α) (post : α → Prop) : Prop :=
  ∀ cache : RegexCache, cache.Proper → ∃ later, later.Proper ∧
    ((∃ value, step.run cache = (.ok value, later) ∧ post value) ∨
      ∃ fault, step.run cache = (.error fault, later) ∧ fault.OfQuery)

namespace Cached

theorem Safe.ok {value : α} (holds : post value) : Safe (liftM (.ok value : Except QueryError α)) post :=
  fun cache proper => ⟨cache, proper, .inl ⟨value, rfl, holds⟩⟩

theorem Safe.error {fault : QueryError} (ofQuery : fault.OfQuery) :
    Safe (liftM (.error fault : Except QueryError α)) post :=
  fun cache proper => ⟨cache, proper, .inr ⟨fault, rfl, ofQuery⟩⟩

theorem Safe.bind {first : Cached QueryError α} {next : α → Cached QueryError β} (safe : Safe first between)
    (goes : ∀ value, between value → Safe (next value) post) : Safe (first >>= next) post := by
  intro cache proper
  obtain ⟨later, proper, ⟨value, done, holds⟩ | ⟨fault, failed, ofQuery⟩⟩ := safe cache proper
  · obtain ⟨last, proper, outcome⟩ := goes value holds later proper
    refine ⟨last, proper, ?_⟩
    rwa [run_bind, done]
  · refine ⟨later, proper, .inr ⟨fault, ?_, ofQuery⟩⟩
    rw [run_bind, failed]

theorem Safe.resolve (compiled : Regex.compile pattern = .ok regex) (holds : post regex) :
    Safe (RegexCache.resolve pattern) post := by
  intro cache proper
  refine ⟨_, proper.get pattern, .inl ⟨regex, ?_, holds⟩⟩
  rw [RegexCache.run_resolve, (proper.sound.get pattern).1, compiled]
  rfl

theorem Safe.meanwhile (calls : List CacheCall) :
    Safe (liftM (RegexCache.meanwhile calls)) fun _ => True :=
  fun cache proper => ⟨cache.after calls, proper.after calls, .inl ⟨(), rfl, trivial⟩⟩

end Cached

namespace PredicateSpec

end PredicateSpec

namespace QueryConfig

end QueryConfig

variable [Engine]

namespace QueryConfig

/-- Before each predicate is attached, calls are made elsewhere. -/
def attachAmid (others : Nat → List CacheCall) :
    Nat → List PredicateSpec → PredicateQuery → Cached QueryError PredicateQuery
  | _, [], query => return query
  | index, spec :: specs, query => do
    RegexCache.meanwhile (others index)
    attachAmid others (index + 1) specs (← spec.attachTo query)

def compileAmid (others : Nat → List CacheCall) (config : QueryConfig) :
    Cached QueryError PredicateQuery := do
  let language ← Language.resolve config.language
  attachAmid others 0 config.predicates (← PredicateQuery.compile language config.query)

theorem compileAmid_quiet (config : QueryConfig) :
    config.compileAmid (fun _ => []) = config.compile := by
  have attachment (index : Nat) (specs : List PredicateSpec) (query : PredicateQuery) :
      attachAmid (fun _ => []) index specs query = specs.foldlM PredicateSpec.attachTo query := by
    induction specs generalizing index query with
    | nil => rfl
    | cons spec specs ih =>
      rw [attachAmid, List.foldlM_cons]
      simp only [ih]
      rfl
  simp only [compileAmid, compile, attachment]

end QueryConfig

open Cached (Safe)

namespace PredicateSpec

end PredicateSpec

namespace QueryConfig

end QueryConfig

end Amid

end SyntaxQuery
