import SyntaxQuery.Config.Compile
import SyntaxQuery.Config.Validation
import SyntaxQuery.Proofs.CacheContent

/-! The cache of regexes over any history of calls. It holds what its patterns compile to and nothing else,
and never more than its bound. Hence no answer shows what it holds, neither that of a lookup nor that of a
longer step that looks patterns up on its way. -/
namespace SyntaxQuery

inductive CacheCall where
  | resolve (pattern : String)
  | clear

namespace RegexCache

theorem makeRoom_cases (cache : RegexCache) :
    cache.makeRoom = empty ∨ cache.makeRoom = cache ∧ cache.size < 256 := by
  rw [makeRoom]
  split
  · exact .inl rfl
  · exact .inr ⟨rfl, Nat.lt_of_not_le ‹_›⟩

theorem size_makeRoom_lt (cache : RegexCache) : cache.makeRoom.size < 256 := by
  rcases cache.makeRoom_cases with empty | ⟨same, few⟩
  · rw [empty]
    decide
  · rwa [same]

theorem find?_makeRoom {cache : RegexCache} (absent : cache.find? pattern = none) :
    cache.makeRoom.find? pattern = none := by
  rcases cache.makeRoom_cases with empty | ⟨same, -⟩
  · rw [empty]
    rfl
  · rwa [same]

theorem not_mem_of_find? {cache : RegexCache} (absent : cache.find? pattern = none) :
    pattern ∉ cache.entries.map (·.1) := by
  intro member
  obtain ⟨entry, held, rfl⟩ := List.mem_map.mp member
  simp only [find?, Option.map_eq_none_iff, List.find?_eq_none] at absent
  exact absent entry held (beq_self_eq_true _)

theorem run_bind (first : StateM RegexCache α) (next : α → StateM RegexCache β) (cache : RegexCache) :
    (first >>= next).run cache = (next (first.run cache).1).run (first.run cache).2 := rfl

end RegexCache

variable [RegexCompiler]

namespace CacheCall

/-- What the call answers, and the cache behind it. Clearing answers nothing. -/
def perform (cache : RegexCache) : CacheCall → Option (Except QueryError Regex) × RegexCache
  | resolve pattern =>
    let (answer, later) := (RegexCache.resolve pattern).run cache
    (some answer, later)
  | clear => (none, cache.clear)

/-- What the call would answer if there were no cache. -/
def direct : CacheCall → Option (Except QueryError Regex)
  | resolve pattern => some ((Regex.compile pattern).mapError (.invalidRegex pattern ·))
  | clear => none

end CacheCall

namespace RegexCache

def answers : List CacheCall → RegexCache → List (Option (Except QueryError Regex))
  | [], _ => []
  | call :: calls, cache => (call.perform cache).1 :: answers calls (call.perform cache).2

def after (cache : RegexCache) (calls : List CacheCall) : RegexCache :=
  calls.foldl (fun cache call => (call.perform cache).2) cache

theorem after_append (cache : RegexCache) (calls more : List CacheCall) :
    cache.after (calls ++ more) = (cache.after calls).after more := List.foldl_append

inductive Looked (cache : RegexCache) (pattern : String) :
    Except String Regex × RegexCache → Prop where
  | held : cache.find? pattern = some regex → Looked cache pattern (.ok regex, cache)
  | added : cache.find? pattern = none → Regex.compile pattern = .ok regex →
      Looked cache pattern (.ok regex, ⟨cache.makeRoom.entries ++ [(pattern, regex)]⟩)
  | refused : cache.find? pattern = none → Regex.compile pattern = .error cause →
      Looked cache pattern (.error cause, cache.makeRoom)

theorem get_cases (cache : RegexCache) (pattern : String) : Looked cache pattern (cache.get pattern) := by
  rw [get]
  cases found : cache.find? pattern with
  | some regex => exact .held found
  | none =>
    cases compiled : Regex.compile pattern with
    | ok regex => exact .added found compiled
    | error cause => exact .refused found compiled

/-- Every entry is the regex of its pattern, no pattern has two, and there are not too many. -/
structure Proper (cache : RegexCache) : Prop where
  sound : cache.Sound
  single : (cache.entries.map (·.1)).Nodup
  bounded : cache.size ≤ 256

theorem empty_proper : empty.Proper := ⟨empty_sound, List.nodup_nil, Nat.zero_le _⟩

theorem Proper.makeRoom {cache : RegexCache} (proper : cache.Proper) : cache.makeRoom.Proper := by
  rcases cache.makeRoom_cases with empty | ⟨same, -⟩
  · rw [empty]
    exact empty_proper
  · rwa [same]

theorem Proper.get {cache : RegexCache} (proper : cache.Proper) (pattern : String) :
    (cache.get pattern).2.Proper := by
  have sound := (proper.sound.get pattern).2
  have looked := cache.get_cases pattern
  generalize cache.get pattern = result at sound looked ⊢
  cases looked with
  | held => exact proper
  | refused => exact proper.makeRoom
  | added absent =>
    refine ⟨sound, ?_, ?_⟩
    · rw [List.map_append, List.map_singleton, List.nodup_append]
      refine ⟨proper.makeRoom.single, List.pairwise_singleton _ _, fun held member new single => ?_⟩
      rw [List.mem_singleton.mp single]
      rintro rfl
      exact not_mem_of_find? (find?_makeRoom absent) member
    · rw [size, List.length_append]
      exact cache.size_makeRoom_lt

/-- A lookup that succeeds leaves the pattern in the cache. -/
theorem find?_get {cache : RegexCache} (found : (cache.get pattern).1 = .ok regex) :
    (cache.get pattern).2.find? pattern = some regex := by
  have looked := cache.get_cases pattern
  generalize cache.get pattern = result at found looked ⊢
  cases looked with
  | held held =>
    cases found
    exact held
  | added absent =>
    cases found
    have roomy := find?_makeRoom absent
    simp only [find?, Option.map_eq_none_iff] at roomy
    simp [find?, List.find?_append, roomy]
  | refused => cases found

theorem run_resolve (cache : RegexCache) (pattern : String) :
    (resolve pattern).run cache =
      ((cache.get pattern).1.mapError (.invalidRegex pattern ·), (cache.get pattern).2) := rfl

end RegexCache

theorem CacheCall.perform_proper {cache : RegexCache} (proper : cache.Proper) (call : CacheCall) :
    (call.perform cache).1 = call.direct ∧ (call.perform cache).2.Proper := by
  cases call with
  | clear => exact ⟨rfl, RegexCache.empty_proper⟩
  | resolve pattern =>
    refine ⟨congrArg some ?_, proper.get pattern⟩
    exact congrArg (Except.mapError (QueryError.invalidRegex pattern ·)) (proper.sound.get pattern).1

namespace RegexCache

theorem Proper.after {cache : RegexCache} (proper : cache.Proper) (calls : List CacheCall) :
    (cache.after calls).Proper := by
  induction calls generalizing cache with
  | nil => exact proper
  | cons call calls ih => exact ih (call.perform_proper proper).2

theorem Proper.answers {cache : RegexCache} (proper : cache.Proper) (calls : List CacheCall) :
    cache.answers calls = calls.map (·.direct) := by
  induction calls generalizing cache with
  | nil => rfl
  | cons call calls ih =>
    obtain ⟨same, stays⟩ := call.perform_proper proper
    rw [RegexCache.answers, same, ih stays, List.map_cons]

theorem Reachable.proper {cache : RegexCache} (reachable : cache.Reachable) : cache.Proper := by
  induction reachable with
  | empty | clear => exact empty_proper
  | get pattern _ proper => exact proper.get pattern

/-- From every proper cache the step comes to the same, and it does to the cache what some calls do. -/
def Blind (step : StateM RegexCache α) : Prop :=
  ∃ result, ∀ cache : RegexCache, cache.Proper → ∃ calls, step.run cache = (result, cache.after calls)

theorem Blind.pure (result : α) : Blind (Pure.pure result : StateM RegexCache α) :=
  ⟨result, fun _ _ => ⟨[], rfl⟩⟩

theorem Blind.bind {first : StateM RegexCache α} {next : α → StateM RegexCache β} (blind : Blind first)
    (blinds : ∀ value, Blind (next value)) : Blind (first >>= next) := by
  obtain ⟨value, firsts⟩ := blind
  obtain ⟨result, nexts⟩ := blinds value
  refine ⟨result, fun cache proper => ?_⟩
  obtain ⟨calls, done⟩ := firsts cache proper
  obtain ⟨more, rest⟩ := nexts (cache.after calls) (proper.after calls)
  refine ⟨calls ++ more, ?_⟩
  rw [run_bind, done, after_append, rest]

theorem Blind.proper {step : StateM RegexCache α} (blind : Blind step) {cache : RegexCache}
    (proper : cache.Proper) : (step.run cache).2.Proper := by
  obtain ⟨result, same⟩ := blind
  obtain ⟨calls, done⟩ := same cache proper
  rw [done]
  exact proper.after calls

/-- As for steps that cannot fail; behind a fault nothing is done. -/
theorem Blind.bindCached {first : Cached ε α} {next : α → Cached ε β} (blind : Blind first.run)
    (blinds : ∀ value, Blind (next value).run) : Blind (first >>= next).run := by
  rw [ExceptT.run_bind]
  refine blind.bind fun result => ?_
  cases result with
  | ok value => exact blinds value
  | error fault => exact .pure _

theorem Blind.lift (result : Except ε α) : Blind (liftM result : Cached ε α).run := .pure result

theorem Blind.resolve (pattern : String) : Blind (RegexCache.resolve pattern).run :=
  ⟨(Regex.compile pattern).mapError (.invalidRegex pattern ·), fun _ proper =>
    ⟨[.resolve pattern], Prod.ext (Option.some.inj ((CacheCall.resolve pattern).perform_proper proper).1)
      rfl⟩⟩

end RegexCache

open RegexCache (Blind)

theorem PredicateQuery.matches_blind [Engine] (query : PredicateQuery) (pattern : Nat) (capture regex : String) :
    Blind (query.matches pattern capture regex).run :=
  (Blind.lift _).bindCached fun _ => (Blind.resolve regex).bindCached fun _ => .lift _

namespace PredicateSpec

theorem test_blind [Engine] (spec : PredicateSpec) (query : PredicateQuery) : Blind (spec.test query).run := by
  rw [test]
  cases spec.kind with
  | equals => exact .lift (.ok _)
  | matching => exact (Blind.resolve spec.value).bindCached fun _ => .lift (.ok _)
  | equalsCapture => exact (Blind.lift _).bindCached fun _ => .lift (.ok _)

theorem attachTo_blind [Engine] (query : PredicateQuery) (spec : PredicateSpec) :
    Blind (attachTo query spec).run := by
  have condition : Blind (spec.condition query).run :=
    (Blind.lift _).bindCached fun _ => (spec.test_blind query).bindCached fun _ => .lift (.ok _)
  exact condition.bindCached fun _ => .lift _

theorem issues_blind (spec : PredicateSpec) (index : Nat) : Blind (spec.issues index) := by
  have value : Blind spec.valueFlaw? := by
    rw [valueFlaw?]
    cases spec.kind with
    | equals | equalsCapture => exact .pure _
    | matching =>
      refine (Blind.resolve spec.value).bind fun result => ?_
      cases result <;> exact .pure _
  exact value.bind fun _ => .pure _

end PredicateSpec

namespace QueryConfig

variable [Engine]

theorem issues_blind (config : QueryConfig) : Blind config.issues := by
  have predicates (index : Nat) (specs : List PredicateSpec) : Blind (predicateIssues index specs) := by
    induction specs generalizing index with
    | nil => exact .pure _
    | cons spec specs ih => exact (spec.issues_blind index).bind fun _ => (ih (index + 1)).bind fun _ => .pure _
  exact (predicates 0 config.predicates).bind fun _ => .pure _

theorem compile_blind (config : QueryConfig) : Blind config.compile.run := by
  have attachment (specs : List PredicateSpec) (query : PredicateQuery) :
      Blind (specs.foldlM PredicateSpec.attachTo query).run := by
    induction specs generalizing query with
    | nil => exact .pure _
    | cons spec specs ih =>
      rw [List.foldlM_cons]
      exact (PredicateSpec.attachTo_blind query spec).bindCached ih
  exact (Blind.lift _).bindCached fun _ => (Blind.lift _).bindCached (attachment config.predicates)

end QueryConfig

/-- What calls have left in the cache does not show in the result of the step. What the step leaves, more
calls could have left as well. -/
def RegexCache.Unseen (calls : List CacheCall) (step : StateM RegexCache α) : Prop :=
  ∃ more, step.run (empty.after calls) = ((step.run empty).1, empty.after (calls ++ more))

theorem RegexCache.Blind.unseen {step : StateM RegexCache α} (blind : Blind step) (calls : List CacheCall) :
    Unseen calls step := by
  obtain ⟨result, same⟩ := blind
  obtain ⟨none, fresh⟩ := same empty empty_proper
  obtain ⟨more, later⟩ := same (empty.after calls) (empty_proper.after calls)
  exact ⟨more, by rw [later, fresh, after_append]⟩

/-- Calls are made in any order, the first of which finds the cache empty. Each is answered as if there were
no cache, and whatever they leave in it is what its patterns compile to, at most 256 of them. A pattern that
was just looked up is in the cache if it compiles, and never otherwise. Attaching a regex, validating and
compiling a configuration come to the same at any time. -/
theorem cache_invisible [Engine] (calls : List CacheCall) :
    let cache := RegexCache.empty.after calls
    RegexCache.empty.answers calls = calls.map (·.direct) ∧
    (∀ entry ∈ cache.entries, Regex.compile entry.1 = .ok entry.2) ∧
    (cache.entries.map (·.1)).Nodup ∧
    cache.size ≤ 256 ∧
    (∀ pattern cause, Regex.compile pattern = .error cause → cache.find? pattern = none) ∧
    (∀ pattern regex later, (RegexCache.resolve pattern).run cache = (.ok regex, later) →
      later.find? pattern = some regex) ∧
    (∀ (query : PredicateQuery) pattern capture regex,
      RegexCache.Unseen calls (query.matches pattern capture regex).run) ∧
    (∀ config : QueryConfig, RegexCache.Unseen calls config.issues) ∧
    ∀ config : QueryConfig, RegexCache.Unseen calls config.compile.run := by
  intro cache
  have proper : cache.Proper := RegexCache.empty_proper.after calls
  refine ⟨RegexCache.empty_proper.answers calls, proper.sound, proper.single, proper.bounded, ?_, ?_,
    fun query pattern capture regex => (query.matches_blind pattern capture regex).unseen calls,
    fun config => config.issues_blind.unseen calls, fun config => config.compile_blind.unseen calls⟩
  · intro pattern cause failed
    cases found : cache.find? pattern with
    | none => rfl
    | some regex => exact nomatch failed.symm.trans (proper.sound.find? found)
  · intro pattern regex later resolved
    rw [RegexCache.run_resolve] at resolved
    obtain ⟨answer, rfl⟩ := Prod.mk.inj resolved
    refine RegexCache.find?_get ?_
    cases got : (cache.get pattern).1 <;> rw [got] at answer <;> cases answer
    rfl

end SyntaxQuery
