import Mathlib.Data.List.Forall2
import SyntaxQuery.Config.Compile
import SyntaxQuery.Proofs.BuilderCalls

/-! The predicates of a configuration as calls that attach conditions. Compiling does for each entry what
the call of its kind does, in the order of the file, so it comes to the same query or the same fault. What
is built has a condition for every entry, and it is the one that the entry describes. -/
namespace SyntaxQuery

def BuilderCall.applyChanged [Engine] [RegexCompiler] (change : Condition → Condition)
    (query : PredicateQuery) : BuilderCall → Cached QueryError PredicateQuery
  | equals pattern capture literal => do
    query.attach pattern (change (.new (← query.captureIndex capture) (.equals literal)))
  | .matches pattern capture regex => do
    let index ← query.captureIndex capture
    query.attach pattern (change (.new index (.search (← RegexCache.resolve regex))))
  | equalsCapture pattern capture other => do
    let index ← query.captureIndex capture
    query.attach pattern (change (.new index (.sameAs (← query.captureIndex other))))
  | predicate pattern condition => query.attach pattern (change condition)

/-- With nothing changed, this is the call itself. -/
theorem BuilderCall.applyChanged_id [Engine] [RegexCompiler] (query : PredicateQuery) (call : BuilderCall) :
    call.applyChanged id query = call.apply query := by
  cases call with
  | equals pattern capture literal =>
    rw [applyChanged, apply, PredicateQuery.equals]
    cases query.captureIndex capture <;> rfl
  | «matches» pattern capture regex => rfl
  | equalsCapture pattern capture other =>
    rw [applyChanged, apply, PredicateQuery.equalsCapture]
    cases query.captureIndex capture with
    | error fault => rfl
    | ok index => cases query.captureIndex other <;> rfl
  | predicate pattern condition => rfl

namespace PredicateSpec

def call (spec : PredicateSpec) : BuilderCall :=
  match spec.kind with
  | .equals => .equals spec.pattern spec.capture (Bytes.ofString spec.value)
  | .matching => .matches spec.pattern spec.capture spec.value
  | .equalsCapture => .equalsCapture spec.pattern spec.capture spec.value

/-- The condition, negated if the entry says so, and with the entry's quantifier. -/
def dress (spec : PredicateSpec) (condition : Condition) : Condition :=
  (if spec.negate then condition.negate else condition).withQuantifier spec.quantifier

/-- The entry asks for no more than the call of its kind gives. -/
structure Plain (spec : PredicateSpec) : Prop where
  negate : spec.negate = false
  quantifier : spec.quantifier = .all

theorem dress_new (spec : PredicateSpec) (capture : Nat) (test : TextTest) :
    spec.dress (.new capture test) = ⟨capture, test, spec.negate, spec.quantifier⟩ := by
  rw [dress]
  cases spec.negate <;> rfl

/-- A lookup that succeeds leaves the cache alone. -/
theorem found_of_lookup [Engine] {query : PredicateQuery} {cache : RegexCache}
    (done : (liftM (query.captureIndex name) : Cached QueryError Nat).run cache = (.ok index, later)) :
    query.query.captureIndex? (PredicateQuery.bareName name) = some index ∧ later = cache := by
  rw [Cached.run_lift] at done
  rcases BuilderCall.captureIndex_cases query name with ⟨known, looked, -, found⟩ | ⟨looked, -⟩
  · rw [looked] at done
    cases done
    exact ⟨found, rfl⟩
  · rw [looked] at done
    cases done

variable [Engine] [RegexCompiler]

/-- Attaching an entry is the call of its kind, with the condition dressed. -/
theorem attachTo_eq (query : PredicateQuery) (spec : PredicateSpec) :
    attachTo query spec = spec.call.applyChanged spec.dress query := by
  rw [attachTo, condition, test, call]
  cases spec.kind <;> simp [BuilderCall.applyChanged, dress_new]

theorem Plain.applyChanged_call {spec : PredicateSpec} (plain : spec.Plain) (query : PredicateQuery) :
    spec.call.applyChanged spec.dress query = spec.call.apply query := by
  have undressed (capture : Nat) (test : TextTest) :
      spec.dress (.new capture test) = id (.new capture test) := by
    rw [dress_new, plain.negate, plain.quantifier]
    rfl
  rw [← BuilderCall.applyChanged_id, call]
  cases spec.kind <;> simp only [BuilderCall.applyChanged, undressed]

def DescribesTest (spec : PredicateSpec) (query : Query π) (test : TextTest) : Prop :=
  match spec.kind with
  | .equals => test = .equals (Bytes.ofString spec.value)
  | .matching => ∃ regex, Regex.compile spec.value = .ok regex ∧ test = .search regex
  | .equalsCapture => ∃ other,
    query.captureIndex? (PredicateQuery.bareName spec.value) = some other ∧ test = .sameAs other

/-- The condition is what the entry says, with captures by their indexes in the query. -/
structure Describes (spec : PredicateSpec) (query : Query π) (condition : Condition) : Prop where
  capture : query.captureIndex? (PredicateQuery.bareName spec.capture) = some condition.capture
  test : spec.DescribesTest query condition.test
  negated : condition.negated = spec.negate
  quantifier : condition.quantifier = spec.quantifier

theorem test_describes {spec : PredicateSpec} {query : PredicateQuery} {cache : RegexCache}
    (sound : cache.Sound) (done : (spec.test query).run cache = (.ok found, later)) :
    spec.DescribesTest query.query found ∧ later.Sound := by
  rw [test] at done
  rw [DescribesTest]
  cases kind : spec.kind with
  | equals =>
    rw [kind] at done
    cases done
    exact ⟨rfl, sound⟩
  | matching =>
    rw [kind] at done
    obtain ⟨regex, between, resolved, made⟩ := Cached.of_bind_ok done
    cases made
    obtain ⟨_, direct, stays⟩ := sound.resolve spec.value
    rw [resolved] at direct
    cases compiled : Regex.compile spec.value with
    | error cause =>
      rw [compiled] at direct
      cases direct
    | ok regex =>
      rw [compiled] at direct
      cases direct
      exact ⟨⟨regex, rfl, rfl⟩, stays⟩
  | equalsCapture =>
    rw [kind] at done
    obtain ⟨other, between, looked, made⟩ := Cached.of_bind_ok done
    cases made
    obtain ⟨found, rfl⟩ := found_of_lookup looked
    exact ⟨⟨other, found, rfl⟩, sound⟩

/-- An entry that is attached adds the condition that it describes, and changes nothing else. -/
theorem attachTo_describes {spec : PredicateSpec} {query built : PredicateQuery} {cache : RegexCache}
    (sound : cache.Sound) (done : (attachTo query spec).run cache = (.ok built, later)) :
    ∃ condition, spec.Describes query.query condition ∧
      built = { query with table := query.table.push spec.pattern condition } ∧ later.Sound := by
  obtain ⟨_, between, made, attached⟩ := Cached.of_bind_ok done
  obtain ⟨capture, _, looked, rest⟩ := Cached.of_bind_ok made
  obtain ⟨found, rfl⟩ := found_of_lookup looked
  obtain ⟨test, _, tested, whole⟩ := Cached.of_bind_ok rest
  cases whole
  obtain ⟨describes, stays⟩ := test_describes sound tested
  refine ⟨⟨capture, test, spec.negate, spec.quantifier⟩, ⟨found, describes, rfl, rfl⟩, ?_⟩
  rw [PredicateQuery.attach] at attached
  split at attached
  · cases attached
  split at attached
  · cases attached
  · cases attached
    exact ⟨rfl, stays⟩

end PredicateSpec

structure Compiled [Engine] [RegexCompiler] (specs : List PredicateSpec) (start built : PredicateQuery) :
    Prop where
  query : built.query = start.query
  rows : ∀ pattern, ∃ conditions,
    built.table.forPattern pattern = start.table.forPattern pattern ++ conditions ∧
      List.Forall₂ (·.Describes start.query ·) (specs.filter (·.pattern == pattern)) conditions

theorem compiled_of_attached [Engine] [RegexCompiler] {specs : List PredicateSpec}
    {start built : PredicateQuery} {cache : RegexCache} (sound : cache.Sound)
    (done : (specs.foldlM PredicateSpec.attachTo start).run cache = (.ok built, last)) :
    Compiled specs start built := by
  induction specs generalizing start cache with
  | nil =>
    cases done
    exact ⟨rfl, fun pattern => ⟨[], (List.append_nil _).symm, .nil⟩⟩
  | cons spec specs ih =>
    rw [List.foldlM_cons] at done
    obtain ⟨next, later, attached, rest⟩ := Cached.of_bind_ok done
    obtain ⟨condition, describes, rfl, stays⟩ := PredicateSpec.attachTo_describes sound attached
    have compiled := ih stays rest
    refine ⟨compiled.query, fun pattern => ?_⟩
    obtain ⟨conditions, row, described⟩ := compiled.rows pattern
    rw [PredicateTable.forPattern_push] at row
    by_cases here : pattern = spec.pattern
    · refine ⟨condition :: conditions, ?_, ?_⟩
      · rw [row, if_pos here, here, List.append_assoc, List.singleton_append]
      · rw [List.filter_cons_of_pos (by simp [here])]
        exact .cons describes described
    · refine ⟨conditions, ?_, ?_⟩
      · rw [row, if_neg here]
      · rwa [List.filter_cons_of_neg (by simpa using Ne.symm here)]

namespace PredicateQuery

/-- The name with its at sign, which is put in front where it is left out. -/
def markedName (name : String) : String := if name.toList.head? = some '@' then name else "@" ++ name

theorem bareName_markedName (name : String) : bareName (markedName name) = bareName name := by
  rw [markedName]
  split
  · rfl
  next unmarked =>
    have marked : bareName ("@" ++ name) = name := by
      rw [bareName, String.toList_append]
      exact String.ofList_toList
    rw [marked, bareName]
    split
    next rest first => exact absurd (by rw [first]; rfl) unmarked
    · rfl

theorem captureIndex_markedName [Engine] (query : PredicateQuery) (name : String) :
    query.captureIndex (markedName name) = query.captureIndex name := by
  rw [captureIndex, captureIndex, bareName_markedName]

end PredicateQuery

def PredicateSpec.marked (spec : PredicateSpec) : PredicateSpec :=
  { spec with
    capture := PredicateQuery.markedName spec.capture
    value := if spec.kind = .equalsCapture then PredicateQuery.markedName spec.value else spec.value }

theorem PredicateSpec.attachTo_marked [Engine] [RegexCompiler] (query : PredicateQuery) (spec : PredicateSpec) :
    attachTo query spec.marked = attachTo query spec := by
  obtain ⟨pattern, kind, capture, value, negate, quantifier⟩ := spec
  rw [attachTo, attachTo, condition, condition, test, test]
  cases kind <;> simp [marked, PredicateQuery.captureIndex_markedName]

theorem PredicateSpec.foldlM_marked [Engine] [RegexCompiler] (specs : List PredicateSpec)
    (start : PredicateQuery) :
    (specs.map (·.marked)).foldlM attachTo start = specs.foldlM attachTo start := by
  rw [List.foldlM_map]
  congr 1
  funext query spec
  exact spec.attachTo_marked query

/-- The language is known and the query compiles. Then compiling the configuration is attaching its
predicates one after the other to the query, each by the call of its kind, with the condition negated if the
entry says so and with the entry's quantifier; for a plain entry that is the call itself. What is built has
in each pattern's row, in order, the conditions that the entries for the pattern describe. Names of captures
may be given with at signs or without. -/
theorem compile_attaches [Engine] [RegexCompiler] (config : QueryConfig) (language : Engine.Language)
    (query : Query Engine.Program) (resolved : Language.resolve config.language = .ok language)
    (compiled : Engine.compile language config.query = .ok query) :
    let start := PredicateQuery.ofQuery query
    (config.compile =
      config.predicates.foldlM (fun query spec => spec.call.applyChanged spec.dress query) start) ∧
    (∀ spec ∈ config.predicates, spec.Plain → ∀ query,
      spec.call.applyChanged spec.dress query = spec.call.apply query) ∧
    (∀ cache : RegexCache, cache.Reachable → ∀ built, (config.compile.run cache).1 = .ok built →
      built.query = query ∧ ∀ pattern,
        List.Forall₂ (·.Describes query ·) (config.predicates.filter (·.pattern == pattern))
          (built.table.forPattern pattern)) ∧
    ∀ specs : List PredicateSpec, specs.map (·.marked) = config.predicates.map (·.marked) →
      { config with predicates := specs }.compile = config.compile := by
  intro start
  have begun : PredicateQuery.compile language config.query = .ok start := by
    rw [PredicateQuery.compile, compiled]
  have attaching (specs : List PredicateSpec) :
      { config with predicates := specs }.compile = specs.foldlM PredicateSpec.attachTo start := by
    rw [QueryConfig.compile, resolved]
    change (liftM (PredicateQuery.compile language config.query) >>= fun query =>
      specs.foldlM PredicateSpec.attachTo query) = _
    rw [begun]
    rfl
  have whole := attaching config.predicates
  refine ⟨?_, fun _ _ plain => plain.applyChanged_call, fun cache reachable built done => ?_,
    fun specs same => ?_⟩
  · rw [whole]
    congr 1
    funext query spec
    exact spec.attachTo_eq query
  · rw [whole] at done
    obtain ⟨same, rows⟩ : Compiled config.predicates (.ofQuery query) built :=
      compiled_of_attached reachable.sound (Prod.ext done rfl)
    refine ⟨same, fun pattern => ?_⟩
    obtain ⟨conditions, row, described⟩ := rows pattern
    -- The query comes with an empty table, so a row holds nothing else.
    rw [PredicateQuery.forPattern_ofQuery, List.nil_append] at row
    rwa [row]
  · rw [attaching, whole, ← PredicateSpec.foldlM_marked, same, PredicateSpec.foldlM_marked]

/-- One entry is plain, the other is not, and either name may have the at sign. -/
theorem two_entries_compiled :
    let first : PredicateSpec := ⟨0, .equals, "@n", "null", false, .all⟩
    let second : PredicateSpec := ⟨0, .matching, "n", "u+", true, .any⟩
    let config : QueryConfig := ⟨"json", "(null) @n", .empty, .standard, [first, second]⟩
    let swapped := [{ first with capture := "n" }, { second with capture := "@n" }]
    ∃ query built, Language.resolve config.language = .ok Language.json ∧
      Engine.compile Language.json config.query = .ok query ∧
      (config.compile.run .empty).1 = .ok built ∧
      List.Forall₂ (·.Describes query ·) config.predicates (built.table.forPattern 0) ∧
      first.call.applyChanged first.dress built = first.call.apply built ∧
      { config with predicates := swapped }.compile = config.compile := by
  intro first second config swapped
  have resolved : Language.resolve config.language = .ok Language.json :=
    Language.resolve_of_ofName? (by decide +kernel)
  obtain ⟨built, done⟩ : ∃ built, (config.compile.run .empty).1 = .ok built :=
    exists_eq_ok (by decide +kernel)
  obtain ⟨query, compiled⟩ : ∃ query, Engine.compile Language.json config.query = .ok query :=
    exists_eq_ok (by decide +kernel)
  obtain ⟨-, plain, rows, names⟩ := compile_attaches config Language.json query resolved compiled
  exact ⟨query, built, resolved, compiled, done, (rows .empty .empty built done).2 0,
    plain first List.mem_cons_self ⟨rfl, rfl⟩ built, names swapped (by decide +kernel)⟩

end SyntaxQuery
