import SyntaxQuery.Engine.Standard
import SyntaxQuery.Proofs.CacheContent
import SyntaxQuery.Proofs.TableRows

/-! Conditions attached call by call. A call is accepted if and only if all that it refers to exists, and
what is built holds the conditions of the calls and no reference to anything else. -/
namespace SyntaxQuery

inductive BuilderCall where
  | equals (pattern : Nat) (capture : String) (literal : Bytes)
  | «matches» (pattern : Nat) (capture regex : String)
  | equalsCapture (pattern : Nat) (capture other : String)
  /-- A condition that is ready, with capture indexes instead of names. -/
  | predicate (pattern : Nat) (condition : Condition)

namespace BuilderCall

def apply [Engine] [RegexCompiler] (query : PredicateQuery) : BuilderCall → Cached QueryError PredicateQuery
  | equals pattern capture literal => query.equals pattern capture literal
  | .matches pattern capture regex => query.matches pattern capture regex
  | equalsCapture pattern capture other => query.equalsCapture pattern capture other
  | predicate pattern condition => query.attach pattern condition

/-- The captures that the call names, in the order in which they are looked up. -/
def names : BuilderCall → List String
  | equals _ capture _ | .matches _ capture _ => [capture]
  | equalsCapture _ capture other => [capture, other]
  | predicate _ _ => []

def regex? : BuilderCall → Option String
  | .matches _ _ regex => some regex
  | _ => none

def pattern : BuilderCall → Nat
  | equals pattern _ _ | .matches pattern _ _ | equalsCapture pattern _ _ | predicate pattern _ =>
    pattern

/-- The name, with one leading at sign or without, is that of a capture. -/
def Known (query : Query π) (name : String) : Prop :=
  PredicateQuery.bareName name ∈ query.captureNames

/-- A lookup of a name. -/
theorem captureIndex_cases [Engine] (query : PredicateQuery) (name : String) :
    (∃ index, query.captureIndex name = .ok index ∧ Known query.query name ∧
      query.query.captureIndex? (PredicateQuery.bareName name) = some index) ∨
    (query.captureIndex name = .error (.captureNotFound (PredicateQuery.bareName name)) ∧
      ¬Known query.query name) := by
  rw [PredicateQuery.captureIndex]
  cases found : query.query.captureIndex? (PredicateQuery.bareName name) with
  | some index =>
    exact .inl ⟨index, rfl, List.isSome_idxOf?.mp (Option.isSome_of_eq_some found), rfl⟩
  | none => exact .inr ⟨rfl, List.idxOf?_eq_none_iff.mp found⟩

variable [RegexCompiler]

def condition? (query : Query π) : BuilderCall → Option Condition
  | equals _ capture literal =>
    (query.captureIndex? (PredicateQuery.bareName capture)).map (.new · (.equals literal))
  | .matches _ capture regex => do
    let index ← query.captureIndex? (PredicateQuery.bareName capture)
    return .new index (.search (← (Regex.compile regex).toOption))
  | equalsCapture _ capture other => do
    let index ← query.captureIndex? (PredicateQuery.bareName capture)
    return .new index (.sameAs (← query.captureIndex? (PredicateQuery.bareName other)))
  | predicate _ condition => some condition

def Compiles (text : String) : Prop := ∃ regex, Regex.compile text = .ok regex

structure Valid (query : Query π) (call : BuilderCall) : Prop where
  names : ∀ name ∈ call.names, Known query name
  regex : ∀ text ∈ call.regex?, Compiles text
  pattern : call.pattern < query.patternCount
  references : ∀ condition ∈ call.condition? query, ∀ index ∈ condition.references,
    index < query.captureNames.length

/-- The fault of a call is the first one: names come before the regex, the regex before the pattern, and
the pattern before the captures that the condition refers to. -/
inductive Faulty (query : Query π) (call : BuilderCall) : QueryError → Prop where
  | name : call.names = earlier ++ name :: later → (∀ known ∈ earlier, Known query known) →
      ¬Known query name → Faulty query call (.captureNotFound (PredicateQuery.bareName name))
  | regex : (∀ name ∈ call.names, Known query name) → call.regex? = some text →
      Regex.compile text = .error cause → Faulty query call (.invalidRegex text cause)
  | pattern : (∀ name ∈ call.names, Known query name) → (∀ text ∈ call.regex?, Compiles text) →
      query.patternCount ≤ call.pattern →
      Faulty query call (.patternOutOfRange call.pattern query.patternCount)
  | reference : (∀ name ∈ call.names, Known query name) → (∀ text ∈ call.regex?, Compiles text) →
      call.pattern < query.patternCount → call.condition? query = some condition →
      condition.references = earlier ++ index :: later →
      (∀ other ∈ earlier, other < query.captureNames.length) → query.captureNames.length ≤ index →
      Faulty query call (.captureOutOfRange index query.captureNames.length)

theorem Faulty.first_name {query : Query π} {call : BuilderCall} {name : String}
    (first : call.names = name :: later) (unknown : ¬Known query name) :
    Faulty query call (.captureNotFound (PredicateQuery.bareName name)) :=
  .name (show _ = [] ++ name :: later from first) (by simp) unknown

theorem Faulty.not_valid {query : Query π} {call : BuilderCall} (faulty : call.Faulty query fault) :
    ¬call.Valid query := by
  intro valid
  cases faulty with
  | name split _ unknown => exact unknown (valid.names _ (by simp [split]))
  | regex _ text failed =>
    obtain ⟨regex, compiled⟩ := valid.regex _ text
    rw [failed] at compiled
    cases compiled
  | pattern _ _ outside => exact Nat.not_lt.mpr outside valid.pattern
  | reference _ _ _ condition split _ outside =>
    exact Nat.not_lt.mpr outside (valid.references _ condition _ (by simp [split]))

/-- The condition that the call attaches to a pattern. -/
def conditionFor? (query : Query π) (pattern : Nat) (call : BuilderCall) : Option Condition :=
  if pattern = call.pattern then call.condition? query else none

theorem conditionFor?_within {query : Query π} {call : BuilderCall} {pattern : Nat}
    (valid : call.Valid query) (ready : call.conditionFor? query pattern = some condition) :
    ∀ index ∈ condition.references, index < query.captureNames.length := by
  rw [conditionFor?] at ready
  split at ready
  · exact valid.references condition ready
  · cases ready

variable [Engine]

inductive Applied (query : PredicateQuery) (call : BuilderCall) :
    Except QueryError PredicateQuery → Prop where
  | attached : call.Valid query.query → call.condition? query.query = some condition →
      Applied query call (.ok { query with table := query.table.push call.pattern condition })
  | refused : call.Faulty query.query fault → Applied query call (.error fault)

/-- With names and regex in order, the rest is up to the attachment. -/
theorem attach_applied {query : PredicateQuery} {call : BuilderCall}
    (names : ∀ name ∈ call.names, Known query.query name) (regex : ∀ text ∈ call.regex?, Compiles text)
    (ready : call.condition? query.query = some condition) :
    Applied query call (query.attach call.pattern condition) := by
  rw [PredicateQuery.attach, PredicateQuery.captureCount]
  split
  · exact .refused (.pattern names regex ‹_›)
  have inside : call.pattern < query.patternCount := Nat.lt_of_not_le ‹_›
  cases first : condition.references.find? (query.query.captureNames.length ≤ ·) with
  | some index =>
    obtain ⟨outside, earlier, later, split, within⟩ := List.find?_eq_some_iff_append.mp first
    exact .refused (.reference names regex inside ready split
      (fun other member => by simpa using within other member) (of_decide_eq_true outside))
  | none =>
    refine .attached ⟨names, regex, inside, fun other same index member => ?_⟩ ready
    obtain rfl := Option.some.inj (ready.symm.trans same)
    simpa using List.find?_eq_none.mp first index member

theorem apply_applied (query : PredicateQuery) (call : BuilderCall) {cache : RegexCache}
    (sound : cache.Sound) :
    ∃ result later, (call.apply query).run cache = (result, later) ∧ later.Sound ∧
      Applied query call result := by
  cases call with
  | equals pattern capture literal =>
    refine ⟨query.equals pattern capture literal, cache, rfl, sound, ?_⟩
    rw [PredicateQuery.equals]
    rcases captureIndex_cases query capture with ⟨index, looked, known, found⟩ | ⟨looked, unknown⟩
    · rw [looked]
      exact attach_applied (by simpa [names] using known) (by simp [regex?]) (by simp [condition?, found])
    · rw [looked]
      exact .refused (.first_name rfl unknown)
  | «matches» pattern capture text =>
    rw [apply, PredicateQuery.matches, Cached.run_bind, Cached.run_lift]
    rcases captureIndex_cases query capture with ⟨index, looked, known, found⟩ | ⟨looked, unknown⟩
    · -- Only here does a call touch the cache, also one that is then refused.
      obtain ⟨later, resolved, stays⟩ := sound.resolve text
      simp only [looked, Cached.run_bind, resolved, Cached.run_lift]
      have names : ∀ name ∈ (BuilderCall.matches pattern capture text).names, Known query.query name := by
        simpa [names] using known
      cases compiled : Regex.compile text with
      | error cause => exact ⟨_, later, rfl, stays, .refused (.regex names rfl compiled)⟩
      | ok regex =>
        refine ⟨_, later, rfl, stays, attach_applied names ?_ ?_⟩
        · simpa [regex?] using ⟨regex, compiled⟩
        · simp [condition?, found, compiled, Except.toOption]
    · rw [looked]
      exact ⟨_, cache, rfl, sound, .refused (.first_name rfl unknown)⟩
  | equalsCapture pattern capture other =>
    refine ⟨query.equalsCapture pattern capture other, cache, rfl, sound, ?_⟩
    rw [PredicateQuery.equalsCapture]
    rcases captureIndex_cases query capture with ⟨index, looked, known, found⟩ | ⟨looked, unknown⟩
    · rw [looked]
      rcases captureIndex_cases query other with ⟨second, lookedUp, both, there⟩ | ⟨lookedUp, unknown⟩
      · simp only [lookedUp]
        exact attach_applied (by simpa [names] using ⟨known, both⟩) (by simp [regex?])
          (by simp [condition?, found, there])
      · simp only [lookedUp]
        exact .refused
          (.name (show _ = [capture] ++ other :: [] from rfl) (by simpa using known) unknown)
    · rw [looked]
      exact .refused (.first_name rfl unknown)
  | predicate pattern condition =>
    exact ⟨_, cache, rfl, sound, attach_applied (by simp [names]) (by simp [regex?]) rfl⟩

end BuilderCall

section Building

variable [Engine] [RegexCompiler]

def PredicateQuery.build (query : PredicateQuery) (calls : List BuilderCall) :
    Cached QueryError PredicateQuery :=
  calls.foldlM (fun built call => call.apply built) query

structure Built (calls : List BuilderCall) (start built : PredicateQuery) : Prop where
  query : built.query = start.query
  rows : ∀ pattern, built.table.forPattern pattern =
    start.table.forPattern pattern ++ calls.filterMap (·.conditionFor? start.query pattern)
  patternCount : built.table.patternCount = start.table.patternCount

/-- What comes of calls: all are good, or the first that is not is the last that is made. -/
inductive Building (calls : List BuilderCall) (start : PredicateQuery) :
    Except QueryError PredicateQuery → Prop where
  | built : (∀ call ∈ calls, call.Valid start.query) → Built calls start built →
      Building calls start (.ok built)
  | refused : calls = earlier ++ call :: later → (∀ call ∈ earlier, call.Valid start.query) →
      call.Faulty start.query fault → Building calls start (.error fault)

theorem Built.cons {call : BuilderCall}
    (rest : Built later { start with table := start.table.push call.pattern condition } built)
    (valid : call.Valid start.query) (inside : start.table.patternCount = start.query.patternCount)
    (ready : call.condition? start.query = some condition) : Built (call :: later) start built where
  query := rest.query
  rows pattern := by
    rw [rest.rows, PredicateTable.forPattern_push, List.filterMap_cons, BuilderCall.conditionFor?]
    split
    · subst pattern
      simp [ready]
    · simp
  patternCount := rest.patternCount.trans
    (start.table.patternCount_push condition (inside ▸ valid.pattern))

theorem PredicateQuery.build_cases (start : PredicateQuery) (calls : List BuilderCall)
    {cache : RegexCache} (sound : cache.Sound)
    (inside : start.table.patternCount = start.query.patternCount) :
    Building calls start ((start.build calls).run cache).1 := by
  induction calls generalizing start cache with
  | nil => exact .built (by simp) ⟨rfl, by simp, rfl⟩
  | cons call later ih =>
    obtain ⟨result, cache, applied, sound, outcome⟩ := call.apply_applied start sound
    rw [build, List.foldlM_cons, Cached.run_bind, applied]
    cases outcome with
    | refused faulty => exact .refused (show _ = [] ++ call :: later from rfl) (by simp) faulty
    | @attached condition valid ready =>
      -- The pattern is inside the query, so the table has not grown and the rest may go on from it.
      have grown := start.table.patternCount_push condition (inside ▸ valid.pattern)
      have rest := ih { start with table := start.table.push call.pattern condition } sound
        (grown.trans inside)
      change Building (call :: later) start ((build _ later).run cache).1
      generalize ((build _ later).run cache).1 = result at rest ⊢
      cases rest with
      | built others built =>
        exact .built (List.forall_mem_cons.mpr ⟨valid, others⟩) (built.cons valid inside ready)
      | @refused earlier _ _ _ split others faulty =>
        exact .refused (congrArg (call :: ·) split) (List.forall_mem_cons.mpr ⟨valid, others⟩) faulty

end Building

theorem PredicateQuery.forPattern_ofQuery [Engine] (query : Query Engine.Program) (pattern : Nat) :
    (ofQuery query).table.forPattern pattern = [] :=
  PredicateTable.forPattern_new query.patternCount pattern

/-- Conditions are attached to a query by any number of calls, whatever the cache holds. All goes well if
and only if all calls are valid. If not, the fault is that of the first call that is not. If so, every
pattern has the conditions of its calls in their order, there are as many patterns as before, and every
condition refers to captures that exist. -/
theorem build_accepts_valid [Engine] [RegexCompiler] (query : Query Engine.Program)
    (calls : List BuilderCall) (cache : RegexCache) (reachable : cache.Reachable) :
    let result := (((PredicateQuery.ofQuery query).build calls).run cache).1
    ((∃ built, result = .ok built) ↔ ∀ call ∈ calls, call.Valid query) ∧
    (∀ fault, result = .error fault → ∃ earlier call later, calls = earlier ++ call :: later ∧
      (∀ call ∈ earlier, call.Valid query) ∧ ¬call.Valid query ∧ call.Faulty query fault) ∧
    ∀ built, result = .ok built → built.query = query ∧
      built.table.patternCount = query.patternCount ∧
      ∀ pattern, built.table.forPattern pattern = calls.filterMap (·.conditionFor? query pattern) ∧
        ∀ condition ∈ built.table.forPattern pattern, ∀ index ∈ condition.references,
          index < query.captureNames.length := by
  intro result
  have inside : (PredicateTable.new query.patternCount).patternCount = query.patternCount :=
    List.length_replicate
  have building : Building calls (.ofQuery query) result :=
    PredicateQuery.build_cases _ calls reachable.sound inside
  clear_value result
  cases building with
  | @built built valid holds =>
    have rows (pattern : Nat) : built.table.forPattern pattern =
        calls.filterMap (·.conditionFor? query pattern) := by
      rw [holds.rows, PredicateQuery.forPattern_ofQuery, List.nil_append]
      rfl
    refine ⟨⟨fun _ => valid, fun _ => ⟨built, rfl⟩⟩, fun _ failed => (nomatch failed), ?_⟩
    rintro _ ⟨⟩
    refine ⟨holds.query, holds.patternCount.trans inside, fun pattern => ⟨rows pattern, ?_⟩⟩
    intro condition member
    rw [rows] at member
    obtain ⟨call, called, ready⟩ := List.mem_filterMap.mp member
    exact BuilderCall.conditionFor?_within (valid call called) ready
  | @refused earlier call later fault split valid faulty =>
    have invalid := faulty.not_valid
    have notAll : ¬∀ call ∈ calls, call.Valid query := fun all =>
      invalid (all call (by simp [split]))
    refine ⟨⟨fun ⟨_, done⟩ => (nomatch done), fun all => absurd all notAll⟩, ?_,
      fun _ done => (nomatch done)⟩
    rintro _ ⟨⟩
    exact ⟨earlier, call, later, split, valid, invalid, faulty⟩

/-- The name is given with and without the at sign. -/
theorem two_calls_built :
    let query : Query Query.Plan := ⟨["n"], 1, [[]], ⟨.ofClauses [], #[]⟩⟩
    let calls : List BuilderCall := [.equals 0 "@n" [110], .equalsCapture 0 "n" "n"]
    ∃ built, (((PredicateQuery.ofQuery query).build calls).run .empty).1 = .ok built ∧
      (built.table.forPattern 0).map (·.references) = [[0], [0, 0]] := by
  intro query calls
  have bare : PredicateQuery.bareName "@n" = "n" ∧ PredicateQuery.bareName "n" = "n" := by decide
  have first : (BuilderCall.equals 0 "@n" [110]).Valid query := by
    constructor <;> simp [BuilderCall.names, BuilderCall.Known, BuilderCall.regex?, BuilderCall.pattern,
      BuilderCall.condition?, Condition.references, Condition.new, Query.captureIndex?, query, bare]
  have second : (BuilderCall.equalsCapture 0 "n" "n").Valid query := by
    constructor <;> simp [BuilderCall.names, BuilderCall.Known, BuilderCall.regex?, BuilderCall.pattern,
      BuilderCall.condition?, Condition.references, Condition.new, Query.captureIndex?, query, bare]
  obtain ⟨accepts, -, holds⟩ := build_accepts_valid query calls .empty .empty
  obtain ⟨built, done⟩ := accepts.mpr (by simp [calls, first, second])
  refine ⟨built, done, ?_⟩
  rw [((holds built done).2.2 0).1]
  decide

end SyntaxQuery
