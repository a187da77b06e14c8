import SyntaxQuery.PredicateQuery

/-! What a cache of regexes can hold. Whatever calls have come before, a lookup answers as if the pattern
were compiled then and there. -/
namespace SyntaxQuery

namespace RegexCache

variable [RegexCompiler]

/-- Every entry is the regex of its pattern. -/
def Sound (cache : RegexCache) : Prop :=
  ∀ entry ∈ cache.entries, Regex.compile entry.1 = .ok entry.2

/-- The contents that calls leave behind, the first of which finds the cache empty. -/
inductive Reachable : RegexCache → Prop where
  | empty : Reachable empty
  | get (pattern : String) : Reachable cache → Reachable (cache.get pattern).2
  | clear : Reachable cache → Reachable cache.clear

theorem empty_sound : empty.Sound := fun _ member => absurd member List.not_mem_nil

theorem Sound.makeRoom {cache : RegexCache} (sound : cache.Sound) : cache.makeRoom.Sound := by
  rw [RegexCache.makeRoom]
  split
  · exact empty_sound
  · exact sound

theorem Sound.find? {cache : RegexCache} (sound : cache.Sound)
    (found : cache.find? pattern = some regex) : Regex.compile pattern = .ok regex := by
  obtain ⟨entry, first, rfl⟩ := Option.map_eq_some_iff.mp found
  have same : entry.1 = pattern := by simpa using List.find?_some first
  rw [← same]
  exact sound entry (List.mem_of_find?_eq_some first)

theorem Sound.get {cache : RegexCache} (sound : cache.Sound) (pattern : String) :
    (cache.get pattern).1 = Regex.compile pattern ∧ (cache.get pattern).2.Sound := by
  rw [RegexCache.get]
  cases found : cache.find? pattern with
  | some regex => exact ⟨(sound.find? found).symm, sound⟩
  | none =>
    cases compiled : Regex.compile pattern with
    | error cause => exact ⟨rfl, sound.makeRoom⟩
    | ok regex =>
      refine ⟨rfl, fun entry member => ?_⟩
      rcases List.mem_append.mp member with earlier | new
      · exact sound.makeRoom entry earlier
      · obtain rfl := List.mem_singleton.mp new
        exact compiled

theorem Reachable.sound {cache : RegexCache} (reachable : cache.Reachable) : cache.Sound := by
  induction reachable with
  | empty | clear => exact empty_sound
  | get pattern _ sound => exact (sound.get pattern).2

end RegexCache

/-- How a step is seen to succeed by running it. -/
theorem exists_eq_ok {result : Except ε α} (good : result.toOption.isSome) : ∃ value, result = .ok value := by
  cases result with
  | ok value => exact ⟨value, rfl⟩
  | error fault => cases good

namespace Cached

theorem run_lift (result : Except ε α) (cache : RegexCache) :
    (liftM result : Cached ε α).run cache = (result, cache) := rfl

theorem run_step (step : StateM RegexCache α) (next : α → Cached ε β) (cache : RegexCache) :
    (liftM step >>= next).run cache = (next (step.run cache).1).run (step.run cache).2 := rfl

theorem run_bind (first : Cached ε α) (next : α → Cached ε β) (cache : RegexCache) :
    (first >>= next).run cache =
      match first.run cache with
      | (.ok value, later) => (next value).run later
      | (.error fault, later) => (.error fault, later) := by
  rcases result : first.run cache with ⟨_ | _, later⟩
  all_goals
    rw [ExceptT.run_bind]
    change StateT.run _ cache = _
    rw [StateT.run_bind, StateT.run, result]
    rfl

theorem of_bind_ok {first : Cached ε α} {next : α → Cached ε β} {cache last : RegexCache}
    (done : (first >>= next).run cache = (.ok result, last)) :
    ∃ value later, first.run cache = (.ok value, later) ∧ (next value).run later = (.ok result, last) := by
  rw [run_bind] at done
  rcases ran : first.run cache with ⟨fault | value, later⟩
  · rw [ran] at done
    cases done
  · rw [ran] at done
    exact ⟨value, later, rfl, done⟩

end Cached

theorem RegexCache.Sound.resolve [RegexCompiler] {cache : RegexCache} (sound : cache.Sound) (pattern : String) :
    ∃ later, (RegexCache.resolve pattern).run cache =
      ((Regex.compile pattern).mapError (.invalidRegex pattern ·), later) ∧ later.Sound := by
  obtain ⟨same, stays⟩ := sound.get pattern
  refine ⟨(cache.get pattern).2, ?_, stays⟩
  rw [← same]
  rfl

end SyntaxQuery
