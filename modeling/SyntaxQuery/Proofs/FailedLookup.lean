import Mathlib.Data.List.Nodup
import SyntaxQuery.Proofs.CacheHistory
import SyntaxQuery.Regex.Compile

/-! Lookups that fail. Room is made in a full cache before the pattern is compiled, so a pattern that does
not compile leaves a cache with room as it is, and empties one that is full. A full cache is in reach: it
takes 256 different patterns, for instance of one letter each. -/
namespace SyntaxQuery

namespace RegexCache

theorem mem_of_find? {cache : RegexCache} (held : cache.find? pattern = some regex) :
    pattern ∈ cache.entries.map (·.1) := by
  obtain ⟨entry, first, -⟩ := Option.map_eq_some_iff.mp held
  have same : entry.1 = pattern := by simpa using List.find?_some first
  exact same ▸ List.mem_map_of_mem (List.mem_of_find?_eq_some first)

theorem makeRoom_eq (cache : RegexCache) : cache.makeRoom = if cache.size < 256 then cache else empty := by
  rw [makeRoom, capacity]
  split <;> split <;> first | rfl | omega

variable [RegexCompiler]

/-- A lookup that fails does to the cache what making room does. -/
theorem Proper.resolve_failed {cache : RegexCache} (proper : cache.Proper)
    (fails : Regex.compile pattern = .error cause) :
    (resolve pattern).run cache = (.error (.invalidRegex pattern cause), cache.makeRoom) := by
  rw [run_resolve]
  have looked := cache.get_cases pattern
  generalize cache.get pattern = result at looked ⊢
  cases looked with
  | held held => exact nomatch fails.symm.trans (proper.sound.find? held)
  | added absent compiled => exact nomatch fails.symm.trans compiled
  | refused absent failed =>
    cases fails.symm.trans failed
    rfl

/-- A new pattern that compiles is added behind the others, as long as there is room. -/
theorem get_new {cache : RegexCache} (room : cache.size < 256) (new : pattern ∉ cache.entries.map (·.1))
    (compiles : Regex.compile pattern = .ok regex) :
    (cache.get pattern).2 = ⟨cache.entries ++ [(pattern, regex)]⟩ := by
  have looked := cache.get_cases pattern
  generalize cache.get pattern = result at looked ⊢
  cases looked with
  | held held => exact absurd (mem_of_find? held) new
  | refused absent failed => exact nomatch compiles.symm.trans failed
  | added absent compiled =>
    cases compiles.symm.trans compiled
    rw [makeRoom_eq, if_pos room]

/-- Different patterns that compile are all kept, as long as there is room. -/
theorem size_after_new {cache : RegexCache} {patterns : List String}
    (different : (cache.entries.map (·.1) ++ patterns).Nodup)
    (compile : ∀ pattern ∈ patterns, ∃ regex, Regex.compile pattern = .ok regex)
    (room : cache.size + patterns.length ≤ 256) :
    (cache.after (patterns.map .resolve)).size = cache.size + patterns.length := by
  induction patterns generalizing cache with
  | nil => rfl
  | cons pattern patterns ih =>
    obtain ⟨⟨regex, compiles⟩, others⟩ := List.forall_mem_cons.mp compile
    rw [List.length_cons] at room
    have new : pattern ∉ cache.entries.map (·.1) := fun held =>
      (List.nodup_append.mp different).2.2 pattern held pattern List.mem_cons_self rfl
    have added : (cache.get pattern).2 = ⟨cache.entries ++ [(pattern, regex)]⟩ :=
      get_new (by omega) new compiles
    have size : (cache.get pattern).2.size = cache.size + 1 := by
      rw [added, RegexCache.size, List.length_append]
      rfl
    have still : (((cache.get pattern).2.entries.map (·.1)) ++ patterns).Nodup := by
      simpa [added] using different
    have filled := ih still others (by omega)
    rw [size] at filled
    rw [List.length_cons, Nat.add_comm patterns.length, ← Nat.add_assoc]
    exact filled

end RegexCache

/-- Whatever calls have come before, a pattern that does not compile is refused with its defect. The cache
holds exactly what it held before if there was room in it, and nothing if it was full. -/
theorem failed_lookup [RegexCompiler] (calls : List CacheCall) (fails : Regex.compile pattern = .error cause) :
    let cache := RegexCache.empty.after calls
    (RegexCache.resolve pattern).run cache =
      (.error (.invalidRegex pattern cause), if cache.size < 256 then cache else .empty) := by
  intro cache
  rw [← cache.makeRoom_eq]
  exact (RegexCache.empty_proper.after calls).resolve_failed fails

theorem Regex.compile_unclosed_group :
    Regex.compile "(" = .error "regex parse error:\n    (\n    ^\nerror: unclosed group" := by
  have read : Expression.read "(".toList = .error ⟨.groupUnclosed, ⟨0, 1⟩, none⟩ := rfl
  change ofPattern "(" = _
  simp only [ofPattern, read]
  exact congrArg Except.error (by decide +kernel)

theorem unclosed_group_refused :
    let report := "regex parse error:\n    (\n    ^\nerror: unclosed group"
    let cache := RegexCache.empty.after [.resolve "é", .clear, .resolve "ß"]
    Regex.compile "(" = .error report ∧
    (RegexCache.resolve "(").run cache = (.error (.invalidRegex "(" report), cache) := by
  intro report cache
  have fails : Regex.compile "(" = .error report := Regex.compile_unclosed_group
  have room : cache.size < 256 := by decide +kernel
  have refused := failed_lookup [.resolve "é", .clear, .resolve "ß"] fails
  exact ⟨fails, refused.trans (congrArg (_, ·) (if_pos room))⟩

namespace Regex

/-- The characters that mean something else than themselves are ASCII. -/
theorem ne_of_plain (plain : 0x80 ≤ c.toNat) {special : Char} (ascii : special.toNat < 0x80) :
    c ≠ special := by
  rintro rfl
  omega

theorem Read.primitive_plain (plain : 0x80 ≤ c.toNat) :
    (Read.primitive c).run ⟨#[c], 0, false, [], [], []⟩ =
      .ok (.literal ⟨⟨0, 1⟩, c, false⟩, ⟨#[c], 1, false, [], [], []⟩) := by
  have escape : (c == '\\') = false := beq_eq_false_iff_ne.mpr (ne_of_plain plain (by decide))
  rw [Read.primitive, if_neg (by simp [escape])]
  split
  case h_4 => rfl
  all_goals exact absurd rfl (ne_of_plain plain (by decide))

theorem Read.body_plain (plain : 0x80 ≤ c.toNat) :
    (Read.body 2 ⟨0, []⟩).run ⟨#[c], 0, false, [], [], []⟩ =
      .ok (.literal ⟨⟨0, 1⟩, c, false⟩, ⟨#[c], 1, false, [], [], []⟩) := by
  have space : Read.bumpSpace.run ⟨#[c], 0, false, [], [], []⟩ =
      .ok ((), ⟨#[c], 0, false, [], [], []⟩) := rfl
  have current : Read.current.run ⟨#[c], 0, false, [], [], []⟩ =
      .ok (some c, ⟨#[c], 0, false, [], [], []⟩) := rfl
  rw [Read.body, StateT.run_bind, space]
  dsimp only [bind, Except.bind]
  change StateT.run (Read.current >>= _) _ = _
  rw [StateT.run_bind, current]
  dsimp only [bind, Except.bind]
  split
  case h_1 none => cases none
  case h_10 same =>
    obtain rfl := Option.some.inj same
    change StateT.run (Read.primitive c >>= _) _ = _
    rw [StateT.run_bind, Read.primitive_plain plain]
    rfl
  all_goals
    rename_i same
    exact absurd (Option.some.inj same) (ne_of_plain plain (by decide))

/-- A letter outside ASCII is a pattern, which is far from being too big. -/
theorem compile_plain (plain : 0x80 ≤ c.toNat) :
    ∃ regex, Regex.compile (String.singleton c) = .ok regex := by
  have characters : (String.singleton c).toList = [c] := String.toList_singleton c
  have read : Expression.read [c] = .ok (.literal ⟨⟨0, 1⟩, c, false⟩) := by
    change ((Read.body 2 ⟨0, []⟩).run ⟨#[c], 0, false, [], [], []⟩ >>= _) = _
    rw [Read.body_plain plain]
    rfl
  have light : (Node.scalar [(c.toNat, c.toNat)]).weight ≤ sizeLimit := by
    rw [Node.weight, if_pos (beq_self_eq_true _)]
    split
    · decide
    · split <;> decide
  have heavy : ¬(Node.scalar [(c.toNat, c.toNat)]).weight > sizeLimit := Nat.not_lt.mpr light
  change ∃ regex, ofPattern _ = .ok regex
  rw [ofPattern, characters, read]
  exact ⟨_, if_neg heavy⟩

end Regex

namespace RegexCache

def letters (count : Nat) : List String :=
  (List.range count).map fun i => String.singleton (Char.ofNat (0x100 + i))

theorem toNat_letter (small : i < 256) : (Char.ofNat (0x100 + i)).toNat = 0x100 + i := by
  rw [Char.ofNat, dif_pos (.inl (by omega))]
  rfl

theorem nodup_letters (few : count ≤ 256) : (letters count).Nodup := by
  refine List.Nodup.map_on (fun i first j second same => ?_) List.nodup_range
  rw [List.mem_range] at first second
  have letter := congrArg Char.toNat (String.singleton_inj.mp same)
  rw [toNat_letter (by omega), toNat_letter (by omega)] at letter
  omega

theorem size_after_letters (few : count ≤ 256) :
    (empty.after ((letters count).map .resolve)).size = count := by
  have length : (letters count).length = count := by rw [letters, List.length_map, List.length_range]
  have compile : ∀ letter ∈ letters count, ∃ regex, Regex.compile letter = .ok regex := by
    intro letter member
    obtain ⟨i, small, rfl⟩ := List.mem_map.mp member
    rw [List.mem_range] at small
    refine Regex.compile_plain ?_
    rw [toNat_letter (by omega)]
    omega
  have vacant : empty.size + (letters count).length = count := by
    rw [length, show empty.size = 0 from rfl, Nat.zero_add]
  have filled : (empty.after ((letters count).map .resolve)).size = empty.size + (letters count).length :=
    size_after_new (nodup_letters few) compile (by rwa [vacant])
  exact filled.trans vacant

end RegexCache

/-- After 256 letters have been looked up, a pattern that does not compile empties the cache. -/
theorem full_cache_emptied :
    let report := "regex parse error:\n    (\n    ^\nerror: unclosed group"
    let cache := RegexCache.empty.after ((RegexCache.letters 256).map .resolve)
    Regex.compile "(" = .error report ∧
    cache.size = 256 ∧
    ((RegexCache.resolve "(").run cache).2.entries = [] ∧
    ((RegexCache.resolve "(").run cache).2.entries ≠ cache.entries := by
  intro report cache
  have fails : Regex.compile "(" = .error report := Regex.compile_unclosed_group
  have full : cache.size = 256 := RegexCache.size_after_letters (Nat.le_refl 256)
  have emptied : (RegexCache.resolve "(").run cache = (.error (.invalidRegex "(" report), .empty) := by
    rw [(RegexCache.empty_proper.after _).resolve_failed fails, cache.makeRoom_eq,
      if_neg (Nat.not_lt.mpr (Nat.le_of_eq full.symm))]
  rw [emptied]
  refine ⟨fails, full, rfl, fun same => ?_⟩
  rw [RegexCache.size, ← same] at full
  cases full

end SyntaxQuery
