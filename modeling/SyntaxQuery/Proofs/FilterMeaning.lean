import SyntaxQuery.Proofs.FaithfulProvider
import SyntaxQuery.Proofs.FilterSearch

/-! The meaning of filtering: which candidates a table admits, given the text of every node. A filter
over a faithful provider lets exactly these through, in order; the chunks, the buffers and the order
of the checks leave no trace. -/
namespace SyntaxQuery

/-- What the outcomes for single nodes come to. Nothing to look at satisfies either quantifier. -/
def Quantifier.Satisfied : Quantifier → List Bool → Prop
  | all, outcomes => ∀ outcome ∈ outcomes, outcome = true
  | any, outcomes => outcomes = [] ∨ true ∈ outcomes

instance : ∀ quantifier outcomes, Decidable (Quantifier.Satisfied quantifier outcomes)
  | .all, outcomes => inferInstanceAs (Decidable (∀ outcome ∈ outcomes, outcome = true))
  | .any, outcomes => inferInstanceAs (Decidable (outcomes = [] ∨ true ∈ outcomes))

namespace Condition

/-- One outcome for each bound node, or for each pair of nodes that two captures have at the same
place; `read` gives the text of a node. -/
def outcomes (condition : Condition) (read : Span → Bytes) (m : Match) : List Bool :=
  let nodes := m.nodesFor condition.capture
  match condition.test with
  | .equals literal => nodes.map fun node => (read node == literal) != condition.negated
  | .search regex => nodes.map fun node => regex.isMatch (read node) != condition.negated
  | .sameAs other =>
    (nodes.zip (m.nodesFor other)).map fun pair =>
      (read pair.1 == read pair.2) != condition.negated

def Holds (condition : Condition) (read : Span → Bytes) (m : Match) : Prop :=
  condition.quantifier.Satisfied (condition.outcomes read m)

instance (condition : Condition) (read : Span → Bytes) (m : Match) :
    Decidable (condition.Holds read m) :=
  inferInstanceAs (Decidable (condition.quantifier.Satisfied _))

end Condition

/-- Every condition of the match's pattern holds. -/
def PredicateTable.Admits (table : PredicateTable) (read : Span → Bytes) (m : Match) : Prop :=
  ∀ condition ∈ table.forPattern m.pattern, condition.Holds read m

instance (table : PredicateTable) (read : Span → Bytes) (m : Match) :
    Decidable (table.Admits read m) :=
  inferInstanceAs (Decidable (∀ condition ∈ table.forPattern m.pattern, condition.Holds read m))

section Passes

/-! A test may change the state that is handed on. If its result does not depend on that state, as
long as an invariant holds, then stopping early does not show. -/

variable {invariant : τ → Prop} {test : α → τ → Bool × τ} {passes : α → Bool}
  (step : ∀ item t, invariant t → (test item t).1 = passes item ∧ invariant (test item t).2)

include step

theorem allPass_eq (items : List α) (start : invariant t) :
    (allPass test items t).1 = items.all passes ∧ invariant (allPass test items t).2 := by
  induction items generalizing t with
  | nil => exact ⟨rfl, start⟩
  | cons item items ih =>
    obtain ⟨result, kept⟩ := step item t start
    rcases tested : test item t with ⟨_ | _, next⟩
    · rw [tested] at result kept
      simp [allPass, tested, ← result, kept]
    · rw [tested] at result kept
      simp [allPass, tested, ← result, ih kept]

theorem somePasses_eq (items : List α) (start : invariant t) :
    (somePasses test items t).1 = items.any passes ∧ invariant (somePasses test items t).2 := by
  induction items generalizing t with
  | nil => exact ⟨rfl, start⟩
  | cons item items ih =>
    obtain ⟨result, kept⟩ := step item t start
    rcases tested : test item t with ⟨_ | _, next⟩
    · rw [tested] at result kept
      simp [somePasses, tested, ← result, ih kept]
    · rw [tested] at result kept
      simp [somePasses, tested, ← result, kept]

theorem Quantifier.passes_iff (quantifier : Quantifier) (items : List α) (start : invariant t) :
    ((quantifier.passes test items t).1 = true ↔ quantifier.Satisfied (items.map passes)) ∧
      invariant (quantifier.passes test items t).2 := by
  cases quantifier with
  | all =>
    obtain ⟨result, kept⟩ := allPass_eq step items start
    exact ⟨by simp [Quantifier.passes, result, Quantifier.Satisfied], kept⟩
  | any =>
    cases items with
    | nil => exact ⟨by simp [Quantifier.passes, Quantifier.Satisfied], start⟩
    | cons item items =>
      obtain ⟨result, kept⟩ := somePasses_eq step (item :: items) start
      exact ⟨by simp [Quantifier.passes, result, Quantifier.Satisfied], kept⟩

end Passes

namespace Evaluator

variable {p : Provider σ} {source : Bytes}

theorem testNode_eq (accepts : Bytes → Bool) (node : Span) (t : Evaluator × σ)
    (faithful : p.Faithful source t.2) :
    (testNode accepts p node t).1 = accepts (node.textIn source) ∧
      p.Faithful source (testNode accepts p node t).2.2 := by
  obtain ⟨text, kept⟩ := Assembler.assemble_faithful t.1.left node faithful
  exact ⟨congrArg accepts text, kept⟩

theorem comparePair_eq (negated : Bool) (pair : Span × Span) (t : Evaluator × σ)
    (faithful : p.Faithful source t.2) :
    (comparePair negated p pair t).1 =
        ((pair.1.textIn source == pair.2.textIn source) != negated) ∧
      p.Faithful source (comparePair negated p pair t).2.2 := by
  obtain ⟨left, between⟩ := Assembler.assemble_faithful t.1.left pair.1 faithful
  obtain ⟨right, kept⟩ := Assembler.assemble_faithful t.1.right pair.2 between
  rw [← left, ← right]
  exact ⟨rfl, kept⟩

theorem check_iff (m : Match) (condition : Condition) (t : Evaluator × σ)
    (faithful : p.Faithful source t.2) :
    ((check m p condition t).1 = true ↔ condition.Holds (·.textIn source) m) ∧
      p.Faithful source (check m p condition t).2.2 := by
  unfold check Condition.Holds Condition.outcomes
  cases condition.test with
  | equals literal => exact Quantifier.passes_iff (testNode_eq _) _ _ faithful
  | search regex => exact Quantifier.passes_iff (testNode_eq _) _ _ faithful
  | sameAs other => exact Quantifier.passes_iff (comparePair_eq _) _ _ faithful

theorem evaluate_iff (evaluator : Evaluator) (m : Match) (conditions : List Condition)
    (faithful : p.Faithful source s) :
    ((evaluator.evaluate m conditions p s).1 = true ↔
        ∀ condition ∈ conditions, condition.Holds (·.textIn source) m) ∧
      p.Faithful source (evaluator.evaluate m conditions p s).2.2 := by
  have step : ∀ condition (t : Evaluator × σ), p.Faithful source t.2 →
      (check m p condition t).1 = decide (condition.Holds (·.textIn source) m) ∧
        p.Faithful source (check m p condition t).2.2 := by
    intro condition t faithful
    obtain ⟨result, kept⟩ := check_iff m condition t faithful
    exact ⟨Bool.eq_iff_iff.mpr (result.trans decide_eq_true_iff.symm), kept⟩
  obtain ⟨result, kept⟩ := allPass_eq (t := (evaluator, s)) step conditions faithful
  exact ⟨by simp [evaluate, result], kept⟩

end Evaluator

def PredicateTable.admitted (table : PredicateTable) (text : Bytes) (candidates : List Match) :
    List Match :=
  candidates.filter fun candidate => table.Admits (·.textIn text) candidate

/-- The source produces these candidates and then nothing, whatever buffer it is handed, as long as
the provider is faithful; it may itself read from the provider. -/
def MatchSource.Produces (source : MatchSource σ π) (p : Provider π) (text : Bytes) :
    List Match → σ → Prop
  | [], s => ∀ captures lent, p.Faithful text lent →
    ∃ buffer rest left, source.next s captures lent = (none, buffer, rest, left) ∧
      p.Faithful text left
  | candidate :: later, s => ∀ captures lent, p.Faithful text lent →
    ∃ rest left,
      source.next s captures lent = (some candidate.pattern, candidate.captures, rest, left) ∧
      p.Faithful text left ∧ source.Produces p text later rest

/-- Any finite sequence of candidates has a source, even one that goes on after its first end. -/
theorem MatchSource.replay_produces (p : Provider π) (text : Bytes) (candidates : List Match)
    (behind : List (Option Match)) :
    (MatchSource.replay π).Produces p text candidates
      (candidates.map some ++ none :: behind) := by
  induction candidates with
  | nil => exact fun captures lent faithful => ⟨captures, behind, lent, rfl, faithful⟩
  | cons candidate later ih => exact fun _ lent faithful => ⟨_, lent, rfl, faithful, ih⟩

namespace Filter

variable {source : MatchSource σ π} {table : PredicateTable} {p : Provider π} {text : Bytes}

structure Awaits (source : MatchSource σ π) (p : Provider π) (text : Bytes)
    (candidates : List Match) (filter : Filter σ π) : Prop where
  running : filter.finished = false
  faithful : p.Faithful text filter.provider
  produces : source.Produces p text candidates filter.source

theorem Pulled.awaits_nil {before after : Filter σ π}
    (pulled : Pulled source table p before ended after)
    (awaits : Awaits source p text [] before) :
    ended = true ∧ after.finished = true ∧ after.hasCurrent = before.hasCurrent := by
  obtain ⟨buffer, rest, left, next, -⟩ :=
    awaits.produces before.current.captures before.provider awaits.faithful
  cases pulled with
  | passed came | failed came => cases next.symm.trans came
  | dry => exact ⟨rfl, rfl, rfl⟩

/-- A candidate ends the search exactly if it is admitted. -/
theorem Pulled.awaits_cons {before after : Filter σ π}
    (pulled : Pulled source table p before ended after)
    (awaits : Awaits source p text (candidate :: later) before) :
    (ended = true ↔ table.Admits (·.textIn text) candidate) ∧ after.current = candidate ∧
      Awaits source p text later after ∧ after.hasCurrent = (ended || before.hasCurrent) := by
  obtain ⟨rest, lent, next, faithful, produces⟩ :=
    awaits.produces before.current.captures before.provider awaits.faithful
  have evaluated := Evaluator.evaluate_iff before.evaluator candidate
    (table.forPattern candidate.pattern) faithful
  cases pulled with
  | passed came checked =>
    cases next.symm.trans came
    rw [checked] at evaluated
    exact ⟨evaluated.1, rfl, ⟨awaits.running, evaluated.2, produces⟩, rfl⟩
  | failed came checked =>
    cases next.symm.trans came
    rw [checked] at evaluated
    exact ⟨evaluated.1, rfl, ⟨awaits.running, evaluated.2, produces⟩, rfl⟩
  | dry came => cases next.symm.trans came

/-- A search ends at the first admitted candidate, or finds the source at its end. -/
theorem search_awaits (table : PredicateTable) {filter : Filter σ π}
    (awaits : Awaits source p text candidates filter)
    (cleared : filter.hasCurrent = false) (enough : candidates.length < limit) :
    ∃ last, filter.search source table p limit = some last ∧
      (table.admitted text candidates = [] ∧ last.finished = true ∧ last.get = none ∨
        ∃ found later,
          table.admitted text candidates = found :: table.admitted text later ∧
          later.length ≤ candidates.length ∧ last.get = some found ∧
          Awaits source p text later last) := by
  induction candidates generalizing filter limit with
  | nil =>
    obtain ⟨limit, rfl⟩ := Nat.exists_eq_succ_of_ne_zero (Nat.ne_zero_of_lt enough)
    rcases result : filter.pull source table p with ⟨ended, pulled⟩
    obtain ⟨rfl, finished, kept⟩ := (pull_cases result).awaits_nil awaits
    refine ⟨pulled, by rw [search_succ, result]; rfl, .inl ⟨rfl, finished, ?_⟩⟩
    simp [get, kept, cleared]
  | cons candidate later ih =>
    obtain ⟨limit, rfl⟩ := Nat.exists_eq_succ_of_ne_zero (Nat.ne_zero_of_lt enough)
    rcases result : filter.pull source table p with ⟨ended, pulled⟩
    obtain ⟨admits, current, moved, shown⟩ := (pull_cases result).awaits_cons awaits
    cases ended with
    | true =>
      refine ⟨pulled, by rw [search_succ, result]; rfl, .inr ⟨candidate, later, ?_, ?_, ?_, moved⟩⟩
      · exact List.filter_cons_of_pos (decide_eq_true (admits.mp rfl))
      · exact Nat.le_succ _
      · simp [get, shown, current]
    | false =>
      have skipped : table.admitted text (candidate :: later) = table.admitted text later :=
        List.filter_cons_of_neg (by simpa using admits)
      obtain ⟨last, found, outcome⟩ :=
        ih moved (shown.trans cleared) (Nat.lt_of_succ_lt_succ enough)
      refine ⟨last, by rw [search_succ, result]; exact found, ?_⟩
      rw [skipped]
      rcases outcome with done | ⟨next, behind, first, shorter, shown, waiting⟩
      · exact .inl done
      · exact .inr ⟨next, behind, first, Nat.le_succ_of_le shorter, shown, waiting⟩

theorem collect_awaits {filter : Filter σ π} (awaits : Awaits source p text candidates filter)
    (enough : candidates.length < limit) (pulls : Nat) :
    (filter.collect source table p limit pulls).1 = (table.admitted text candidates).take pulls ∧
      ((table.admitted text candidates).length < pulls →
        (filter.collect source table p limit pulls).2.finished = true) := by
  induction pulls generalizing candidates filter with
  | zero => exact ⟨rfl, fun none => absurd none (Nat.not_lt_zero _)⟩
  | succ pulls ih =>
    have cleared : Awaits source p text candidates { filter with hasCurrent := false } :=
      ⟨awaits.running, awaits.faithful, awaits.produces⟩
    obtain ⟨last, found, outcome⟩ := search_awaits table cleared rfl enough
    have advanced : filter.advance source table p limit = some last := by
      rw [advance, if_neg (by simp [awaits.running])]
      exact found
    rcases outcome with ⟨none, finished, shown⟩ | ⟨first, later, admitted, shorter, shown, waiting⟩
    · simp [collect, advanced, shown, none, finished]
    · obtain ⟨others, ends⟩ := ih waiting (Nat.lt_of_le_of_lt shorter enough)
      simp only [collect, advanced, shown, admitted]
      exact ⟨by rw [others, List.take_succ_cons], fun more => ends (Nat.lt_of_succ_lt_succ more)⟩

end Filter

/-- Text in memory and a stream that never fails for good are faithful, in whatever chunks they are
served, and any candidates have a source. Over any faithful provider a filter yields the candidates
that the table admits, in order, each as it came, and then finds its source at the end. -/
theorem filtering_meaning {σ π : Type} :
    (∀ text, (Slice.whole text).provider.Faithful text ()) ∧
    (∀ text maxChunk, (Slice.capped text maxChunk).provider.Faithful text ()) ∧
    (∀ (stream : Stream) (chunkSize : Nat), stream.Reliable →
      StreamReader.provider.Faithful stream.content
        (StreamReader.withChunkSize stream chunkSize)) ∧
    (∀ (p : Provider π) (text : Bytes) (candidates : List Match) (behind : List (Option Match)),
      (MatchSource.replay π).Produces p text candidates
        (candidates.map some ++ none :: behind)) ∧
    (∀ (source : MatchSource σ π) (table : PredicateTable) (p : Provider π) (text : Bytes)
      (candidates : List Match) (s : σ) (provider : π),
      p.Faithful text provider → source.Produces p text candidates s →
      ∀ limit pulls, candidates.length < limit →
        ((Filter.new s provider).collect source table p limit pulls).1 =
          (table.admitted text candidates).take pulls ∧
        ((table.admitted text candidates).length < pulls →
          ((Filter.new s provider).collect source table p limit pulls).2.finished = true)) := by
  refine ⟨Slice.whole_faithful, Slice.capped_faithful, ?stream,
    MatchSource.replay_produces, ?filter⟩
  case stream => exact fun stream chunkSize reliable =>
    StreamReader.withChunkSize_faithful reliable chunkSize
  case filter =>
    intro source table p text candidates s provider faithful produces limit pulls enough
    exact Filter.collect_awaits ⟨rfl, faithful, produces⟩ enough pulls

/-- The second node, which reaches past the end, holds the text that is asked for; the reads are short
and one is interrupted. -/
theorem short_reads_filtered :
    ((Filter.new [some ⟨0, [⟨0, 0, 2, ⟨0, 0⟩⟩]⟩, some ⟨0, [⟨0, 1, 9, ⟨0, 1⟩⟩]⟩, none]
      (StreamReader.withChunkSize (.open [97, 98, 99] [.atMost 1, .fault .interrupted] []) 2)).collect
      (.replay _) ⟨[[.new 0 (.equals [98, 99])]]⟩ StreamReader.provider 3 5).1 =
    [⟨0, [⟨0, 1, 9, ⟨0, 1⟩⟩]⟩] := by
  obtain ⟨-, -, reader, replay, filter⟩ := filtering_meaning
  have reliable : (Stream.open [97, 98, 99] [.atMost 1, .fault .interrupted] []).Reliable :=
    ⟨by simp [Stream.open], by simp [Stream.open], by simp [Stream.open]⟩
  have produces := replay StreamReader.provider [97, 98, 99]
    [⟨0, [⟨0, 0, 2, ⟨0, 0⟩⟩]⟩, ⟨0, [⟨0, 1, 9, ⟨0, 1⟩⟩]⟩] []
  have yielded := filter _ ⟨[[.new 0 (.equals [98, 99])]]⟩ _ _ _ _ _ (reader _ 2 reliable) produces
    3 5 (by decide)
  exact yielded.1.trans (by decide)

end SyntaxQuery
