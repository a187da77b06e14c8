import Mathlib.Data.List.Forall2
import SyntaxQuery.Proofs.CheckInquiry
import SyntaxQuery.Proofs.FilterSearch

/-! Runs of a query with cursors that differ in something. A run sees nothing of a cursor but what the search
finds with it, so it goes the same way with both where the search does; and it leaves cursors that again
differ in nothing else. -/
namespace SyntaxQuery

/-- States of a source that are related answer a pull alike, and leave related states. -/
def MatchSource.Keeps (source : MatchSource σ π) (related : σ → σ → Prop) : Prop :=
  ∀ {s t}, related s t → ∀ captures provider, ∃ answer left s' t' after,
    source.next s captures provider = (answer, left, s', after) ∧
    source.next t captures provider = (answer, left, t', after) ∧ related s' t'

namespace Filter

structure Paired (related : σ → σ → Prop) (f g : Filter σ π) : Prop where
  source : related f.source g.source
  same : g = { f with source := g.source }

variable {source : MatchSource σ π} {related : σ → σ → Prop} {f g : Filter σ π}

theorem Paired.get_eq (paired : Paired related f g) : g.get = f.get := by
  rw [get, get, paired.same]

theorem Paired.pull (paired : Paired related f g) (keeps : source.Keeps related)
    (table : PredicateTable) (p : Provider π) :
    (g.pull source table p).1 = (f.pull source table p).1 ∧
      Paired related (f.pull source table p).2 (g.pull source table p).2 := by
  obtain ⟨state, rfl⟩ : ∃ state, g = { f with source := state } := ⟨_, paired.same⟩
  obtain ⟨answer, left, s, t, after, first, second, related⟩ :=
    keeps paired.source f.current.captures f.provider
  simp only [Filter.pull, first, second]
  cases answer with
  | none => exact ⟨rfl, related, rfl⟩
  | some pattern =>
    simp only
    split
    · exact ⟨rfl, related, rfl⟩
    · exact ⟨rfl, related, rfl⟩

theorem Paired.search (paired : Paired related f g) (keeps : source.Keeps related)
    (table : PredicateTable) (p : Provider π) (limit : Nat) :
    (f.search source table p limit = none ∧ g.search source table p limit = none) ∨
      ∃ f' g', f.search source table p limit = some f' ∧ g.search source table p limit = some g' ∧
        Paired related f' g' := by
  induction limit generalizing f g with
  | zero => exact .inl ⟨rfl, rfl⟩
  | succ limit ih =>
    obtain ⟨ends, pulled⟩ := paired.pull keeps table p
    rw [search_succ, search_succ, ends]
    split
    · exact .inr ⟨_, _, rfl, rfl, pulled⟩
    · exact ih pulled

theorem Paired.advance (paired : Paired related f g) (keeps : source.Keeps related)
    (table : PredicateTable) (p : Provider π) (limit : Nat) :
    (f.advance source table p limit = none ∧ g.advance source table p limit = none) ∨
      ∃ f' g', f.advance source table p limit = some f' ∧ g.advance source table p limit = some g' ∧
        Paired related f' g' := by
  obtain ⟨state, rfl⟩ : ∃ state, g = { f with source := state } := ⟨_, paired.same⟩
  have cleared : Paired related { f with hasCurrent := false }
      { f with source := state, hasCurrent := false } := ⟨paired.source, rfl⟩
  rw [Filter.advance, Filter.advance]
  split
  · exact .inr ⟨_, _, rfl, rfl, cleared⟩
  · exact cleared.search keeps table p limit

theorem Paired.collect (paired : Paired related f g) (keeps : source.Keeps related)
    (table : PredicateTable) (p : Provider π) (limit pulls : Nat) :
    (g.collect source table p limit pulls).1 = (f.collect source table p limit pulls).1 ∧
      Paired related (f.collect source table p limit pulls).2
        (g.collect source table p limit pulls).2 := by
  induction pulls generalizing f g with
  | zero => exact ⟨rfl, paired⟩
  | succ pulls ih =>
    rw [Filter.collect, Filter.collect]
    rcases paired.advance keeps table p limit with ⟨none, none'⟩ | ⟨f', g', found, found', advanced⟩
    · rw [none, none']
      exact ⟨rfl, paired⟩
    · rw [found, found']
      simp only [advanced.get_eq]
      cases f'.get with
      | none => exact ⟨rfl, advanced⟩
      | some shown =>
        obtain ⟨others, last⟩ := ih advanced
        exact ⟨congrArg (shown :: ·) others, last⟩

end Filter

namespace Findings

/-- The same matches, found by cursors that are related. -/
def Found (related : κ → κ → Prop) : List (Match × κ) → List (Match × κ) → Prop :=
  List.Forall₂ fun left right => left.1 = right.1 ∧ related left.2 right.2

/-- Two searches come upon the same matches, and the cursors are related on the way. -/
structure Lockstep (related : κ → κ → Prop) (left right : Findings κ) : Prop where
  begun : related left.begun right.begun
  found : Found related left.found right.found
  ended : related left.ended right.ended

theorem Lockstep.imp {related other : κ → κ → Prop} {left right : Findings κ}
    (lockstep : Lockstep related left right)
    (implies : ∀ {left right}, related left right → other left right) :
    Lockstep other left right :=
  ⟨implies lockstep.begun, lockstep.found.imp fun _ _ same => same.imp_right implies,
    implies lockstep.ended⟩

def cursors (findings : Findings κ) : List κ :=
  findings.begun :: findings.found.map (·.2) ++ [findings.ended]

theorem lockstep_self {findings : Findings κ} :
    Lockstep related findings findings ↔ ∀ cursor ∈ findings.cursors, related cursor cursor := by
  have matched : Found related findings.found findings.found ↔
      ∀ cursor ∈ findings.found.map (·.2), related cursor cursor := by
    simp only [Found, List.forall₂_same, List.forall_mem_map, true_and]
  rw [cursors, List.forall_mem_append, List.forall_mem_cons, List.forall_mem_singleton, ← matched]
  exact ⟨fun ⟨begun, found, ended⟩ => ⟨⟨begun, found⟩, ended⟩,
    fun ⟨⟨begun, found⟩, ended⟩ => ⟨begun, found, ended⟩⟩

end Findings

variable [Engine]

namespace RawMatches

/-- The same raw matches, found by cursors that are related. -/
structure Alike (related : Cursor → Cursor → Prop) (left right : RawMatches) : Prop where
  pending : Findings.Found related left.pending right.pending
  assembler : right.assembler = left.assembler
  cursor : related left.cursor right.cursor
  last : related left.last right.last

variable {related : Cursor → Cursor → Prop}

theorem pull_alike (r : Responder σ) (query : Query π) {last last' : Cursor}
    (ends : related last last') {pending pending' : List (Match × Cursor)}
    (found : Findings.Found related pending pending') (assembler : Assembler) (cell : Shared σ) :
    ∃ answer left right after,
      pull r query last pending assembler cell = (answer, left, after) ∧
      pull r query last' pending' assembler cell = (answer, right, after) ∧
      Alike related left right := by
  induction found generalizing assembler cell with
  | nil => exact ⟨_, _, _, _, rfl, rfl, .nil, rfl, ends, ends⟩
  | @cons first second pending pending' heads later ih =>
    obtain ⟨raw, cursor⟩ := first
    obtain ⟨raw', cursor'⟩ := second
    obtain ⟨rfl, cursors⟩ : raw = raw' ∧ related cursor cursor' := heads
    rw [pull, pull]
    split
    · exact ⟨_, _, _, _, rfl, rfl, later, rfl, cursors, ends⟩
    · exact ih _ _

theorem source_keeps (r : Responder σ) (query : Query π) : (source r query).Keeps (Alike related) := by
  intro raw raw' alike captures cell
  obtain ⟨answer, left, right, after, first, second, kept⟩ :=
    pull_alike r query alike.last alike.pending raw.assembler cell
  rw [source]
  simp only
  rw [alike.assembler, first, second]
  cases answer with
  | none => exact ⟨_, _, _, _, _, rfl, rfl, kept⟩
  | some found => exact ⟨_, _, _, _, _, rfl, rfl, kept⟩

end RawMatches

namespace Cursor

/-- The match limit was exceeded with both cursors or with neither. -/
def SameExceeded (left right : Cursor) : Prop := right.exceeded = left.exceeded

/-- Runs with either cursor show the same: matches, counts, what becomes of the provider, whether the match
limit was exceeded, and requests. -/
def RunsAlike (query : PredicateQuery) (node : Engine.Node) (left right : Cursor) : Prop :=
  ∀ (σ : Type) (r : Responder σ) s pulls,
    let ran (cursor : Cursor) := QueryRun.collectFrom r query pulls (.begin cursor query node s)
    let noted (cursor : Cursor) :=
      QueryRun.collectFrom r.transcribed query pulls (.begin cursor query node (s, []))
    (ran right).1 = (ran left).1 ∧
      (ran right).2.accepted = (ran left).2.accepted ∧
      (ran right).2.rejected = (ran left).2.rejected ∧
      (ran right).2.provider = (ran left).2.provider ∧
      (ran right).2.cursor.exceeded = (ran left).2.cursor.exceeded ∧
      (noted right).2.provider.inner.2 = (noted left).2.provider.inner.2

variable {related : Cursor → Cursor → Prop} {left right : Cursor} {query : PredicateQuery}
  {node : Engine.Node}

/-- A run gives the same with either cursor, and leaves cursors that are related. -/
theorem run_of_lockstep
    (lockstep : (Engine.search left query.query node).Lockstep related (Engine.search right query.query node))
    (r : Responder σ) (s : σ) (pulls : Nat) :
    let ran (cursor : Cursor) := QueryRun.collectFrom r query pulls (.begin cursor query node s)
    (ran right).1 = (ran left).1 ∧
      Filter.Paired (RawMatches.Alike related) (ran left).2 (ran right).2 := by
  intro ran
  obtain ⟨begun, found, ended⟩ := lockstep
  have started : Filter.Paired (RawMatches.Alike related)
      (QueryRun.begin left query node s) (QueryRun.begin right query node s) :=
    ⟨⟨found, rfl, begun, ended⟩, rfl⟩
  have limit : QueryRun.limit (.begin right query node s) = QueryRun.limit (.begin left query node s) :=
    congrArg (· + 1) found.length_eq.symm
  simp only [ran, QueryRun.collectFrom, limit]
  exact started.collect (RawMatches.source_keeps r query.query) _ _ _ pulls

theorem runsAlike_of_lockstep
    (lockstep : (Engine.search left query.query node).Lockstep SameExceeded
      (Engine.search right query.query node)) :
    RunsAlike query node left right := by
  intro σ r s pulls ran noted
  obtain ⟨found, paired⟩ := run_of_lockstep lockstep r s pulls
  obtain ⟨-, transcribed⟩ := run_of_lockstep lockstep r.transcribed (s, []) pulls
  have accepted := congrArg Filter.accepted paired.same
  have rejected := congrArg Filter.rejected paired.same
  have provider := congrArg Filter.provider paired.same
  have requests := congrArg (fun run => run.provider.inner.2) transcribed.same
  exact ⟨found, accepted, rejected, provider, paired.source.cursor, requests⟩

/-- What a run leaves is a cursor of its search. -/
theorem run_cursor_mem (cursor : Cursor) (r : Responder σ) (query : PredicateQuery) (node : Engine.Node)
    (s : σ) (pulls : Nat) :
    (QueryRun.collectFrom r query pulls (.begin cursor query node s)).2.cursor ∈
      (Engine.search cursor query.query node).cursors :=
  (run_of_lockstep (Findings.lockstep_self.mpr fun _ member => member) r s pulls).2.source.cursor

end Cursor

end SyntaxQuery
