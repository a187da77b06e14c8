import Mathlib.Data.List.Induction
import SyntaxQuery.Engine.Standard
import SyntaxQuery.Proofs.CaptureLists
import SyntaxQuery.Proofs.CursorRuns
import SyntaxQuery.Provider.Slice

/-! Settings of a cursor that is configured and used again and again. What the last configuration gives
counts, whatever was done with the cursor before; then a run goes as with a new cursor, unless earlier runs
have left it room for more matches in progress than it may have. Of the engine no more is known than how its
cursors keep their limits and that room. -/
namespace SyntaxQuery

/-- The range that a configuration sets, if there is one that is in order. -/
def CursorConfig.range? (config : CursorConfig) : Option Cursor.ByteRange :=
  (config.byteRange.map fun range => Cursor.ByteRange.narrow range.1 range.2).filter (·.isOrdered)

namespace Cursor

namespace Limits

/-- A match limit or range that is not set stays as it was; a depth that is not set is unlimited. -/
def configure (limits : Limits) (config : CursorConfig) : Limits where
  matchLimit := config.matchLimit.getD limits.matchLimit
  maxStartDepth := config.maxStartDepth.getD widest
  range := (config.byteRange.map fun range => limits.range.set range.1 range.2).getD limits.range

theorem configure_range (limits : Limits) (config : CursorConfig) :
    (limits.configure config).range = config.range?.getD limits.range := by
  rw [configure, CursorConfig.range?]
  cases config.byteRange with
  | none => rfl
  | some range =>
    simp only [Option.map_some, Option.filter_some, ByteRange.set]
    split <;> rfl

/-- Where no configuration gives a setting, it stays what it was. -/
theorem foldl_configure_unset (setting : Limits → α) (given : CursorConfig → Option α)
    (applies : ∀ limits config, setting (limits.configure config) = (given config).getD (setting limits))
    {configs : List CursorConfig} (unset : ∀ config ∈ configs, given config = Option.none) (limits : Limits) :
    setting (configs.foldl Limits.configure limits) = setting limits := by
  induction configs generalizing limits with
  | nil => rfl
  | cons config configs ih =>
    rw [List.foldl_cons, ih fun later member => unset later (List.mem_cons_of_mem _ member), applies,
      unset config List.mem_cons_self, Option.getD_none]

end Limits

section Engines

variable [Engine]

/-- What is relied on where a cursor is used again. It keeps its limits until they are set, each by itself,
and it keeps the room for matches in progress that searches have made, which they do up to its match limit.
A search goes by the limits; by the room only if that is above the match limit. -/
structure Settled (limits : Cursor → Limits) (room : Cursor → Nat) : Prop where
  limits_new : limits new = .none
  limits_setMatchLimit (cursor : Cursor) (limit : UInt32) :
    limits (Engine.setMatchLimit cursor limit) = { limits cursor with matchLimit := limit }
  limits_setByteRange (cursor : Cursor) (start stop : Offset) :
    limits (Engine.setByteRange cursor start stop) =
      { limits cursor with range := (limits cursor).range.set start stop }
  limits_setMaxStartDepth (cursor : Cursor) (depth : Option UInt32) :
    limits (Engine.setMaxStartDepth cursor depth) =
      { limits cursor with maxStartDepth := depth.getD widest }
  limits_search (cursor : Cursor) (query : Query Engine.Program) (node : Engine.Node) :
    ∀ left ∈ (Engine.search cursor query node).cursors, limits left = limits cursor
  room_new : room new = 0
  room_setMatchLimit (cursor : Cursor) (limit : UInt32) :
    room (Engine.setMatchLimit cursor limit) = room cursor
  room_setByteRange (cursor : Cursor) (start stop : Offset) :
    room (Engine.setByteRange cursor start stop) = room cursor
  room_setMaxStartDepth (cursor : Cursor) (depth : Option UInt32) :
    room (Engine.setMaxStartDepth cursor depth) = room cursor
  room_search (cursor : Cursor) (query : Query Engine.Program) (node : Engine.Node) :
    ∀ left ∈ (Engine.search cursor query node).cursors,
      room left ≤ max (room cursor) (limits cursor).matchLimit.toNat
  search {left right : Cursor} (query : Query Engine.Program) (node : Engine.Node) :
    limits right = limits left → room left ≤ (limits left).matchLimit.toNat →
      room right ≤ (limits right).matchLimit.toNat →
      (Engine.search left query node).Lockstep SameExceeded (Engine.search right query node)

end Engines

end Cursor

section Uses

variable [Engine]

/-- What may be done with a cursor. A run may be given up after any number of matches. -/
inductive CursorUse : Type 1 where
  | configure (config : CursorConfig)
  | run {σ : Type} (r : Responder σ) (query : PredicateQuery) (node : Engine.Node) (s : σ) (pulls : Nat)

namespace CursorUse

def config? : CursorUse → Option CursorConfig
  | configure config => some config
  | run .. => none

def perform (cursor : Cursor) : CursorUse → Cursor
  | configure config => cursor.configure config
  | run r query node s pulls =>
    (QueryRun.collectFrom r query pulls (.begin cursor query node s)).2.cursor

end CursorUse

namespace Cursor

def after (uses : List CursorUse) : Cursor := uses.foldl CursorUse.perform new

def configs (uses : List CursorUse) : List CursorConfig := uses.filterMap CursorUse.config?

theorem after_concat (uses : List CursorUse) (use : CursorUse) :
    after (uses ++ [use]) = use.perform (after uses) := List.foldl_concat _ _ _ _

namespace Settled

variable {limits : Cursor → Limits} {room : Cursor → Nat}

theorem limits_configure (settled : Settled limits room) (cursor : Cursor) (config : CursorConfig) :
    limits (cursor.configure config) = (limits cursor).configure config := by
  obtain ⟨matchLimit, maxStartDepth, byteRange⟩ := config
  rw [configure, settled.limits_setMaxStartDepth]
  cases matchLimit <;> cases byteRange <;>
    simp only [withMatchLimit, withByteRange, settled.limits_setByteRange, settled.limits_setMatchLimit] <;>
    rfl

theorem room_configure (settled : Settled limits room) (cursor : Cursor) (config : CursorConfig) :
    room (cursor.configure config) = room cursor := by
  obtain ⟨matchLimit, maxStartDepth, byteRange⟩ := config
  rw [configure, settled.room_setMaxStartDepth]
  cases matchLimit <;> cases byteRange <;>
    simp only [withMatchLimit, withByteRange, settled.room_setByteRange, settled.room_setMatchLimit]

theorem limits_perform (settled : Settled limits room) (cursor : Cursor) (use : CursorUse) :
    limits (use.perform cursor) = (use.config?.map (limits cursor).configure).getD (limits cursor) := by
  cases use with
  | configure config => exact settled.limits_configure cursor config
  | run r query node s pulls =>
    exact settled.limits_search cursor query.query node _ (run_cursor_mem cursor r query node s pulls)

/-- The limits come from the configurations alone, in order. -/
theorem limits_after (settled : Settled limits room) (uses : List CursorUse) :
    limits (after uses) = (configs uses).foldl Limits.configure .none := by
  suffices ∀ cursor : Cursor, limits (uses.foldl CursorUse.perform cursor) =
      (configs uses).foldl Limits.configure (limits cursor) by
    rw [after, this, settled.limits_new]
  intro cursor
  induction uses generalizing cursor with
  | nil => rfl
  | cons use uses ih =>
    rw [List.foldl_cons, ih, settled.limits_perform, configs, configs, List.filterMap_cons]
    cases use.config? <;> rfl

/-- A setting is that of a new cursor if the configuration gives it, or none before has given it. -/
theorem configured (settled : Settled limits room) (setting : Limits → α) (given : CursorConfig → Option α)
    (applies : ∀ limits config, setting (limits.configure config) = (given config).getD (setting limits))
    (uses : List CursorUse) (config : CursorConfig)
    (stands : given config ≠ none ∨ ∀ earlier ∈ configs uses, given earlier = none) :
    setting (limits ((after uses).configure config)) = setting (limits (withConfig config)) := by
  rw [withConfig, settled.limits_configure, settled.limits_configure, applies, applies]
  rcases stands with gives | unset
  · obtain ⟨value, gives⟩ := Option.ne_none_iff_exists'.mp gives
    rw [gives, Option.getD_some, Option.getD_some]
  · rw [settled.limits_after, Limits.foldl_configure_unset setting given applies unset, settled.limits_new]

/-- Runs make room for no more than the highest of the match limits under which they are made. -/
theorem room_after (settled : Settled limits room) (uses : List CursorUse)
    (few : ∀ earlier use later, uses = earlier ++ use :: later → use.config? = none →
      (limits (after earlier)).matchLimit.toNat ≤ bound) :
    room (after uses) ≤ bound := by
  induction uses using List.reverseRecOn with
  | nil => exact Nat.le_trans (Nat.le_of_eq settled.room_new) (Nat.zero_le _)
  | append_singleton uses use ih =>
    have before := ih fun earlier run later split => few earlier run (later ++ [use]) (by simp [split])
    rw [after_concat]
    cases use with
    | configure config => exact Nat.le_trans (Nat.le_of_eq (settled.room_configure _ config)) before
    | run r query node s pulls =>
      have left := run_cursor_mem (after uses) r query node s pulls
      have made := settled.room_search (after uses) query.query node _ left
      exact Nat.le_trans made (Nat.max_le.mpr ⟨before, few uses _ [] rfl rfl⟩)

end Settled

end Cursor

end Uses

namespace Cursor

/-- Once a cursor is configured, its start depth is the one of a new cursor so configured. So are its match
limit and its range, unless the configuration leaves out what an earlier one has set. Where they are, and
earlier runs have left room for no more matches in progress than the limit allows, a run gives what it gives
on the new cursor. -/
theorem configure_replaces [Engine] {limits : Cursor → Limits} {room : Cursor → Nat}
    (settled : Settled limits room) (uses : List CursorUse) (config : CursorConfig) :
    let reused := (after uses).configure config
    let fresh := withConfig config
    (limits reused).maxStartDepth = (limits fresh).maxStartDepth ∧
    (config.matchLimit ≠ none ∨ (∀ earlier ∈ configs uses, earlier.matchLimit = none) →
      (limits reused).matchLimit = (limits fresh).matchLimit) ∧
    (config.range? ≠ none ∨ (∀ earlier ∈ configs uses, earlier.range? = none) →
      (limits reused).range = (limits fresh).range) ∧
    ((∀ earlier use later, uses = earlier ++ use :: later → use.config? = none →
        (limits (after earlier)).matchLimit ≤ (limits reused).matchLimit) →
      room reused ≤ (limits reused).matchLimit.toNat) ∧
    (limits reused = limits fresh → room reused ≤ (limits reused).matchLimit.toNat →
      ∀ query node, RunsAlike query node fresh reused) := by
  intro reused fresh
  have unused : room fresh = 0 := (settled.room_configure _ config).trans settled.room_new
  have depth (cursor : Cursor) : (limits (cursor.configure config)).maxStartDepth =
      config.maxStartDepth.getD widest := by
    rw [settled.limits_configure]
    rfl
  refine ⟨(depth _).trans (depth new).symm,
    settled.configured (·.matchLimit) (·.matchLimit) (fun _ _ => rfl) uses config,
    settled.configured (·.range) (·.range?) Limits.configure_range uses config, fun few => ?_, ?_⟩
  · exact Nat.le_trans (Nat.le_of_eq (settled.room_configure _ config)) (settled.room_after uses few)
  · intro agree few query node
    have unfilled : room fresh ≤ (limits fresh).matchLimit.toNat :=
      Nat.le_trans (Nat.le_of_eq unused) (Nat.zero_le _)
    exact runsAlike_of_lockstep (settled.search query.query node agree unfilled few)

/-- Here the room is that of the capture lists. -/
theorem State.settled : Settled State.limits State.lists where
  limits_new := rfl
  limits_setMatchLimit _ _ := rfl
  limits_setByteRange _ _ _ := rfl
  limits_setMaxStartDepth _ _ := rfl
  limits_search state query node left member :=
    (State.search_keeps state node.1 query.program node.2 left member).1
  room_new := rfl
  room_setMatchLimit _ _ := rfl
  room_setByteRange _ _ _ := rfl
  room_setMaxStartDepth _ _ := rfl
  room_search state query node left member :=
    (State.search_keeps state node.1 query.program node.2 left member).2
  search {left right} query node agree few few' := by
    have few'' : right.lists ≤ left.limits.matchLimit.toNat := agree ▸ few'
    have exchangeable : Exchangeable left.limits left.limits.matchLimit.toNat left right :=
      ⟨rfl, agree, Nat.le_refl _, ⟨few, few''⟩, .inr ⟨few, few''⟩⟩
    refine (exchangeable.search node.1 query.program node.2).imp fun alike => ?_
    rw [SameExceeded, alike.same]
    rfl

/-- A run under a lower limit and in a part of the text leaves no trace. -/
theorem lower_limit_replaced :
    let query := PredicateQuery.ofQuery (⟨["n"], 1, [[]], ⟨.ofClauses [], #[]⟩⟩ : Query Query.Plan)
    let node : Grammar × Tree :=
      (.json, .node ⟨.ofName "number", false, false, none, ⟨0, 1, ⟨0, 0⟩⟩⟩ [])
    let uses : List CursorUse := [.configure ⟨some 1, none, some (2, 4)⟩,
      .run (Slice.whole [49]).provider.responder query node () 1]
    let config : CursorConfig := ⟨some 2, some 9, some (0, 7)⟩
    State.limits ((after uses).configure config) = State.limits (withConfig config) ∧
    ∀ query node, RunsAlike query node (withConfig config) ((after uses).configure config) := by
  intro query node uses config
  have few : State.lists ((after uses).configure config) ≤ 2 := by decide +kernel
  obtain ⟨depth, limit, range, -, same⟩ := configure_replaces State.settled uses config
  have agree : State.limits ((after uses).configure config) = State.limits (withConfig config) := by
    rw [Limits.mk.injEq]
    exact ⟨limit (.inl (by decide)), depth, range (.inl (by decide))⟩
  refine ⟨agree, same agree ?_⟩
  rw [agree]
  exact few

/-- A setting that is left out, and a range that is not in order, leave what an earlier configuration has
set. And where all settings are given, a run may still have more room than the match limit allows, and so
find matches that it does not find on a new cursor. -/
theorem earlier_settings_show :
    let range : CursorConfig := ⟨none, none, some (0, 4)⟩
    let disordered : CursorConfig := ⟨none, none, some (6, 2)⟩
    let narrow : CursorConfig := ⟨some 1, some 9, some (0, 7)⟩
    let wide : CursorConfig := { narrow with matchLimit := some 2 }
    let text := Bytes.ofString "[1,2,3]"
    let node (name : String) (named : Bool) (start stop : Offset) (children : List Tree) : Tree :=
      .node ⟨⟨name, named⟩, false, false, none, ⟨start, stop, ⟨0, start.toNat⟩⟩⟩ children
    let tree := node "array" true 0 7 [node "[" false 0 1 [], node "number" true 1 2 [],
      node "," false 2 3 [], node "number" true 3 4 [], node "," false 4 5 [],
      node "number" true 5 6 [], node "]" false 6 7 []]
    let root : Grammar × Tree := (.json, tree)
    let p := (Slice.whole text).provider
    let compiled := PredicateQuery.compile Language.json "(array (number) @a (number) @b)"
    let found := compiled.toOption.map fun query =>
      let run (cursor : Cursor) := QueryRun.collect p query 9 (.begin cursor query root ())
      let reused := (after [.configure wide, .run p.responder query root () 9]).configure narrow
      ((run reused).1.length, (run (withConfig narrow)).1.length)
    let left (config other : CursorConfig) : Limits := State.limits ((after [.configure config]).configure other)
    let fresh (config : CursorConfig) : Limits := State.limits (withConfig config)
    (left narrow .empty).matchLimit ≠ (fresh .empty).matchLimit ∧
    (left range .empty).range ≠ (fresh .empty).range ∧
    (left range disordered).range ≠ (fresh disordered).range ∧
    found = some (2, 1) := by
  decide +kernel

end Cursor

end SyntaxQuery
