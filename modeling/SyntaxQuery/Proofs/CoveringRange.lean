import SyntaxQuery.Config.Validation
import SyntaxQuery.Engine.Standard
import SyntaxQuery.Proofs.RangeEnds
import SyntaxQuery.Provider.Slice

/-! Ranges that reach past the source. A search skips what lies outside its range. Where all nodes start before
the end, another such end makes no difference to it, and so a range from the start to there restricts nothing.
A cursor keeps 32 bits of an end, though: one that is out of their reach may come to lie within the source. -/
namespace SyntaxQuery

namespace Cursor

namespace ByteRange

theorem not_isBefore {range : ByteRange} {span : Span} (starts : span.start.toNat < range.stop.toNat) :
    range.isBefore span = false := by
  rw [isBefore, decide_eq_false_iff_not]
  exact Nat.not_le_of_lt starts

/-- The end of a range as it is kept. -/
theorem toNat_stop_narrow (start stop : Offset) :
    (narrow start stop).stop.toNat =
      if stop.toNat % UInt32.size = 0 then UInt32.size - 1 else stop.toNat % UInt32.size := by
  have zero : stop.toUInt32 = 0 ↔ stop.toNat % UInt32.size = 0 := UInt32.toNat_inj.symm
  simp only [narrow, zero]
  split <;> rfl

theorem narrow_low (stop : Offset) : narrow 0 (UInt64.ofNat (stop.toNat % UInt32.size)) = narrow 0 stop := by
  have low : (UInt64.ofNat (stop.toNat % UInt32.size)).toUInt32 = stop.toUInt32 := by
    apply UInt32.toNat_inj.mp
    simp
  rw [narrow, narrow, low]

/-- A range from the start is always in order. -/
theorem set_zero (range : ByteRange) (stop : Offset) : range.set 0 stop = narrow 0 stop :=
  if_pos (by simp [isOrdered, narrow])

end ByteRange

section Ranges

variable [Engine]

/-- The same calls have been made on both cursors, but for those that set a range. -/
inductive ApartInRange : Cursor → Cursor → Prop where
  | new : ApartInRange new new
  | setMatchLimit (limit : UInt32) : ApartInRange left right →
      ApartInRange (Engine.setMatchLimit left limit) (Engine.setMatchLimit right limit)
  | setMaxStartDepth (depth : Option UInt32) : ApartInRange left right →
      ApartInRange (Engine.setMaxStartDepth left depth) (Engine.setMaxStartDepth right depth)
  | setByteRange (start stop : Offset) : ApartInRange left right →
      ApartInRange (Engine.setByteRange left start stop) right
  | symm : ApartInRange left right → ApartInRange right left

/-- What is relied on of ranges. Of their bounds 32 bits are kept, an end of zero is no end, and a search skips
what lies outside: where two ranges start together and the same nodes start before their ends, it goes the
same way. `inside` tells the spans of the nodes that there are in the tree of a node. -/
structure Ranging (range : Cursor → ByteRange) (inside : Engine.Node → Span → Prop) : Prop where
  range_new : range new = .all
  range_setMatchLimit (cursor : Cursor) (limit : UInt32) :
    range (Engine.setMatchLimit cursor limit) = range cursor
  range_setMaxStartDepth (cursor : Cursor) (depth : Option UInt32) :
    range (Engine.setMaxStartDepth cursor depth) = range cursor
  range_setByteRange (cursor : Cursor) (start stop : Offset) :
    range (Engine.setByteRange cursor start stop) = (range cursor).set start stop
  search {left right : Cursor} (query : Query Engine.Program) (node : Engine.Node) :
    ApartInRange left right → (range right).start = (range left).start →
      (∀ span, inside node span → (range right).isBefore span = (range left).isBefore span) →
      (Engine.search left query node).Lockstep SameExceeded (Engine.search right query node)

theorem apart_withConfig (config : CursorConfig) (first second : Option (Offset × Offset)) :
    ApartInRange (withConfig { config with byteRange := first })
      (withConfig { config with byteRange := second }) := by
  have limited : ApartInRange (new.withMatchLimit config.matchLimit)
      (new.withMatchLimit config.matchLimit) := by
    cases config.matchLimit with
    | none => exact .new
    | some limit => exact .setMatchLimit limit .new
  have ranged {left right : Cursor} (apart : ApartInRange left right) (range : Option (Offset × Offset)) :
      ApartInRange (left.withByteRange range) right := by
    cases range with
    | none => exact apart
    | some range => exact .setByteRange _ _ apart
  exact .setMaxStartDepth _ (ranged (ranged limited.symm second).symm first)

namespace Ranging

variable {range : Cursor → ByteRange} {inside : Engine.Node → Span → Prop}

theorem range_withConfig (ranging : Ranging range inside) (config : CursorConfig) :
    range (withConfig config) =
      (config.byteRange.map fun given => ByteRange.all.set given.1 given.2).getD .all := by
  have limited : range (new.withMatchLimit config.matchLimit) = .all := by
    cases config.matchLimit with
    | none => exact ranging.range_new
    | some limit => exact (ranging.range_setMatchLimit _ limit).trans ranging.range_new
  rw [withConfig, configure, ranging.range_setMaxStartDepth]
  cases config.byteRange with
  | none => exact limited
  | some given =>
    rw [withByteRange, ranging.range_setByteRange, limited]
    rfl

end Ranging

end Ranges

/-- Of the end of a range, a cursor keeps what is left of it in 32 bits. Where that is zero, or past the
source, a range from the start restricts nothing: a run goes as under the same configuration without the
range. -/
theorem covering_range [Engine] {range : Cursor → ByteRange} {inside : Engine.Node → Span → Prop}
    (ranging : Ranging range inside) (config : CursorConfig) (stop : Offset) :
    let ranged := withConfig { config with byteRange := some (0, stop) }
    let free := withConfig { config with byteRange := none }
    let low := stop.toNat % UInt32.size
    (∀ query node, RunsAlike query node
      (withConfig { config with byteRange := some (0, UInt64.ofNat low) }) ranged) ∧
    ∀ length node, (∀ span, inside node span → span.start.toNat ≤ length) → low = 0 ∨ length < low →
      ∀ query, RunsAlike query node free ranged := by
  intro ranged free low
  have kept (stop : Offset) : range (withConfig { config with byteRange := some (0, stop) }) = .narrow 0 stop :=
    (ranging.range_withConfig _).trans (ByteRange.set_zero _ stop)
  have unset : range free = .all := ranging.range_withConfig _
  refine ⟨fun query node => ?_, fun length node within covers query => ?_⟩
  · have same : range ranged = range (withConfig { config with byteRange := some (0, UInt64.ofNat low) }) := by
      rw [kept, kept, ByteRange.narrow_low]
    refine runsAlike_of_lockstep (ranging.search query.query node (apart_withConfig config _ _) ?_ ?_)
    · rw [same]
    · exact fun _ _ => by rw [same]
  · have narrowed := ByteRange.toNat_stop_narrow 0 stop
    refine runsAlike_of_lockstep (ranging.search query.query node (apart_withConfig config _ _) ?_ ?_)
    · rw [kept, unset]
      rfl
    intro span member
    rw [kept, unset]
    by_cases unbounded : low = 0
    · -- No end is kept, as without a range.
      have widest : (ByteRange.narrow 0 stop).stop = widest :=
        UInt32.toNat_inj.mp (narrowed.trans (if_pos unbounded))
      rw [ByteRange.isBefore, widest]
      rfl
    · have starts : span.start.toNat < low :=
        Nat.lt_of_le_of_lt (within span member) (covers.resolve_left unbounded)
      have reached : low ≤ ByteRange.all.stop.toNat := Nat.le_pred_of_lt (Nat.mod_lt _ (by decide))
      rw [ByteRange.not_isBefore (by rwa [narrowed, if_neg unbounded]),
        ByteRange.not_isBefore (Nat.lt_of_lt_of_le starts reached)]

namespace State

theorem fields_of_apart {left right : State} (apart : ApartInRange left right) :
    right.limits.matchLimit = left.limits.matchLimit ∧
    right.limits.maxStartDepth = left.limits.maxStartDepth ∧
    right.lists = left.lists ∧ right.exceeded = left.exceeded := by
  induction apart with
  | new => exact ⟨rfl, rfl, rfl, rfl⟩
  | setMatchLimit limit _ ih => exact ⟨rfl, ih.2⟩
  | setMaxStartDepth depth _ ih => exact ⟨ih.1, rfl, ih.2.2⟩
  | setByteRange start stop _ ih => exact ih
  | symm _ ih => exact ⟨ih.1.symm, ih.2.1.symm, ih.2.2.1.symm, ih.2.2.2.symm⟩

theorem eq_endingAt_of_apart {left right : State} (apart : ApartInRange left right)
    (starts : right.limits.range.start = left.limits.range.start) :
    right = left.endingAt right.limits.range.stop := by
  obtain ⟨matchLimit, maxStartDepth, lists, exceeded⟩ := fields_of_apart apart
  obtain ⟨⟨_, _, ⟨_, _⟩⟩, _, _⟩ := right
  subst matchLimit maxStartDepth lists exceeded starts
  rfl

/-- Here a node is a tree, and the spans are those of its nodes. -/
theorem ranging : Ranging (fun state => (limits state).range) fun node => Tree.Contains node.2 where
  range_new := rfl
  range_setMatchLimit _ _ := rfl
  range_setMaxStartDepth _ _ := rfl
  range_setByteRange _ _ _ := rfl
  search {left right} query node apart starts ends := by
    have same : right = endingAt right.limits.range.stop left := eq_endingAt_of_apart apart starts
    have indifferent : ∀ span, node.2.Contains span →
        left.limits.Indifferent right.limits.range.stop span := fun span inside => by
      have known := ends span inside
      rw [same] at known
      exact known
    have lockstep := lockstep_endingAt indifferent node.1 query.program
    rw [← same] at lockstep
    exact lockstep.imp fun related => by rw [related]; rfl

end State

/-- With this end and a source of seven bytes, eight are kept. -/
theorem covering_eight :
    let text := Bytes.ofString "[1,2,3]"
    let node (name : String) (named : Bool) (start stop : Offset) (children : List Tree) : Tree :=
      .node ⟨⟨name, named⟩, false, false, none, ⟨start, stop, ⟨0, start.toNat⟩⟩⟩ children
    let tree := node "array" true 0 7 [node "[" false 0 1 [], node "number" true 1 2 [],
      node "," false 2 3 [], node "number" true 3 4 [], node "," false 4 5 [],
      node "number" true 5 6 [], node "]" false 6 7 []]
    let root : Grammar × Tree := (.json, tree)
    let p := (Slice.whole text).provider
    let found (config : CursorConfig) :=
      (PredicateQuery.compile Language.json "(number) @n").toOption.map fun query =>
        (QueryRun.collect p query 9 (.begin (withConfig config) query root ())).1
    (∀ span, tree.Contains span → span.start.toNat ≤ text.length) ∧
    text.length < (4294967304 : Offset).toNat % UInt32.size ∧
    found ⟨none, some 1, some (0, 4294967304)⟩ = found ⟨none, some 1, none⟩ ∧
    (found ⟨none, some 1, none⟩).map List.length = some 3 := by
  intro text node tree root p found
  have length : text.length = 7 := by decide +kernel
  have within : ∀ span, tree.Contains span → span.start.toNat ≤ text.length := by
    rw [length]
    simp [tree, node, Tree.contains_node]
  have past : text.length < (4294967304 : Offset).toNat % UInt32.size := by
    rw [length]
    decide
  refine ⟨within, past, ?_, by decide +kernel⟩
  have agree (query : PredicateQuery) := ((covering_range State.ranging ⟨none, some 1, none⟩ 4294967304).2
    text.length root within (.inr past) query Unit p.responder () 9).1
  exact congrArg (Option.map · (PredicateQuery.compile Language.json "(number) @n").toOption) (funext agree)

/-- A configuration without issues, whose range ends past the source, may hide nodes. -/
theorem wrapped_end_restricts :
    let config : QueryConfig :=
      ⟨"json", "(number) @n", ⟨none, none, some (0, 4294967299)⟩, .standard, []⟩
    let text := Bytes.ofString "[1,2,3]"
    let node (name : String) (named : Bool) (start stop : Offset) (children : List Tree) : Tree :=
      .node ⟨⟨name, named⟩, false, false, none, ⟨start, stop, ⟨0, start.toNat⟩⟩⟩ children
    let tree := node "array" true 0 7 [node "[" false 0 1 [], node "number" true 1 2 [],
      node "," false 2 3 [], node "number" true 3 4 [], node "," false 4 5 [],
      node "number" true 5 6 [], node "]" false 6 7 []]
    let root : Grammar × Tree := (.json, tree)
    let p := (Slice.whole text).provider
    let found (settings : CursorConfig) :=
      (PredicateQuery.compile Language.json config.query).toOption.map fun query =>
        (QueryRun.collect p query 9 (.begin (withConfig settings) query root ())).1.length
    (config.issues.run .empty).1 = [] ∧
    text.length < (4294967299 : Offset).toNat ∧
    found config.cursor = some 1 ∧ found { config.cursor with byteRange := none } = some 3 := by
  decide +kernel

end Cursor

end SyntaxQuery
