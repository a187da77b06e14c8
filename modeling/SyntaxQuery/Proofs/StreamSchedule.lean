import SyntaxQuery.Provider.Stream

/-! What a script of faults makes of a stream's calls. Interrupted reads are skipped, and the first
rule behind them decides the read. -/
namespace SyntaxQuery

def ReadRule.outcome (rule : ReadRule) (content : Bytes) (offset : Offset) (count : Nat) :
    Except StreamFault Bytes :=
  match rule with
  | .full => .ok ((content.drop offset.toNat).take count)
  | .atMost most => .ok ((content.drop offset.toNat).take (min count most))
  | .fault failure => .error failure

theorem ReadRule.outcome_ok {rule : ReadRule} (result : rule.outcome content offset count = .ok bytes) :
    bytes <+: content.drop offset.toNat ∧ bytes.length ≤ count := by
  cases rule with
  | full =>
    obtain rfl := Except.ok.inj result
    exact ⟨List.take_prefix .., List.length_take_le ..⟩
  | atMost most =>
    obtain rfl := Except.ok.inj result
    exact ⟨List.take_prefix .., Nat.le_trans (List.length_take_le ..) (Nat.min_le_left ..)⟩
  | fault => cases result

namespace Stream

/-- The script from the first read that is not interrupted. -/
def settled (stream : Stream) : List ReadRule := stream.reads.dropWhile (· == .fault .interrupted)

theorem mem_settled {stream : Stream} (member : rule ∈ stream.settled) : rule ∈ stream.reads :=
  (List.dropWhile_sublist _).mem member

/-- The rule of that read. Past the end of the script a read is full. -/
def readRule (stream : Stream) : ReadRule := stream.settled.head?.getD .full

def seekFault? (stream : Stream) : Option StreamFault :=
  match stream.seeks.head? with
  | some (.fault fault) => some fault
  | _ => none

/-- Where the stream stands after a read. -/
def moved (stream : Stream) : Except StreamFault Bytes → Offset
  | .ok bytes => stream.position.advance bytes.length
  | .error _ => stream.position

/-- The stream once a seek was issued, wherever that left it. -/
def noted (stream : Stream) (target : Offset) : Stream :=
  { stream with seeks := stream.seeks.tail, seekLog := stream.seekLog ++ [target] }

theorem seek_eq (stream : Stream) (target : Offset) :
    stream.seek target =
      match stream.seekFault? with
      | some fault => (.error fault, stream.noted target)
      | none => (.ok (), { stream.noted target with position := target }) := by
  unfold seek seekFault?
  rcases stream.seeks.head? with _ | _ | fault <;> rfl

/-- The stream once a read came to an end, with the attempts that were interrupted before it. -/
def fetched (stream : Stream) (result : Except StreamFault Bytes) : Stream :=
  { stream with
    reads := stream.settled.tail
    readCount := stream.readCount + (stream.reads.length - stream.settled.length) + 1
    position := stream.moved result }

theorem readRule_mem (stream : Stream) : stream.readRule = .full ∨ stream.readRule ∈ stream.reads := by
  unfold readRule
  rcases rest : stream.settled with _ | ⟨rule, rules⟩
  · exact .inl rfl
  · exact .inr (mem_settled (by simp [rest]))

theorem readRule_settled (stream : Stream) : stream.readRule ≠ .fault .interrupted := by
  unfold readRule
  cases rest : stream.settled with
  | nil => simp
  | cons rule rules =>
    have kept := List.head?_dropWhile_not (· == ReadRule.fault .interrupted) stream.reads
    rw [settled] at rest
    simpa [rest] using kept

/-- A read that is not interrupted. -/
theorem read_eq (stream : Stream) (count : Nat) :
    stream.read count =
      ((stream.reads.head?.getD .full).outcome stream.content stream.position count,
        { stream with
          reads := stream.reads.tail
          readCount := stream.readCount + 1
          position := stream.moved
            ((stream.reads.head?.getD .full).outcome stream.content stream.position count) }) := by
  rw [read]
  rcases stream.reads with _ | ⟨_ | most | fault, rules⟩ <;> rfl

/-- Interrupted reads are tried again, so the outcome is that of the first rule behind them. -/
theorem readRetrying_eq (stream : Stream) (count : Nat) :
    stream.readRetrying count =
      (stream.readRule.outcome stream.content stream.position count,
        stream.fetched (stream.readRule.outcome stream.content stream.position count)) := by
  induction stream using readRetrying.induct with
  | case1 stream rest interrupted ih =>
    have skipped : stream.settled = rest.dropWhile (· == .fault .interrupted) := by
      simp [settled, interrupted]
    have attempts : stream.readCount + (stream.reads.length - stream.settled.length) =
        stream.readCount + 1 + (rest.length - stream.settled.length) := by
      have : stream.settled.length ≤ rest.length := skipped ▸ (List.dropWhile_sublist _).length_le
      rw [interrupted, List.length_cons]
      omega
    rw [fetched, attempts, readRetrying]
    split
    next later =>
      obtain rfl : rest = _ := (List.cons_eq_cons.mp (interrupted.symm.trans later)).2
      rw [ih]
      simp only [readRule, skipped]
      rfl
    next other => exact absurd interrupted (other rest)
  | case2 stream other =>
    have settled : stream.settled = stream.reads := by
      rcases reads : stream.reads with _ | ⟨rule, rules⟩
      · simp [settled, reads]
      · have kept : rule ≠ .fault .interrupted := fun same => other rules (same ▸ reads)
        simp [settled, reads, kept]
    rw [readRetrying]
    split
    next rest interrupted => exact absurd interrupted (other rest)
    next => rw [fetched, read_eq, readRule, settled, Nat.sub_self, Nat.add_zero]

end Stream

end SyntaxQuery
