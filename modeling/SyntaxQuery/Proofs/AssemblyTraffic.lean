import Mathlib.Data.Nat.PSub
import SyntaxQuery.Proofs.Transcript

/-! An assembly against an arbitrary provider: which requests it makes, which of the bytes it keeps,
and that word arithmetic loses nothing. The provider is any function from its state and a request to
a chunk and a next state. -/
namespace SyntaxQuery

namespace Assembler

/-- `fill` in exact arithmetic. Offsets have no last value, and a difference below zero is an error
instead of zero. -/
def fillExact (p : Provider σ) (stop offset : Nat) (position : Point) (buffer : Bytes) (s : σ) :
    Option (Bytes × σ) :=
  if _ : offset < stop then
    match p.chunk s ⟨UInt64.ofNat offset, position⟩ with
    | ([], s) => some (buffer, s)
    | (b :: bs, s) =>
      (Nat.psub stop offset).bind fun wanted =>
        fillExact p stop (offset + (b :: bs).length) (position.advance (b :: bs))
          (buffer ++ (b :: bs).take wanted) s
  else some (buffer, s)
termination_by stop - offset
decreasing_by
  simp only [List.length_cons]
  omega

theorem fillExact_past (p : Provider σ) (position : Point) (buffer : Bytes) (s : σ)
    (past : stop ≤ offset) : fillExact p stop offset position buffer s = some (buffer, s) := by
  rw [fillExact, dif_neg (Nat.not_lt.mpr past)]

theorem fillExact_unsaturated (p : Provider σ) (stop offset : Offset) (position : Point)
    (buffer : Bytes) (s : σ) :
    fillExact p stop.toNat (offset.toNat + count) position buffer s =
      fillExact p stop.toNat (offset.advance count).toNat position buffer s := by
  rcases offset.advance_exact_or_past stop count with exactly | ⟨saturated, past⟩
  · rw [exactly]
  · rw [fillExact_past p position buffer s saturated, fillExact_past p position buffer s past]

/-- The difference is taken behind the test that it is positive, and an offset that would saturate
lies past the end of the range. -/
theorem fillExact_eq (p : Provider σ) (stop offset : Offset) (position : Point) (buffer : Bytes)
    (s : σ) :
    fillExact p stop.toNat offset.toNat position buffer s =
      some (fill p stop offset position buffer s) := by
  induction offset, position, buffer, s using fill.induct p stop with
  | case1 offset position buffer s before next dry =>
    have below := UInt64.lt_iff_toNat_lt.mp before
    rw [fill_dry p buffer before dry, fillExact, dif_pos below, UInt64.ofNat_toNat, dry]
  | case2 offset position buffer s before b bs next answer ih =>
    have below := UInt64.lt_iff_toNat_lt.mp before
    have wanted : Nat.psub stop.toNat offset.toNat = some (stop.toNat - offset.toNat) :=
      Nat.psub_eq_sub (Nat.le_of_lt below)
    rw [fill_chunk p buffer before answer, ← ih, fillExact, dif_pos below, UInt64.ofNat_toNat,
      answer]
    simp only [wanted, Option.bind_some]
    exact fillExact_unsaturated p stop offset _ _ _
  | case3 offset position buffer s done =>
    rw [fill_done p position buffer s done,
      fillExact_past p position buffer s (UInt64.le_iff_toNat_le.mp (UInt64.not_lt.mp done))]

end Assembler

/-- What passes between an assembly of `span` and its provider, and what becomes of the chunks. -/
structure Traffic (span : Span) (log : List Exchange) (text : AssembledText) : Prop where
  expected : text.expectedLength = span.length
  bounded : log.length ≤ span.length
  offset : ∀ earlier exchange later, log = earlier ++ exchange :: later →
    exchange.request.offset.toNat = span.start.toNat + (received earlier).length
  increasing : log.Pairwise fun a b => a.request.offset < b.request.offset
  within : ∀ exchange ∈ log,
    span.start ≤ exchange.request.offset ∧ exchange.request.offset < span.stop
  kept : text.bytes = (received log).take span.length
  nonempty : ∀ exchange ∈ log.dropLast, exchange.chunk ≠ []
  truncated : text.isTruncated ↔ ∃ last ∈ log.getLast?, last.chunk = []

theorem Assembler.Dialogue.traffic {span : Span}
    (dialogue : Dialogue span.stop.toNat span.start.toNat span.position log) :
    Traffic span log ⟨(received log).take span.length, span.length⟩ where
  expected := rfl
  bounded := dialogue.length_le
  offset _ _ _ split := dialogue.offset_eq split
  increasing := dialogue.increasing
  within := dialogue.within
  kept := rfl
  nonempty := dialogue.nonempty
  truncated := by
    rw [← dialogue.short_iff]
    simp only [AssembledText.isTruncated, AssembledText.length, List.length_take, Span.length,
      decide_eq_true_eq]
    omega

/-- Against any provider an assembly ends after at most one request for each byte of its range. The
transcript and the exact arithmetic are those of the assembly itself, whatever its buffer held. -/
theorem assembly_traffic (assembler : Assembler) (span : Span) (p : Provider σ) (s : σ) :
    ∃ log text filled final,
      assembler.assembleOwned span p.transcribed (s, []) = (text, filled, final, log) ∧
      assembler.assembleOwned span p s = (text, filled, final) ∧
      filled.buffer = text.bytes ∧
      Assembler.fillExact p span.stop.toNat span.start.toNat span.position [] s =
        some (text.bytes, final) ∧
      Traffic span log text := by
  obtain ⟨log, final, transcribed, plain, dialogue⟩ :=
    Assembler.fill_transcribed p span.stop span.start span.position [] s []
  have exactly := Assembler.fillExact_eq p span.stop span.start span.position [] s
  simp only [List.nil_append] at transcribed plain
  refine ⟨log, ⟨(received log).take span.length, span.length⟩, ⟨(received log).take span.length⟩,
    final, ?_, ?_, rfl, ?_, dialogue.traffic⟩
  · rw [Assembler.assembleOwned, Assembler.assemble_eq_fill, transcribed]
    rfl
  · rw [Assembler.assembleOwned, Assembler.assemble_eq_fill, plain]
    rfl
  · rw [exactly, plain]
    rfl

end SyntaxQuery
