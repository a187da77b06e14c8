import Mathlib.Data.List.TakeDrop
import SyntaxQuery.ParsedSource
import SyntaxQuery.Proofs.FaithfulProvider
import SyntaxQuery.Provider.Window

/-! The text of a span is the span's slice of the source. However a faithful provider cuts the source into
chunks, an assembly gives the slice to the byte and says whether it is all that the span asks for. Of a
source that ends early it gives the part of the slice before that end. -/
namespace SyntaxQuery

namespace Window

/-- Chunks may be of any lengths but zero, and the lengths may change from one request to the next. -/
theorem scripted_faithful (source : Bytes) (rest : 0 < size) (sizes : ∀ size ∈ script, 0 < size) :
    (scripted source size).Faithful source script := by
  refine Provider.faithful_of_invariant (fun left => ∀ size ∈ left, 0 < size) ?serves ?preserved sizes
  case serves =>
    intro left request positive
    cases left with
    | nil => exact serves_take request.offset (.inl rest)
    | cons size sizes => exact serves_take request.offset (.inl (positive size List.mem_cons_self))
  case preserved =>
    intro left request positive
    cases left with
    | nil => exact positive
    | cons size sizes => exact fun later member => positive later (List.mem_cons_of_mem size member)

theorem cut_faithful (source : Bytes) (limit : Nat) (positive : 0 < size) :
    (cut source size limit).Faithful (source.take limit) () :=
  fun _ request => serves_take request.offset (.inl positive)

end Window

namespace Bytes

theorem length_slice (source : Bytes) (start stop : Nat) :
    (source.slice start stop).length = min (stop - start) (source.length - start) := by
  rw [slice, List.length_take, List.length_drop]

/-- What is left of a slice if the source ends early. -/
theorem slice_take (source : Bytes) (cut start stop : Nat) :
    slice (source.take cut) start stop = (source.slice start stop).take (cut - start) := by
  rw [slice, slice, List.drop_take, List.take_take, List.take_take, Nat.min_comm]

theorem slice_take_eq_iff (source : Bytes) (cut start stop : Nat) :
    slice (source.take cut) start stop = source.slice start stop ↔
      source.slice start stop = [] ∨ min stop source.length ≤ cut := by
  rw [slice_take, List.take_eq_self_iff, ← List.length_eq_zero_iff, length_slice]
  omega

end Bytes

/-- The text is what the span has in the source, and falls short of the span only where the source does. -/
structure Renders (source : Bytes) (span : Span) (text : AssembledText) : Prop where
  bytes : text.bytes = span.textIn source
  expected : text.expectedLength = span.stop.toNat - span.start.toNat
  truncated : text.isTruncated = true ↔ span.start < span.stop ∧ source.length < span.stop.toNat

theorem renders_of_bytes {text : AssembledText} {span : Span} (bytes : text.bytes = span.textIn source)
    (expected : text.expectedLength = span.length) : Renders source span text where
  bytes := bytes
  expected := expected
  truncated := by
    have length : (span.textIn source).length =
        min (span.stop.toNat - span.start.toNat) (source.length - span.start.toNat) := by
      rw [Span.textIn_eq, Bytes.length_slice]
    simp only [AssembledText.isTruncated, AssembledText.length, bytes, expected, Span.length,
      decide_eq_true_eq, UInt64.lt_iff_toNat_lt, length]
    omega

/-- Inside the source the buffer itself has the text of the span, and outside it has none. -/
theorem ParsedSource.text_eq (parsed : ParsedSource) (span : Span) :
    parsed.text span =
      if span.start ≤ span.stop ∧ span.stop.toNat ≤ parsed.source.length then
        span.textIn parsed.source
      else [] := by
  rw [ParsedSource.text, Span.textIn_eq]

/-- Whatever was assembled and asked before, from a faithful provider an assembly gets exactly the slice,
which for a span inside the source is what the buffer reads, and leaves the provider faithful. From a
source that is cut short it gets the part of the slice before the cut. That is the whole slice only where
the slice is empty or the cut is not before the end of the span; for a cut that takes nothing off, the end
of the span is where the source ends. -/
theorem assembly_exact {p : Provider σ} {q : Provider τ} {s : σ} {t : τ} (source : Bytes) (cut : Nat)
    (span : Span) (assembler : Assembler) (faithful : p.Faithful source s)
    (shortened : q.Faithful (source.take cut) t) :
    let whole := assembler.assembleOwned span p s
    let part := assembler.assembleOwned span q t
    let slice := source.slice (min span.start.toNat source.length) (min span.stop.toNat source.length)
    Renders source span whole.1 ∧
    whole.1.bytes = slice ∧
    (span.stop ≤ span.start → slice = []) ∧
    (assembler.assemble span p s).1.buffer = slice ∧
    assemble span p s = (whole.1, whole.2.2) ∧
    p.Faithful source whole.2.2 ∧
    (∀ tree hasErrors, (⟨source, tree, hasErrors⟩ : ParsedSource).text span =
      if span.start ≤ span.stop ∧ span.stop.toNat ≤ source.length then whole.1.bytes else []) ∧
    Renders (source.take cut) span part.1 ∧
    part.1.bytes = slice.take (cut - span.start.toNat) ∧
    (part.1.bytes = slice ↔ slice = [] ∨ min span.stop.toNat source.length ≤ cut) ∧
    (cut < source.length ∨ span.stop.toNat ≤ source.length →
      (part.1.bytes = slice ↔ slice = [] ∨ span.stop.toNat ≤ cut)) := by
  intro whole part slice
  obtain ⟨text, still⟩ := assembler.assemble_faithful span faithful
  have begun := (assembler.assemble_faithful span shortened).1
  have same : slice = source.slice span.start.toNat span.stop.toNat := Span.textIn_eq source span
  have cutOff : part.1.bytes = Bytes.slice (source.take cut) span.start.toNat span.stop.toNat :=
    begun.trans (Span.textIn_eq _ span)
  have complete : part.1.bytes = slice ↔ slice = [] ∨ min span.stop.toNat source.length ≤ cut := by
    rw [cutOff, same]
    exact Bytes.slice_take_eq_iff source cut _ _
  refine ⟨renders_of_bytes text rfl, text, ?_, text, ?_, still, ?_, renders_of_bytes begun rfl, ?_, complete,
    ?_⟩
  · intro inverted
    rw [same, Bytes.slice_inverted source (UInt64.le_iff_toNat_le.mp inverted)]
  · simp only [whole, assemble, Assembler.assembleOwned, Assembler.assemble_eq_fill]
  · intro tree hasErrors
    rw [ParsedSource.text_eq]
    exact congrArg (ite _ · []) text.symm
  · rw [cutOff, same, Bytes.slice_take]
  · rintro (before | inside)
    · have bound : min span.stop.toNat source.length ≤ cut ↔ span.stop.toNat ≤ cut := by omega
      rw [complete, bound]
    · rwa [Nat.min_eq_left inside] at complete

/-- The second chunk runs past the end of the span, and the buffer holds an old text. The other provider
ends inside the span. -/
theorem overrun_clipped :
    let source : Bytes := [97, 98, 99, 100, 101, 102]
    let span : Span := ⟨1, 5, ⟨0, 1⟩⟩
    let assembler : Assembler := ⟨[120]⟩
    let whole := (assembler.assembleOwned span (Window.scripted source 2) [1, 4]).1
    let part := (assembler.assembleOwned span (Window.cut source 2 3) ()).1
    (Window.scripted source 2).Faithful source [1, 4] ∧
    (Window.cut source 2 3).Faithful (source.take 3) () ∧
    whole.bytes = [98, 99, 100, 101] ∧ whole.isTruncated = false ∧
    part.bytes = [98, 99] ∧ part.isTruncated = true := by
  intro source span assembler whole part
  have faithful : (Window.scripted source 2).Faithful source [1, 4] :=
    Window.scripted_faithful source (by decide) (by decide)
  have shortened : (Window.cut source 2 3).Faithful (source.take 3) () :=
    Window.cut_faithful source 3 (by decide)
  obtain ⟨rendered, text, -, -, -, -, -, begun, short, -⟩ :=
    assembly_exact source 3 span assembler faithful shortened
  refine ⟨faithful, shortened, text, ?_, short, begun.truncated.mpr (by decide)⟩
  rw [Bool.eq_false_iff, Ne, rendered.truncated]
  decide

end SyntaxQuery
