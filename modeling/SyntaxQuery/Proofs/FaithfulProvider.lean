import SyntaxQuery.Proofs.ReaderHistory
import SyntaxQuery.Proofs.Transcript
import SyntaxQuery.Provider.Slice

/-! Providers that are true to a source, in chunks of any size. What is assembled from such a provider
depends on the source and the span alone. -/
namespace SyntaxQuery

/-- What an answer owes the source: before the end a non-empty piece of the text at that offset, and
nothing from the end on. -/
def Serves (source : Bytes) (offset : Offset) (chunk : Bytes) : Prop :=
  if offset.toNat < source.length then chunk ≠ [] ∧ chunk <+: source.drop offset.toNat
  else chunk = []

theorem Serves.isPrefix (serves : Serves source offset chunk) :
    chunk <+: source.drop offset.toNat := by
  unfold Serves at serves
  split at serves
  · exact serves.2
  · exact serves ▸ List.nil_prefix

theorem Serves.dry_iff (serves : Serves source offset chunk) :
    chunk = [] ↔ source.length ≤ offset.toNat := by
  unfold Serves at serves
  split at serves
  next before => simp [serves.1, before]
  next past => simp [serves, Nat.le_of_not_lt past]

/-- A piece that is cut from the source and is empty only where nothing is left. -/
theorem serves_take (offset : Offset) (some : 0 < count ∨ source = []) :
    Serves source offset ((source.drop offset.toNat).take count) := by
  unfold Serves
  split
  next before =>
    have positive : 0 < count := some.resolve_right fun none => by simp [none] at before
    refine ⟨fun none => ?_, List.take_prefix ..⟩
    rcases List.take_eq_nil_iff.mp none with zero | dry
    · omega
    · rw [List.drop_eq_nil_iff] at dry
      omega
  next past => rw [List.drop_eq_nil_of_le (Nat.le_of_not_lt past), List.take_nil]

namespace Provider

def after (p : Provider σ) (s : σ) (requests : List Request) : σ :=
  requests.foldl (fun s request => (p.chunk s request).2) s

/-- Whatever was asked before, the next answer is true to the source. -/
def Faithful (p : Provider σ) (source : Bytes) (s : σ) : Prop :=
  ∀ history request, Serves source request.offset (p.chunk (p.after s history) request).1

theorem Faithful.serves {p : Provider σ} (faithful : p.Faithful source s) (request : Request) :
    Serves source request.offset (p.chunk s request).1 :=
  faithful [] request

theorem Faithful.moved {p : Provider σ} (faithful : p.Faithful source s) (request : Request) :
    p.Faithful source (p.chunk s request).2 :=
  fun history => faithful (request :: history)

/-- An invariant of the states under which single answers are true makes a provider faithful. -/
theorem faithful_of_invariant {p : Provider σ} (invariant : σ → Prop)
    (serves : ∀ s request, invariant s → Serves source request.offset (p.chunk s request).1)
    (preserved : ∀ s request, invariant s → invariant (p.chunk s request).2) (start : invariant s) :
    p.Faithful source s := by
  intro history request
  induction history generalizing s with
  | nil => exact serves s request start
  | cons first history ih => exact ih (preserved s first start)

end Provider

theorem Slice.whole_faithful (source : Bytes) : (Slice.whole source).provider.Faithful source () := by
  intro history request
  have serves : Serves source request.offset
      ((source.drop request.offset.toNat).take source.length) := serves_take request.offset
    ((Nat.eq_zero_or_pos _).symm.imp_right List.length_eq_zero_iff.mp)
  rwa [List.take_of_length_le (by simp)] at serves

theorem Slice.capped_faithful (source : Bytes) (maxChunk : Nat) :
    (Slice.capped source maxChunk).provider.Faithful source () :=
  fun _ request => serves_take request.offset (.inl (by omega))

namespace Stream

/-- No call fails for good, and no read before the end of the content comes back empty. -/
structure Reliable (stream : Stream) : Prop where
  seeks : ∀ rule ∈ stream.seeks, rule = .reached
  reads : ∀ fault, .fault fault ∈ stream.reads → fault = .interrupted
  moving : .atMost 0 ∈ stream.reads → stream.content = []

theorem Reliable.seekFault? {stream : Stream} (reliable : stream.Reliable) :
    stream.seekFault? = none := by
  rcases seeks : stream.seeks with _ | ⟨rule, rules⟩
  · simp [Stream.seekFault?, seeks]
  · obtain rfl := reliable.seeks rule (by simp [seeks])
    simp [Stream.seekFault?, seeks]

/-- A request to a reliable stream is served, by as many bytes as the read is good for. -/
theorem Reliable.outcome {stream : Stream} (reliable : stream.Reliable) (sought : Bool)
    (offset : Offset) (positive : 0 < count) :
    ∃ bytes, stream.outcome sought offset count = .ok bytes ∧ Serves stream.content offset bytes := by
  have straight : stream.astray? sought = none := by
    cases sought
    · rfl
    · exact reliable.seekFault?
  rw [Stream.outcome, straight]
  have scripted := stream.readRule_mem
  cases rule : stream.readRule with
  | full => exact ⟨_, rfl, serves_take offset (.inl positive)⟩
  | atMost most =>
    refine ⟨_, rfl, serves_take offset ?_⟩
    cases most with
    | zero => exact .inr (reliable.moving (by simpa [rule] using scripted))
    | succ most => exact .inl (by omega)
  | fault failure =>
    have interrupted : failure = .interrupted := reliable.reads failure (by simpa [rule] using scripted)
    exact absurd (interrupted ▸ rule) stream.readRule_settled

end Stream

namespace StreamReader

theorem Answers.reliable (answers : Answers reader sought request)
    (reliable : reader.stream.Reliable) : (reader.serve request).2.stream.Reliable where
  seeks _ member := reliable.seeks _ (answers.mem_seeks member)
  reads _ member := reliable.reads _ (answers.mem_reads member)
  moving member := answers.content.trans (reliable.moving (answers.mem_reads member))

/-- A reader of a stream that never fails for good hides interruptions, short reads and seeks. -/
theorem withChunkSize_faithful {stream : Stream} (reliable : stream.Reliable) (chunkSize : Nat) :
    provider.Faithful stream.content (withChunkSize stream chunkSize) := by
  refine Provider.faithful_of_invariant (fun reader =>
    reader.stream.content = stream.content ∧ 0 < reader.chunkSize ∧ reader.Placed ∧
      reader.stream.Reliable) ?serves ?preserved ?start
  case start =>
    have tracks := start_tracks stream chunkSize
    exact ⟨tracks.content, by rw [tracks.chunkSize]; omega, tracks.placed, reliable⟩
  case serves =>
    rintro reader request ⟨content, positive, placed, reliable⟩
    obtain ⟨bytes, came, serves⟩ := reliable.outcome (reader.cursor ≠ some request.offset)
      request.offset positive
    have chunk := (serve_answers placed request).chunk
    rw [came] at chunk
    exact content ▸ chunk ▸ serves
  case preserved =>
    rintro reader request ⟨content, positive, placed, reliable⟩
    have answers := serve_answers placed request
    exact ⟨answers.content.trans content, answers.chunkSize.symm ▸ positive, answers.placed,
      answers.reliable reliable⟩

end StreamReader

/-- The text of a span. Both ends are cut off at the end of the source, and an inverted span is
empty. -/
def Span.textIn (source : Bytes) (span : Span) : Bytes :=
  source.slice (min span.start.toNat source.length) (min span.stop.toNat source.length)

theorem Bytes.slice_inverted (source : Bytes) (inverted : stop ≤ start) :
    source.slice start stop = [] := by
  rw [slice, Nat.sub_eq_zero_of_le inverted, List.take_zero]

theorem Bytes.slice_past (source : Bytes) (stop : Nat) (past : source.length ≤ start) :
    source.slice start stop = [] := by
  rw [slice, List.drop_eq_nil_of_le past, List.take_nil]

/-- A slice is what one chunk has of it, and the slice behind that chunk. -/
theorem Bytes.slice_chunk {source chunk : Bytes} (piece : chunk <+: source.drop start) (stop : Nat) :
    source.slice start stop =
      chunk.take (stop - start) ++ source.slice (start + chunk.length) stop := by
  obtain ⟨rest, whole⟩ := piece
  have behind : source.drop (start + chunk.length) = rest := by
    rw [← List.drop_drop, ← whole, List.drop_left]
  rw [slice, slice, behind, ← whole, List.take_append, Nat.sub_sub]

/-- Cutting the ends off at the end of the source changes nothing. -/
theorem Span.textIn_eq (source : Bytes) (span : Span) :
    span.textIn source = source.slice span.start.toNat span.stop.toNat := by
  by_cases past : source.length ≤ span.start.toNat
  · rw [textIn, Bytes.slice_past source _ past, Bytes.slice_inverted source (by omega)]
  · have within : (source.drop span.start.toNat).length = source.length - span.start.toNat :=
      List.length_drop
    rw [textIn, Nat.min_eq_left (by omega), Bytes.slice, Bytes.slice, List.take_eq_take_iff, within]
    omega

namespace Assembler

/-- A span is filled from a source if every request before its end is served from it. What is known of a
request may depend on those before, as long as it is known again of the next one. -/
theorem fill_served {p : Provider σ} {source : Bytes} (stop : Offset) (known : Offset → Point → σ → Prop)
    (serves : ∀ offset position s, known offset position s → offset < stop →
      Serves source offset (p.chunk s ⟨offset, position⟩).1)
    (next : ∀ offset position s, known offset position s → offset < stop →
      let (chunk, after) := p.chunk s ⟨offset, position⟩
      known (offset.advance chunk.length) (position.advance chunk) after)
    (offset : Offset) (position : Point) (buffer : Bytes) (s : σ) (start : known offset position s) :
    (fill p stop offset position buffer s).1 = buffer ++ source.slice offset.toNat stop.toNat ∧
      ∃ last place, known last place (fill p stop offset position buffer s).2 := by
  induction offset, position, buffer, s using fill.induct p stop with
  | case1 offset position buffer s before left dry =>
    have served := serves offset position s start before
    have moved := next offset position s start before
    rw [dry] at served moved
    rw [fill_dry p buffer before dry, Bytes.slice_past source _ (served.dry_iff.mp rfl),
      List.append_nil]
    exact ⟨rfl, _, _, moved⟩
  | case2 offset position buffer s before b bs left answer ih =>
    have piece := (serves offset position s start before).isPrefix
    have moved := next offset position s start before
    rw [answer] at piece moved
    obtain ⟨text, last⟩ := ih moved
    rw [fill_chunk p buffer before answer]
    refine ⟨?_, last⟩
    have saturated : source.slice (offset.advance (b :: bs).length).toNat stop.toNat =
        source.slice (offset.toNat + (b :: bs).length) stop.toNat := by
      rcases offset.advance_exact_or_past stop (b :: bs).length with exactly | ⟨saturated, past⟩
      · rw [exactly]
      · rw [Bytes.slice_inverted source saturated, Bytes.slice_inverted source past]
    rw [text, saturated, List.append_assoc, ← Bytes.slice_chunk piece]
  | case3 offset position buffer s done =>
    have inverted : stop.toNat ≤ offset.toNat := UInt64.not_lt.mp done
    rw [fill_done _ _ _ _ done, Bytes.slice_inverted source inverted, List.append_nil]
    exact ⟨rfl, offset, position, start⟩

theorem fill_faithful {p : Provider σ} (stop offset : Offset) (position : Point) (buffer : Bytes)
    (faithful : p.Faithful source s) :
    (fill p stop offset position buffer s).1 = buffer ++ source.slice offset.toNat stop.toNat ∧
      p.Faithful source (fill p stop offset position buffer s).2 := by
  obtain ⟨text, -, -, last⟩ := fill_served stop (fun _ _ s => p.Faithful source s)
    (fun offset position s faithful _ => faithful.serves ⟨offset, position⟩)
    (fun offset position s faithful _ => faithful.moved ⟨offset, position⟩) offset position buffer s
    faithful
  exact ⟨text, last⟩

/-- From a faithful provider a span gets its text, whatever the chunks and the old buffer. -/
theorem assemble_faithful {p : Provider σ} (assembler : Assembler) (span : Span)
    (faithful : p.Faithful source s) :
    (assembler.assemble span p s).1.buffer = span.textIn source ∧
      p.Faithful source (assembler.assemble span p s).2 := by
  have filled := fill_faithful span.stop span.start span.position [] faithful
  rw [assemble_eq_fill, Span.textIn_eq]
  exact filled

end Assembler

end SyntaxQuery
