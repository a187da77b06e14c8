import SyntaxQuery.Assembly

/-! What passes between an assembly and its provider. A transcript keeps every request with the chunk
that answered it, and `Dialogue` says which transcripts an assembly can leave behind: nothing is said
about the provider, so it covers providers that change their answers from one request to the next. -/
namespace SyntaxQuery

structure Exchange where
  request : Request
  chunk : Bytes

def received (log : List Exchange) : Bytes := log.flatMap (·.chunk)

@[simp] theorem received_nil : received [] = [] := rfl

@[simp] theorem received_cons (exchange : Exchange) (log : List Exchange) :
    received (exchange :: log) = exchange.chunk ++ received log := rfl

namespace Provider

/-- Answers as `p` does, and keeps the transcript. -/
def transcribed (p : Provider σ) : Provider (σ × List Exchange) where
  chunk t request :=
    let (chunk, s) := p.chunk t.1 request
    (chunk, s, t.2 ++ [⟨request, chunk⟩])

theorem transcribed_chunk (p : Provider σ) (s : σ) (log : List Exchange) (request : Request) :
    p.transcribed.chunk (s, log) request =
      ((p.chunk s request).1, (p.chunk s request).2, log ++ [⟨request, (p.chunk s request).1⟩]) := rfl

end Provider

namespace Assembler

theorem fill_done (p : Provider σ) (position : Point) (buffer : Bytes) (s : σ)
    (done : ¬offset < stop) : fill p stop offset position buffer s = (buffer, s) := by
  rw [fill, dif_neg done]

theorem fill_dry (p : Provider σ) (buffer : Bytes) (before : offset < stop)
    (dry : p.chunk s ⟨offset, position⟩ = ([], next)) :
    fill p stop offset position buffer s = (buffer, next) := by
  rw [fill, dif_pos before, dry]

theorem fill_chunk (p : Provider σ) (buffer : Bytes) (before : offset < stop)
    (answer : p.chunk s ⟨offset, position⟩ = (b :: bs, next)) :
    fill p stop offset position buffer s =
      fill p stop (offset.advance (b :: bs).length) (position.advance (b :: bs))
        (buffer ++ (b :: bs).take (stop.toNat - offset.toNat)) next := by
  rw [fill, dif_pos before, answer]

/-- The buffer's earlier content and the test for an inverted range leave no trace. -/
theorem assemble_eq_fill (assembler : Assembler) (span : Span) (p : Provider σ) (s : σ) :
    assembler.assemble span p s =
      (⟨(fill p span.stop span.start span.position [] s).1⟩,
        (fill p span.stop span.start span.position [] s).2) := by
  by_cases upright : span.start < span.stop
  · simp [assemble, upright]
  · simp [assemble, upright, fill_done]

/-- The transcripts of an assembly that stands at an offset and a position. Offsets are natural
numbers here: the transcript does not know that words are bounded. -/
inductive Dialogue (stop : Nat) : Nat → Point → List Exchange → Prop where
  | done : stop ≤ offset → Dialogue stop offset position []
  | dry : offset < stop → request.offset.toNat = offset → request.position = position →
      Dialogue stop offset position [⟨request, []⟩]
  | chunk {offset : Nat} {position : Point} {request : Request} {chunk : Bytes}
      {rest : List Exchange} : offset < stop → request.offset.toNat = offset →
      request.position = position → chunk ≠ [] →
      Dialogue stop (offset + chunk.length) (position.advance chunk) rest →
      Dialogue stop offset position (⟨request, chunk⟩ :: rest)

theorem Dialogue.past (dialogue : Dialogue stop offset position log) (past : stop ≤ offset) :
    log = [] := by
  cases dialogue with
  | done => rfl
  | dry before | chunk before => omega

/-- A request asks for the byte behind everything received before it. -/
theorem Dialogue.offset_eq (dialogue : Dialogue stop offset position log)
    (split : log = earlier ++ exchange :: later) :
    exchange.request.offset.toNat = offset + (received earlier).length := by
  induction dialogue generalizing earlier with
  | done => simp at split
  | dry _ asked =>
    cases earlier with
    | nil =>
      obtain ⟨rfl, -⟩ := List.cons_eq_cons.mp split
      simpa using asked
    | cons first earlier => simp at split
  | chunk _ asked _ _ _ ih =>
    cases earlier with
    | nil =>
      obtain ⟨rfl, -⟩ := List.cons_eq_cons.mp split
      simpa using asked
    | cons first earlier =>
      obtain ⟨rfl, rest⟩ := List.cons_eq_cons.mp split
      rw [ih rest]
      simp only [received_cons, List.length_append, Nat.add_assoc]

theorem Dialogue.within (dialogue : Dialogue stop offset position log) :
    ∀ exchange ∈ log,
      offset ≤ exchange.request.offset.toNat ∧ exchange.request.offset.toNat < stop := by
  induction dialogue with
  | done => simp
  | dry before asked => simp [asked, before]
  | chunk before asked _ _ _ ih =>
    intro exchange member
    rcases List.mem_cons.mp member with rfl | member
    · exact ⟨Nat.le_of_eq asked.symm, by rw [asked]; exact before⟩
    · have := ih exchange member
      omega

/-- Each chunk but the last moves the next request on. -/
theorem Dialogue.increasing (dialogue : Dialogue stop offset position log) :
    log.Pairwise fun a b => a.request.offset < b.request.offset := by
  induction dialogue with
  | done => exact .nil
  | dry => exact List.pairwise_singleton _ _
  | chunk _ asked _ some rest ih =>
    refine .cons (fun exchange member => ?_) ih
    have := rest.within exchange member
    have := List.length_pos_iff.mpr some
    rw [UInt64.lt_iff_toNat_lt, asked]
    omega

theorem Dialogue.nonempty (dialogue : Dialogue stop offset position log) :
    ∀ exchange ∈ log.dropLast, exchange.chunk ≠ [] := by
  induction dialogue with
  | done | dry => simp
  | @chunk _ _ _ _ rest _ _ _ some _ ih =>
    intro exchange member
    cases rest with
    | nil => simp at member
    | cons second rest =>
      rcases List.mem_cons.mp member with rfl | member
      · exact some
      · exact ih exchange member

/-- No more requests than bytes: each but the last brought one at least. -/
theorem Dialogue.length_le (dialogue : Dialogue stop offset position log) :
    log.length ≤ stop - offset := by
  induction dialogue with
  | done => simp
  | dry before => simp only [List.length_singleton]; omega
  | chunk before _ _ some _ ih =>
    have := List.length_pos_iff.mpr some
    simp only [List.length_cons]
    omega

/-- A dialogue that brought too little ended on an empty chunk, and only then. -/
theorem Dialogue.short_iff (dialogue : Dialogue stop offset position log) :
    (received log).length < stop - offset ↔ ∃ last ∈ log.getLast?, last.chunk = [] := by
  induction dialogue with
  | done past => simp [past]
  | dry before => simpa using Nat.sub_pos_of_lt before
  | @chunk offset _ request chunk rest _ _ _ some dialogue ih =>
    have moved : (received (⟨request, chunk⟩ :: rest)).length < stop - offset ↔
        (received rest).length < stop - (offset + chunk.length) := by
      simp only [received_cons, List.length_append]
      omega
    rw [moved, ih]
    cases rest with
    | nil => simp [some]
    | cons second rest => simp

/-- Saturation is invisible: it sets in past the end of every range, where nothing is asked. -/
theorem Dialogue.unsaturated (offset stop : Offset)
    (dialogue : Dialogue stop.toNat (offset.advance count).toNat position log) :
    Dialogue stop.toNat (offset.toNat + count) position log := by
  rcases offset.advance_exact_or_past stop count with exactly | ⟨saturated, past⟩
  · rwa [exactly] at dialogue
  · rw [dialogue.past saturated]
    exact .done past

/-- An assembly keeps exactly the first bytes it received, up to the end of its range, and its
requests form a dialogue. Keeping the transcript does not disturb it. -/
theorem fill_transcribed (p : Provider σ) (stop offset : Offset) (position : Point) (buffer : Bytes)
    (s : σ) (earlier : List Exchange) :
    ∃ log final,
      fill p.transcribed stop offset position buffer (s, earlier) =
        (buffer ++ (received log).take (stop.toNat - offset.toNat), final, earlier ++ log) ∧
      fill p stop offset position buffer s =
        (buffer ++ (received log).take (stop.toNat - offset.toNat), final) ∧
      Dialogue stop.toNat offset.toNat position log := by
  induction offset, position, buffer, s using fill.induct p stop generalizing earlier with
  | case1 offset position buffer s before next dry =>
    refine ⟨[⟨⟨offset, position⟩, []⟩], next, ?_, ?_, .dry before rfl rfl⟩
    · have noted : p.transcribed.chunk (s, earlier) ⟨offset, position⟩ =
          ([], next, earlier ++ [⟨⟨offset, position⟩, []⟩]) := by
        rw [Provider.transcribed_chunk, dry]
      rw [fill_dry _ _ before noted]
      simp
    · rw [fill_dry p buffer before dry]
      simp
  | case2 offset position buffer s before b bs next answer ih =>
    obtain ⟨log, final, transcribed, plain, dialogue⟩ :=
      ih (earlier ++ [⟨⟨offset, position⟩, b :: bs⟩])
    have kept : buffer ++ (b :: bs).take (stop.toNat - offset.toNat) ++
        (received log).take (stop.toNat - (offset.advance (b :: bs).length).toNat) =
        buffer ++ (b :: bs ++ received log).take (stop.toNat - offset.toNat) := by
      rw [List.take_append, List.append_assoc]
      congr 3
      rcases offset.advance_exact_or_past stop (b :: bs).length with exactly | past
      · rw [exactly, Nat.sub_add_eq]
      · omega
    rw [kept] at transcribed plain
    refine ⟨⟨⟨offset, position⟩, b :: bs⟩ :: log, final, ?_, ?_, ?_⟩
    · rw [fill_chunk p.transcribed buffer before (by rw [Provider.transcribed_chunk, answer]),
        transcribed, received_cons, List.append_assoc, List.singleton_append]
    · rw [fill_chunk p buffer before answer, plain, received_cons]
    · exact .chunk before rfl rfl (List.cons_ne_nil b bs)
        (dialogue.unsaturated offset stop)
  | case3 offset position buffer s done =>
    refine ⟨[], s, ?_, ?_, .done (UInt64.not_lt.mp done)⟩
    · rw [fill_done _ _ _ _ done]
      simp
    · rw [fill_done _ _ _ _ done]
      simp

end Assembler

end SyntaxQuery
