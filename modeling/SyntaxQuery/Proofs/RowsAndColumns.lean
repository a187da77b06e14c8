import Mathlib.Data.List.Induction
import SyntaxQuery.Proofs.FaithfulProvider
import SyntaxQuery.Provider.Window

/-! Rows and columns in requests. A request carries the position of its offset, however the text before it
was cut into chunks. Hence a provider may go by rows and columns alone: the lines of a source are as good
as its offsets. -/
namespace SyntaxQuery

namespace Point

theorem advance_concat (point : Point) (chunk : Bytes) (b : UInt8) :
    point.advance (chunk ++ [b]) = (point.advance chunk).step b := by
  by_cases opens : b = Bytes.newline
  · subst opens
    simp [advance, step]
    split <;> simp_all
    omega
  · by_cases none : chunk.count Bytes.newline = 0
    · simp [advance, step, opens, none]
      omega
    · simp [advance, step, opens, none]

/-- Moving by a whole chunk is moving byte by byte. -/
theorem foldl_step (point : Point) (chunk : Bytes) : chunk.foldl step point = point.advance chunk := by
  induction chunk using List.reverseRecOn with
  | nil => rfl
  | append_singleton chunk b ih =>
    rw [List.foldl_append, ih, advance_concat, List.foldl_cons, List.foldl_nil]

def atOffset (source : Bytes) (offset : Nat) : Point := (source.take offset).foldl step origin

/-- A start in another place shifts the rows, and the columns of the first row. -/
theorem foldl_step_shift (start : Point) (text : Bytes) :
    text.foldl step start =
      let moved := text.foldl step origin
      ⟨start.row + moved.row, if moved.row = 0 then start.column + moved.column else moved.column⟩ := by
  simp only [foldl_step, advance, origin]
  split <;> simp_all

theorem atOffset_chunk {source chunk : Bytes} (piece : chunk <+: source.drop offset) :
    (atOffset source offset).advance chunk = atOffset source (offset + chunk.length) := by
  obtain ⟨rest, whole⟩ := piece
  have longer : source.take (offset + chunk.length) = source.take offset ++ chunk := by
    rw [List.take_add, ← whole, List.take_left]
  rw [atOffset, atOffset, longer, List.foldl_append, foldl_step _ chunk]

end Point

namespace Bytes

theorem lines_newline (rest : Bytes) : lines (newline :: rest) = [newline] :: lines rest := by
  rw [lines, if_pos (beq_self_eq_true newline)]

theorem lines_cons (inside : b ≠ newline) (rest : Bytes) :
    lines (b :: rest) = (b :: (lines rest).headD []) :: (lines rest).tail := by
  rw [lines, if_neg (by simpa using inside)]
  cases lines rest <;> rfl

/-- What is left of the line in which an offset lies is the first line of what is left of the text. -/
theorem drop_line (before rest : Bytes) :
    let point := before.foldl Point.step Point.origin
    ((lines (before ++ rest))[point.row]?.getD []).drop point.column = (lines rest).headD [] := by
  intro point
  subst point
  induction before with
  | nil =>
    rw [List.nil_append]
    cases lines rest <;> rfl
  | cons b before ih =>
    rw [List.foldl_cons, Point.foldl_step_shift, List.cons_append]
    generalize before.foldl Point.step Point.origin = point at ih ⊢
    by_cases opens : b = newline
    · subst opens
      have moved : Point.origin.step newline = ⟨1, 0⟩ := rfl
      rw [lines_newline, moved]
      simpa [Nat.add_comm 1] using ih
    · have moved : Point.origin.step b = ⟨0, 1⟩ := by simp [Point.step, Point.origin, opens]
      rw [lines_cons opens, moved]
      rcases row : point.row with _ | row
      · -- The line goes on, and so far holds one byte more.
        rw [row] at ih
        simpa [row, Nat.add_comm 1, List.headD_eq_head?_getD, List.head?_eq_getElem?] using ih
      · rw [row] at ih
        simpa [row] using ih

/-- The first line is the text up to some byte of it, and empty only if there is no text. -/
theorem head_lines (text : Bytes) :
    (lines text).headD [] <+: text ∧ ((lines text).headD [] = [] → text = []) := by
  induction text with
  | nil => exact ⟨List.prefix_refl _, fun _ => rfl⟩
  | cons b text ih =>
    by_cases opens : b = newline
    · subst opens
      rw [lines_newline]
      exact ⟨(List.prefix_cons_inj newline).mpr List.nil_prefix, fun none => nomatch none⟩
    · rw [lines_cons opens]
      exact ⟨(List.prefix_cons_inj b).mpr ih.1, fun none => nomatch none⟩

end Bytes

/-- Goes by rows and columns: an answer is a piece of the line, from the column on, and is empty only where
the line is at its end. -/
def Provider.ServesLines (p : Provider σ) (source : Bytes) : Prop :=
  ∀ s request,
    let line := (source.lines[request.position.row]?.getD []).drop request.position.column
    (p.chunk s request).1 <+: line ∧ ((p.chunk s request).1 = [] → line = [])

theorem Window.byLine_servesLines (source : Bytes) (positive : 1 ≤ size) :
    (byLine source size).ServesLines source := by
  intro s request line
  refine ⟨List.take_prefix size line, fun none => ?_⟩
  rcases List.take_eq_nil_iff.mp none with zero | empty
  · omega
  · exact empty

/-- Where the position is that of the offset, the lines serve as the offsets do. -/
theorem Provider.ServesLines.serves {p : Provider σ} (byLines : p.ServesLines source) (s : σ)
    (offset : Offset) :
    Serves source offset (p.chunk s ⟨offset, .atOffset source offset.toNat⟩).1 := by
  obtain ⟨piece, dry⟩ := byLines s ⟨offset, .atOffset source offset.toNat⟩
  have line := Bytes.drop_line (source.take offset.toNat) (source.drop offset.toNat)
  rw [List.take_append_drop] at line
  simp only [Point.atOffset, line] at piece dry
  obtain ⟨begins, ends⟩ := Bytes.head_lines (source.drop offset.toNat)
  rw [Serves]
  split
  next before =>
    refine ⟨fun none => ?_, piece.trans begins⟩
    have past := List.drop_eq_nil_iff.mp (ends (dry none))
    omega
  next past =>
    have none := List.drop_eq_nil_of_le (Nat.le_of_not_lt past)
    exact List.prefix_nil.mp (none ▸ piece.trans begins)

namespace Assembler

/-- A request has the position of all that was received before it. -/
theorem Dialogue.position_eq (dialogue : Dialogue stop offset position log)
    (split : log = earlier ++ exchange :: later) :
    exchange.request.position = (received earlier).foldl Point.step position := by
  induction dialogue generalizing earlier with
  | done => simp at split
  | dry _ _ placed =>
    cases earlier with
    | nil =>
      obtain ⟨rfl, -⟩ := List.cons_eq_cons.mp split
      exact placed
    | cons first earlier => simp at split
  | chunk _ _ placed _ _ ih =>
    cases earlier with
    | nil =>
      obtain ⟨rfl, -⟩ := List.cons_eq_cons.mp split
      exact placed
    | cons first earlier =>
      obtain ⟨rfl, rest⟩ := List.cons_eq_cons.mp split
      rw [ih rest, received_cons, List.foldl_append, Point.foldl_step _ (Exchange.chunk _)]

theorem fill_byLines {p : Provider σ} (byLines : p.ServesLines source) (stop offset : Offset)
    (position : Point) (buffer : Bytes) (s : σ) (placed : position = .atOffset source offset.toNat) :
    (fill p stop offset position buffer s).1 = buffer ++ source.slice offset.toNat stop.toNat := by
  -- Past the end of the span an offset may be saturated, and then its position is another.
  let known (offset : Offset) (position : Point) (_ : σ) : Prop :=
    offset < stop → position = .atOffset source offset.toNat
  have serves (offset : Offset) (position : Point) (s : σ) (placed : known offset position s)
      (before : offset < stop) : Serves source offset (p.chunk s ⟨offset, position⟩).1 :=
    placed before ▸ byLines.serves s offset
  have next (offset : Offset) (position : Point) (s : σ) (placed : known offset position s)
      (before : offset < stop) : known (offset.advance (p.chunk s ⟨offset, position⟩).1.length)
        (position.advance (p.chunk s ⟨offset, position⟩).1) (p.chunk s ⟨offset, position⟩).2 := by
    intro within
    have piece := (serves offset position s placed before).isPrefix
    rcases offset.advance_exact_or_past stop (p.chunk s ⟨offset, position⟩).1.length with
      exactly | ⟨saturated, -⟩
    · rw [exactly, ← Point.atOffset_chunk piece, ← placed before]
    · exact absurd within (UInt64.not_lt.mpr saturated)
  exact (fill_served stop known serves next offset position buffer s fun _ => placed).1

end Assembler

/-- Each request of an assembly carries the span's position, moved on byte by byte over all that has been
received. So a span that starts where its position says gets its text from whoever serves pieces of the
lines, of any size, also from one that looks at nothing but row and column. -/
theorem positions_true (assembler : Assembler) (span : Span) (p : Provider σ) (s : σ) :
    (∀ earlier exchange later,
      (assembler.assemble span p.transcribed (s, [])).2.2 = earlier ++ exchange :: later →
      exchange.request.position = (received earlier).foldl Point.step span.position) ∧
    (∀ source, p.ServesLines source → span.position = .atOffset source span.start.toNat →
      (assembler.assemble span p s).1.buffer = source.slice span.start.toNat span.stop.toNat) ∧
    ∀ source size, 1 ≤ size → span.position = .atOffset source span.start.toNat →
      (assembler.assemble span (Window.byLine source size) ()).1.buffer =
        source.slice span.start.toNat span.stop.toNat := by
  refine ⟨?_, ?_, ?_⟩
  · intro earlier exchange later split
    obtain ⟨log, final, transcribed, -, dialogue⟩ :=
      Assembler.fill_transcribed p span.stop span.start span.position [] s []
    rw [Assembler.assemble_eq_fill, transcribed] at split
    exact dialogue.position_eq split
  · intro source byLines placed
    rw [Assembler.assemble_eq_fill]
    exact Assembler.fill_byLines byLines _ _ _ [] s placed
  · intro source size positive placed
    rw [Assembler.assemble_eq_fill]
    exact Assembler.fill_byLines (Window.byLine_servesLines source positive) _ _ _ [] () placed

end SyntaxQuery
