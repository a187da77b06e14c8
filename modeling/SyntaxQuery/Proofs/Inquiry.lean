import SyntaxQuery.Proofs.Transcript

/-! What a check wants to know. An inquiry asks for the texts of nodes, one after the other, until it
comes to a verdict; which node is next may depend on the texts so far. Heard against a provider it
leaves a record of its readings, and the record does not change if the provider is reached through
something that only adds to its state. -/
namespace SyntaxQuery

structure Reading where
  node : Span
  text : AssembledText
  exchanges : List Exchange

namespace Provider

def read (p : Provider σ) (node : Span) (s : σ) : Reading × σ :=
  let (text, s, exchanges) := assemble node p.transcribed (s, [])
  (⟨node, text, exchanges⟩, s)

/-- Asked the requests of the log in order, the provider answers with the chunks of the log. -/
def Converse (p : Provider σ) : σ → List Exchange → σ → Prop
  | s, [], final => s = final
  | s, exchange :: later, final =>
    (p.chunk s exchange.request).1 = exchange.chunk ∧
      p.Converse (p.chunk s exchange.request).2 later final

theorem Converse.append {p : Provider σ} (first : p.Converse s log between)
    (second : p.Converse between later final) : p.Converse s (log ++ later) final := by
  induction log generalizing s with
  | nil => exact first ▸ second
  | cons exchange log ih => exact ⟨first.1, ih first.2⟩

/-- One more request, noted in a transcript that is true so far, leaves it true. -/
theorem Converse.noted {p : Provider σ} {t : σ × List Exchange} (conversed : p.Converse s t.2 t.1)
    (request : Request) :
    p.Converse s (p.transcribed.chunk t request).2.2 (p.transcribed.chunk t request).2.1 :=
  conversed.append ⟨rfl, rfl⟩

/-- `q` answers as `p` does; its states hold those of `p` and something that no answer depends on. -/
def Lifts (lift : σ → τ) (p : Provider σ) (q : Provider τ) : Prop :=
  ∀ s request, q.chunk (lift s) request = ((p.chunk s request).1, lift (p.chunk s request).2)

theorem transcribed_erases (p : Provider σ) : Lifts Prod.fst p.transcribed p := fun _ _ => rfl

theorem Lifts.transcribed {p : Provider σ} {q : Provider τ} (lifts : Lifts lift p q) :
    Lifts (fun t => (lift t.1, t.2)) p.transcribed q.transcribed := by
  intro t request
  simp only [Provider.transcribed, lifts t.1 request]

/-- A transcript of a transcript has what the first one has, without what was there before. -/
theorem transcribed_twice (p : Provider σ) (earlier : List Exchange) :
    Lifts (fun t => ((t.1, earlier ++ t.2), t.2)) p.transcribed p.transcribed.transcribed := by
  intro t request
  simp only [Provider.transcribed, List.append_assoc]

end Provider

namespace Assembler

/-- States that belong together, in which the answers are the same, get the same text. -/
theorem fill_related {p : Provider σ} {q : Provider τ} {related : σ → τ → Prop}
    (answers : ∀ s t request, related s t → (q.chunk t request).1 = (p.chunk s request).1 ∧
      related (p.chunk s request).2 (q.chunk t request).2)
    (stop offset : Offset) (position : Point) (buffer : Bytes) (s : σ) (t : τ) (start : related s t) :
    (fill q stop offset position buffer t).1 = (fill p stop offset position buffer s).1 ∧
      related (fill p stop offset position buffer s).2 (fill q stop offset position buffer t).2 := by
  induction offset, position, buffer, s using fill.induct p stop generalizing t with
  | case1 offset position buffer s before next dry =>
    obtain ⟨same, stays⟩ := answers s t ⟨offset, position⟩ start
    rw [dry] at same stays
    rw [fill_dry q buffer before (Prod.ext same rfl), fill_dry p buffer before dry]
    exact ⟨rfl, stays⟩
  | case2 offset position buffer s before b bs next answer ih =>
    obtain ⟨same, stays⟩ := answers s t ⟨offset, position⟩ start
    rw [answer] at same stays
    rw [fill_chunk q buffer before (Prod.ext same rfl), fill_chunk p buffer before answer]
    exact ih _ stays
  | case3 offset position buffer s done =>
    rw [fill_done q position buffer t done, fill_done p position buffer s done]
    exact ⟨rfl, start⟩

theorem fill_lifts {p : Provider σ} {q : Provider τ} (lifts : p.Lifts lift q)
    (stop offset : Offset) (position : Point) (buffer : Bytes) (s : σ) :
    fill q stop offset position buffer (lift s) =
      ((fill p stop offset position buffer s).1, lift (fill p stop offset position buffer s).2) := by
  have answers : ∀ s t request, t = lift s →
      (q.chunk t request).1 = (p.chunk s request).1 ∧ (q.chunk t request).2 = lift (p.chunk s request).2 := by
    rintro s _ request rfl
    exact Prod.ext_iff.mp (lifts s request)
  obtain ⟨same, lifted⟩ := fill_related answers stop offset position buffer s (lift s) rfl
  exact Prod.ext same lifted

theorem assemble_lifts {p : Provider σ} {q : Provider τ} (lifts : p.Lifts lift q) (assembler : Assembler)
    (span : Span) (s : σ) :
    assembler.assemble span q (lift s) =
      ((assembler.assemble span p s).1, lift (assembler.assemble span p s).2) := by
  simp only [assemble_eq_fill, fill_lifts lifts]

/-- What every answer of the provider keeps, an assembly keeps. -/
theorem fill_keeps {p : Provider σ} {invariant : σ → Prop}
    (keeps : ∀ s request, invariant s → invariant (p.chunk s request).2)
    (stop offset : Offset) (position : Point) (buffer : Bytes) (s : σ) (start : invariant s) :
    invariant (fill p stop offset position buffer s).2 := by
  have answers : ∀ s t request, t = s ∧ invariant s →
      (p.chunk t request).1 = (p.chunk s request).1 ∧
        (p.chunk t request).2 = (p.chunk s request).2 ∧ invariant (p.chunk s request).2 := by
    rintro s _ request ⟨rfl, holds⟩
    exact ⟨rfl, rfl, keeps _ request holds⟩
  exact (fill_related answers stop offset position buffer s s ⟨rfl, start⟩).2.2

end Assembler

namespace Provider

theorem read_eq_fill (p : Provider σ) (node : Span) (s : σ) :
    p.read node s =
      let filled := Assembler.fill p.transcribed node.stop node.start node.position [] (s, [])
      (⟨node, ⟨filled.1, node.length⟩, filled.2.2⟩, filled.2.1) := by
  rw [read, assemble, Assembler.assembleOwned, Assembler.assemble_eq_fill]

@[simp] theorem read_node (p : Provider σ) (node : Span) (s : σ) : (p.read node s).1.node = node := by
  rw [read_eq_fill]

/-- Any assembler gets this text, whatever its buffer held. -/
theorem assemble_eq_read (assembler : Assembler) (p : Provider σ) (node : Span) (s : σ) :
    assembler.assemble node p s = (⟨(p.read node s).1.text.bytes⟩, (p.read node s).2) := by
  rw [Assembler.assemble_eq_fill, read_eq_fill]
  have erased := Assembler.fill_lifts p.transcribed_erases node.stop node.start node.position []
    (s, [])
  rw [erased]

theorem Lifts.read {p : Provider σ} {q : Provider τ} (lifts : p.Lifts lift q) (node : Span) (s : σ) :
    q.read node (lift s) = ((p.read node s).1, lift (p.read node s).2) := by
  have lifted := Assembler.fill_lifts lifts.transcribed node.stop node.start node.position [] (s, [])
  rw [read_eq_fill, read_eq_fill, lifted]

theorem read_transcribed (p : Provider σ) (node : Span) (s : σ) (earlier : List Exchange) :
    p.transcribed.read node (s, earlier) =
      ((p.read node s).1, (p.read node s).2, earlier ++ (p.read node s).1.exchanges) := by
  have lifted := Assembler.fill_lifts (p.transcribed_twice earlier) node.stop node.start
    node.position [] (s, [])
  simp only [List.append_nil] at lifted
  rw [read_eq_fill, read_eq_fill, lifted]

/-- A reading's transcript is what the provider says to its requests. -/
theorem read_converse (p : Provider σ) (node : Span) (s : σ) :
    p.Converse s (p.read node s).1.exchanges (p.read node s).2 := by
  have keeps := fun (t : σ × List Exchange) request (conversed : p.Converse s t.2 t.1) =>
    conversed.noted request
  rw [read_eq_fill]
  exact Assembler.fill_keeps keeps node.stop node.start node.position [] (s, []) rfl

end Provider

/-- A check as it looks to a provider: the texts it asks for, and how it goes on from each. -/
inductive Inquiry where
  | verdict (holds : Bool)
  | read (node : Span) (next : Bytes → Inquiry)

structure Hearing (σ : Type) where
  verdict : Bool
  readings : List Reading
  state : σ

namespace Hearing

def exchanges (hearing : Hearing σ) : List Exchange := hearing.readings.flatMap (·.exchanges)

def followedBy (first second : Hearing σ) : Hearing σ :=
  ⟨second.verdict, first.readings ++ second.readings, second.state⟩

def mapState (lift : σ → τ) (hearing : Hearing σ) : Hearing τ :=
  ⟨hearing.verdict, hearing.readings, lift hearing.state⟩

end Hearing

namespace Inquiry

def bind : Inquiry → (Bool → Inquiry) → Inquiry
  | verdict holds, next => next holds
  | read node rest, next => read node fun text => (rest text).bind next

/-- One inquiry after the other, up to the first whose verdict is `stop`; if there is none, `last`
decides. -/
def seek (stop : Bool) (last : Inquiry) : List Inquiry → Inquiry
  | [] => last
  | first :: later =>
    first.bind fun holds => if holds == stop then verdict holds else seek stop last later

/-- All inquiries come out well; the first that does not is the last that is heard. -/
def all (inquiries : List Inquiry) : Inquiry := seek false (verdict true) inquiries

def hear (p : Provider σ) : Inquiry → σ → Hearing σ
  | verdict holds, s => ⟨holds, [], s⟩
  | read node next, s =>
    let (reading, s) := p.read node s
    let rest := (next reading.text.bytes).hear p s
    { rest with readings := reading :: rest.readings }

theorem hear_bind (p : Provider σ) (inquiry : Inquiry) (next : Bool → Inquiry) (s : σ) :
    (inquiry.bind next).hear p s =
      (inquiry.hear p s).followedBy
        ((next (inquiry.hear p s).verdict).hear p (inquiry.hear p s).state) := by
  induction inquiry generalizing s with
  | verdict holds => rfl
  | read node rest ih => simp only [bind, hear, ih, Hearing.followedBy, List.cons_append]

/-- The inquiry that comes first decides the rest only if it comes to `stop`. -/
theorem hear_seek_cons (p : Provider σ) (stop : Bool) (last first : Inquiry) (later : List Inquiry)
    (s : σ) :
    (seek stop last (first :: later)).hear p s =
      if (first.hear p s).verdict = stop then first.hear p s
      else (first.hear p s).followedBy ((seek stop last later).hear p (first.hear p s).state) := by
  rw [seek, hear_bind]
  by_cases stopped : (first.hear p s).verdict = stop
  · rw [if_pos stopped, if_pos (by simp [stopped])]
    simp only [hear, Hearing.followedBy, List.append_nil]
  · rw [if_neg stopped, if_neg (by simp [stopped])]

theorem hear_lifts {p : Provider σ} {q : Provider τ} (lifts : p.Lifts lift q) (inquiry : Inquiry)
    (s : σ) : inquiry.hear q (lift s) = (inquiry.hear p s).mapState lift := by
  induction inquiry generalizing s with
  | verdict holds => rfl
  | read node next ih => simp only [hear, lifts.read node s, ih, Hearing.mapState]

theorem hear_transcribed (p : Provider σ) (inquiry : Inquiry) (s : σ) (earlier : List Exchange) :
    inquiry.hear p.transcribed (s, earlier) =
      ⟨(inquiry.hear p s).verdict, (inquiry.hear p s).readings, (inquiry.hear p s).state,
        earlier ++ (inquiry.hear p s).exchanges⟩ := by
  induction inquiry generalizing s earlier with
  | verdict holds => simp [hear, Hearing.exchanges]
  | read node next ih =>
    simp only [hear, p.read_transcribed, ih, Hearing.exchanges, List.flatMap_cons,
      List.append_assoc]

theorem hear_converse (p : Provider σ) (inquiry : Inquiry) (s : σ) :
    p.Converse s (inquiry.hear p s).exchanges (inquiry.hear p s).state := by
  induction inquiry generalizing s with
  | verdict holds => rfl
  | read node next ih => exact (p.read_converse node s).append (ih _ _)

end Inquiry

end SyntaxQuery
