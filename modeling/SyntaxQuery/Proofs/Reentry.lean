import SyntaxQuery.Proofs.SharedHandles

/-! Re-entry. While a provider answers it may ask for text through handles on itself, any number of times
and anywhere. Here such a request is followed through the cell of the handles, which each request takes as
the one before has left it. All of them are refused, the cell is not changed by any, and what is assembled
through the handles is what the provider by itself says. -/
namespace SyntaxQuery

/-- A request that a provider makes through a handle while it answers one: what it gets, and the cell
before and after. -/
structure Reentry (σ : Type) where
  request : Request
  chunk : Bytes
  before : Shared σ
  after : Shared σ

/-- The provider is lent out, so the chunk is empty and the cell stays as it is. -/
structure Reentry.Refused (reentry : Reentry σ) : Prop where
  lent : reentry.before.busy = true
  chunk : reentry.chunk = []
  unchanged : reentry.after = reentry.before

/-- The answer that comes of a reply, where each request that it makes is served from the cell that the
one before it has left. -/
def Reply.within (serve : Shared ρ → Request → Bytes × Shared ρ) :
    Reply σ → Shared ρ → (Bytes × σ) × Shared ρ × List (Reentry ρ)
  | .deliver chunk state, cell => ((chunk, state), cell, [])
  | .ask request resume, cell =>
    let (chunk, after) := serve cell request
    let (answer, last, later) := (resume chunk).within serve after
    (answer, last, ⟨request, chunk, cell, after⟩ :: later)

theorem Reply.within_refused {serve : Shared ρ → Request → Bytes × Shared ρ} {lent : Shared ρ}
    (busy : lent.busy = true) (refuses : ∀ request, serve lent request = ([], lent))
    (reply : Reply σ) :
    ∃ reentries, reply.within serve lent = (reply.run fun _ => [], lent, reentries) ∧
      ∀ reentry ∈ reentries, reentry.Refused := by
  induction reply with
  | deliver chunk state => exact ⟨[], rfl, fun _ none => absurd none List.not_mem_nil⟩
  | ask request resume ih =>
    obtain ⟨later, answered, refused⟩ := ih []
    refine ⟨⟨request, [], lent, lent⟩ :: later, ?_, List.forall_mem_cons.mpr ⟨⟨busy, rfl, rfl⟩, refused⟩⟩
    simp only [within, refuses, answered, run]

namespace Shared

/-- A request through a handle, in its steps. Where the provider is lent out the request is refused. Else
the provider is lent out for it, and put back with the cell as its own requests have left it. -/
def lend (serve : Shared σ → Request → Bytes × Shared σ) (r : Responder σ) (cell : Shared σ)
    (request : Request) : Bytes × Shared σ × List (Reentry σ) :=
  if cell.busy then ([], cell, [])
  else
    let ((chunk, inner), left, reentries) :=
      (r.respond cell.inner request).within serve { cell with busy := true }
    (chunk, { left with inner := inner, busy := false }, reentries)

def Stepwise (r : Responder σ) (serve : Shared σ → Request → Bytes × Shared σ) : Prop :=
  ∀ cell request, serve cell request =
    ((lend serve r cell request).1, (lend serve r cell request).2.1)

def noting (r : Responder σ) : Provider (Shared σ × List (Reentry σ)) where
  chunk t request :=
    let (chunk, cell, reentries) := lend (serve r) r t.1 request
    (chunk, cell, t.2 ++ reentries)

/-- The provider within one borrow. Requests reach it directly, and those that it makes itself go through
the cell. -/
def lentOut (r : Responder σ) : Provider ((σ × Shared σ) × List (Reentry σ)) where
  chunk t request :=
    let ((chunk, inner), cell, reentries) := (r.respond t.1.1 request).within (serve r) t.1.2
    (chunk, (inner, cell), t.2 ++ reentries)

theorem lend_idle {serve : Shared σ → Request → Bytes × Shared σ} (cell : Shared σ)
    (refuses : ∀ request, serve { cell with busy := true } request = ([], { cell with busy := true }))
    (idle : cell.busy = false) (r : Responder σ) (request : Request) :
    ∃ reentries, lend serve r cell request =
        ((r.alone.chunk cell.inner request).1,
          { cell with inner := (r.alone.chunk cell.inner request).2 }, reentries) ∧
      ∀ reentry ∈ reentries, reentry.Refused := by
  obtain ⟨reentries, answered, refused⟩ :=
    Reply.within_refused rfl refuses (r.respond cell.inner request)
  refine ⟨reentries, ?_, refused⟩
  rw [lend, if_neg (by simp [idle]), answered, ← idle]
  rfl

theorem serve_idle (r : Responder σ) {cell : Shared σ} (idle : cell.busy = false) (request : Request) :
    serve r cell request =
      ((r.alone.chunk cell.inner request).1,
        { cell with inner := (r.alone.chunk cell.inner request).2 }) :=
  provider_lifts r cell idle cell.inner request

theorem Stepwise.refuses {serve : Shared σ → Request → Bytes × Shared σ} (steps : Stepwise r serve)
    {lent : Shared σ} (busy : lent.busy = true) (request : Request) :
    serve lent request = ([], lent) := by
  rw [steps, lend, if_pos busy]

/-- The steps say all about the serving of requests. -/
theorem stepwise_iff (r : Responder σ) (other : Shared σ → Request → Bytes × Shared σ) :
    Stepwise r other ↔ other = serve r := by
  constructor
  · intro steps
    funext cell request
    cases busy : cell.busy with
    | true => rw [steps.refuses busy, serve_busy r cell request busy]
    | false =>
      obtain ⟨_, lent, -⟩ := lend_idle cell (steps.refuses rfl) busy r request
      rw [steps, lent, serve_idle r busy]
  · rintro rfl cell request
    cases busy : cell.busy with
    | true => rw [serve_busy r cell request busy, lend, if_pos busy]
    | false =>
      obtain ⟨_, lent, -⟩ := lend_idle cell (fun request => serve_busy r _ request rfl) busy r request
      rw [lent, serve_idle r busy]

end Shared

/-- A provider that keeps a note of refused requests, and else answers as another does, gets the same text
assembled. -/
theorem Assembler.assemble_refused {p : Provider σ} {q : Provider (τ × List (Reentry ρ))}
    (lift : σ → τ) (answers : ∀ s request earlier, ∃ reentries, q.chunk (lift s, earlier) request =
        ((p.chunk s request).1, lift (p.chunk s request).2, earlier ++ reentries) ∧
      ∀ reentry ∈ reentries, reentry.Refused)
    (assembler : Assembler) (span : Span) (s : σ) :
    ∃ reentries, assembler.assemble span q (lift s, []) =
        ((assembler.assemble span p s).1, lift (assembler.assemble span p s).2, reentries) ∧
      ∀ reentry ∈ reentries, reentry.Refused := by
  have step : ∀ s (t : τ × List (Reentry ρ)) request,
      (t.1 = lift s ∧ ∀ reentry ∈ t.2, reentry.Refused) →
      (q.chunk t request).1 = (p.chunk s request).1 ∧
        (q.chunk t request).2.1 = lift (p.chunk s request).2 ∧
        ∀ reentry ∈ (q.chunk t request).2.2, reentry.Refused := by
    rintro s ⟨_, earlier⟩ request ⟨rfl, before⟩
    obtain ⟨reentries, answered, refused⟩ := answers s request earlier
    rw [answered]
    exact ⟨rfl, rfl, List.forall_mem_append.mpr ⟨before, refused⟩⟩
  obtain ⟨same, left, refused⟩ := fill_related step span.stop span.start span.position [] s (lift s, [])
    ⟨rfl, fun _ none => absurd none List.not_mem_nil⟩
  rw [assemble_eq_fill, assemble_eq_fill]
  exact ⟨_, Prod.ext (congrArg Assembler.mk same) (Prod.ext left rfl), refused⟩

namespace Shared

/-- Chunk by chunk through a handle. Between two requests the provider is free. -/
theorem assemble_noting (r : Responder σ) (cell : Shared σ) (idle : cell.busy = false)
    (assembler : Assembler) (span : Span) :
    let bare := assembler.assemble span r.alone cell.inner
    ∃ reentries, assembler.assemble span (noting r) (cell, []) =
        (bare.1, { cell with inner := bare.2 }, reentries) ∧
      ∀ reentry ∈ reentries, reentry.Refused := by
  refine Assembler.assemble_refused (fun inner => { cell with inner := inner })
    (fun s request earlier => ?_) assembler span cell.inner
  obtain ⟨reentries, lent, refused⟩ := lend_idle { cell with inner := s }
    (fun request => serve_busy r _ request rfl) idle r request
  refine ⟨reentries, ?_, refused⟩
  simp only [noting, lent]

/-- In one borrow for the whole span. The provider is lent out all the while. -/
theorem assemble_lentOut (r : Responder σ) (lent : Shared σ) (busy : lent.busy = true)
    (assembler : Assembler) (span : Span) (s : σ) :
    let bare := assembler.assemble span r.alone s
    ∃ reentries, assembler.assemble span (lentOut r) ((s, lent), []) =
        (bare.1, (bare.2, lent), reentries) ∧
      ∀ reentry ∈ reentries, reentry.Refused := by
  refine Assembler.assemble_refused (·, lent) (fun s request earlier => ?_) assembler span s
  obtain ⟨reentries, answered, refused⟩ := Reply.within_refused busy
    (fun request => serve_busy r lent request busy) (r.respond s request)
  refine ⟨reentries, ?_, refused⟩
  simp only [lentOut, answered]
  rfl

/-- Whatever a provider asks of its own handles while it answers, it asks for nothing. The serving of
requests follows its steps, and nothing else does. A request to a free provider is answered in full, the
requests that the provider makes meanwhile are refused and leave the cell as it is, and then the provider
is free again. So a span is assembled chunk by chunk through a handle, and in one borrow for a predicate of
a query, as from the provider by itself with all its requests answered by nothing: the text, the requests
that reach the provider and its state are the same. The last handle returns it. -/
theorem reentry_harmless (r : Responder σ) (cell : Shared σ) (idle : cell.busy = false) (node : Span)
    (assembler : Assembler) :
    let bare := assembler.assemble node r.alone.transcribed (cell.inner, [])
    let left : Shared σ := { cell with inner := bare.2.1 }
    let noted := cell.mapState fun s => (s, [])
    let lent := { noted with busy := true }
    (∀ serving, Stepwise r serving ↔ serving = serve r) ∧
    (∀ request, ∃ reentries, lend (serve r) r cell request =
        ((r.alone.chunk cell.inner request).1,
          { cell with inner := (r.alone.chunk cell.inner request).2 }, reentries) ∧
      ∀ reentry ∈ reentries, reentry.Refused) ∧
    assembler.assemble node r.alone cell.inner = (bare.1, bare.2.1) ∧
    (∃ reentries, assembler.assemble node (noting r.transcribed) (noted, []) =
        (bare.1, { noted with inner := bare.2 }, reentries) ∧
      ∀ reentry ∈ reentries, reentry.Refused) ∧
    (∃ reentries, assembler.assemble node (lentOut r.transcribed) ((noted.inner, lent), []) =
        (bare.1, (bare.2, lent), reentries) ∧
      ∀ reentry ∈ reentries, reentry.Refused) ∧
    assembler.assemble node (provider r) cell = (bare.1, left) ∧
    Query.fetch r node (assembler, cell) = (bare.1.buffer, bare.1, left) ∧
    ∀ handle, (left.intoInner handle).1 =
      if (cell.live.erase handle).isEmpty then some bare.2.1 else none := by
  intro bare left noted lent
  have alone : assembler.assemble node r.alone cell.inner = (bare.1, bare.2.1) :=
    assembler.assemble_lifts r.alone.transcribed_erases node (cell.inner, [])
  have handle : assembler.assemble node (provider r) cell = (bare.1, left) := by
    have lifted := assembler.assemble_lifts (provider_lifts r cell idle) node cell.inner
    rwa [alone] at lifted
  refine ⟨stepwise_iff r, lend_idle cell (fun request => serve_busy r _ request rfl) idle r, alone, ?_, ?_,
    handle, ?_, fun _ => rfl⟩
  · have byChunk := assemble_noting r.transcribed noted idle assembler node
    rwa [Responder.transcribed_alone] at byChunk
  · have byNode := assemble_lentOut r.transcribed lent rfl assembler node noted.inner
    rwa [Responder.transcribed_alone] at byNode
  · simp only [Query.fetch, borrow_idle r cell _ idle, alone, left]

/-- Each answer asks twice, at its own offset and at another, and would hold what it gets. -/
theorem asking_twice_harmless :
    let r : Responder Nat := ⟨fun count request =>
      .ask request fun here => .ask ⟨0, ⟨0, 0⟩⟩ fun there => .deliver (here ++ there ++ [97]) (count + 1)⟩
    let cell := Shared.new 0
    let node : Span := ⟨1, 3, ⟨0, 1⟩⟩
    cell.busy = false ∧
    (∃ reentries, lend (serve r) r cell ⟨1, ⟨0, 1⟩⟩ = ([97], { cell with inner := 1 }, reentries) ∧
      ∀ reentry ∈ reentries, reentry.Refused) ∧
    Query.fetch r node (⟨[120]⟩, cell) = ([97, 97], ⟨[97, 97]⟩, { cell with inner := 2 }) ∧
    ((Query.fetch r node (⟨[120]⟩, cell)).2.2.intoInner 0).1 = some 2 := by
  intro r cell node
  have bare : Assembler.assemble ⟨[120]⟩ node r.alone.transcribed (cell.inner, []) =
      (⟨[97, 97]⟩, 2, [⟨⟨1, ⟨0, 1⟩⟩, [97]⟩, ⟨⟨2, ⟨0, 2⟩⟩, [97]⟩]) := by
    rw [Assembler.assemble_eq_fill, Assembler.fill_chunk _ _ (by decide) rfl,
      Assembler.fill_chunk _ _ (by decide) rfl, Assembler.fill_done _ _ _ _ (by decide)]
    rfl
  obtain ⟨-, answered, -, -, -, -, fetched, returned⟩ := reentry_harmless r cell rfl node ⟨[120]⟩
  rw [bare] at fetched returned
  rw [fetched]
  exact ⟨rfl, answered ⟨1, ⟨0, 1⟩⟩, rfl, returned 0⟩

end Shared

end SyntaxQuery
