import SyntaxQuery.Proofs.Inquiry
import SyntaxQuery.QueryRun

/-! Checks as inquiries. A condition that is attached to a query and a predicate in the query's text
are conducted by different code: one reads through a handle, chunk by chunk, the other borrows the
provider for a whole node. Each has its inquiry, and either way its check comes to what that inquiry
hears from the shared provider, whatever the buffers hold. -/
namespace SyntaxQuery

namespace Inquiry

def test (accepts : Bytes → Bool) (node : Span) : Inquiry :=
  read node fun text => verdict (accepts text)

def compare (negated : Bool) (pair : Span × Span) : Inquiry :=
  read pair.1 fun left => read pair.2 fun right => verdict ((left == right) != negated)

end Inquiry

/-- Nothing to ask satisfies either quantifier. -/
def Quantifier.inquiry : Quantifier → List Inquiry → Inquiry
  | all, inquiries => .all inquiries
  | any, [] => .verdict true
  | any, inquiries => .seek true (.verdict false) inquiries

def Condition.inquiry (m : Match) (condition : Condition) : Inquiry :=
  let nodes := m.nodesFor condition.capture
  condition.quantifier.inquiry <|
    match condition.test with
    | .equals literal => nodes.map (.test fun text => (text == literal) != condition.negated)
    | .search regex => nodes.map (.test fun text => regex.isMatch text != condition.negated)
    | .sameAs other => (nodes.zip (m.nodesFor other)).map (.compare condition.negated)

namespace Query

/-- Asked of all nodes, the first that disagrees decides; asked of any, the first that agrees. -/
def inquireNodes (accepts : Bytes → Bool) (positive all : Bool) (nodes : List Span) : Inquiry :=
  .seek (!all) (.verdict true) (nodes.map (.test fun text => accepts text == positive))

/-- If no pair decides, both sides must have as many nodes. -/
def inquirePairs (positive all : Bool) (lefts rights : List Span) : Inquiry :=
  .seek (!all) (.verdict (lefts.length == rights.length))
    ((lefts.zip rights).map (.compare !positive))

def TextPredicate.inquiry (m : Match) : TextPredicate → Inquiry
  | .sameText left right positive all =>
    inquirePairs positive all (m.nodesFor left) (m.nodesFor right)
  | .equals capture literal positive all =>
    inquireNodes (· == literal) positive all (m.nodesFor capture)
  | .search capture regex positive all =>
    inquireNodes regex.isMatch positive all (m.nodesFor capture)
  | .among capture literals positive =>
    inquireNodes literals.contains positive true (m.nodesFor capture)

end Query

/-- A check comes to what the inquiry hears. Its buffers are left in some state or other. -/
def Conducts (p : Provider σ) (inquiry : Inquiry) (check : ε × σ → Bool × ε × σ) : Prop :=
  ∀ buffers s, ∃ left, check (buffers, s) =
    ((inquiry.hear p s).verdict, left, (inquiry.hear p s).state)

/-- The step of every loop over checks: a verdict that is not the one looked for leads on. -/
theorem Conducts.seek_cons {p : Provider σ} {first : Inquiry} {check : ε × σ → Bool × ε × σ}
    (conducts : Conducts p first check) {stop : Bool} {last : Inquiry} {later : List Inquiry}
    {loop : ε × σ → Bool × ε × σ} (rest : Conducts p (.seek stop last later) loop) :
    Conducts p (.seek stop last (first :: later))
      fun t => if (check t).1 = stop then check t else loop (check t).2 := by
  intro buffers s
  obtain ⟨between, checked⟩ := conducts buffers s
  simp only [Inquiry.hear_seek_cons, checked]
  by_cases stopped : (first.hear p s).verdict = stop
  · simp only [if_pos stopped]
    exact ⟨between, rfl⟩
  · simp only [if_neg stopped]
    exact rest between _

section Loops

variable {p : Provider σ} {ask : α → Inquiry} {check : α → ε × σ → Bool × ε × σ}
  (conducts : ∀ item, Conducts p (ask item) (check item))

include conducts

theorem allPass_conducts (items : List α) :
    Conducts p (.all (items.map ask)) (allPass check items) := by
  induction items with
  | nil => exact fun buffers s => ⟨buffers, rfl⟩
  | cons item items ih =>
    have step : allPass check (item :: items) = fun t =>
        if (check item t).1 = false then check item t else allPass check items (check item t).2 := by
      funext t
      rcases checked : check item t with ⟨_ | _, left⟩ <;> simp [allPass, checked]
    rw [step]
    exact (conducts item).seek_cons ih

theorem somePasses_conducts (items : List α) :
    Conducts p (.seek true (.verdict false) (items.map ask)) (somePasses check items) := by
  induction items with
  | nil => exact fun buffers s => ⟨buffers, rfl⟩
  | cons item items ih =>
    have step : somePasses check (item :: items) = fun t =>
        if (check item t).1 = true then check item t else somePasses check items (check item t).2 := by
      funext t
      rcases checked : check item t with ⟨_ | _, left⟩ <;> simp [somePasses, checked]
    rw [step]
    exact (conducts item).seek_cons ih

theorem Quantifier.passes_conducts (quantifier : Quantifier) (items : List α) :
    Conducts p (quantifier.inquiry (items.map ask)) (quantifier.passes check items) := by
  cases quantifier with
  | all => exact allPass_conducts conducts items
  | any =>
    cases items with
    | nil => exact fun buffers s => ⟨buffers, rfl⟩
    | cons item items => exact somePasses_conducts conducts (item :: items)

end Loops

namespace Evaluator

theorem testNode_conducts (p : Provider σ) (accepts : Bytes → Bool) (node : Span) :
    Conducts p (.test accepts node) (testNode accepts p node) := by
  intro evaluator s
  simp only [testNode, Provider.assemble_eq_read]
  exact ⟨_, rfl⟩

theorem comparePair_conducts (p : Provider σ) (negated : Bool) (pair : Span × Span) :
    Conducts p (.compare negated pair) (comparePair negated p pair) := by
  intro evaluator s
  simp only [comparePair, Provider.assemble_eq_read]
  exact ⟨_, rfl⟩

theorem check_conducts (p : Provider σ) (m : Match) (condition : Condition) :
    Conducts p (condition.inquiry m) (check m p condition) := by
  intro evaluator s
  unfold check Condition.inquiry
  cases condition.test with
  | equals literal =>
    exact Quantifier.passes_conducts (testNode_conducts p _) _ _ evaluator s
  | search regex =>
    exact Quantifier.passes_conducts (testNode_conducts p _) _ _ evaluator s
  | sameAs other =>
    exact Quantifier.passes_conducts (comparePair_conducts p _) _ _ evaluator s

theorem evaluate_conducts (p : Provider σ) (m : Match) (conditions : List Condition) :
    Conducts p (.all (conditions.map (·.inquiry m)))
      fun t : Evaluator × σ => t.1.evaluate m conditions p t.2 :=
  allPass_conducts (check_conducts p m) conditions

end Evaluator

/-- The provider while it is lent out: what it asks for itself is refused. -/
def Responder.alone (r : Responder σ) : Provider σ := r.answering fun _ => []

@[simp] theorem Provider.responder_alone (p : Provider σ) : p.responder.alone = p := rfl

def Reply.settle (settle : Bytes → σ → τ) : Reply σ → Reply τ
  | .deliver chunk state => .deliver chunk (settle chunk state)
  | .ask request resume => .ask request fun chunk => (resume chunk).settle settle

theorem Reply.run_settle (settle : Bytes → σ → τ) (answer : Request → Bytes) (reply : Reply σ) :
    (reply.settle settle).run answer =
      ((reply.run answer).1, settle (reply.run answer).1 (reply.run answer).2) := by
  induction reply with
  | deliver chunk state => rfl
  | ask request resume ih => exact ih (answer request)

/-- Keeps the transcript of the requests that reach the provider; those that it makes itself are not
among them. -/
def Responder.transcribed (r : Responder σ) : Responder (σ × List Exchange) where
  respond t request :=
    (r.respond t.1 request).settle fun chunk s => (s, t.2 ++ [⟨request, chunk⟩])

theorem Provider.responder_transcribed (p : Provider σ) :
    p.transcribed.responder = p.responder.transcribed := rfl

theorem Responder.transcribed_alone (r : Responder σ) : r.transcribed.alone = r.alone.transcribed := by
  simp only [alone, answering, transcribed, Reply.run_settle, Provider.transcribed]

namespace Shared

theorem serve_busy (r : Responder σ) (cell : Shared σ) (request : Request)
    (busy : cell.busy = true) : serve r cell request = ([], cell) := by
  rw [serve, if_pos busy]

theorem serve_lent (r : Responder σ) (cell : Shared σ) :
    (fun within => (serve r { cell with busy := true } within).1) = fun _ => [] :=
  funext fun within => by rw [serve_busy r _ within rfl]

/-- A handle on an idle provider answers as the provider does, and leaves it idle. -/
theorem provider_lifts (r : Responder σ) (cell : Shared σ) (idle : cell.busy = false) :
    r.alone.Lifts (fun inner => { cell with inner := inner }) (provider r) := by
  intro s request
  have served := serve_lent r { cell with inner := s }
  dsimp only [provider]
  rw [serve, if_neg (by simp [idle])]
  dsimp only at served ⊢
  rw [served]
  rfl

theorem borrow_busy (r : Responder σ) (cell : Shared σ) (act : Provider σ → σ → α × σ)
    (busy : cell.busy = true) : cell.borrow r act = (none, cell) := by
  rw [borrow, if_pos busy]

theorem borrow_idle (r : Responder σ) (cell : Shared σ) (act : Provider σ → σ → α × σ)
    (idle : cell.busy = false) :
    cell.borrow r act =
      (some (act r.alone cell.inner).1, { cell with inner := (act r.alone cell.inner).2 }) := by
  rw [borrow, if_neg (by simp [idle])]
  dsimp only
  rw [serve_lent]
  rfl

/-- A handle on a provider that is lent out gets no text. -/
theorem read_busy (r : Responder σ) (cell : Shared σ) (node : Span) (busy : cell.busy = true) :
    ((provider r).read node cell).1.text.bytes = [] ∧ ((provider r).read node cell).2 = cell := by
  have silent : ∀ request,
      (provider r).transcribed.chunk (cell, []) request = ([], cell, [⟨request, []⟩]) := by
    intro request
    have refused : (provider r).chunk cell request = ([], cell) := serve_busy r cell request busy
    rw [Provider.transcribed_chunk, refused]
    rfl
  rw [Provider.read_eq_fill]
  by_cases upright : node.start < node.stop
  · simp [Assembler.fill_dry _ _ upright (silent _)]
  · simp [Assembler.fill_done _ _ _ _ upright]

end Shared

namespace Query

/-- One borrow for a whole node gives what the handle gives chunk by chunk. -/
theorem fetch_eq_read (r : Responder σ) (node : Span) (assembler : Assembler) (cell : Shared σ) :
    ∃ left, fetch r node (assembler, cell) =
      (((Shared.provider r).read node cell).1.text.bytes, left,
        ((Shared.provider r).read node cell).2) := by
  cases busy : cell.busy with
  | true =>
    obtain ⟨silent, still⟩ := Shared.read_busy r cell node busy
    rw [silent, still]
    exact ⟨assembler, by simp only [fetch, Shared.borrow_busy r cell _ busy]⟩
  | false =>
    have lifted := (Shared.provider_lifts r cell busy).read node cell.inner
    rw [lifted]
    refine ⟨⟨(r.alone.read node cell.inner).1.text.bytes⟩, ?_⟩
    simp only [fetch, Shared.borrow_idle r cell _ busy, Provider.assemble_eq_read]

theorem testNodes_conducts (r : Responder σ) (accepts : Bytes → Bool) (positive all : Bool)
    (nodes : List Span) :
    Conducts (Shared.provider r) (inquireNodes accepts positive all nodes)
      (testNodes r accepts positive all nodes) := by
  induction nodes with
  | nil => exact fun assembler cell => ⟨assembler, rfl⟩
  | cons node nodes ih =>
    let check := fun t : Assembler × Shared σ =>
      (accepts (fetch r node t).1 == positive, (fetch r node t).2)
    have conducts : Conducts (Shared.provider r) (.test (fun text => accepts text == positive) node)
        check := by
      intro assembler cell
      obtain ⟨left, fetched⟩ := fetch_eq_read r node assembler cell
      exact ⟨left, by simp only [check, fetched]; rfl⟩
    have step : testNodes r accepts positive all (node :: nodes) = fun t =>
        if (check t).1 = !all then check t else testNodes r accepts positive all nodes (check t).2 := by
      funext t
      simp only [testNodes, check]
      grind
    rw [step]
    exact conducts.seek_cons ih

theorem testPairs_conducts (r : Responder σ) (positive all : Bool) (lefts rights : List Span) :
    Conducts (Shared.provider r) (inquirePairs positive all lefts rights)
      (testPairs r positive all lefts rights) := by
  induction lefts generalizing rights with
  | nil => exact fun assembler cell => ⟨assembler, by cases rights <;> rfl⟩
  | cons left lefts ih =>
    cases rights with
    | nil => exact fun assembler cell => ⟨assembler, rfl⟩
    | cons right rights =>
      let check := fun t : Assembler × Shared σ =>
        let first := fetch r left t
        let second := fetch r right first.2
        ((first.1 == second.1) == positive, second.2)
      have conducts : Conducts (Shared.provider r) (.compare (!positive) (left, right)) check := by
        intro assembler cell
        obtain ⟨between, first⟩ := fetch_eq_read r left assembler cell
        obtain ⟨last, second⟩ :=
          fetch_eq_read r right between ((Shared.provider r).read left cell).2
        refine ⟨last, ?_⟩
        cases positive <;> simp [check, first, second, Inquiry.compare, Inquiry.hear]
      have step : testPairs r positive all (left :: lefts) (right :: rights) = fun t =>
          if (check t).1 = !all then check t
          else testPairs r positive all lefts rights (check t).2 := by
        funext t
        simp only [testPairs, check]
        grind
      have rest := ih rights
      rw [step]
      simpa [inquirePairs] using conducts.seek_cons rest

theorem TextPredicate.holds_conducts (r : Responder σ) (m : Match) (predicate : TextPredicate) :
    Conducts (Shared.provider r) (predicate.inquiry m) (predicate.holds r m) := by
  cases predicate with
  | sameText left right positive all => exact testPairs_conducts r positive all _ _
  | equals capture literal positive all => exact testNodes_conducts r _ positive all _
  | search capture regex positive all => exact testNodes_conducts r _ positive all _
  | among capture literals positive => exact testNodes_conducts r _ positive true _

end Query

end SyntaxQuery
