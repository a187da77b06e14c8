import SyntaxQuery.Proofs.CheckInquiry
import SyntaxQuery.Proofs.FilterHistory

/-! Handles on one provider, under any interleaving of what their holders do. The history of the handles
tells which of them are alive. What the holders demanded, asked of the bare provider, tells what each of
them got, and only the last handle takes the provider back. -/
namespace SyntaxQuery

inductive Demand where
  | chunk (request : Request)
  /-- The text of a span, put together in a buffer that may have been used before. -/
  | assemble (assembler : Assembler) (span : Span)

def Demand.answer (p : Provider σ) : Demand → σ → Bytes × σ
  | chunk request, s => p.chunk s request
  | assemble assembler span, s =>
    let (filled, s) := assembler.assemble span p s
    (filled.buffer, s)

def Provider.answers (p : Provider σ) : List Demand → σ → List Bytes × σ
  | [], s => ([], s)
  | demand :: later, s =>
    let (text, s) := demand.answer p s
    let (texts, s) := p.answers later s
    (text :: texts, s)

theorem Provider.answers_concat (p : Provider σ) (demands : List Demand) (demand : Demand) (s : σ) :
    p.answers (demands ++ [demand]) s =
      ((p.answers demands s).1 ++ [(demand.answer p (p.answers demands s).2).1],
        (demand.answer p (p.answers demands s).2).2) := by
  induction demands generalizing s with
  | nil => rfl
  | cons first later ih => simp only [answers, List.cons_append, ih]

theorem Demand.answer_lifts {p : Provider σ} {q : Provider τ} (lifts : p.Lifts lift q)
    (demand : Demand) (s : σ) :
    demand.answer q (lift s) = ((demand.answer p s).1, lift (demand.answer p s).2) := by
  cases demand with
  | chunk request => exact lifts s request
  | assemble assembler span =>
    simp only [answer, Assembler.assemble_eq_fill, Assembler.fill_lifts lifts]

theorem Demand.answer_converse (p : Provider σ) (demand : Demand) (start : σ) (t : σ × List Exchange)
    (conversed : p.Converse start t.2 t.1) :
    p.Converse start (demand.answer p.transcribed t).2.2 (demand.answer p.transcribed t).2.1 := by
  have keeps := fun (t : σ × List Exchange) request (conversed : p.Converse start t.2 t.1) =>
    conversed.noted request
  cases demand with
  | chunk request => exact keeps t request conversed
  | assemble assembler span =>
    simp only [answer, Assembler.assemble_eq_fill]
    exact Assembler.fill_keeps keeps span.stop span.start span.position [] t conversed

theorem Provider.answers_converse (p : Provider σ) (demands : List Demand) (start : σ)
    (t : σ × List Exchange) (conversed : p.Converse start t.2 t.1) :
    p.Converse start (p.transcribed.answers demands t).2.2 (p.transcribed.answers demands t).2.1 := by
  induction demands generalizing t with
  | nil => exact conversed
  | cons demand later ih => exact ih _ (demand.answer_converse p start t conversed)

inductive Deed where
  | clone
  | drop
  | demand (demand : Demand)
  /-- A look at the provider itself. -/
  | inspect
  /-- The handle ends, and asks for the provider. -/
  | intoInner

structure HandleAction where
  handle : Nat
  deed : Deed

inductive HandleOutcome (σ : Type) where
  /-- There is no such handle, or there is none any more. -/
  | gone
  | made (handle : Nat)
  | dropped
  | text (bytes : Bytes)
  | seen (state : Option σ)
  | returned (state : Option σ)
deriving DecidableEq

structure HandleTurn (σ : Type) where
  action : HandleAction
  outcome : HandleOutcome σ

namespace HandleOutcome

def mapState (lift : σ → τ) : HandleOutcome σ → HandleOutcome τ
  | gone => .gone
  | made handle => .made handle
  | dropped => .dropped
  | text bytes => .text bytes
  | seen state => .seen (state.map lift)
  | returned state => .returned (state.map lift)

end HandleOutcome

namespace HandleTurn

def mapState (lift : σ → τ) (turn : HandleTurn σ) : HandleTurn τ :=
  ⟨turn.action, turn.outcome.mapState lift⟩

def made? : HandleTurn σ → Option Nat
  | ⟨_, .made handle⟩ => some handle
  | _ => none

def ended? : HandleTurn σ → Option Nat
  | ⟨⟨handle, _⟩, .dropped⟩ | ⟨⟨handle, _⟩, .returned _⟩ => some handle
  | _ => none

def demand? : HandleTurn σ → Option Demand
  | ⟨⟨_, .demand demand⟩, .text _⟩ => some demand
  | _ => none

def text? : HandleTurn σ → Option Bytes
  | ⟨_, .text bytes⟩ => some bytes
  | _ => none

/-- The holder has got the provider back. -/
def returns : HandleTurn σ → Bool
  | ⟨_, .returned (some _)⟩ => true
  | _ => false

end HandleTurn

namespace Shared

def perform (r : Responder σ) (cell : Shared σ) (action : HandleAction) :
    HandleOutcome σ × Shared σ :=
  if cell.isLive action.handle then
    match action.deed with
    | .clone =>
      let (handle, cell) := cell.clone
      (.made handle, cell)
    | .drop => (.dropped, cell.drop action.handle)
    | .demand demand =>
      let (bytes, cell) := demand.answer (provider r) cell
      (.text bytes, cell)
    | .inspect => (.seen cell.inspect, cell)
    | .intoInner =>
      let (state, cell) := cell.intoInner action.handle
      (.returned state, cell)
  else (.gone, cell)

def history (r : Responder σ) : List HandleAction → Shared σ → List (HandleTurn σ) × Shared σ
  | [], cell => ([], cell)
  | action :: actions, cell =>
    let (outcome, cell) := cell.perform r action
    let (turns, cell) := history r actions cell
    (⟨action, outcome⟩ :: turns, cell)

def copies (turns : List (HandleTurn σ)) : List Nat := turns.filterMap (·.made?)

def ended (turns : List (HandleTurn σ)) : List Nat := turns.filterMap (·.ended?)

def demands (turns : List (HandleTurn σ)) : List Demand := turns.filterMap (·.demand?)

def texts (turns : List (HandleTurn σ)) : List Bytes := turns.filterMap (·.text?)

/-- The handle was there from the beginning or is a copy, and no turn has ended it. -/
def Alive (turns : List (HandleTurn σ)) (handle : Nat) : Prop :=
  (handle = 0 ∨ handle ∈ copies turns) ∧ handle ∉ ended turns

/-- Where the bare provider would be, had the demands been made of it. -/
def reached (p : Provider σ) (s : σ) (turns : List (HandleTurn σ)) : σ := (p.answers (demands turns) s).2

inductive Fair (p : Provider σ) (s : σ) (earlier : List (HandleTurn σ)) : HandleTurn σ → Prop where
  | gone : ¬Alive earlier handle → Fair p s earlier ⟨⟨handle, deed⟩, .gone⟩
  | made : Alive earlier handle → copy ≠ 0 → copy ∉ copies earlier →
      Fair p s earlier ⟨⟨handle, .clone⟩, .made copy⟩
  | dropped : Alive earlier handle → Fair p s earlier ⟨⟨handle, .drop⟩, .dropped⟩
  | text : Alive earlier handle →
      Fair p s earlier ⟨⟨handle, .demand demand⟩, .text (demand.answer p (reached p s earlier)).1⟩
  | seen : Alive earlier handle →
      Fair p s earlier ⟨⟨handle, .inspect⟩, .seen (some (reached p s earlier))⟩
  | returned : Alive earlier handle → (∀ other, Alive earlier other → other = handle) →
      Fair p s earlier ⟨⟨handle, .intoInner⟩, .returned (some (reached p s earlier))⟩
  | refused : Alive earlier handle → Alive earlier other → other ≠ handle →
      Fair p s earlier ⟨⟨handle, .intoInner⟩, .returned none⟩

structure Roll (turns : List (HandleTurn σ)) (cell : Shared σ) : Prop where
  unique : cell.live.Nodup
  alive : ∀ handle, handle ∈ cell.live ↔ Alive turns handle
  numbered : ∀ handle, handle = 0 ∨ handle ∈ copies turns ∨ handle ∈ ended turns →
    handle < cell.fresh
  counted : cell.live.length + (ended turns).length = (copies turns).length + 1

/-- What the turns so far say of the handles and of the provider, which began in the state `s`. -/
structure Custody (p : Provider σ) (s : σ) (turns : List (HandleTurn σ)) (cell : Shared σ) : Prop
    extends Roll turns cell where
  idle : cell.busy = false
  served : (texts turns, cell.inner) = p.answers (demands turns) s
  fair : ∀ earlier turn later, turns = earlier ++ turn :: later → Fair p s earlier turn
  once : turns.countP (·.returns) ≤ 1
  emptied : turns.countP (·.returns) = 1 → cell.live = []
  /-- Where the provider was returned, no handle reaches it any more. -/
  closed : turns.Pairwise fun turn next => turn.returns = true → next.outcome = .gone

inductive Performed (p : Provider σ) (cell : Shared σ) :
    HandleAction → HandleOutcome σ → Shared σ → Prop where
  | gone : handle ∉ cell.live → Performed p cell ⟨handle, deed⟩ .gone cell
  | made : handle ∈ cell.live →
      Performed p cell ⟨handle, .clone⟩ (.made cell.fresh)
        { cell with live := cell.live ++ [cell.fresh], fresh := cell.fresh + 1 }
  | dropped : handle ∈ cell.live → Performed p cell ⟨handle, .drop⟩ .dropped (cell.drop handle)
  | text : handle ∈ cell.live →
      Performed p cell ⟨handle, .demand demand⟩ (.text (demand.answer p cell.inner).1)
        { cell with inner := (demand.answer p cell.inner).2 }
  | seen : handle ∈ cell.live → Performed p cell ⟨handle, .inspect⟩ (.seen (some cell.inner)) cell
  | returned : handle ∈ cell.live → cell.live.erase handle = [] →
      Performed p cell ⟨handle, .intoInner⟩ (.returned (some cell.inner)) (cell.drop handle)
  | refused : handle ∈ cell.live → cell.live.erase handle ≠ [] →
      Performed p cell ⟨handle, .intoInner⟩ (.returned none) (cell.drop handle)

theorem answer_idle (r : Responder σ) (cell : Shared σ) (idle : cell.busy = false) (demand : Demand) :
    demand.answer (provider r) cell =
      ((demand.answer r.alone cell.inner).1,
        { cell with inner := (demand.answer r.alone cell.inner).2 }) :=
  demand.answer_lifts (provider_lifts r cell idle) cell.inner

theorem perform_cases (r : Responder σ) {cell : Shared σ} (idle : cell.busy = false)
    (action : HandleAction) :
    Performed r.alone cell action (cell.perform r action).1 (cell.perform r action).2 := by
  obtain ⟨handle, deed⟩ := action
  by_cases live : handle ∈ cell.live
  · have isLive : cell.isLive handle = true := by simpa [Shared.isLive] using live
    simp only [perform, isLive, if_true]
    cases deed with
    | clone => exact .made live
    | drop => exact .dropped live
    | demand demand =>
      dsimp only
      rw [answer_idle r cell idle demand]
      exact .text live
    | inspect =>
      simp only [inspect, idle, Bool.false_eq_true, if_false]
      exact .seen live
    | intoInner =>
      simp only [intoInner, drop, List.isEmpty_iff]
      split
      next last => exact .returned live last
      next others => exact .refused live others
  · have dead : cell.isLive handle = false := by simpa [Shared.isLive] using live
    simp only [perform, dead, Bool.false_eq_true, if_false]
    exact .gone live

@[simp] theorem copies_concat (turns : List (HandleTurn σ)) (turn : HandleTurn σ) :
    copies (turns ++ [turn]) = copies turns ++ turn.made?.toList := by
  cases made : turn.made? <;> simp [copies, made]

@[simp] theorem ended_concat (turns : List (HandleTurn σ)) (turn : HandleTurn σ) :
    ended (turns ++ [turn]) = ended turns ++ turn.ended?.toList := by
  cases gone : turn.ended? <;> simp [ended, gone]

@[simp] theorem demands_concat (turns : List (HandleTurn σ)) (turn : HandleTurn σ) :
    demands (turns ++ [turn]) = demands turns ++ turn.demand?.toList := by
  cases met : turn.demand? <;> simp [demands, met]

@[simp] theorem texts_concat (turns : List (HandleTurn σ)) (turn : HandleTurn σ) :
    texts (turns ++ [turn]) = texts turns ++ turn.text?.toList := by
  cases text : turn.text? <;> simp [texts, text]

section Roll

variable {turns : List (HandleTurn σ)} {turn : HandleTurn σ} {cell next : Shared σ}

theorem new_roll (s : σ) : Roll [] (new s) := by
  constructor <;> simp [new, Alive, copies, ended]

theorem Roll.still (roll : Roll turns cell) (made : turn.made? = none) (gone : turn.ended? = none)
    (live : next.live = cell.live) (fresh : next.fresh = cell.fresh) :
    Roll (turns ++ [turn]) next where
  unique := by rw [live]; exact roll.unique
  alive := by simpa [live, Alive, made, gone] using roll.alive
  numbered := by simpa [fresh, made, gone] using roll.numbered
  counted := by simpa [live, made, gone] using roll.counted

/-- The number of a copy is one that no handle has had. -/
theorem Roll.fresh (roll : Roll turns cell) :
    cell.fresh ≠ 0 ∧ cell.fresh ∉ copies turns ∧ cell.fresh ∉ ended turns := by
  refine ⟨fun zero => ?_, fun copy => ?_, fun gone => ?_⟩
  · exact absurd (roll.numbered _ (.inl zero)) (Nat.lt_irrefl _)
  · exact absurd (roll.numbered _ (.inr (.inl copy))) (Nat.lt_irrefl _)
  · exact absurd (roll.numbered _ (.inr (.inr gone))) (Nat.lt_irrefl _)

theorem Roll.copied (roll : Roll turns cell) (made : turn.made? = some cell.fresh)
    (gone : turn.ended? = none) :
    Roll (turns ++ [turn])
      { cell with live := cell.live ++ [cell.fresh], fresh := cell.fresh + 1 } where
  unique := by
    have new : cell.fresh ∉ cell.live := fun live => by
      obtain ⟨zero | copy, -⟩ := (roll.alive _).mp live
      · exact roll.fresh.1 zero
      · exact roll.fresh.2.1 copy
    exact List.nodup_append.mpr ⟨roll.unique, List.pairwise_singleton _ _, fun handle live copy member =>
      fun same => new (by rwa [← List.mem_singleton.mp member, ← same])⟩
  alive handle := by
    have unended := roll.fresh.2.2
    have before := roll.alive handle
    simp only [List.mem_append, List.mem_singleton, Alive, copies_concat, ended_concat, made, gone,
      Option.toList_some, Option.toList_none, List.append_nil, before]
    grind
  numbered handle known := by
    have before := roll.numbered handle
    simp only [copies_concat, ended_concat, made, gone, List.mem_append, Option.toList_some,
      Option.toList_none, List.mem_singleton, List.append_nil] at known
    rcases known with zero | (copy | rfl) | gone
    · exact Nat.lt_succ_of_lt (before (.inl zero))
    · exact Nat.lt_succ_of_lt (before (.inr (.inl copy)))
    · exact Nat.lt_succ_self _
    · exact Nat.lt_succ_of_lt (before (.inr (.inr gone)))
  counted := by
    have := roll.counted
    simp only [List.length_append, copies_concat, ended_concat, made, gone, Option.toList_some,
      Option.toList_none, List.length_singleton, List.append_nil]
    omega

theorem Roll.lost (roll : Roll turns cell) (made : turn.made? = none)
    (gone : turn.ended? = some handle) (live : handle ∈ cell.live) :
    Roll (turns ++ [turn]) (cell.drop handle) where
  unique := roll.unique.erase handle
  alive other := by
    rw [drop, roll.unique.mem_erase_iff, roll.alive other]
    simp only [Alive, copies_concat, ended_concat, made, gone, Option.toList_some, Option.toList_none,
      List.append_nil, List.mem_append, List.mem_singleton, not_or]
    exact ⟨fun ⟨other, known, kept⟩ => ⟨known, kept, other⟩,
      fun ⟨known, kept, other⟩ => ⟨other, known, kept⟩⟩
  numbered other known := by
    have before := roll.numbered other
    simp only [copies_concat, ended_concat, made, gone, List.mem_append, Option.toList_some,
      Option.toList_none, List.mem_singleton, List.append_nil] at known
    rcases known with zero | copy | ended | rfl
    · exact before (.inl zero)
    · exact before (.inr (.inl copy))
    · exact before (.inr (.inr ended))
    · exact before (((roll.alive other).mp live).1.imp_right .inl)
  counted := by
    have before := roll.counted
    have positive := List.length_pos_of_mem live
    simp only [drop, copies_concat, ended_concat, made, gone, Option.toList_some, Option.toList_none,
      List.length_append, List.length_singleton, List.append_nil, List.length_erase_of_mem live]
    omega

end Roll

section Custody

variable {p : Provider σ} {s : σ} {turns : List (HandleTurn σ)} {cell : Shared σ}

theorem new_custody (p : Provider σ) (s : σ) : Custody p s [] (new s) where
  toRoll := new_roll s
  idle := rfl
  served := rfl
  fair _ _ _ split := by simp at split
  once := Nat.zero_le _
  emptied none := by simp at none
  closed := .nil

theorem Custody.reached (custody : Custody p s turns cell) : reached p s turns = cell.inner := by
  rw [Shared.reached, ← custody.served]

/-- A handle is the only one if nothing is left without it. -/
theorem Roll.erase_eq_nil_iff (roll : Roll turns cell) (handle : Nat) :
    cell.live.erase handle = [] ↔ ∀ other, Alive turns other → other = handle := by
  rw [List.eq_nil_iff_forall_not_mem]
  refine forall_congr' fun other => ?_
  rw [roll.unique.mem_erase_iff, ← roll.alive other]
  exact ⟨fun none member => Decidable.byContradiction fun differs => none ⟨differs, member⟩,
    fun only ⟨differs, member⟩ => differs (only member)⟩

/-- The outcome of an action is the one that the turns so far call for. -/
theorem Custody.fair_performed (custody : Custody p s turns cell)
    (performed : Performed p cell action outcome next) : Fair p s turns ⟨action, outcome⟩ := by
  have alive := custody.alive
  have state := custody.reached
  cases performed with
  | gone dead => exact .gone fun living => dead ((alive _).mpr living)
  | made live => exact .made ((alive _).mp live) custody.toRoll.fresh.1 custody.toRoll.fresh.2.1
  | dropped live => exact .dropped ((alive _).mp live)
  | text live =>
    rw [← state]
    exact .text ((alive _).mp live)
  | seen live =>
    rw [← state]
    exact .seen ((alive _).mp live)
  | returned live last =>
    rw [← state]
    exact .returned ((alive _).mp live) ((custody.erase_eq_nil_iff _).mp last)
  | refused live others =>
    rw [Ne, custody.erase_eq_nil_iff] at others
    obtain ⟨other, others⟩ := Classical.not_forall.mp others
    obtain ⟨living, differs⟩ := Classical.not_imp.mp others
    exact .refused ((alive _).mp live) living differs

theorem Custody.roll_performed (custody : Custody p s turns cell)
    (performed : Performed p cell action outcome next) :
    Roll (turns ++ [⟨action, outcome⟩]) next := by
  have roll := custody.toRoll
  cases performed with
  | gone | text | seen => exact roll.still rfl rfl rfl rfl
  | made => exact roll.copied rfl rfl
  | dropped live | returned live | refused live => exact roll.lost rfl rfl live

theorem Performed.idle (performed : Performed p cell action outcome next) :
    next.busy = cell.busy := by
  cases performed <;> rfl

theorem Custody.served_performed (custody : Custody p s turns cell)
    (performed : Performed p cell action outcome next) :
    (texts (turns ++ [⟨action, outcome⟩]), next.inner) =
      p.answers (demands (turns ++ [⟨action, outcome⟩])) s := by
  have served := custody.served
  rw [texts_concat, demands_concat]
  cases performed with
  | text =>
    simp only [HandleTurn.text?, HandleTurn.demand?, Option.toList_some, p.answers_concat, ← served]
  | gone | made | dropped | seen | returned | refused =>
    simpa [HandleTurn.text?, HandleTurn.demand?, drop] using served

/-- Only an action on the last handle returns the provider, and it leaves none. -/
theorem Performed.returns (performed : Performed p cell action outcome next)
    (returns : (⟨action, outcome⟩ : HandleTurn σ).returns = true) :
    cell.live ≠ [] ∧ next.live = [] := by
  cases performed with
  | returned live last => exact ⟨List.ne_nil_of_mem live, last⟩
  | gone | made | dropped | text | seen | refused => cases returns

theorem Performed.none_live (performed : Performed p cell action outcome next)
    (none : cell.live = []) : outcome = .gone ∧ next = cell := by
  cases performed with
  | gone => exact ⟨rfl, rfl⟩
  | made live | dropped live | text live | seen live | returned live | refused live =>
    exact absurd none (List.ne_nil_of_mem live)

theorem Custody.performed (custody : Custody p s turns cell)
    (performed : Performed p cell action outcome next) :
    Custody p s (turns ++ [⟨action, outcome⟩]) next where
  toRoll := custody.roll_performed performed
  idle := performed.idle.trans custody.idle
  served := custody.served_performed performed
  fair earlier turn later split := by
    rcases Filter.split_concat split with ⟨rfl, rfl⟩ | ⟨rest, rfl⟩
    · exact custody.fair_performed performed
    · exact custody.fair earlier turn rest rfl
  once := by
    have before := custody.once
    have emptied := custody.emptied
    rw [List.countP_append, List.countP_singleton]
    split
    next returns =>
      have := mt emptied (performed.returns returns).1
      omega
    next => exact before
  emptied count := by
    rw [List.countP_append, List.countP_singleton] at count
    split at count
    next returns => exact (performed.returns returns).2
    next =>
      have none := custody.emptied count
      rw [(performed.none_live none).2]
      exact none
  closed := by
    refine List.pairwise_append.mpr ⟨custody.closed, List.pairwise_singleton _ _, ?_⟩
    intro turn member last alone returns
    rw [List.mem_singleton] at alone
    subst alone
    have returned : 0 < turns.countP (·.returns) := List.countP_pos_iff.mpr ⟨turn, member, returns⟩
    have none := custody.emptied (Nat.le_antisymm custody.once returned)
    exact (performed.none_live none).1

end Custody

theorem history_custody {r : Responder σ} {cell : Shared σ} (custody : Custody r.alone s turns cell)
    (actions : List HandleAction) :
    Custody r.alone s (turns ++ (history r actions cell).1) (history r actions cell).2 := by
  induction actions generalizing turns cell with
  | nil => simpa [history] using custody
  | cons action actions ih =>
    simpa [history] using ih (custody.performed (perform_cases r custody.idle action))

theorem history_actions (r : Responder σ) (actions : List HandleAction) (cell : Shared σ) :
    (history r actions cell).1.map (·.action) = actions := by
  induction actions generalizing cell with
  | nil => rfl
  | cons action actions ih => exact congrArg (action :: ·) (ih _)

section Lifts

def mapState (lift : σ → τ) (cell : Shared σ) : Shared τ :=
  ⟨lift cell.inner, cell.busy, cell.live, cell.fresh⟩

variable {r : Responder σ} {q : Responder τ} {lift : σ → τ} {cell : Shared σ}

theorem perform_lifts (lifts : r.alone.Lifts lift q.alone) (idle : cell.busy = false)
    (action : HandleAction) :
    (cell.mapState lift).perform q action =
      ((cell.perform r action).1.mapState lift, (cell.perform r action).2.mapState lift) := by
  obtain ⟨handle, deed⟩ := action
  simp only [perform]
  split
  next live =>
    rw [if_pos (by exact live)]
    cases deed with
    | clone | drop => rfl
    | demand demand =>
      dsimp only
      have lifted := demand.answer_lifts lifts cell.inner
      rw [answer_idle q _ idle, answer_idle r _ idle]
      simp only [mapState, lifted, HandleOutcome.mapState]
    | inspect =>
      simp only [inspect, mapState, idle, HandleOutcome.mapState]
      rfl
    | intoInner =>
      have ended : ((cell.mapState lift).drop handle).live = (cell.drop handle).live := rfl
      simp only [intoInner, ended]
      split <;> rfl
  next dead =>
    rw [if_neg (by exact dead)]
    rfl

theorem demands_mapState (lift : σ → τ) (turns : List (HandleTurn σ)) :
    demands (turns.map (HandleTurn.mapState lift)) = demands turns := by
  rw [demands, demands, List.filterMap_map]
  congr 1
  funext ⟨⟨handle, deed⟩, outcome⟩
  cases deed <;> cases outcome <;> rfl

theorem history_lifts (lifts : r.alone.Lifts lift q.alone) (idle : cell.busy = false)
    (actions : List HandleAction) :
    history q actions (cell.mapState lift) =
      ((history r actions cell).1.map (HandleTurn.mapState lift),
        (history r actions cell).2.mapState lift) := by
  induction actions generalizing cell with
  | nil => rfl
  | cons action actions ih =>
    have still := (perform_cases r idle action).idle.trans idle
    simp only [history, perform_lifts lifts idle, ih still, List.map_cons]
    rfl

end Lifts

/-- Any number of handles are one provider. Every holder gets what the bare provider says to all
demands in the order in which they were made, and the requests that reach the provider are the same; a
transcript shows this, and does not disturb the handles. The provider comes back at most once, when the
last handle asks for it, and nobody reaches it after that. -/
theorem handles_share_provider (p : Provider σ) (s : σ) (actions : List HandleAction) :
    let ran := history p.responder actions (new s)
    let recorded := history p.transcribed.responder actions (new (s, []))
    ran.1.map (·.action) = actions ∧
    Custody p s ran.1 ran.2 ∧
    recorded.1.map (HandleTurn.mapState Prod.fst) = ran.1 ∧
    recorded.2.inner = (p.transcribed.answers (demands ran.1) (s, [])).2 ∧
    recorded.2.inner.1 = ran.2.inner ∧
    p.Converse s recorded.2.inner.2 ran.2.inner ∧
    ∀ earlier handle outcome later, ran.1 = earlier ++ ⟨⟨handle, .intoInner⟩, outcome⟩ :: later →
      (∀ other, Alive earlier other ↔ other = handle) → ran.1.countP (·.returns) = 1 := by
  intro ran recorded
  have custody : Custody p s ran.1 ran.2 :=
    history_custody (new_custody p.responder.alone s) actions
  have noted : Custody p.transcribed (s, []) recorded.1 recorded.2 :=
    history_custody (new_custody p.transcribed.responder.alone (s, [])) actions
  have lifts : p.transcribed.responder.alone.Lifts Prod.fst p.responder.alone := p.transcribed_erases
  have idle : (new (s, ([] : List Exchange))).busy = false := rfl
  have erased : ran = (recorded.1.map (HandleTurn.mapState Prod.fst), recorded.2.mapState Prod.fst) :=
    history_lifts lifts idle actions
  have same : demands ran.1 = demands recorded.1 := by
    rw [erased]
    exact demands_mapState Prod.fst recorded.1
  refine ⟨history_actions _ actions _, custody, ?_, ?_, ?_, ?_, ?_⟩
  · rw [erased]
  · rw [same, ← noted.served]
  · rw [erased]
    rfl
  · have conversed := p.answers_converse (demands ran.1) s (s, []) rfl
    rw [same, ← noted.served] at conversed
    rw [erased]
    exact conversed
  · intro earlier handle outcome later split last
    have returns : (⟨⟨handle, .intoInner⟩, outcome⟩ : HandleTurn σ).returns = true := by
      cases custody.fair _ _ _ split with
      | gone dead => exact absurd ((last handle).mpr rfl) dead
      | returned => rfl
      | refused _ living differs => exact absurd ((last _).mp living) differs
    have member : ⟨⟨handle, .intoInner⟩, outcome⟩ ∈ ran.1 := by rw [split]; simp
    exact Nat.le_antisymm custody.once (List.countP_pos_iff.mpr ⟨_, member, returns⟩)

/-- The first handle ends while its copy is alive, so the provider comes back with the copy. -/
example :
    (history (Provider.responder ⟨fun rest _ => (rest.take 1, rest.drop 1)⟩)
      [⟨0, .clone⟩, ⟨1, .demand (.chunk ⟨0, ⟨0, 0⟩⟩)⟩, ⟨0, .demand (.chunk ⟨0, ⟨0, 0⟩⟩)⟩,
        ⟨0, .intoInner⟩, ⟨0, .inspect⟩, ⟨1, .intoInner⟩]
      (new [97, 98, 99])).1.map (·.outcome) =
    [.made 1, .text [97], .text [98], .returned none, .gone, .returned (some [99])] := by
  decide +kernel

end Shared

end SyntaxQuery
