import SyntaxQuery.Provider.Basic

/-! One provider behind several handles. The provider is lent out for the length of one answer (or
of one whole borrow), and a request that arrives in the meantime, from inside the provider itself,
is refused with the empty chunk. The last handle can take the provider back. -/
namespace SyntaxQuery

/-- An answer in the making: the provider may ask for text of its own before it delivers. -/
inductive Reply (σ : Type) where
  | deliver (chunk : Bytes) (state : σ)
  | ask (request : Request) (resume : Bytes → Reply σ)

def Reply.run (answer : Request → Bytes) : Reply σ → Bytes × σ
  | .deliver chunk state => (chunk, state)
  | .ask request resume => (resume (answer request)).run answer

structure Responder (σ : Type) where
  respond : σ → Request → Reply σ

namespace Responder

/-- The provider that results once it is fixed how the inner requests are answered. -/
def answering (r : Responder σ) (answer : Request → Bytes) : Provider σ :=
  ⟨fun s request => (r.respond s request).run answer⟩

end Responder

def Provider.responder (p : Provider σ) : Responder σ where
  respond s request := let (chunk, state) := p.chunk s request; .deliver chunk state

structure Shared (σ : Type) where
  inner : σ
  busy : Bool
  /-- The handles that are alive. -/
  live : List Nat
  /-- The number of the next handle. -/
  fresh : Nat

namespace Shared

/-- A shared provider starts with one handle, number 0. -/
def new (inner : σ) : Shared σ := ⟨inner, false, [0], 1⟩

def isLive (cell : Shared σ) (handle : Nat) : Bool := cell.live.contains handle

/-- A request through any handle. While the provider is lent out it is refused, so an inner
request never reaches the provider and the recursion is one level deep. -/
def serve (r : Responder σ) (cell : Shared σ) (request : Request) : Bytes × Shared σ :=
  if cell.busy then ([], cell)
  else
    let lent : Shared σ := { cell with busy := true }
    let (chunk, inner) :=
      (r.respond cell.inner request).run fun within => (serve r lent within).1
    (chunk, { cell with inner := inner })
termination_by if cell.busy then 0 else 1
decreasing_by simp_all

def provider (r : Responder σ) : Provider (Shared σ) := ⟨serve r⟩

/-- Lends the provider to `act` for as long as it runs; `none` if it is lent out already. Requests
that the provider makes meanwhile are refused. -/
def borrow (r : Responder σ) (cell : Shared σ) (act : Provider σ → σ → α × σ) :
    Option α × Shared σ :=
  if cell.busy then (none, cell)
  else
    let lent : Shared σ := { cell with busy := true }
    let (result, inner) := act (r.answering fun within => (serve r lent within).1) cell.inner
    (some result, { cell with inner := inner })

/-- A look at the provider. While it is lent out, nobody may look. -/
def inspect (cell : Shared σ) : Option σ := if cell.busy then none else some cell.inner

/-- A handle copies itself; the copy gets the next number. -/
def clone (cell : Shared σ) : Nat × Shared σ :=
  (cell.fresh, { cell with live := cell.live ++ [cell.fresh], fresh := cell.fresh + 1 })

def drop (cell : Shared σ) (handle : Nat) : Shared σ :=
  { cell with live := cell.live.erase handle }

/-- Ends the handle. The provider comes back only if no other handle is left. -/
def intoInner (cell : Shared σ) (handle : Nat) : Option σ × Shared σ :=
  let ended := cell.drop handle
  (if ended.live.isEmpty then some cell.inner else none, ended)

end Shared

end SyntaxQuery
