import SyntaxQuery.Proofs.CheckInquiry

/-! Buffers that are kept between uses. One evaluator and one assembler serve any sequence of tasks as new
ones for each task would: what an earlier text left in a buffer reaches no verdict, no text and no request,
however the earlier task ended. -/
namespace SyntaxQuery

inductive Task where
  | check (m : Match) (conditions : List Condition)
  | assemble (span : Span)

inductive Product where
  | verdict (holds : Bool)
  | text (text : AssembledText)

structure Toolbox where
  evaluator : Evaluator
  assembler : Assembler

structure Job (σ : Type) where
  product : Product
  after : σ

def Job.mapState (lift : σ → τ) (job : Job σ) : Job τ := ⟨job.product, lift job.after⟩

namespace Toolbox

def new : Toolbox := ⟨.new, .new⟩

def perform (p : Provider σ) (tools : Toolbox) (s : σ) : Task → Job σ × Toolbox
  | .check m conditions =>
    let (holds, evaluator, s) := tools.evaluator.evaluate m conditions p s
    (⟨.verdict holds, s⟩, { tools with evaluator := evaluator })
  | .assemble span =>
    let (text, assembler, s) := tools.assembler.assembleOwned span p s
    (⟨.text text, s⟩, { tools with assembler := assembler })

def work (p : Provider σ) : List Task → Toolbox → σ → List (Job σ)
  | [], _, _ => []
  | task :: tasks, tools, s =>
    let (job, tools) := tools.perform p s task
    job :: work p tasks tools job.after

def workAfresh (p : Provider σ) : List Task → σ → List (Job σ)
  | [], _ => []
  | task :: tasks, s =>
    let (job, _) := new.perform p s task
    job :: workAfresh p tasks job.after

/-- The old content of the buffers enters neither the product nor the provider's state. -/
theorem perform_eq_new (p : Provider σ) (tools : Toolbox) (s : σ) (task : Task) :
    (tools.perform p s task).1 = (new.perform p s task).1 := by
  cases task with
  | check m conditions =>
    obtain ⟨_, used⟩ := Evaluator.evaluate_conducts p m conditions tools.evaluator s
    obtain ⟨_, unused⟩ := Evaluator.evaluate_conducts p m conditions Evaluator.new s
    dsimp only at used unused
    simp only [perform, new, used, unused]
  | assemble span => simp only [perform, Assembler.assembleOwned, Assembler.assemble_eq_fill]

theorem work_eq_workAfresh (p : Provider σ) (tasks : List Task) (tools : Toolbox) (s : σ) :
    work p tasks tools s = workAfresh p tasks s := by
  induction tasks generalizing tools s with
  | nil => rfl
  | cons task tasks ih => simp only [work, workAfresh, perform_eq_new p tools, ih]

theorem perform_lifts {p : Provider σ} {q : Provider τ} (lifts : p.Lifts lift q) (tools : Toolbox)
    (s : σ) (task : Task) :
    (tools.perform q (lift s) task).1 = (tools.perform p s task).1.mapState lift := by
  cases task with
  | check m conditions =>
    obtain ⟨_, lifted⟩ := Evaluator.evaluate_conducts q m conditions tools.evaluator (lift s)
    obtain ⟨_, plain⟩ := Evaluator.evaluate_conducts p m conditions tools.evaluator s
    rw [Inquiry.hear_lifts lifts] at lifted
    dsimp only at lifted plain
    simp only [perform, lifted, plain, Job.mapState, Hearing.mapState]
  | assemble span =>
    simp only [perform, Assembler.assembleOwned, Assembler.assemble_eq_fill,
      Assembler.fill_lifts lifts, Job.mapState]

theorem work_lifts {p : Provider σ} {q : Provider τ} (lifts : p.Lifts lift q) (tasks : List Task)
    (tools : Toolbox) (s : σ) :
    work q tasks tools (lift s) = (work p tasks tools s).map (Job.mapState lift) := by
  rw [work_eq_workAfresh, work_eq_workAfresh]
  induction tasks generalizing s with
  | nil => rfl
  | cons task tasks ih =>
    simp only [workAfresh, perform_lifts lifts, List.map_cons]
    exact congrArg (_ :: ·) (ih _)

end Toolbox

/-- Whatever the buffers hold at first, a sequence of tasks comes to the same products as with new tools
for each task, and each task leaves the provider in the same state, the transcript of all requests
included. Keeping the transcript does not disturb the work. -/
theorem buffers_leave_no_trace (p : Provider σ) (tasks : List Task) (tools : Toolbox) (s : σ) :
    let reused := Toolbox.work p.transcribed tasks tools (s, [])
    Toolbox.work p tasks tools s = Toolbox.workAfresh p tasks s ∧
    reused = Toolbox.workAfresh p.transcribed tasks (s, []) ∧
    reused.map (Job.mapState Prod.fst) = Toolbox.work p tasks tools s :=
  ⟨Toolbox.work_eq_workAfresh p tasks tools s, Toolbox.work_eq_workAfresh p.transcribed tasks tools _,
    (Toolbox.work_lifts p.transcribed_erases tasks tools (s, [])).symm⟩

end SyntaxQuery
