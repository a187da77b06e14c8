import SyntaxQuery.Proofs.FaithfulProvider
import SyntaxQuery.Proofs.QueryVisits

/-! The meaning of a query: which raw matches it admits, given the text of every node. Over a provider
that is true to a source, a run yields the raw matches that are admitted, in order; what was read for
the others, and in which chunks, leaves no trace. -/
namespace SyntaxQuery

namespace Inquiry

def under (text : Span → Bytes) : Inquiry → Bool
  | verdict holds => holds
  | read node next => (next (text node)).under text

variable (text : Span → Bytes)

theorem under_bind (inquiry : Inquiry) (next : Bool → Inquiry) :
    (inquiry.bind next).under text = (next (inquiry.under text)).under text := by
  induction inquiry with
  | verdict holds => rfl
  | read node rest ih => exact ih (text node)

/-- Where the first failure decides, the last word counts only if all others are well. -/
theorem under_seek_false (last : Inquiry) (inquiries : List Inquiry) :
    (seek false last inquiries).under text =
      (inquiries.all (·.under text) && last.under text) := by
  induction inquiries with
  | nil => simp [seek]
  | cons first later ih =>
    rw [seek, under_bind, List.all_cons]
    cases first.under text with
    | false => rfl
    | true => exact ih

theorem under_all (inquiries : List Inquiry) :
    (all inquiries).under text = inquiries.all (·.under text) := by
  rw [all, under_seek_false, under, Bool.and_true]

variable {p : Provider σ} {source : Bytes}

/-- A provider that is true to a source lets an inquiry come to what it comes to under the source. -/
theorem hear_faithful (inquiry : Inquiry) (faithful : p.Faithful source s) :
    (inquiry.hear p s).verdict = inquiry.under (·.textIn source) ∧
      p.Faithful source (inquiry.hear p s).state := by
  induction inquiry generalizing s with
  | verdict holds => exact ⟨rfl, faithful⟩
  | read node next ih =>
    have filled := Assembler.assemble_faithful .new node faithful
    rw [Provider.assemble_eq_read] at filled
    obtain ⟨text, kept⟩ := filled
    rw [hear, under, ← text]
    exact ih _ kept

end Inquiry

variable [Engine]

namespace PredicateQuery

def admits (query : PredicateQuery) (text : Span → Bytes) (raw : Match) : Bool :=
  (query.written raw).under text && (query.attached raw).under text

variable {p : Provider σ} {source : Bytes} (query : PredicateQuery)

theorem visit_faithful (faithful : p.Faithful source s) (raw : Match) :
    (query.visit p s raw).accepted = query.admits (·.textIn source) raw ∧
      p.Faithful source (query.visit p s raw).after := by
  obtain ⟨written, kept⟩ := (query.written raw).hear_faithful faithful
  obtain ⟨attached, left⟩ := (query.attached raw).hear_faithful kept
  rw [admits, ← written, ← attached, Visit.accepted, Visit.passed, Visit.after, visit]
  cases ((query.written raw).hear p s).verdict with
  | false => exact ⟨rfl, kept⟩
  | true => exact ⟨rfl, left⟩

theorem visits_faithful (faithful : p.Faithful source s) (pulls : Nat) (raws : List Match) :
    ((query.visits p pulls raws s).filter (·.accepted)).map (·.raw) =
      (raws.filter (query.admits (·.textIn source))).take pulls := by
  induction raws generalizing pulls s with
  | nil => cases pulls <;> rfl
  | cons raw raws ih =>
    cases pulls with
    | zero => rfl
    | succ pulls =>
      obtain ⟨accepted, kept⟩ := query.visit_faithful faithful raw
      rw [visits, List.filter_cons, List.filter_cons, accepted]
      cases query.admits (·.textIn source) raw with
      | false => exact ih kept (pulls + 1)
      | true => exact congrArg (raw :: ·) (ih kept pulls)

end PredicateQuery

/-- A run over a provider that is true to a source yields what the query admits, in order. -/
theorem QueryRun.collectFrom_faithful (r : Responder σ) (query : PredicateQuery)
    (raws : List (Match × Cursor)) (cursor last : Cursor) (pulls : Nat)
    (faithful : r.alone.Faithful source s) :
    (collectFrom r query pulls (before raws cursor last s)).1 =
      ((raws.map (·.1)).filter (query.admits (·.textIn source))).take pulls := by
  obtain ⟨run, collected, -⟩ := collectFrom_before r query raws cursor last s pulls
  rw [collected]
  exact query.visits_faithful faithful pulls (raws.map (·.1))

end SyntaxQuery
