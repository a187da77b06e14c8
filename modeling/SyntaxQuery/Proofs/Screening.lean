import SyntaxQuery.Proofs.Steps
import SyntaxQuery.Proofs.TruncatedText

/-! How closely a candidate is looked at. A condition looks at one place after the other until one of them
decides, and the conditions of a candidate are tried one after the other until one fails. A check asks the
provider for exactly what these looks ask for. -/
namespace SyntaxQuery

namespace Inquiry

def about (accepts : List Bytes → Bool) : List Span → Inquiry
  | [] => verdict (accepts [])
  | node :: nodes => read node fun text => about (fun texts => accepts (text :: texts)) nodes

theorem asked_about (p : Provider σ) (accepts : List Bytes → Bool) (nodes : List Span) (s : σ) :
    ((about accepts nodes).hear p s).asked = nodes := by
  induction nodes generalizing accepts s with
  | nil => rfl
  | cons node nodes ih => exact congrArg₂ (· :: ·) (p.read_node node s) (ih _ _)

/-- What is heard until one inquiry comes to `stop` is what all steps up to that one have heard. -/
theorem hear_seek {p : Provider σ} {ask : α → Inquiry} {step : α → σ → β} {hearing : β → Hearing σ}
    (hears : ∀ item s, (ask item).hear p s = hearing (step item s)) (stop last : Bool)
    (items : List α) (s : σ) :
    let steps := upto step (fun one => (hearing one).state) (fun one => (hearing one).verdict == stop)
      items s
    (seek stop (.verdict last) (items.map ask)).hear p s =
      ⟨bif steps.any fun one => (hearing one).verdict == stop then stop else last,
        steps.flatMap fun one => (hearing one).readings,
        behind (fun one => (hearing one).state) s steps⟩ := by
  induction items generalizing s with
  | nil => rfl
  | cons item items ih =>
    rw [List.map_cons, hear_seek_cons, hears, upto_cons]
    by_cases stopped : (hearing (step item s)).verdict = stop
    · subst stopped
      simp [behind]
    · have goesOn : ((hearing (step item s)).verdict == stop) = false := by simpa using stopped
      simp [stopped, goesOn, ih, Hearing.followedBy, behind]

end Inquiry

namespace Condition

/-- Where a condition looks: node by node, or pair by pair with the left node first. -/
def places (m : Match) (condition : Condition) : List (List Span) :=
  let nodes := m.nodesFor condition.capture
  match condition.test with
  | .sameAs other => (nodes.zip (m.nodesFor other)).map fun pair => [pair.1, pair.2]
  | _ => nodes.map fun node => [node]

/-- Whether the texts of a place suit the condition. -/
def suits (condition : Condition) (texts : List Bytes) : Bool :=
  match condition.test, texts with
  | .equals literal, [text] => (text == literal) != condition.negated
  | .search regex, [text] => regex.isMatch text != condition.negated
  | .sameAs _, [left, right] => (left == right) != condition.negated
  | _, _ => false

def look (p : Provider σ) (condition : Condition) (place : List Span) (s : σ) : Hearing σ :=
  (Inquiry.about condition.suits place).hear p s

theorem inquiry_eq (m : Match) (condition : Condition) :
    condition.inquiry m =
      condition.quantifier.inquiry ((condition.places m).map (.about condition.suits)) := by
  obtain ⟨capture, test, negated, quantifier⟩ := condition
  cases test <;> simp only [inquiry, places, List.map_map] <;> rfl

end Condition

/-- The outcome for one place that settles the condition. -/
def Quantifier.decisive : Quantifier → Bool
  | all => false
  | any => true

structure Trial (σ : Type) where
  condition : Condition
  before : σ
  looks : List (Hearing σ)

namespace Trial

/-- With no place to look at, the condition holds. -/
def passed (trial : Trial σ) : Bool :=
  match trial.condition.quantifier with
  | .all => trial.looks.all (·.verdict)
  | .any => trial.looks.isEmpty || trial.looks.any (·.verdict)

def after (trial : Trial σ) : σ := behind Hearing.state trial.before trial.looks

def exchanges (trial : Trial σ) : List Exchange := trial.looks.flatMap (·.exchanges)

/-- The places are looked at from the first on, up to and including the one that is decisive. -/
structure Sound (p : Provider σ) (m : Match) (s : σ) (trial : Trial σ) : Prop where
  before : trial.before = s
  looks : Upto Hearing.asked Hearing.state (·.verdict == trial.condition.quantifier.decisive)
    (fun s look => look = trial.condition.look p look.asked s) (trial.condition.places m) s trial.looks

end Trial

structure Screening (σ : Type) where
  candidate : Match
  before : σ
  trials : List (Trial σ)

namespace Screening

def passed (screening : Screening σ) : Bool := screening.trials.all (·.passed)

def verdict (screening : Screening σ) : Match × Bool := (screening.candidate, screening.passed)

def after (screening : Screening σ) : σ := behind Trial.after screening.before screening.trials

def exchanges (screening : Screening σ) : List Exchange := screening.trials.flatMap (·.exchanges)

/-- The conditions are tried from the first on, up to and including the one that fails. -/
structure Sound (p : Provider σ) (table : PredicateTable) (s : σ) (screening : Screening σ) : Prop where
  before : screening.before = s
  trials : Upto Trial.condition Trial.after (·.passed == false)
    (Trial.Sound p screening.candidate) (table.forPattern screening.candidate.pattern) s
    screening.trials

end Screening

def Condition.trial (p : Provider σ) (m : Match) (condition : Condition) (s : σ) : Trial σ :=
  ⟨condition, s, upto (condition.look p) Hearing.state
    (·.verdict == condition.quantifier.decisive) (condition.places m) s⟩

def PredicateTable.screening (p : Provider σ) (table : PredicateTable) (m : Match) (s : σ) :
    Screening σ :=
  ⟨m, s, upto (Condition.trial p m) Trial.after (·.passed == false) (table.forPattern m.pattern) s⟩

@[simp] theorem PredicateTable.screening_candidate (p : Provider σ) (table : PredicateTable)
    (m : Match) (s : σ) : (table.screening p m s).candidate = m := rfl

theorem Condition.trial_sound (p : Provider σ) (m : Match) (condition : Condition) (s : σ) :
    (condition.trial p m s).Sound p m s where
  before := rfl
  looks := upto_sound (condition.places m) s (fun place s => Inquiry.asked_about p _ place s)
    fun place s => by
      have asked : (condition.look p place s).asked = place := Inquiry.asked_about p _ place s
      simp only [trial, asked]

theorem PredicateTable.screening_sound (p : Provider σ) (table : PredicateTable) (m : Match) (s : σ) :
    (table.screening p m s).Sound p table s where
  before := rfl
  trials := upto_sound (table.forPattern m.pattern) s (fun _ _ => rfl) fun condition s =>
    condition.trial_sound p m s

def Trial.hearing (trial : Trial σ) : Hearing σ :=
  ⟨trial.passed, trial.looks.flatMap (·.readings), trial.after⟩

/-- No verdict is the one that stops: all are well. -/
theorem verdict_all (verdict : β → Bool) (steps : List β) :
    (bif steps.any (verdict · == false) then false else true) = steps.all verdict := by
  rw [List.all_eq_not_any_not]
  simp only [beq_false]
  cases steps.any fun one => !verdict one <;> rfl

theorem Condition.hear_inquiry (p : Provider σ) (m : Match) (condition : Condition) (s : σ) :
    (condition.inquiry m).hear p s = (condition.trial p m s).hearing := by
  have hears : ∀ place s, (Inquiry.about condition.suits place).hear p s =
      id (condition.look p place s) := fun _ _ => rfl
  rw [inquiry_eq]
  cases quantifier : condition.quantifier with
  | all =>
    rw [Quantifier.inquiry, Inquiry.all, Inquiry.hear_seek hears]
    simp only [Trial.hearing, Trial.passed, Trial.after, trial, quantifier, id_eq,
      verdict_all Hearing.verdict]
    rfl
  | any =>
    cases places : condition.places m with
    | nil => simp only [Trial.hearing, Trial.passed, Trial.after, trial, quantifier, places]; rfl
    | cons place later =>
      have asked : Quantifier.any.inquiry ((place :: later).map (.about condition.suits)) =
          .seek true (.verdict false) ((place :: later).map (.about condition.suits)) := rfl
      rw [asked, Inquiry.hear_seek hears]
      simp only [Trial.hearing, Trial.passed, Trial.after, trial, quantifier, places, id_eq]
      simp [upto_cons, Quantifier.decisive]

theorem PredicateTable.hear_all (p : Provider σ) (table : PredicateTable) (m : Match) (s : σ) :
    (Inquiry.all ((table.forPattern m.pattern).map (·.inquiry m))).hear p s =
      ⟨(table.screening p m s).passed, (table.screening p m s).trials.flatMap (·.hearing.readings),
        (table.screening p m s).after⟩ := by
  rw [Inquiry.all, Inquiry.hear_seek fun condition s => condition.hear_inquiry p m s]
  simp only [Trial.hearing, verdict_all Trial.passed]
  rfl

theorem Screening.exchanges_eq (screening : Screening σ) :
    (screening.trials.flatMap (·.hearing.readings)).flatMap (·.exchanges) = screening.exchanges := by
  simp only [Screening.exchanges, Trial.exchanges, Trial.hearing, Hearing.exchanges,
    List.flatMap_assoc]

namespace PredicateTable

theorem screening_transcribed (p : Provider σ) (table : PredicateTable) (m : Match) (s : σ)
    (earlier : List Exchange) :
    (table.screening p.transcribed m (s, earlier)).passed = (table.screening p m s).passed ∧
      (table.screening p.transcribed m (s, earlier)).after =
        ((table.screening p m s).after, earlier ++ (table.screening p m s).exchanges) := by
  have recorded := table.hear_all p.transcribed m (s, earlier)
  rw [Inquiry.hear_transcribed, table.hear_all p m s, Hearing.exchanges,
    Screening.exchanges_eq] at recorded
  obtain ⟨passed, -, after⟩ := Hearing.mk.inj recorded
  exact ⟨passed.symm, after.symm⟩

theorem screening_converse (p : Provider σ) (table : PredicateTable) (m : Match) (s : σ) :
    p.Converse s (table.screening p m s).exchanges (table.screening p m s).after := by
  have heard := Inquiry.hear_converse p (.all ((table.forPattern m.pattern).map (·.inquiry m))) s
  rwa [table.hear_all p m s, Hearing.exchanges, Screening.exchanges_eq] at heard

/-- Conditions behind one that fails are not looked at. -/
theorem screening_spared (p : Provider σ) (table other : PredicateTable) (m : Match) (s : σ)
    (passed : (table.screening p m s).passed = true →
      other.forPattern m.pattern = table.forPattern m.pattern)
    (rejected : (table.screening p m s).passed = false →
      (table.screening p m s).trials.map (·.condition) <+: other.forPattern m.pattern) :
    other.screening p m s = table.screening p m s := by
  cases verdict : (table.screening p m s).passed with
  | true => rw [screening, passed verdict, screening]
  | false =>
    have failed : (table.screening p m s).trials.any (·.passed == false) = true := by
      simpa [Screening.passed] using verdict
    have same : upto (Condition.trial p m) Trial.after (·.passed == false)
        (other.forPattern m.pattern) s = (table.screening p m s).trials :=
      upto_kept (fun _ _ => rfl) (rejected verdict) fun none =>
        absurd (failed.symm.trans none) Bool.noConfusion
    rw [screening, same]
    rfl

end PredicateTable

end SyntaxQuery
