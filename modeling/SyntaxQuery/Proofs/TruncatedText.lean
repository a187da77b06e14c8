import SyntaxQuery.Proofs.AssemblyTraffic
import SyntaxQuery.Proofs.CheckInquiry

/-! Truncated text in a check. A check sees the bytes that came and not whether more were wanted: text
that was cut short is judged by what is left of it, and may well pass. -/
namespace SyntaxQuery

namespace Hearing

def asked (hearing : Hearing σ) : List Span := hearing.readings.map (·.node)

def texts (hearing : Hearing σ) : List Bytes := hearing.readings.map (·.text.bytes)

@[simp] theorem asked_followedBy (first second : Hearing σ) :
    (first.followedBy second).asked = first.asked ++ second.asked := List.map_append

@[simp] theorem texts_followedBy (first second : Hearing σ) :
    (first.followedBy second).texts = first.texts ++ second.texts := List.map_append

end Hearing

namespace TextTest

def nodes (test : TextTest) (m : Match) (capture : Nat) : List Span :=
  match test with
  | .sameAs other =>
    ((m.nodesFor capture).zip (m.nodesFor other)).flatMap fun pair => [pair.1, pair.2]
  | _ => m.nodesFor capture

/-- Of every two texts, one is the other. -/
def twins : List Bytes → Bool
  | left :: right :: texts => left == right && twins texts
  | _ => true

def agrees : TextTest → List Bytes → Bool
  | .equals literal, texts => texts.all (· == literal)
  | .search regex, texts => texts.all regex.isMatch
  | .sameAs _, texts => twins texts

end TextTest

theorem Provider.read_traffic (p : Provider σ) (node : Span) (s : σ) :
    Traffic node (p.read node s).1.exchanges (p.read node s).1.text := by
  obtain ⟨log, final, transcribed, -, dialogue⟩ :=
    Assembler.fill_transcribed p node.stop node.start node.position [] s []
  rw [Provider.read_eq_fill, transcribed]
  exact dialogue.traffic

namespace Inquiry

theorem hear_traffic (p : Provider σ) (inquiry : Inquiry) (s : σ) :
    ∀ reading ∈ (inquiry.hear p s).readings,
      Traffic reading.node reading.exchanges reading.text := by
  induction inquiry generalizing s with
  | verdict holds => exact fun _ none => absurd none List.not_mem_nil
  | read node next ih =>
    intro reading member
    rw [hear] at member
    rcases List.mem_cons.mp member with first | later
    · rw [first, Provider.read_node]
      exact p.read_traffic node s
    · exact ih _ _ reading later

section All

variable {p : Provider σ} {ask : α → Inquiry} (nodes : α → List Span) (judge : List Bytes → Bool)
  (none : judge [] = true) (asks : ∀ item s, ((ask item).hear p s).asked = nodes item)
  (judges : ∀ item s later, judge (((ask item).hear p s).texts ++ later) =
    (((ask item).hear p s).verdict && judge later))

include none asks judges

/-- Items that each ask for their own nodes and are judged by the texts are judged together by all
texts. The nodes are those of all items, unless one fails. -/
theorem hear_all_judged (items : List α) (s : σ) :
    let heard := (all (items.map ask)).hear p s
    heard.verdict = judge heard.texts ∧ heard.asked <+: items.flatMap nodes ∧
      (heard.verdict = true → heard.asked = items.flatMap nodes) := by
  induction items generalizing s with
  | nil => exact ⟨none.symm, List.prefix_refl _, fun _ => rfl⟩
  | cons item items ih =>
    have answered := asks item s
    have judged := judges item s
    obtain ⟨verdict, asked, complete⟩ := ih ((ask item).hear p s).state
    unfold all at verdict asked complete ⊢
    rw [List.map_cons, hear_seek_cons, List.flatMap_cons, ← answered]
    generalize (ask item).hear p s = first at judged verdict asked complete ⊢
    generalize (seek false (.verdict true) (items.map ask)).hear p first.state = rest at *
    cases passes : first.verdict with
    | false =>
      have alone := judged []
      rw [passes, List.append_nil, Bool.false_and] at alone
      rw [if_pos rfl]
      exact ⟨passes.trans alone.symm, List.prefix_append _ _, fun holds => by simp [passes] at holds⟩
    | true =>
      have together := judged rest.texts
      rw [passes, Bool.true_and] at together
      rw [if_neg Bool.noConfusion]
      refine ⟨?_, ?_, fun holds => ?_⟩
      · rw [Hearing.texts_followedBy, together]
        exact verdict
      · rw [Hearing.asked_followedBy]
        exact (List.prefix_append_right_inj _).mpr asked
      · rw [Hearing.asked_followedBy, complete holds]

end All

theorem hear_tests (p : Provider σ) (accepts : Bytes → Bool) (nodes : List Span) (s : σ) :
    let heard := (all (nodes.map (.test accepts))).hear p s
    heard.verdict = heard.texts.all accepts ∧ heard.asked <+: nodes ∧
      (heard.verdict = true → heard.asked = nodes) := by
  have asks : ∀ node s, ((test accepts node).hear p s).asked = [node] := fun node s => by
    simp [test, hear, Hearing.asked]
  have judges : ∀ node s later,
      (((test accepts node).hear p s).texts ++ later).all accepts =
        (((test accepts node).hear p s).verdict && later.all accepts) := fun node s later => by
    simp [test, hear, Hearing.texts]
  have judged := hear_all_judged (fun node => [node]) (·.all accepts) rfl asks judges nodes s
  rwa [List.flatMap_singleton'] at judged

theorem hear_comparisons (p : Provider σ) (pairs : List (Span × Span)) (s : σ) :
    let heard := (all (pairs.map (.compare false))).hear p s
    let nodes := pairs.flatMap fun pair => [pair.1, pair.2]
    heard.verdict = TextTest.twins heard.texts ∧ heard.asked <+: nodes ∧
      (heard.verdict = true → heard.asked = nodes) := by
  have asks : ∀ pair s, ((compare false pair).hear p s).asked = [pair.1, pair.2] := fun pair s => by
    simp [compare, hear, Hearing.asked]
  have judges : ∀ pair s later,
      TextTest.twins (((compare false pair).hear p s).texts ++ later) =
        (((compare false pair).hear p s).verdict && TextTest.twins later) := fun pair s later => by
    simp [compare, hear, Hearing.texts, TextTest.twins]
  exact hear_all_judged (fun pair => [pair.1, pair.2]) TextTest.twins rfl asks judges pairs s

end Inquiry

theorem Condition.hear_new (p : Provider σ) (m : Match) (capture : Nat) (test : TextTest) (s : σ) :
    let heard := ((Condition.new capture test).inquiry m).hear p s
    heard.verdict = test.agrees heard.texts ∧ heard.asked <+: test.nodes m capture ∧
      (heard.verdict = true → heard.asked = test.nodes m capture) := by
  cases test with
  | equals literal =>
    simp only [Condition.new, Condition.inquiry, Bool.bne_false]
    exact Inquiry.hear_tests p (· == literal) (m.nodesFor capture) s
  | search regex =>
    simp only [Condition.new, Condition.inquiry, Bool.bne_false]
    exact Inquiry.hear_tests p regex.isMatch (m.nodesFor capture) s
  | sameAs other =>
    exact Inquiry.hear_comparisons p ((m.nodesFor capture).zip (m.nodesFor other)) s

/-- A check asks for its nodes one after the other, up to the first that fails, and comes to what the
test says of the bytes that came. Whether a text was cut short does not enter: the transcript shows it,
by an empty chunk at the end, and the verdict does not. Only a literal that is as long as the node is
not found in less than the node's text. -/
theorem truncation_unseen (m : Match) (capture : Nat) (test : TextTest) (p : Provider σ)
    (evaluator : Evaluator) (s : σ) :
    let condition := Condition.new capture test
    let heard := (condition.inquiry m).hear p s
    (∃ left, evaluator.evaluate m [condition] p s = (heard.verdict, left, heard.state)) ∧
    (∃ left, evaluator.evaluate m [condition] p.transcribed (s, []) =
      (heard.verdict, left, heard.state, heard.exchanges)) ∧
    heard.verdict = test.agrees heard.texts ∧
    heard.asked <+: test.nodes m capture ∧
    (heard.verdict = true → heard.asked = test.nodes m capture) ∧
    (∀ reading ∈ heard.readings, Traffic reading.node reading.exchanges reading.text) ∧
    ∀ literal, test = .equals literal → heard.verdict = true → ∀ reading ∈ heard.readings,
      reading.text.isTruncated = true → literal.length < reading.node.length := by
  intro condition heard
  obtain ⟨verdict, asked, complete⟩ := Condition.hear_new p m capture test s
  have traffic := (condition.inquiry m).hear_traffic p s
  have single : ∀ {τ : Type} (q : Provider τ) (t : τ),
      ∃ left, evaluator.evaluate m [condition] q t =
        (((condition.inquiry m).hear q t).verdict, left, ((condition.inquiry m).hear q t).state) := by
    intro τ q t
    obtain ⟨left, checked⟩ := Evaluator.check_conducts q m condition evaluator t
    refine ⟨left, ?_⟩
    rw [Evaluator.evaluate, allPass, checked]
    cases ((condition.inquiry m).hear q t).verdict <;> rfl
  refine ⟨single p s, ?_, verdict, asked, complete, traffic, ?_⟩
  · obtain ⟨left, recorded⟩ := single p.transcribed (s, [])
    rw [Inquiry.hear_transcribed] at recorded
    exact ⟨left, recorded⟩
  · rintro literal rfl holds reading member short
    have found : reading.text.bytes = literal := by
      rw [verdict, TextTest.agrees, List.all_eq_true] at holds
      exact eq_of_beq (holds _ (List.mem_map_of_mem member))
    have expected := (traffic reading member).expected
    rw [AssembledText.isTruncated, decide_eq_true_eq, expected] at short
    rwa [← found]

/-- The first two bytes of a node are the literal, and no more of them come. -/
theorem cut_text_accepted :
    let provider : Provider Unit :=
      .ofFunction fun request => if request.offset.toNat < 2 then [109, 97] else []
    let m : Match := ⟨0, [⟨0, 0, 4, ⟨0, 0⟩⟩]⟩
    (Evaluator.new.evaluate m [.new 0 (.equals [109, 97])] provider ()).1 = true ∧
      (provider.read ⟨0, 4, ⟨0, 0⟩⟩ ()).1.text.isTruncated = true := by
  intro provider m
  have cut : provider.read ⟨0, 4, ⟨0, 0⟩⟩ () =
      (⟨⟨0, 4, ⟨0, 0⟩⟩, ⟨[109, 97], 4⟩, [⟨⟨0, ⟨0, 0⟩⟩, [109, 97]⟩, ⟨⟨2, ⟨0, 2⟩⟩, []⟩]⟩, ()) := by
    rw [Provider.read_eq_fill, Assembler.fill_chunk _ _ (by decide) rfl,
      Assembler.fill_dry _ _ (by decide) rfl]
    rfl
  refine ⟨?_, by rw [cut]; rfl⟩
  simp [Evaluator.evaluate, allPass, Evaluator.check, Condition.new, m, Match.nodesFor,
    Quantifier.passes, Evaluator.testNode, Provider.assemble_eq_read, cut]

end SyntaxQuery
