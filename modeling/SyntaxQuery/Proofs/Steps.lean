/-! Steps that are taken one after the other through a list, each in the state that the one before left,
until as many as were asked for have passed. What is behind the last step does not matter. -/
namespace SyntaxQuery

variable {α β σ : Type}

def behind (after : β → σ) (s : σ) (steps : List β) : σ := steps.foldl (fun _ step => after step) s

/-- A step for each item, in the state behind the step before, until so many have passed. -/
def quota (step : α → σ → β) (after : β → σ) (passes : β → Bool) : Nat → List α → σ → List β
  | 0, _, _ => []
  | _ + 1, [], _ => []
  | more + 1, item :: later, s =>
    let first := step item s
    first :: quota step after passes (if passes first then more else more + 1) later (after first)

/-- A step for each item up to and including the first that decides. -/
def upto (step : α → σ → β) (after : β → σ) (decides : β → Bool) (items : List α) (s : σ) : List β :=
  quota step after decides 1 items s

/-- Steps that begin with the first item and leave none out. `sound` says what a step is that begins in a
state. -/
structure Quota (item : β → α) (after : β → σ) (passes : β → Bool) (sound : σ → β → Prop)
    (count : Nat) (items : List α) (s : σ) (steps : List β) : Prop where
  inOrder : steps.map item <+: items
  each : ∀ earlier step later, steps = earlier ++ step :: later → sound (behind after s earlier) step
  wanted : ∀ earlier step later, steps = earlier ++ step :: later → earlier.countP passes < count
  /-- Items are left over only where enough have passed. -/
  enough : steps.length < items.length → steps.countP passes = count

structure Upto (item : β → α) (after : β → σ) (decides : β → Bool) (sound : σ → β → Prop)
    (items : List α) (s : σ) (steps : List β) : Prop where
  inOrder : steps.map item <+: items
  each : ∀ earlier step later, steps = earlier ++ step :: later → sound (behind after s earlier) step
  undecided : ∀ step ∈ steps.dropLast, decides step = false
  decided : steps.length < items.length → ∃ last ∈ steps.getLast?, decides last = true

section Quota

variable {step : α → σ → β} {item : β → α} {after : β → σ} {passes : β → Bool}
  {sound : σ → β → Prop}

theorem quota_zero (items : List α) (s : σ) : quota step after passes 0 items s = [] := by
  cases items <;> rfl

theorem Quota.cons {one : β}
    (rest : Quota item after passes sound (if passes one then more else more + 1) later (after one) steps)
    (same : item one = first) (sounds : sound s one) :
    Quota item after passes sound (more + 1) (first :: later) s (one :: steps) where
  inOrder := by
    rw [List.map_cons, same]
    exact (List.prefix_cons_inj first).mpr rest.inOrder
  each earlier step behind split := by
    cases earlier with
    | nil =>
      obtain ⟨rfl, -⟩ := List.cons_eq_cons.mp split
      exact sounds
    | cons _ earlier =>
      obtain ⟨rfl, later⟩ := List.cons_eq_cons.mp split
      exact rest.each earlier step behind later
  wanted earlier step behind split := by
    cases earlier with
    | nil => exact Nat.succ_pos more
    | cons _ earlier =>
      obtain ⟨rfl, later⟩ := List.cons_eq_cons.mp split
      have wanted := rest.wanted earlier step behind later
      rw [List.countP_cons]
      split at wanted <;> simp_all
  enough left := by
    have enough := rest.enough (Nat.lt_of_succ_lt_succ left)
    rw [List.countP_cons, enough]
    split <;> rfl

theorem quota_sound (count : Nat) (items : List α) (s : σ) (same : ∀ one s, item (step one s) = one)
    (sounds : ∀ one s, sound s (step one s)) :
    Quota item after passes sound count items s (quota step after passes count items s) := by
  induction items generalizing count s with
  | nil => cases count <;> constructor <;> simp [quota]
  | cons one later ih =>
    cases count with
    | zero => constructor <;> simp [quota]
    | succ more => exact (ih _ _).cons (same one s) (sounds one s)

theorem Quota.atMost (steps : Quota item after passes sound count items s list) :
    list.countP passes ≤ count := by
  rcases List.eq_nil_or_concat list with rfl | ⟨earlier, last, rfl⟩
  · exact Nat.zero_le count
  · rw [List.concat_eq_append] at steps ⊢
    have wanted := steps.wanted earlier last [] rfl
    rw [List.countP_append, List.countP_singleton]
    split <;> omega

theorem Quota.last_passes (steps : Quota item after passes sound count items s list)
    (left : list.length < items.length) : ∀ last ∈ list.getLast?, passes last = true := by
  rcases List.eq_nil_or_concat list with rfl | ⟨earlier, last, rfl⟩
  · simp
  · rw [List.concat_eq_append] at steps left ⊢
    have wanted := steps.wanted earlier last [] rfl
    have enough := steps.enough left
    rw [List.countP_append, List.countP_singleton] at enough
    cases passed : passes last with
    | true => simpa using passed
    | false =>
      rw [passed] at enough
      simp only [Bool.false_eq_true, if_false, Nat.add_zero] at enough
      omega

/-- Where other steps do the same for the items that were reached, it does not matter what they do, and
which items there are, behind those. -/
theorem quota_kept {other : α → σ → β} (reached : List β)
    (taken : reached <+: quota step after passes count items s) (kept : reached.map item <+: others)
    (agree : ∀ earlier one later, reached = earlier ++ one :: later →
      other (item one) (behind after s earlier) = one) :
    reached <+: quota other after passes count others s := by
  -- The steps that were reached take both lists of items apart at the same pace.
  induction reached generalizing count items others s with
  | nil => exact List.nil_prefix
  | cons one reached ih =>
    rcases items with _ | ⟨first, items⟩
    · cases count <;> simp [quota] at taken
    rcases count with _ | more
    · simp [quota] at taken
    rcases others with _ | ⟨another, others⟩
    · simp at kept
    rw [quota, List.cons_prefix_cons] at taken
    rw [List.map_cons, List.cons_prefix_cons] at kept
    obtain ⟨same, taken⟩ := taken
    obtain ⟨rfl, kept⟩ := kept
    have first : other (item one) s = one := agree [] one reached rfl
    rw [← same] at taken
    rw [quota, first, List.cons_prefix_cons]
    exact ⟨rfl, ih taken kept fun earlier next later split =>
      agree (one :: earlier) next later (congrArg (one :: ·) split)⟩

/-- No step comes behind enough of them, and none behind the last item. -/
theorem Quota.no_further {others : List α} {sound' : σ → β → Prop}
    (steps : Quota item after passes sound count items s list)
    (more : Quota item after passes sound' count others s longer) (begins : list <+: longer)
    (ends : list.countP passes < count → others = items) : longer = list := by
  obtain ⟨rest, rfl⟩ := begins
  cases rest with
  | nil => exact List.append_nil list
  | cons next rest =>
    -- A further step was wanted only if too few had passed, and then no item was left.
    have wanted := more.wanted list next rest rfl
    obtain rfl := ends wanted
    have all : ¬list.length < others.length := fun left =>
      Nat.ne_of_lt wanted (steps.enough left)
    have bounded := more.inOrder.length_le
    simp only [List.length_map, List.length_append, List.length_cons] at bounded
    omega

end Quota

section Upto

variable {step : α → σ → β} {item : β → α} {after : β → σ} {decides : β → Bool}
  {sound : σ → β → Prop}

theorem upto_cons (one : α) (later : List α) (s : σ) :
    let first := step one s
    upto step after decides (one :: later) s =
      first :: if decides first then [] else upto step after decides later (after first) := by
  rw [upto, quota]
  split <;> simp [upto, quota_zero, *]

theorem Quota.upto (steps : Quota item after decides sound 1 items s list) :
    Upto item after decides sound items s list where
  inOrder := steps.inOrder
  each := steps.each
  undecided := by
    rcases List.eq_nil_or_concat list with rfl | ⟨earlier, last, rfl⟩
    · simp
    · rw [List.concat_eq_append] at steps ⊢
      have none := Nat.lt_one_iff.mp (steps.wanted earlier last [] rfl)
      simpa [List.countP_eq_zero] using none
  decided left := by
    rcases List.eq_nil_or_concat list with rfl | ⟨earlier, last, rfl⟩
    · simpa using steps.enough left
    · have decided := steps.last_passes left last
      rw [List.concat_eq_append, List.getLast?_concat] at decided ⊢
      exact ⟨last, rfl, decided rfl⟩

theorem upto_sound (items : List α) (s : σ) (same : ∀ one s, item (step one s) = one)
    (sounds : ∀ one s, sound s (step one s)) :
    Upto item after decides sound items s (upto step after decides items s) :=
  (quota_sound 1 items s same sounds).upto

/-- Items behind a step that decides do not matter. -/
theorem upto_kept {items others : List α} {s : σ} (same : ∀ one s, item (step one s) = one)
    (kept : (upto step after decides items s).map item <+: others)
    (ends : (upto step after decides items s).any decides = false → others = items) :
    upto step after decides others s = upto step after decides items s := by
  have steps (items : List α) : Quota item after decides (fun s one => step (item one) s = one) 1
      items s (upto step after decides items s) :=
    quota_sound 1 items s same fun one s => congrArg (step · s) (same one s)
  have begins := quota_kept _ (List.prefix_refl _) kept (steps items).each
  refine (steps items).no_further (steps others) begins fun none => ends ?_
  simpa [List.countP_eq_zero] using none

end Upto

end SyntaxQuery
