import SyntaxQuery.Cursor.Search
import SyntaxQuery.Proofs.CursorRuns

/-! Capture lists during a search. Searches that start with different numbers of capture lists find the
same matches, as long as neither number is above the match limit: a list is then to be had until as many
are in use as the limit allows, whether it is made or was there before. -/
namespace SyntaxQuery.Cursor

namespace Attempt

def held (attempts : List Attempt) : Nat := attempts.countP (·.captures.isSome)

theorem held_append (left right : List Attempt) : held (left ++ right) = held left + held right :=
  List.countP_append

theorem held_nil : held [] = 0 := rfl

theorem held_cons (attempt : Attempt) (others : List Attempt) :
    held (attempt :: others) = held others + if attempt.captures.isSome then 1 else 0 :=
  List.countP_cons

theorem held_sublist (fewer : List.Sublist left right) : held left ≤ held right := fewer.countP_le

/-- Of the attempts that are split off, none is kept. -/
theorem held_filter (attempts : List Attempt) (splits drops : Attempt → Bool) :
    held (attempts.filter splits) +
      held (attempts.filter fun attempt => !splits attempt && !drops attempt) ≤ held attempts := by
  have whole : held attempts = held (attempts.filter splits) + held (attempts.filter (!splits ·)) := by
    simp [held, List.countP_eq_countP_filter_add attempts _ splits]
  have kept : held ((attempts.filter (!drops ·)).filter (!splits ·)) ≤
      held (attempts.filter (!splits ·)) := held_sublist (List.filter_sublist.filter _)
  rw [List.filter_filter] at kept
  omega

theorem held_insertIdx (attempts : List Attempt) (index : Nat) (attempt : Attempt) :
    held (attempts.insertIdx index attempt) ≤ held (attempt :: attempts) := by
  by_cases within : index ≤ attempts.length
  · exact Nat.le_of_eq ((List.perm_insertIdx attempt attempts within).countP_eq _)
  · rw [List.insertIdx_of_length_lt (Nat.lt_of_not_le within)]
    exact held_sublist (List.sublist_cons_self attempt attempts)

theorem held_set (attempts : List Attempt) (index : Nat) (attempt : Attempt) :
    held (attempts.set index attempt) ≤ held attempts + 1 := by
  by_cases within : index < attempts.length
  · rw [held, List.countP_set within, held]
    split <;> split <;> omega
  · rw [List.set_eq_of_length_le (Nat.le_of_not_lt within)]
    exact Nat.le_add_right _ _

/-- An attempt that has a list already takes none when it is replaced. -/
theorem held_set_same {attempts : List Attempt} {old new : Attempt}
    (found : attempts[index]? = some old) (same : new.captures.isSome = old.captures.isSome) :
    held (attempts.set index new) = held attempts := by
  obtain ⟨within, rfl⟩ := List.getElem?_eq_some_iff.mp found
  rw [held, List.countP_set within, same, held]
  split
  next holds =>
    have : 0 < List.countP (·.captures.isSome) attempts :=
      List.countP_pos_iff.mpr ⟨_, List.getElem_mem within, holds⟩
    omega
  next => omega

end Attempt

namespace Search

theorem listsInUse_eq (search : Search) :
    search.listsInUse = Attempt.held search.attempts + Attempt.held search.completed :=
  List.countP_append

/-- Attempts that outdo each other are dropped or marked, and take no lists. -/
theorem held_rival (attempt : Attempt) (others : List Attempt) :
    Attempt.held (rival attempt others).1.toList + Attempt.held (rival attempt others).2 ≤
      Attempt.held (attempt :: others) := by
  fun_induction rival attempt others with
  | case1 => exact Nat.le_refl _
  | case2 =>
    rw [← Attempt.held_append]
    exact Nat.le_refl _
  | case3 attempt other others _ _ _ _ _ ih =>
    simp only [Attempt.held_cons] at ih ⊢
    omega
  | case4 attempt other others _ _ _ _ _ marked =>
    have same : marked.captures = other.captures := rfl
    simp only [Option.toList_none, Attempt.held_cons, Attempt.held_nil, same]
    omega
  | case5 attempt other others _ _ _ _ _ marked _ kept rest rivals ih =>
    have same : marked.captures = other.captures := rfl
    rw [rivals] at ih
    simp only [Attempt.held_cons, same] at ih ⊢
    omega

/-- Settling drops attempts and gives lists to none. -/
theorem held_settle (plan : Query.Plan) (attempts : List Attempt) :
    Attempt.held (settle plan attempts).1 + Attempt.held (settle plan attempts).2 ≤
      Attempt.held attempts := by
  fun_induction settle plan attempts with
  | case1 => exact Nat.le_refl _
  | case2 attempt others dead ih =>
    rw [Attempt.held_cons]
    omega
  | case3 attempt others alive rest rivals ih =>
    have fewer := held_rival attempt others
    rw [rivals] at fewer
    simp only [Option.toList_none, Attempt.held_nil] at fewer
    omega
  | case4 attempt others alive kept rest rivals going done settled finished ih =>
    have fewer := held_rival attempt others
    rw [rivals] at fewer
    rw [settled] at ih
    simp only [Option.toList_some, Attempt.held_cons, Attempt.held_nil] at fewer ih ⊢
    omega
  | case5 attempt others alive kept rest rivals going done settled goes ih =>
    have fewer := held_rival attempt others
    rw [rivals] at fewer
    rw [settled] at ih
    simp only [Option.toList_some, Attempt.held_cons, Attempt.held_nil] at fewer ih ⊢
    omega

/-- There are lists for all attempts and for so many more, and no more than the limit allows. -/
structure Room (spare : Nat) (search : Search) : Prop where
  spared : search.listsInUse + spare ≤ search.lists
  allowed : search.lists ≤ search.limits.matchLimit.toNat

/-- A claim leaves the limits alone and makes a list only below the match limit. -/
theorem claimList_keeps {search : Search} (claimed : search.claimList plan keep = some after) :
    after.limits = search.limits ∧
      after.lists ≤ max search.lists search.limits.matchLimit.toNat := by
  rw [claimList] at claimed
  split at claimed
  · cases claimed
    exact ⟨rfl, Nat.le_max_left _ _⟩
  split at claimed
  next below =>
    cases claimed
    exact ⟨rfl, Nat.le_trans below (Nat.le_max_right _ _)⟩
  next =>
    split at claimed
    · split at claimed
      · cases claimed
      · cases claimed
        exact ⟨rfl, Nat.le_max_left _ _⟩
    · cases claimed

/-- As long as fewer lists are in use than the limit allows, no attempt is robbed. -/
theorem claimList_free (plan : Query.Plan) (keep : Option Nat) {search : Search} (room : search.Room 0)
    (free : search.listsInUse < search.limits.matchLimit.toNat) :
    ∃ lists, search.claimList plan keep = some { search with lists := lists } ∧
      Room 1 { search with lists := lists } := by
  rw [claimList]
  by_cases unused : search.listsInUse < search.lists
  · exact ⟨search.lists, if_pos unused, unused, room.allowed⟩
  · have all : search.listsInUse = search.lists := Nat.le_antisymm room.spared (Nat.le_of_not_lt unused)
    rw [all] at free
    refine ⟨search.lists + 1, (if_neg unused).trans (if_pos free), ?_, free⟩
    exact Nat.succ_le_succ (Nat.le_of_eq all)

/-- Two searches that are the same up to the number of their lists. Where the numbers differ there is room
in both. -/
structure Alike (limits : Limits) (bound spare : Nat) (s t : Search) : Prop where
  same : t = { s with lists := t.lists }
  limited : s.limits = limits
  capped : limits.matchLimit.toNat ≤ bound
  bounded : s.lists ≤ bound ∧ t.lists ≤ bound
  room : s.lists = t.lists ∨ s.Room spare ∧ t.Room spare

namespace Alike

variable {limits : Limits} {bound spare later : Nat} {s t : Search}

theorem but_lists (alike : Alike limits bound spare s t) : ∃ lists, t = { s with lists := lists } :=
  ⟨_, alike.same⟩

theorem attempts_eq (alike : Alike limits bound spare s t) : t.attempts = s.attempts := by
  rw [alike.same]

theorem limits_eq (alike : Alike limits bound spare s t) : t.limits = s.limits := by rw [alike.same]

theorem completed_eq (alike : Alike limits bound spare s t) : t.completed = s.completed := by
  rw [alike.same]

theorem fresh_eq (alike : Alike limits bound spare s t) : t.fresh = s.fresh := by rw [alike.same]

theorem attempt?_eq (alike : Alike limits bound spare s t) (index : Nat) :
    t.attempt? index = s.attempt? index := by
  rw [attempt?, attempt?, alike.attempts_eq]

/-- Whatever else becomes of both searches, they stay alike if no more lists are taken than were to
spare. -/
theorem update (alike : Alike limits bound spare s t) (attempts completed : List Attempt)
    (exceeded : Bool) (fresh : Nat)
    (spends : Attempt.held attempts + Attempt.held completed + later ≤ s.listsInUse + spare) :
    Alike limits bound later ⟨s.limits, attempts, completed, s.lists, exceeded, fresh⟩
      ⟨t.limits, attempts, completed, t.lists, exceeded, fresh⟩ := by
  obtain ⟨lists, rfl⟩ := alike.but_lists
  refine ⟨rfl, alike.limited, alike.capped, alike.bounded, alike.room.imp_right ?_⟩
  rintro ⟨left, right⟩
  rw [← Attempt.held_append] at spends
  exact ⟨⟨Nat.le_trans spends left.spared, left.allowed⟩,
    ⟨Nat.le_trans spends right.spared, right.allowed⟩⟩

theorem withAttempts (alike : Alike limits bound spare s t) (attempts : List Attempt)
    (spends : Attempt.held attempts + later ≤ Attempt.held s.attempts + spare) :
    Alike limits bound later { s with attempts := attempts } { t with attempts := attempts } := by
  obtain ⟨lists, rfl⟩ := alike.but_lists
  refine alike.update attempts s.completed s.exceeded s.fresh ?_
  rw [listsInUse_eq]
  omega

theorem set (alike : Alike limits bound 0 s t) {old : Attempt}
    (found : s.attempt? index = some old) (new : Attempt)
    (same : new.captures.isSome = old.captures.isSome) :
    Alike limits bound 0 (s.set index new) (t.set index new) := by
  rw [Search.set, Search.set, alike.attempts_eq]
  exact alike.withAttempts _ (Nat.le_of_eq (Attempt.held_set_same found same))

theorem set_claimed (alike : Alike limits bound 1 s t) (index : Nat) (new : Attempt) :
    Alike limits bound 0 (s.set index new) (t.set index new) := by
  rw [Search.set, Search.set, alike.attempts_eq]
  exact alike.withAttempts _ (Attempt.held_set _ index new)

theorem remove (alike : Alike limits bound 0 s t) (index : Nat) :
    Alike limits bound 0 (s.remove index) (t.remove index) := by
  rw [Search.remove, Search.remove, alike.attempts_eq]
  exact alike.withAttempts _ (Attempt.held_sublist (List.eraseIdx_sublist _ index))

theorem noteExceeded (alike : Alike limits bound 0 s t) :
    Alike limits bound 0 s.noteExceeded t.noteExceeded := by
  obtain ⟨lists, rfl⟩ := alike.but_lists
  exact alike.update s.attempts s.completed true s.fresh (Nat.le_of_eq (by rw [listsInUse_eq]))

theorem refl (limited : s.limits = limits) (capped : limits.matchLimit.toNat ≤ bound)
    (bounded : s.lists ≤ bound) : Alike limits bound spare s s :=
  ⟨rfl, limited, capped, ⟨bounded, bounded⟩, .inl rfl⟩

theorem claimList_same (alike : Alike limits bound 0 s t) (equal : s.lists = t.lists) (plan : Query.Plan)
    (keep : Option Nat) :
    (s.claimList plan keep = none ∧ t.claimList plan keep = none) ∨
      ∃ s' t', s.claimList plan keep = some s' ∧ t.claimList plan keep = some t' ∧
        Alike limits bound 1 s' t' := by
  have same : t = s := by rw [alike.same, ← equal]
  rw [same]
  cases claimed : s.claimList plan keep with
  | none => exact .inl ⟨rfl, rfl⟩
  | some after =>
    obtain ⟨kept, few⟩ := claimList_keeps claimed
    have most := Nat.max_le.mpr ⟨alike.bounded.1, alike.limited ▸ alike.capped⟩
    exact .inr ⟨after, after, rfl, rfl,
      refl (kept.trans alike.limited) alike.capped (Nat.le_trans few most)⟩

/-- A list is found in both searches or in neither. -/
theorem claimList (alike : Alike limits bound 0 s t) (plan : Query.Plan) (keep : Option Nat) :
    (s.claimList plan keep = none ∧ t.claimList plan keep = none) ∨
      ∃ s' t', s.claimList plan keep = some s' ∧ t.claimList plan keep = some t' ∧
        Alike limits bound 1 s' t' := by
  rcases alike.room with equal | ⟨left, right⟩
  · exact alike.claimList_same equal plan keep
  · have inUse : t.listsInUse = s.listsInUse := by rw [alike.same]; rfl
    have limit : t.limits = s.limits := by rw [alike.same]
    by_cases free : s.listsInUse < s.limits.matchLimit.toNat
    · obtain ⟨more, claimed, spared⟩ := claimList_free plan keep left free
      obtain ⟨others, claimed', spared'⟩ := claimList_free plan keep right (by rwa [inUse, limit])
      have capped := alike.limited ▸ alike.capped
      refine .inr ⟨_, _, claimed, claimed', ?_, alike.limited, alike.capped, ⟨?_, ?_⟩,
        .inr ⟨spared, spared'⟩⟩
      · rw [alike.same]
      · exact Nat.le_trans spared.allowed capped
      · exact Nat.le_trans spared'.allowed (limit ▸ capped)
    · -- All lists that the limit allows are in use, in both searches.
      have := left.spared
      have := left.allowed
      have := right.spared
      have := right.allowed
      rw [limit] at this
      exact alike.claimList_same (by omega) plan keep

theorem insert (alike : Alike limits bound spare s t) (index : Nat) (attempt : Attempt)
    (spared : (if attempt.captures.isSome then 1 else 0) ≤ spare) :
    Alike limits bound 0 { s with attempts := s.attempts.insertIdx index attempt }
      { t with attempts := t.attempts.insertIdx index attempt } := by
  rw [alike.attempts_eq]
  refine alike.withAttempts _ ?_
  have := Attempt.held_insertIdx s.attempts index attempt
  rw [Attempt.held_cons] at this
  omega

theorem copy (alike : Alike limits bound 0 s t) (plan : Query.Plan) (index : Nat)
    (change : Attempt → Attempt) (keeps : ∀ attempt, (change attempt).captures = attempt.captures) :
    Alike limits bound 0 (s.copy plan index change).1 (t.copy plan index change).1 ∧
      (t.copy plan index change).2 = (s.copy plan index change).2 := by
  rw [Search.copy, Search.copy, alike.attempt?_eq]
  cases s.attempt? index with
  | none => exact ⟨alike, rfl⟩
  | some attempt =>
    by_cases held : attempt.captures.isNone = true
    · have free := (keeps attempt).trans (Option.isNone_iff_eq_none.mp held)
      simp only [held, ↓reduceIte]
      exact ⟨alike.insert _ _ (by simp [free]), trivial⟩
    · simp only [held]
      rcases alike.claimList plan (some index) with ⟨none, none'⟩ | ⟨s', t', claimed, claimed', alike⟩
      · rw [none, none']
        exact ⟨alike.noteExceeded, rfl⟩
      · rw [claimed, claimed']
        exact ⟨alike.insert _ _ (by split <;> omega), rfl⟩

theorem capture (alike : Alike limits bound 0 s t) (plan : Query.Plan) (index number : Nat)
    (indexes : List Nat) (node : Span) :
    Alike limits bound 0 (s.capture plan index number indexes node)
      (t.capture plan index number indexes node) := by
  rw [Search.capture, Search.capture, alike.attempt?_eq]
  cases found : s.attempt? index with
  | none => exact alike
  | some attempt =>
    simp only
    split
    · exact alike
    split
    next held => exact alike.set found _ (by simp [held])
    next =>
      rcases alike.claimList plan none with ⟨none, none'⟩ | ⟨s', t', claimed, claimed', alike⟩
      · rw [none, none']
        exact alike.noteExceeded.set found _ rfl
      · rw [claimed, claimed']
        exact alike.set_claimed _ _

theorem start (alike : Alike limits bound 0 s t) (plan : Query.Plan) (site : Site)
    (entry : Nat × Query.Entry) :
    Alike limits bound 0 (s.start plan site entry) (t.start plan site entry) := by
  obtain ⟨lists, rfl⟩ := alike.but_lists
  rw [Search.start, Search.start]
  simp only
  split
  · exact alike
  split
  · exact alike
  · refine alike.withAttempts _ ?_
    exact Attempt.held_insertIdx s.attempts _ _

theorem startAll (alike : Alike limits bound 0 s t) (plan : Query.Plan) (site : Site) :
    Alike limits bound 0 (s.startAll plan site) (t.startAll plan site) := by
  rw [Search.startAll, Search.startAll]
  exact List.foldl_rel alike fun entry _ _ _ alike => alike.start plan site entry

theorem captureParent (alike : Alike limits bound 0 s t) (plan : Query.Plan) (site : Site) (index : Nat) :
    Alike limits bound 0 (s.captureParent plan site index) (t.captureParent plan site index) := by
  rw [Search.captureParent, Search.captureParent, alike.attempt?_eq]
  cases found : s.attempt? index with
  | none => exact alike
  | some attempt =>
    simp only
    split
    · exact alike
    cases site.parent with
    | none => exact alike.set found _ rfl
    | some parent =>
      have free := alike.set found { attempt with needsParent := false } rfl
      exact free.capture plan index _ _ _

theorem branch (alike : Alike limits bound 0 s t) (plan : Query.Plan) (fuel index stop : Nat) :
    Alike limits bound 0 (s.branch plan fuel index stop) (t.branch plan fuel index stop) := by
  induction fuel generalizing index stop s t with
  | zero => exact alike
  | succ fuel ih =>
    rw [Search.branch, Search.branch, alike.attempt?_eq]
    split
    · exact alike
    cases found : s.attempt? index with
    | none => exact alike
    | some attempt =>
      simp only
      split
      · exact ih alike _ _
      next next alternative =>
        split
        · exact ih (alike.set found _ (by rfl)) _ _
        next role jump =>
          generalize ((plan.program.step attempt.step).role == Query.Role.again) = isAgain
          have moved : Alike limits bound 0
              (if isAgain then s.set index { attempt with step := attempt.step + 1 } else s)
              (if isAgain then t.set index { attempt with step := attempt.step + 1 } else t) := by
            cases isAgain
            · exact alike
            · exact alike.set found _ rfl
          obtain ⟨copied, both⟩ := moved.copy plan index
            (fun copy => { copy with step := next, immediate := isAgain || copy.immediate })
            fun _ => rfl
          rw [both]
          exact ih copied _ _

theorem take (alike : Alike limits bound 0 s t) (plan : Query.Plan) (site : Site) (index : Nat)
    (step : Query.Step) :
    Alike limits bound 0 (s.take plan site index step) (t.take plan site index step) := by
  have captured := (alike.captureParent plan site index).capture plan index site.number
    step.captures site.label.span
  rw [Search.take, Search.take]
  simp only [captured.attempt?_eq]
  split
  · exact captured
  next attempt found =>
    split
    · exact captured.remove index
    · refine Alike.branch ?_ plan _ index (index + 1)
      exact captured.set found _ rfl

theorem offer (alike : Alike limits bound 0 s t) (plan : Query.Plan) (site : Site) (index : Nat) :
    Alike limits bound 0 (s.offer plan site index) (t.offer plan site index) := by
  rw [Search.offer, Search.offer, alike.attempt?_eq]
  cases found : s.attempt? index with
  | none => exact alike
  | some attempt =>
    have unrivalled := alike.set found { attempt with rivalled := false } rfl
    simp only
    split
    · exact unrivalled
    split
    · split
      · exact unrivalled
      · exact unrivalled.remove index
    · split
      · exact (unrivalled.copy plan index id fun _ => rfl).1.take ..
      · exact unrivalled.take ..

theorem offerAll (alike : Alike limits bound 0 s t) (plan : Query.Plan) (site : Site) (count : Nat) :
    Alike limits bound 0 (s.offerAll plan site count) (t.offerAll plan site count) := by
  induction count generalizing s t with
  | zero => exact alike
  | succ count ih =>
    rw [Search.offerAll, Search.offerAll, alike.attempts_eq]
    exact ih (alike.offer plan site _)

theorem replace (alike : Alike limits bound 0 s t) (going done : List Attempt)
    (fewer : Attempt.held going + Attempt.held done ≤ Attempt.held s.attempts) :
    Alike limits bound 0 { s with attempts := going, completed := done }
      { t with attempts := going, completed := done } := by
  obtain ⟨lists, rfl⟩ := alike.but_lists
  refine alike.update going done s.exceeded s.fresh ?_
  rw [listsInUse_eq]
  omega

theorem enter (alike : Alike limits bound 0 s t) (plan : Query.Plan) (site : Site) :
    Alike limits bound 0 (s.enter plan site) (t.enter plan site) := by
  have started := alike.startAll plan site
  have offered := started.offerAll plan site (s.startAll plan site).attempts.length
  rw [Search.enter, Search.enter]
  simp only [started.attempts_eq, offered.attempts_eq]
  exact offered.replace _ _ (held_settle plan _)

theorem number (alike : Alike limits bound 0 s t) :
    Alike limits bound 0 { s with fresh := s.fresh + 1 } { t with fresh := t.fresh + 1 } := by
  obtain ⟨lists, rfl⟩ := alike.but_lists
  exact alike.update s.attempts s.completed s.exceeded (s.fresh + 1) (Nat.le_of_eq (by rw [listsInUse_eq]))

/-- The completed attempts give their lists back. -/
theorem handOver (alike : Alike limits bound 0 s t) :
    Alike limits bound 0 { s with completed := [] } { t with completed := [] } := by
  obtain ⟨lists, rfl⟩ := alike.but_lists
  exact alike.replace s.attempts [] (Nat.le_refl _)

theorem descends_eq (alike : Alike limits bound spare s t) (plan : Query.Plan) (site : Site) :
    t.descends plan site = s.descends plan site := by
  rw [descends, descends, alike.attempts_eq, alike.limits_eq]

theorem leave (alike : Alike limits bound 0 s t) (plan : Query.Plan) (depth : Nat) :
    Alike limits bound 0 (s.leave plan depth) (t.leave plan depth) := by
  rw [Search.leave, Search.leave, alike.attempts_eq]
  refine alike.replace _ _ ?_
  rw [Nat.add_comm]
  exact Attempt.held_filter s.attempts _ _

end Alike

end Search

structure State.Alike (limits : Limits) (bound : Nat) (left right : State) : Prop where
  same : right = { left with lists := right.lists }
  limited : left.limits = limits
  bounded : left.lists ≤ bound ∧ right.lists ≤ bound

namespace Progress

structure Alike (limits : Limits) (bound : Nat) (p q : Progress) : Prop where
  search : Search.Alike limits bound 0 p.search q.search
  found : Findings.Found (State.Alike limits bound) p.found q.found

variable {limits : Limits} {bound : Nat} {p q : Progress}

theorem Alike.state (alike : Alike limits bound p q) : State.Alike limits bound p.state q.state := by
  obtain ⟨lists, same⟩ := alike.search.but_lists
  refine ⟨?_, alike.search.limited, alike.search.bounded⟩
  simp only [Progress.state, same]

theorem Alike.collect (alike : Alike limits bound p q) : Alike limits bound p.collect q.collect := by
  have states := alike.state
  rw [Progress.collect, Progress.collect, alike.search.completed_eq]
  refine ⟨alike.search.handOver, List.rel_append alike.found ?_⟩
  rw [List.forall₂_map_left_iff, List.forall₂_map_right_iff, List.forall₂_same]
  exact fun attempt _ => ⟨rfl, states⟩

theorem Alike.step (alike : Alike limits bound p q) {change : Search → Search}
    (changed : ∀ {s t}, Search.Alike limits bound 0 s t →
      Search.Alike limits bound 0 (change s) (change t)) :
    Alike limits bound (p.step change) (q.step change) :=
  collect ⟨changed alike.search, alike.found⟩

theorem Alike.enter (alike : Alike limits bound p q) (plan : Query.Plan) (site : Site) :
    let enter (search : Search) := Search.enter plan site { search with fresh := search.fresh + 1 }
    Alike limits bound (p.step enter) (q.step enter) :=
  alike.step fun alike => alike.number.enter plan site

theorem Alike.leave (alike : Alike limits bound p q) (plan : Query.Plan) (depth : Nat) :
    Alike limits bound (p.step (Search.leave plan depth)) (q.step (Search.leave plan depth)) :=
  alike.step fun alike => alike.leave plan depth

mutual

theorem Alike.walk {p q : Progress} (alike : Alike limits bound p q) (grammar : Grammar)
    (plan : Query.Plan) (site : Site) :
    ∀ tree, Alike limits bound (walk grammar plan site tree p) (walk grammar plan site tree q)
  | .node label children => by
    have entered := alike.enter plan site
    rw [Cursor.walk, Cursor.walk]
    simp only [entered.search.descends_eq]
    refine Alike.leave ?_ plan site.depth
    split
    · exact entered.walkAll grammar plan site children _
    · exact entered

theorem Alike.walkAll {p q : Progress} (alike : Alike limits bound p q) (grammar : Grammar)
    (plan : Query.Plan) (parent : Site) :
    ∀ children standings, Alike limits bound (walkAll grammar plan parent children standings p)
      (walkAll grammar plan parent children standings q)
  | [], _ => alike
  | child :: later, standings => by
    rw [Cursor.walkAll, Cursor.walkAll, alike.search.limits_eq, alike.search.fresh_eq]
    exact (alike.walk grammar plan _ child).walkAll grammar plan parent later _

end

end Progress

/-- Under the same limits, either with equally many lists or with no more than the match limit allows. -/
structure State.Exchangeable (limits : Limits) (bound : Nat) (left right : State) : Prop where
  limited : left.limits = limits
  same : right.limits = limits
  capped : limits.matchLimit.toNat ≤ bound
  bounded : left.lists ≤ bound ∧ right.lists ≤ bound
  allowed : left.lists = right.lists ∨
    left.lists ≤ limits.matchLimit.toNat ∧ right.lists ≤ limits.matchLimit.toNat

namespace State

/-- A search finds the same matches either way. -/
theorem Exchangeable.search {limits : Limits} {left right : State}
    (exchangeable : Exchangeable limits bound left right) (grammar : Grammar) (plan : Query.Plan)
    (tree : Tree) :
    (left.search grammar plan tree).Lockstep (Alike limits bound) (right.search grammar plan tree) := by
  obtain ⟨limited, same, capped, bounded, allowed⟩ := exchangeable
  subst limited
  have begun : Progress.Alike left.limits bound (.begin left) (.begin right) := by
    refine ⟨⟨?_, rfl, capped, bounded, allowed.imp_right fun few => ?_⟩, .nil⟩
    · rw [Progress.begin, Progress.begin, same]
    · have few' := few.2
      rw [← same] at few'
      exact ⟨⟨Nat.zero_le _, few.1⟩, ⟨Nat.zero_le _, few'⟩⟩
  have walked := begun.walk grammar plan (rootSite left.limits tree) tree
  rw [State.search, State.search, same]
  exact ⟨⟨rfl, rfl, bounded⟩, walked.found, walked.state⟩

/-- A search leaves the limits as they are, and makes lists only up to the match limit. -/
theorem search_keeps (state : State) (grammar : Grammar) (plan : Query.Plan) (tree : Tree) :
    ∀ left ∈ (state.search grammar plan tree).cursors, left.limits = state.limits ∧
      left.lists ≤ max state.lists state.limits.matchLimit.toNat := by
  have itself : Exchangeable state.limits (max state.lists state.limits.matchLimit.toNat) state state :=
    ⟨rfl, rfl, Nat.le_max_right _ _, ⟨Nat.le_max_left _ _, Nat.le_max_left _ _⟩, .inl rfl⟩
  intro left member
  have alike := Findings.lockstep_self.mp (itself.search grammar plan tree) left member
  exact ⟨alike.limited, alike.bounded.1⟩

end State

end SyntaxQuery.Cursor
