import SyntaxQuery.Proofs.CaptureLists

/-! Another end of the range during a search. A search reads the end only to tell whether a node starts before
it. Where that is the same for all nodes, the search goes the same way. -/
namespace SyntaxQuery

namespace Cursor

def Limits.endingAt (stop : UInt32) (limits : Limits) : Limits :=
  { limits with range := { limits.range with stop := stop } }

namespace Search

def endingAt (stop : UInt32) (search : Search) : Search :=
  { search with limits := search.limits.endingAt stop }

/-! Within a node a search reads no end, since the site of the node says whether it meets the range. -/

variable (stop : UInt32) (plan : Query.Plan) (site : Site) (search : Search)

theorem attempts_endingAt : (search.endingAt stop).attempts = search.attempts := rfl

theorem lists_endingAt : (search.endingAt stop).lists = search.lists := rfl

theorem matchLimit_endingAt :
    (search.endingAt stop).limits.matchLimit = search.limits.matchLimit := rfl

theorem listsInUse_endingAt : (search.endingAt stop).listsInUse = search.listsInUse := rfl

theorem victim?_endingAt : (search.endingAt stop).victim? plan = search.victim? plan := rfl

theorem attempt?_endingAt (index : Nat) :
    (search.endingAt stop).attempt? index = search.attempt? index := rfl

theorem set_endingAt (index : Nat) (attempt : Attempt) :
    (search.endingAt stop).set index attempt = (search.set index attempt).endingAt stop := rfl

theorem remove_endingAt (index : Nat) :
    (search.endingAt stop).remove index = (search.remove index).endingAt stop := rfl

theorem noteExceeded_endingAt :
    (search.endingAt stop).noteExceeded = search.noteExceeded.endingAt stop := rfl

theorem claimList_endingAt (keep : Option Nat) :
    (search.endingAt stop).claimList plan keep =
      (search.claimList plan keep).map (endingAt stop) := by
  rw [claimList, claimList, listsInUse_endingAt, lists_endingAt, matchLimit_endingAt, victim?_endingAt]
  split
  · rfl
  split
  · rfl
  cases search.victim? plan with
  | none => rfl
  | some index =>
    simp only
    split <;> rfl

theorem copy_endingAt (index : Nat) (change : Attempt → Attempt) :
    (search.endingAt stop).copy plan index change =
      ((search.copy plan index change).1.endingAt stop, (search.copy plan index change).2) := by
  rw [copy, copy, attempt?_endingAt]
  cases search.attempt? index with
  | none => rfl
  | some attempt =>
    simp only [claimList_endingAt, noteExceeded_endingAt]
    split
    · rfl
    · cases search.claimList plan (some index) <;> rfl

theorem capture_endingAt (index number : Nat) (indexes : List Nat) (node : Span) :
    (search.endingAt stop).capture plan index number indexes node =
      (search.capture plan index number indexes node).endingAt stop := by
  rw [capture, capture, attempt?_endingAt]
  cases search.attempt? index with
  | none => rfl
  | some attempt =>
    simp only [claimList_endingAt, set_endingAt, noteExceeded_endingAt]
    split
    · rfl
    split
    · rfl
    · cases search.claimList plan none <;> rfl

theorem admits_endingAt (step : Query.Step) (entry : Query.Entry) :
    admits (search.endingAt stop).limits site step entry = admits search.limits site step entry := rfl

theorem start_endingAt (entry : Nat × Query.Entry) :
    (search.endingAt stop).start plan site entry = (search.start plan site entry).endingAt stop := by
  simp only [start]
  rw [admits_endingAt, attempts_endingAt]
  split
  · rfl
  · cases placeFor _ _ _ _ <;> rfl

theorem startAll_endingAt :
    (search.endingAt stop).startAll plan site = (search.startAll plan site).endingAt stop := by
  rw [startAll, startAll]
  exact List.foldl_hom (endingAt stop) fun search entry => start_endingAt stop plan site search entry

theorem captureParent_endingAt (index : Nat) :
    (search.endingAt stop).captureParent plan site index =
      (search.captureParent plan site index).endingAt stop := by
  rw [captureParent, captureParent, attempt?_endingAt]
  cases search.attempt? index with
  | none => rfl
  | some attempt =>
    simp only [set_endingAt, capture_endingAt]
    split
    · rfl
    · cases site.parent <;> rfl

theorem branch_endingAt (fuel index last : Nat) :
    (search.endingAt stop).branch plan fuel index last =
      (search.branch plan fuel index last).endingAt stop := by
  induction fuel generalizing index last search with
  | zero => rfl
  | succ fuel ih =>
    rw [branch, branch, attempt?_endingAt]
    split
    · rfl
    cases search.attempt? index with
    | none => rfl
    | some attempt =>
      simp only [set_endingAt, ← apply_ite (endingAt stop), copy_endingAt, ih]
      split
      · rfl
      · split <;> rfl

theorem take_endingAt (index : Nat) (step : Query.Step) :
    (search.endingAt stop).take plan site index step =
      (search.take plan site index step).endingAt stop := by
  rw [take, take]
  simp only [captureParent_endingAt, capture_endingAt, attempt?_endingAt, remove_endingAt, set_endingAt,
    branch_endingAt]
  split
  · rfl
  · split <;> rfl

theorem offer_endingAt (index : Nat) :
    (search.endingAt stop).offer plan site index =
      (search.offer plan site index).endingAt stop := by
  rw [offer, offer, attempt?_endingAt]
  cases search.attempt? index with
  | none => rfl
  | some attempt =>
    simp only [set_endingAt, remove_endingAt, copy_endingAt, ← apply_ite (endingAt stop), take_endingAt]

theorem offerAll_endingAt (count : Nat) :
    (search.endingAt stop).offerAll plan site count =
      (search.offerAll plan site count).endingAt stop := by
  induction count generalizing search with
  | zero => rfl
  | succ count ih =>
    rw [offerAll, offerAll, offer_endingAt, ih]
    rfl

theorem enter_endingAt :
    (search.endingAt stop).enter plan site = (search.enter plan site).endingAt stop := by
  rw [enter, enter, startAll_endingAt, offerAll_endingAt]
  rfl

theorem descends_endingAt :
    (search.endingAt stop).descends plan site = search.descends plan site := rfl

theorem leave_endingAt (depth : Nat) :
    (search.endingAt stop).leave plan depth = (search.leave plan depth).endingAt stop := rfl

end Search

namespace State

def endingAt (stop : UInt32) (state : State) : State :=
  { state with limits := state.limits.endingAt stop }

theorem limits_endingAt (stop : UInt32) (state : State) :
    (state.endingAt stop).limits = state.limits.endingAt stop := rfl

end State

end Cursor

def Tree.Contains (tree : Tree) (span : Span) : Prop :=
  ∃ path node, tree.descend? path = some node ∧ node.label.span = span

theorem Tree.contains_node {label : Label} {children : List Tree} {span : Span} :
    Contains (.node label children) span ↔
      span = label.span ∨ ∃ child ∈ children, child.Contains span := by
  constructor
  · rintro ⟨path, node, descends, rfl⟩
    cases path with
    | nil =>
      cases descends
      exact .inl rfl
    | cons index path =>
      obtain ⟨child, found, descends⟩ := Option.bind_eq_some_iff.mp descends
      exact .inr ⟨child, List.mem_of_getElem? found, path, node, descends, rfl⟩
  · rintro (rfl | ⟨child, member, path, node, descends, rfl⟩)
    · exact ⟨[], _, rfl, rfl⟩
    · obtain ⟨index, found⟩ := List.getElem?_of_mem member
      refine ⟨index :: path, node, ?_, rfl⟩
      rw [descend?, Tree.children, found]
      exact descends

theorem Tree.contains_label (tree : Tree) : tree.Contains tree.label.span := ⟨[], tree, rfl, rfl⟩

namespace Cursor

/-- With the other end, a node that starts before the end still does, and one that does not still does not. -/
def Limits.Indifferent (limits : Limits) (stop : UInt32) (span : Span) : Prop :=
  (limits.endingAt stop).range.isBefore span = limits.range.isBefore span

namespace Limits.Indifferent

variable {limits : Limits} {stop : UInt32} {span : Span}

theorem meets_endingAt (same : limits.Indifferent stop span) (parentMeets : Bool) :
    (limits.endingAt stop).range.meets span parentMeets = limits.range.meets span parentMeets := by
  rw [ByteRange.meets, ByteRange.meets, same]
  rfl

theorem rootSite_endingAt {tree : Tree} (same : limits.Indifferent stop tree.label.span) :
    rootSite (limits.endingAt stop) tree = rootSite limits tree := by
  rw [rootSite, rootSite, same.meets_endingAt]

theorem childSite_endingAt {parent : Site} {child : Tree}
    (parentSame : limits.Indifferent stop parent.label.span)
    (same : limits.Indifferent stop child.label.span) (later : List Tree)
    (standing : Option Grammar.Standing) (number : Nat) :
    childSite (limits.endingAt stop) parent child later standing number =
      childSite limits parent child later standing number := by
  rw [childSite, childSite, parentSame, same.meets_endingAt]
  rfl

end Limits.Indifferent

namespace Progress

def endingAt (stop : UInt32) (progress : Progress) : Progress :=
  ⟨progress.search.endingAt stop, progress.found.map fun found => (found.1, found.2.endingAt stop)⟩

theorem search_endingAt (stop : UInt32) (progress : Progress) :
    (progress.endingAt stop).search = progress.search.endingAt stop := rfl

theorem limits_endingAt (stop : UInt32) (progress : Progress) :
    (progress.endingAt stop).search.limits = progress.search.limits.endingAt stop := rfl

theorem fresh_endingAt (stop : UInt32) (progress : Progress) :
    (progress.endingAt stop).search.fresh = progress.search.fresh := rfl

theorem step_endingAt (stop : UInt32) (progress : Progress) {change : Search → Search}
    (commutes : ∀ search : Search, change (search.endingAt stop) = (change search).endingAt stop) :
    (progress.endingAt stop).step change = (progress.step change).endingAt stop := by
  rw [step, step, endingAt, commutes, collect, collect, endingAt, List.map_append, List.map_map]
  rfl

theorem enter_endingAt (stop : UInt32) (progress : Progress) (plan : Query.Plan) (site : Site) :
    let enter (search : Search) := Search.enter plan site { search with fresh := search.fresh + 1 }
    (progress.endingAt stop).step enter = (progress.step enter).endingAt stop :=
  progress.step_endingAt stop fun search =>
    Search.enter_endingAt stop plan site { search with fresh := search.fresh + 1 }

theorem leave_endingAt (stop : UInt32) (progress : Progress) (plan : Query.Plan) (depth : Nat) :
    (progress.endingAt stop).step (Search.leave plan depth) =
      (progress.step (Search.leave plan depth)).endingAt stop :=
  progress.step_endingAt stop fun _ => rfl

variable {limits : Limits} {bound : Nat} {stop : UInt32}

-- The progress is alike with itself as long as it keeps the limits, which the sites are made from.
mutual

theorem walk_endingAt {progress : Progress} (alike : Alike limits bound progress progress)
    (grammar : Grammar) (plan : Query.Plan) (site : Site) :
    ∀ tree : Tree, site.label = tree.label → (∀ span, tree.Contains span → limits.Indifferent stop span) →
      walk grammar plan site tree (progress.endingAt stop) =
        (walk grammar plan site tree progress).endingAt stop
  | .node label children, labelled, same => by
    have own := same label.span (Tree.contains_node.mpr (.inl rfl))
    have others : ∀ child ∈ children, ∀ span, child.Contains span → limits.Indifferent stop span :=
      fun child member span inside => same span (Tree.contains_node.mpr (.inr ⟨child, member, inside⟩))
    have entered := progress.enter_endingAt stop plan site
    have through := walkAll_endingAt (alike.enter plan site) grammar plan site (labelled ▸ own) children
      (grammar.standings label (children.map (·.label))) others
    rw [walk, walk]
    simp only [entered]
    rw [← leave_endingAt]
    congr 1
    rw [apply_ite (endingAt stop), through, search_endingAt, Search.descends_endingAt]

theorem walkAll_endingAt {progress : Progress} (alike : Alike limits bound progress progress)
    (grammar : Grammar) (plan : Query.Plan) (parent : Site)
    (parentSame : limits.Indifferent stop parent.label.span) :
    ∀ children standings,
      (∀ child ∈ children, ∀ span, child.Contains span → limits.Indifferent stop span) →
      walkAll grammar plan parent children standings (progress.endingAt stop) =
        (walkAll grammar plan parent children standings progress).endingAt stop
  | [], _, _ => rfl
  | child :: later, standings, same => by
    obtain ⟨first, others⟩ := List.forall_mem_cons.mp same
    rw [walkAll, walkAll, limits_endingAt, fresh_endingAt, alike.search.limited,
      parentSame.childSite_endingAt (first _ child.contains_label),
      walk_endingAt alike grammar plan _ child rfl first]
    exact walkAll_endingAt (alike.walk grammar plan _ child) grammar plan parent parentSame later
      standings.tail others

end

end Progress

/-- Where the other end makes no difference to any node of a tree, its search goes the same way. -/
theorem State.lockstep_endingAt {state : State} {stop : UInt32} {tree : Tree}
    (same : ∀ span, tree.Contains span → state.limits.Indifferent stop span) (grammar : Grammar)
    (plan : Query.Plan) :
    (state.search grammar plan tree).Lockstep (fun left right => right = left.endingAt stop)
      ((state.endingAt stop).search grammar plan tree) := by
  have begun : Progress.Alike state.limits _ (.begin state) (.begin state) :=
    ⟨.refl rfl (Nat.le_max_left _ _) (Nat.le_max_right _ state.lists), .nil⟩
  have walked := Progress.walk_endingAt begun grammar plan (rootSite state.limits tree) tree rfl same
  have site := (same _ tree.contains_label).rootSite_endingAt
  have done : walk grammar plan (rootSite (state.endingAt stop).limits tree) tree
      (.begin (state.endingAt stop)) =
        (walk grammar plan (rootSite state.limits tree) tree (.begin state)).endingAt stop := by
    rw [limits_endingAt, site]
    exact walked
  rw [State.search, State.search, done]
  refine ⟨rfl, ?_, rfl⟩
  rw [Findings.Found, Progress.endingAt, List.forall₂_map_right_iff, List.forall₂_same]
  exact fun _ _ => ⟨rfl, rfl⟩

end Cursor

end SyntaxQuery
