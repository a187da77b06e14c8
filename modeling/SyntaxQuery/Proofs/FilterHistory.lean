import SyntaxQuery.Proofs.FilterSearch

/-! The life of a filter under any interleaving of calls. The source carries a log of its pulls, so
that the counters, the matches shown and the end can be compared with what the source produced. -/
namespace SyntaxQuery

namespace MatchSource

/-- The source with a log of its pulls, oldest first; `none` is a pull that found nothing. -/
def logged (source : MatchSource σ π) : MatchSource (σ × List (Option Match)) π where
  next t captures provider :=
    let (found, captures, rest, provider) := source.next t.1 captures provider
    (found, captures, (rest, t.2 ++ [found.map fun pattern => ⟨pattern, captures⟩]), provider)

end MatchSource

inductive FilterAction where
  | advance
  /-- Advances and shows the match. -/
  | next
  | get
  /-- A request made directly to the provider. -/
  | request (request : Request)

namespace FilterAction

def advances : FilterAction → Bool
  | advance | next => true
  | get | request _ => false

end FilterAction

namespace Filter

abbrev Logged (σ π : Type) := Filter (σ × List (Option Match)) π

namespace Logged

def pulls (filter : Logged σ π) : List (Option Match) := filter.source.2

def candidates (filter : Logged σ π) : List Match := filter.pulls.filterMap id

def erase (filter : Logged σ π) : Filter σ π := { filter with source := filter.source.1 }

end Logged

/-- `none` means that `limit` pulls did not decide an advance. -/
def perform (source : MatchSource σ π) (table : PredicateTable) (p : Provider π) (limit : Nat) :
    FilterAction → Filter σ π → Option (Filter σ π)
  | .advance, filter | .next, filter => filter.advance source table p limit
  | .get, filter => some filter
  | .request request, filter => some (filter.request p request).2

def run (source : MatchSource σ π) (table : PredicateTable) (p : Provider π) (limit : Nat) :
    List FilterAction → Filter σ π → Option (Filter σ π)
  | [], filter => some filter
  | action :: actions, filter =>
    (filter.perform source table p limit action).bind (run source table p limit actions)

structure Turn where
  action : FilterAction
  /-- The candidate that raised the count of accepted ones, the last one pulled. -/
  accepted : Option Match
  /-- What `get` returns after the action. -/
  shown : Option Match

def turn (action : FilterAction) (before after : Logged σ π) : Turn where
  action := action
  accepted := if before.accepted < after.accepted then after.pulls.getLast?.join else none
  shown := after.get

def history (source : MatchSource σ π) (table : PredicateTable) (p : Provider π) (limit : Nat) :
    List FilterAction → Logged σ π → Option (List Turn × Logged σ π)
  | [], filter => some ([], filter)
  | action :: actions, filter =>
    (filter.perform source.logged table p limit action).bind fun next =>
      (history source table p limit actions next).map fun (turns, last) =>
        (turn action filter next :: turns, last)

/-- The matches yielded: what an advance shows. -/
def yielded (turns : List Turn) : List Match :=
  turns.filterMap fun turn => if turn.action.advances then turn.shown else none

def latest (turns : List Turn) : Option Match :=
  turns.foldl (fun last turn => if turn.action.advances then turn.accepted else last) none

@[simp] theorem latest_concat (turns : List Turn) (turn : Turn) :
    latest (turns ++ [turn]) = if turn.action.advances then turn.accepted else latest turns := by
  simp [latest]

structure Ledger (turns : List Turn) (filter : Logged σ π) : Prop where
  counted : filter.accepted + filter.rejected = filter.candidates.length
  accepted : filter.accepted = (yielded turns).length
  ordered : (yielded turns).Sublist filter.candidates
  current : filter.get = latest turns
  shown : ∀ earlier turn later, turns = earlier ++ turn :: later →
    turn.shown = latest (earlier ++ [turn])
  ended : filter.finished = true ↔ none ∈ filter.pulls
  closed : filter.finished = true → filter.get = none

variable {source : MatchSource σ π} {table : PredicateTable} {p : Provider π}

theorem new_ledger (s : σ) (provider : π) : Ledger [] (.new (s, []) provider : Logged σ π) := by
  constructor <;> simp [new, Logged.candidates, Logged.pulls, get, latest, yielded]

/-- All that an advance can do: candidates fail until one passes or there are none, unless the source
was found empty before. -/
inductive Advanced (before after : Logged σ π) : Prop where
  | searched (rejects : List Match) (outcome : Option Match) : before.finished = false →
      after.pulls = before.pulls ++ rejects.map some ++ [outcome] → after.get = outcome →
      after.accepted = before.accepted + outcome.toList.length →
      after.rejected = before.rejected + rejects.length → after.finished = outcome.isNone →
      Advanced before after
  | skipped : before.finished = true → after = { before with hasCurrent := false } →
      Advanced before after

theorem logged_next (next : source.logged.next t captures lent = (found, buffer, rest, left)) :
    rest.2 = t.2 ++ [found.map fun pattern => ⟨pattern, buffer⟩] := by
  simp only [MatchSource.logged, Prod.mk.injEq] at next
  obtain ⟨rfl, rfl, rfl, -⟩ := next
  rfl

theorem search_advanced {before after : Logged σ π} (unfinished : before.finished = false)
    (cleared : before.hasCurrent = false)
    (found : before.search source.logged table p limit = some after) : Advanced before after := by
  induction limit generalizing before with
  | zero => simp [search] at found
  | succ limit ih =>
    rw [search_succ] at found
    rcases result : before.pull source.logged table p with ⟨ended, pulled⟩
    rw [result] at found
    cases pull_cases result with
    | @passed pattern captures _ _ _ _ next =>
      obtain rfl := Option.some.inj found
      exact .searched [] (some ⟨pattern, captures⟩) unfinished
        (by simpa [Logged.pulls] using logged_next next) rfl rfl rfl unfinished
    | @failed pattern captures _ _ _ _ next =>
      have logged := logged_next next
      rw [if_neg Bool.false_ne_true] at found
      cases ih (by exact unfinished) (by exact cleared) found with
      | searched rejects outcome _ pulls shown accepted rejected finished =>
        refine .searched (⟨pattern, captures⟩ :: rejects) outcome unfinished ?_ shown accepted ?_ finished
        · rw [pulls]
          simp [Logged.pulls, logged]
        · simp only [rejected, List.length_cons]
          omega
      | skipped finished => simp [unfinished] at finished
    | dry next =>
      obtain rfl := Option.some.inj found
      exact .searched [] none unfinished (by simpa [Logged.pulls] using logged_next next)
        (by simp [get, cleared]) rfl rfl rfl

theorem advance_cases {before after : Logged σ π}
    (advanced : before.advance source.logged table p limit = some after) :
    Advanced before after := by
  simp only [advance] at advanced
  split at advanced
  next finished => exact .skipped finished (Option.some.inj advanced).symm
  next unfinished =>
    cases search_advanced (by simpa using unfinished) rfl advanced with
    | searched rejects outcome still pulls shown accepted rejected finished =>
      exact .searched rejects outcome still pulls shown accepted rejected finished
    | skipped finished => contradiction

theorem candidates_append {before after : Logged σ π} {rejects : List Match} {outcome : Option Match}
    (pulls : after.pulls = before.pulls ++ rejects.map some ++ [outcome]) :
    after.candidates = before.candidates ++ rejects ++ outcome.toList := by
  cases outcome <;> simp [Logged.candidates, pulls, List.filterMap_map]

theorem split_concat {all earlier later : List α} (split : all ++ [last] = earlier ++ one :: later) :
    (all = earlier ∧ last = one) ∨ ∃ rest, all = earlier ++ one :: rest := by
  rcases List.eq_nil_or_concat later with rfl | ⟨rest, final, rfl⟩
  · left
    simpa using List.append_inj' split rfl
  · right
    rw [List.concat_eq_append, ← List.cons_append, ← List.append_assoc] at split
    exact ⟨rest, (List.append_inj' split rfl).1⟩

theorem Ledger.shown_concat {before after : Logged σ π} (ledger : Ledger turns before)
    (current : after.get = latest (turns ++ [turn action before after])) :
    ∀ earlier one later, turns ++ [turn action before after] = earlier ++ one :: later →
      one.shown = latest (earlier ++ [one]) := by
  intro earlier one later split
  rcases split_concat split with ⟨rfl, rfl⟩ | ⟨rest, rfl⟩
  · exact current
  · exact ledger.shown earlier one rest rfl

/-- Neither `get` nor a direct request is seen by the ledger. -/
theorem Ledger.quiet {before : Logged σ π} (ledger : Ledger turns before) (provider : π)
    (still : action.advances = false) :
    Ledger (turns ++ [turn action before { before with provider := provider }])
      { before with provider := provider } := by
  have current : before.get = latest (turns ++ [turn action before { before with provider }]) := by
    rw [latest_concat, ledger.current]
    simp [turn, still]
  have yields : yielded (turns ++ [turn action before { before with provider }]) = yielded turns := by
    simp [yielded, turn, still]
  exact {
    counted := ledger.counted
    accepted := by rw [yields]; exact ledger.accepted
    ordered := by rw [yields]; exact ledger.ordered
    current := current
    shown := ledger.shown_concat current
    ended := ledger.ended
    closed := ledger.closed }

theorem Ledger.advance {before after : Logged σ π} (ledger : Ledger turns before)
    (advances : action.advances = true) (advanced : Advanced before after) :
    Ledger (turns ++ [turn action before after]) after := by
  cases advanced with
  | searched rejects outcome unfinished pulls shown accepted rejected finished =>
    have candidates := candidates_append pulls
    have raised : (turn action before after).accepted = outcome := by
      cases outcome <;> simp [turn, accepted, pulls]
    have current : after.get = latest (turns ++ [turn action before after]) := by
      rw [latest_concat, raised, shown]
      simp [turn, advances]
    have yields : yielded (turns ++ [turn action before after]) =
        yielded turns ++ outcome.toList := by
      cases outcome <;> simp [yielded, turn, advances, shown]
    have fresh : none ∉ before.pulls := by
      rw [← ledger.ended, unfinished]
      exact Bool.false_ne_true
    exact {
      counted := by
        rw [accepted, rejected, candidates, List.length_append, List.length_append,
          ← ledger.counted]
        omega
      accepted := by rw [yields, List.length_append, ← ledger.accepted, accepted]
      ordered := by
        rw [yields, candidates, List.append_assoc]
        exact ledger.ordered.append (List.sublist_append_right _ _)
      current := current
      shown := ledger.shown_concat current
      ended := by rw [finished, pulls]; cases outcome <;> simp [fresh]
      closed := by rw [finished, shown]; exact Option.isNone_iff_eq_none.mp }
  | skipped finished same =>
    subst same
    have current : none =
        latest (turns ++ [turn action before { before with hasCurrent := false }]) := by
      rw [latest_concat]
      simp [turn, advances]
    have yields : yielded (turns ++ [turn action before { before with hasCurrent := false }]) =
        yielded turns := by
      simp [yielded, turn, get]
    exact {
      counted := ledger.counted
      accepted := by rw [yields]; exact ledger.accepted
      ordered := by rw [yields]; exact ledger.ordered
      current := current
      shown := ledger.shown_concat current
      ended := ledger.ended
      closed := fun _ => rfl }

theorem perform_ledger {before after : Logged σ π} (ledger : Ledger turns before)
    (performed : before.perform source.logged table p limit action = some after) :
    Ledger (turns ++ [turn action before after]) after := by
  cases action with
  | advance | next => exact ledger.advance rfl (advance_cases performed)
  | get =>
    obtain rfl := Option.some.inj performed
    exact ledger.quiet before.provider rfl
  | request request =>
    obtain rfl := Option.some.inj performed
    exact ledger.quiet _ rfl

theorem history_ledger {before after : Logged σ π} (ledger : Ledger turns before)
    (ran : before.history source table p limit actions = some (more, after)) :
    Ledger (turns ++ more) after := by
  induction actions generalizing turns before more with
  | nil =>
    obtain ⟨rfl, rfl⟩ := Prod.mk.inj (Option.some.inj ran)
    simpa using ledger
  | cons action actions ih =>
    obtain ⟨next, performed, tail⟩ := Option.bind_eq_some_iff.mp ran
    obtain ⟨⟨rest, last⟩, later, same⟩ := Option.map_eq_some_iff.mp tail
    obtain ⟨rfl, rfl⟩ := Prod.mk.inj same
    simpa using ih (perform_ledger ledger performed) later

/-- The source was empty once: it is not asked again, and nothing is counted or shown any more. -/
structure Over (filter last : Logged σ π) : Prop where
  source : last.source = filter.source
  accepted : last.accepted = filter.accepted
  rejected : last.rejected = filter.rejected
  shown : last.get = none
  finished : last.finished = true

theorem perform_over {filter : Logged σ π} (finished : filter.finished = true)
    (closed : filter.get = none) (limit : Nat) (action : FilterAction) :
    ∃ next, filter.perform source.logged table p limit action = some next ∧ Over filter next := by
  cases action with
  | advance | next =>
    exact ⟨{ filter with hasCurrent := false }, if_pos finished, rfl, rfl, rfl, rfl, finished⟩
  | get => exact ⟨filter, rfl, rfl, rfl, rfl, closed, finished⟩
  | request request => exact ⟨_, rfl, rfl, rfl, rfl, closed, finished⟩

theorem history_over {filter : Logged σ π} (finished : filter.finished = true)
    (closed : filter.get = none) (limit : Nat) (actions : List FilterAction) :
    ∃ turns last, filter.history source table p limit actions = some (turns, last) ∧
      Over filter last ∧ ∀ turn ∈ turns, turn.shown = none := by
  induction actions generalizing filter with
  | nil => exact ⟨[], filter, rfl, ⟨rfl, rfl, rfl, closed, finished⟩, by simp⟩
  | cons action actions ih =>
    obtain ⟨next, performed, silent⟩ : ∃ next,
        filter.perform source.logged table p limit action = some next ∧ Over filter next :=
      perform_over finished closed limit action
    obtain ⟨turns, last, ran, later, shown⟩ := ih silent.finished silent.shown
    refine ⟨turn action filter next :: turns, last, ?_, ?_, ?_⟩
    · simp [history, performed, ran]
    · exact ⟨later.source.trans silent.source, later.accepted.trans silent.accepted,
        later.rejected.trans silent.rejected, later.shown, later.finished⟩
    · exact List.forall_mem_cons.mpr ⟨silent.shown, shown⟩

/-! The log is no part of the filter: without it the run is the same. -/

theorem pull_erase (filter : Logged σ π) :
    filter.erase.pull source table p =
      ((filter.pull source.logged table p).1, Logged.erase (filter.pull source.logged table p).2) := by
  rcases next : source.next filter.source.1 filter.current.captures filter.provider with
    ⟨_ | pattern, captures, rest, lent⟩
  · simp [pull, MatchSource.logged, Logged.erase, next]
  · rcases checked : filter.evaluator.evaluate ⟨pattern, captures⟩ (table.forPattern pattern) p lent
      with ⟨_ | _, checker, left⟩ <;>
      simp [pull, MatchSource.logged, Logged.erase, next, checked]

theorem search_erase (filter : Logged σ π) (limit : Nat) :
    filter.erase.search source table p limit =
      (filter.search source.logged table p limit).map Logged.erase := by
  induction limit generalizing filter with
  | zero => rfl
  | succ limit ih =>
    rw [search_succ, search_succ, pull_erase]
    split
    · rfl
    · exact ih _

theorem perform_erase (filter : Logged σ π) (limit : Nat) (action : FilterAction) :
    filter.erase.perform source table p limit action =
      (filter.perform source.logged table p limit action).map Logged.erase := by
  cases action with
  | advance | next =>
    simp only [perform, advance]
    by_cases finished : filter.finished = true
    · rw [if_pos finished]
      exact if_pos finished
    · rw [if_neg finished, ← search_erase]
      exact if_neg finished
  | get | request => rfl

theorem history_erase (filter : Logged σ π) (limit : Nat) (actions : List FilterAction) :
    (filter.history source table p limit actions).map (·.2.erase) =
      filter.erase.run source table p limit actions := by
  induction actions generalizing filter with
  | nil => rfl
  | cons action actions ih =>
    rw [run, perform_erase, history]
    cases performed : filter.perform source.logged table p limit action with
    | none => rfl
    | some next =>
      simp only [Option.bind_some, Option.map_some, ← ih next, Option.map_map]
      rfl

/-! Every action ends if the source does. -/

theorem perform_mono {filter next : Filter σ π} (le : limit ≤ more)
    (performed : filter.perform source table p limit action = some next) :
    filter.perform source table p more action = some next := by
  cases action with
  | advance | next => exact advance_mono le performed
  | get | request => exact performed

theorem run_mono {filter last : Filter σ π} (le : limit ≤ more)
    (ran : filter.run source table p limit actions = some last) :
    filter.run source table p more actions = some last := by
  induction actions generalizing filter with
  | nil => exact ran
  | cons action actions ih =>
    obtain ⟨next, performed, later⟩ := Option.bind_eq_some_iff.mp ran
    exact Option.bind_eq_some_iff.mpr ⟨next, perform_mono le performed, ih later⟩

theorem perform_terminates {filter : Filter σ π} (ending : filter.Ending source)
    (action : FilterAction) :
    ∃ limit next, filter.perform source table p limit action = some next ∧ next.Ending source := by
  cases action with
  | advance | next =>
    by_cases finished : filter.finished = true
    · exact ⟨0, _, if_pos finished, .inl finished⟩
    · obtain ⟨limit, last, found, later⟩ := search_terminates table p
        { filter with hasCurrent := false } (ending.resolve_left finished)
      exact ⟨limit, last, (if_neg finished).trans found, later⟩
  | get | request => exact ⟨0, _, rfl, ending⟩

theorem run_terminates {filter : Filter σ π} (ending : filter.Ending source)
    (actions : List FilterAction) :
    ∃ limit last, filter.run source table p limit actions = some last := by
  induction actions generalizing filter with
  | nil => exact ⟨0, filter, rfl⟩
  | cons action actions ih =>
    obtain ⟨first, next, performed, ending⟩ := perform_terminates ending action
    obtain ⟨second, last, ran⟩ := ih ending
    exact ⟨max first second, last, Option.bind_eq_some_iff.mpr
      ⟨next, perform_mono (Nat.le_max_left ..) performed, run_mono (Nat.le_max_right ..) ran⟩⟩

/-- A filter accounts for its source under any interleaving of calls: each candidate is counted once,
those accepted are shown in order, and after the source had nothing the filter is closed for good.
If the source can only produce finitely many candidates, every call returns. -/
theorem lifecycle (source : MatchSource σ π) (table : PredicateTable) (p : Provider π) (s : σ)
    (provider : π) :
    (∀ limit actions, ((new (s, []) provider).history source table p limit actions).map (·.2.erase) =
      (new s provider).run source table p limit actions) ∧
    (∀ limit actions turns filter,
      (new (s, []) provider).history source table p limit actions = some (turns, filter) →
      Ledger turns filter ∧
      (none ∈ filter.pulls → ∀ limit more, ∃ later last,
        filter.history source table p limit more = some (later, last) ∧ Over filter last ∧
        ∀ turn ∈ later, turn.shown = none)) ∧
    (source.Exhaustible s [] → ∀ actions, ∃ limit last,
      (new s provider).run source table p limit actions = some last) := by
  refine ⟨fun limit actions => history_erase _ limit actions, ?_, ?_⟩
  · intro limit actions turns filter ran
    have ledger : Ledger turns filter := history_ledger (new_ledger s provider) ran
    refine ⟨ledger, fun empty limit more => ?_⟩
    have finished := ledger.ended.mpr empty
    exact history_over finished (ledger.closed finished) limit more
  · intro exhaustible actions
    exact run_terminates (.inr exhaustible) actions

/-- The second advance finds the source empty, so the third does not see that it goes on. -/
example :
    ((new [some ⟨0, []⟩, none, some ⟨1, []⟩] ()).run (.replay Unit) ⟨[]⟩ (.ofFunction fun _ => [])
        2 [.advance, .advance, .next]).map
      (fun filter => (filter.source, filter.accepted, filter.get)) =
    some ([some ⟨1, []⟩], 1, none) := by
  decide

end Filter

end SyntaxQuery
