import SyntaxQuery.Config.Load
import SyntaxQuery.Proofs.CacheHistory

/-! What comes of loading a text: a configuration without issues, or a fault that knows of no file. The cache
of regexes has no part in it. -/
namespace SyntaxQuery

namespace RegexCache

variable [RegexCompiler]

theorem Blind.adapt {step : Cached ε α} (blind : Blind step.run) (change : ε → δ) :
    Blind (ExceptT.adapt change step).run :=
  blind.bind fun result => .pure (result.mapError change)

theorem Blind.bindStep {step : StateM RegexCache α} {next : α → Cached ε β} (blind : Blind step)
    (blinds : ∀ value, Blind (next value).run) : Blind (liftM step >>= next : Cached ε β).run :=
  blind.bind blinds

end RegexCache

namespace Cached

theorem run_adapt (step : Cached ε α) (change : ε → δ) (cache : RegexCache) :
    (ExceptT.adapt change step).run cache =
      ((step.run cache).1.mapError change, (step.run cache).2) := rfl

theorem of_adapt_error {step : Cached ε α} {change : ε → δ}
    (failed : ((ExceptT.adapt change step).run cache).1 = .error fault) :
    ∃ cause, (step.run cache).1 = .error cause ∧ change cause = fault := by
  rw [run_adapt] at failed
  cases result : (step.run cache).1 with
  | ok value =>
    rw [result] at failed
    cases failed
  | error cause =>
    rw [result] at failed
    exact ⟨cause, rfl, Except.error.inj failed⟩

theorem adapt_bind (first : Cached ε α) (next : α → Cached ε β) (change : ε → δ) :
    (first >>= next).adapt change =
      first.adapt change >>= fun value => (next value).adapt change := by
  refine ExceptT.ext (funext fun cache => ?_)
  rw [run_adapt, run_bind, run_bind, run_adapt]
  rcases first.run cache with ⟨fault | value, later⟩
  · rfl
  · rfl

/-- No fault of the step tells a file. -/
def Bare (step : Cached ConfigError α) : Prop :=
  ∀ cache fault, (step.run cache).1 = .error fault → fault.path? = none

theorem Bare.bind {first : Cached ConfigError α} {next : α → Cached ConfigError β} (bare : Bare first)
    (bares : ∀ value, Bare (next value)) : Bare (first >>= next) := by
  intro cache fault failed
  rw [run_bind] at failed
  rcases ran : first.run cache with ⟨other | value, later⟩
  · rw [ran] at failed
    cases failed
    exact bare cache fault (congrArg Prod.fst ran)
  · rw [ran] at failed
    exact bares value later fault failed

end Cached

variable [Engine] [RegexCompiler] [Toml.DocumentReader]

namespace QueryConfig

inductive Loaded (text : String) (cache : RegexCache) :
    Except ConfigError QueryConfig × RegexCache → Prop where
  | malformed : ofText text = .error cause → Loaded text cache (.error (.layout none text cause), cache)
  | invalid : ofText text = .ok config → config.issues.run cache = (issue :: others, later) →
      Loaded text cache (.error (.validation none (issue :: others)), later)
  | valid : ofText text = .ok config → config.issues.run cache = ([], later) →
      Loaded text cache (.ok config, later)

theorem load_cases (text : String) (cache : RegexCache) : Loaded text cache ((load text).run cache) := by
  rw [load]
  cases read : ofText text with
  | error cause => exact .malformed read
  | ok config =>
    simp only [Cached.run_step]
    rcases ran : config.issues.run cache with ⟨_ | ⟨issue, issues⟩, later⟩
    · exact .valid read ran
    · exact .invalid read ran

theorem load_bare (text : String) : Cached.Bare (load text) := by
  intro cache fault failed
  have loaded := load_cases text cache
  generalize (load text).run cache = outcome at loaded failed
  cases loaded <;> cases failed <;> rfl

theorem load_blind (text : String) : RegexCache.Blind (load text).run := by
  rw [load]
  cases ofText text with
  | error cause => exact .pure _
  | ok config =>
    refine config.issues_blind.bindStep fun issues => ?_
    cases issues <;> exact .pure _

end QueryConfig

namespace CompiledQuery

theorem load_bare (text : String) : Cached.Bare (load text) := by
  refine (QueryConfig.load_bare text).bind fun config cache fault failed => ?_
  obtain ⟨cause, -, rfl⟩ := Cached.of_adapt_error failed
  rfl

theorem load_blind (text : String) : RegexCache.Blind (load text).run := by
  refine (QueryConfig.load_blind text).bindCached fun config => .adapt ?_ _
  refine config.compile_blind.bind fun result => ?_
  cases result <;> exact .pure _

end CompiledQuery

end SyntaxQuery
