import Mathlib
import SyntaxQuery.Engine.Standard
import SyntaxQuery.Proofs.CacheHistory

/-! Issues of a configuration, field by field. What is said of a field depends on nothing but its value,
and for the value of a predicate also on the predicate's kind. So a field that is repaired is no longer
reported, and no other report changes. -/
namespace SyntaxQuery

namespace QueryConfig

def predicateSites (index : Nat) : List Site := [.capture index, .value index]

def sites (config : QueryConfig) : List Site :=
  [.language, .query, .matchLimit, .byteRange, .chunkSize] ++
    (List.range config.predicates.length).flatMap predicateSites

theorem nodup_sites (config : QueryConfig) : config.sites.Nodup := by
  have predicates : ((List.range config.predicates.length).flatMap predicateSites).Nodup := by
    rw [List.nodup_flatMap]
    refine ⟨fun index _ => by simp [predicateSites], ?_⟩
    refine List.nodup_range.imp fun {first second} different => ?_
    change List.Disjoint (predicateSites first) (predicateSites second)
    simp [predicateSites, different.symm]
  rw [sites, List.nodup_append]
  refine ⟨by decide, predicates, ?_⟩
  rintro own member other inside rfl
  obtain ⟨index, -, inside⟩ := List.mem_flatMap.mp inside
  simp only [predicateSites, List.mem_cons, List.not_mem_nil, or_false] at member inside
  grind

end QueryConfig

namespace PredicateSpec

variable [RegexCompiler]

def directValueFlaw? (spec : PredicateSpec) : Option Flaw :=
  match spec.kind with
  | .equals => none
  | .equalsCapture => if isBlankText spec.value then some .missing else none
  | .matching =>
    match Regex.compile spec.value with
    | .ok _ => none
    | .error cause => some (.rejected (.invalidRegex spec.value cause))

theorem run_valueFlaw? (spec : PredicateSpec) {cache : RegexCache} (sound : cache.Sound) :
    ∃ later, spec.valueFlaw?.run cache = (spec.directValueFlaw?, later) ∧ later.Sound := by
  rw [valueFlaw?, directValueFlaw?]
  cases spec.kind with
  | equals | equalsCapture => exact ⟨cache, rfl, sound⟩
  | matching =>
    obtain ⟨later, resolved, stays⟩ := sound.resolve spec.value
    refine ⟨later, ?_, stays⟩
    have looked : StateT.run (RegexCache.resolve spec.value).run cache = _ := resolved
    rw [RegexCache.run_bind, looked]
    cases Regex.compile spec.value <;> rfl

theorem run_issues (spec : PredicateSpec) (index : Nat) {cache : RegexCache} (sound : cache.Sound) :
    ∃ later, (spec.issues index).run cache = ((spec.captureFlaw?.map (⟨.capture index, ·⟩)).toList ++
      (spec.directValueFlaw?.map (⟨.value index, ·⟩)).toList, later) ∧ later.Sound := by
  obtain ⟨later, flaw, stays⟩ := spec.run_valueFlaw? sound
  refine ⟨later, ?_, stays⟩
  rw [issues, RegexCache.run_bind, flaw]
  rfl

end PredicateSpec

namespace QueryConfig

variable [Engine] [RegexCompiler]

def flawAt? (config : QueryConfig) : Site → Option Flaw
  | .language => config.languageFlaw?
  | .query => config.queryFlaw?
  | .matchLimit => config.matchLimitFlaw?
  | .byteRange => config.byteRangeFlaw?
  | .chunkSize => config.chunkSizeFlaw?
  | .capture index => (config.predicates[index]?).bind (·.captureFlaw?)
  | .value index => (config.predicates[index]?).bind (·.directValueFlaw?)

def issueAt? (config : QueryConfig) (site : Site) : Option Issue := (config.flawAt? site).map (⟨site, ·⟩)

/-- The predicates from some point on, with all predicates before them. -/
theorem run_predicateIssues (config : QueryConfig) (before specs : List PredicateSpec)
    (split : config.predicates = before ++ specs) {cache : RegexCache} (sound : cache.Sound) :
    ((predicateIssues before.length specs).run cache).1 =
      ((List.range' before.length specs.length).flatMap predicateSites).filterMap config.issueAt? := by
  induction specs generalizing before cache with
  | nil => rfl
  | cons spec specs ih =>
    have found : config.predicates[before.length]? = some spec := by
      rw [split, List.getElem?_append_right (Nat.le_refl _), Nat.sub_self]
      rfl
    obtain ⟨later, own, stays⟩ := spec.run_issues before.length sound
    have rest := ih (before ++ [spec]) (by rw [split, List.append_assoc]; rfl) stays
    rw [List.length_append, List.length_singleton] at rest
    rw [predicateIssues, RegexCache.run_bind, own, List.length_cons, List.range'_succ, List.flatMap_cons,
      List.filterMap_append, ← rest]
    have first : (predicateSites before.length).filterMap config.issueAt? =
        (spec.captureFlaw?.map (⟨.capture before.length, ·⟩)).toList ++
          (spec.directValueFlaw?.map (⟨.value before.length, ·⟩)).toList := by
      simp only [predicateSites, List.filterMap_cons, List.filterMap_nil, issueAt?, flawAt?, found,
        Option.bind_some]
      cases spec.captureFlaw? <;> cases spec.directValueFlaw? <;> rfl
    rw [first]
    rfl

/-- Whatever the cache holds, every field that is looked at is reported with the flaw that it has. -/
theorem run_issues (config : QueryConfig) {cache : RegexCache} (sound : cache.Sound) :
    (config.issues.run cache).1 = config.sites.filterMap config.issueAt? := by
  have predicates := config.run_predicateIssues [] config.predicates rfl sound
  rw [issues, RegexCache.run_bind, sites, List.filterMap_append, List.range_eq_range']
  exact congrArg (config.ownIssues ++ ·) predicates

/-- The sites that are reported, in order. -/
theorem sites_of_issues (config : QueryConfig) :
    (config.sites.filterMap config.issueAt?).map (·.site) =
      config.sites.filter fun site => (config.flawAt? site).isSome := by
  induction config.sites with
  | nil => rfl
  | cons site sites ih =>
    rw [List.filterMap_cons, List.filter_cons, issueAt?]
    cases config.flawAt? site with
    | none => exact ih
    | some flaw => exact congrArg (site :: ·) ih

end QueryConfig

/-- What a predicate of the kind takes for a value. -/
def PredicateKind.Accepts [RegexCompiler] (text : String) : PredicateKind → Prop
  | .equals => True
  | .matching => ∃ regex, Regex.compile text = .ok regex
  | .equalsCapture => isBlankText text = false

theorem PredicateSpec.directValueFlaw?_eq_none [RegexCompiler] {spec : PredicateSpec} :
    spec.directValueFlaw? = none ↔ spec.kind.Accepts spec.value := by
  rw [directValueFlaw?]
  cases spec.kind with
  | equals => simp [PredicateKind.Accepts]
  | equalsCapture => simp [PredicateKind.Accepts]
  | matching =>
    rw [PredicateKind.Accepts]
    cases Regex.compile spec.value <;> simp

theorem PredicateSpec.captureFlaw?_eq_none {spec : PredicateSpec} :
    spec.captureFlaw? = none ↔ isBlankText spec.capture = false := by
  simp [captureFlaw?]

/-- White space alone names no language. -/
def Language.NoneBlank [Engine] : Prop := ∀ name, isBlankText name = true → Engine.language? name = none

theorem Language.NoneBlank.of_resolve [Engine] {language : Engine.Language} (noneBlank : NoneBlank)
    (resolved : Language.resolve name = .ok language) : isBlankText name = false := by
  rw [Bool.eq_false_iff]
  intro blank
  rw [Language.resolve, noneBlank name blank] at resolved
  cases resolved

namespace QueryConfig

variable [Engine] [RegexCompiler]

/-- The field has a value that is in order. -/
def Fits (config : QueryConfig) : Site → Prop
  | .language => ∃ language, Language.resolve config.language = .ok language
  | .query => isBlankText config.query = false
  | .matchLimit => config.cursor.matchLimit ≠ some 0
  | .byteRange => ∀ range ∈ config.cursor.byteRange, range.1 ≤ range.2
  | .chunkSize => config.provider.chunkSize ≠ 0
  | .capture index => ∀ spec ∈ config.predicates[index]?, isBlankText spec.capture = false
  | .value index => ∀ spec ∈ config.predicates[index]?, spec.kind.Accepts spec.value

theorem flawAt?_eq_none (noneBlank : Language.NoneBlank) (config : QueryConfig) (site : Site) :
    config.flawAt? site = none ↔ config.Fits site := by
  cases site with
  | language =>
    rw [flawAt?, languageFlaw?, Fits]
    cases resolved : Language.resolve config.language with
    | error cause => split <;> simp
    | ok language => simp [noneBlank.of_resolve resolved]
  | query => simp [flawAt?, queryFlaw?, Fits]
  | matchLimit => simp [flawAt?, matchLimitFlaw?, Fits]
  | byteRange =>
    rw [flawAt?, byteRangeFlaw?, Fits]
    cases config.cursor.byteRange with
    | none => simp
    | some range => simp
  | chunkSize => simp [flawAt?, chunkSizeFlaw?, Fits]
  | capture index => simp [flawAt?, Fits, PredicateSpec.captureFlaw?_eq_none]
  | value index => simp [flawAt?, Fits, PredicateSpec.directValueFlaw?_eq_none]

/-- Where some fields have lost their flaws and the others have kept theirs, the issues of those fields are
gone and the others are as they were. -/
theorem issues_masked {config other : QueryConfig} {masked : Site → Prop} [DecidablePred masked]
    (same : other.sites = config.sites)
    (flaws : ∀ site, other.flawAt? site = if masked site then none else config.flawAt? site) :
    other.sites.filterMap other.issueAt? =
      (config.sites.filterMap config.issueAt?).filter fun issue => ¬masked issue.site := by
  rw [same, List.filter_filterMap]
  congr 1
  funext site
  rw [issueAt?, issueAt?, flaws]
  cases config.flawAt? site with
  | none => simp
  | some flaw => by_cases hidden : masked site <;> simp [hidden, Option.filter_some]

/-- Where some fields have the flaws that they had, their issues are the same. -/
theorem issues_agree {config other : QueryConfig} {kept : Site → Prop} [DecidablePred kept]
    (same : other.sites = config.sites)
    (flaws : ∀ site, kept site → other.flawAt? site = config.flawAt? site) :
    (other.sites.filterMap other.issueAt?).filter (fun issue => kept issue.site) =
      (config.sites.filterMap config.issueAt?).filter fun issue => kept issue.site := by
  rw [same, List.filter_filterMap, List.filter_filterMap]
  congr 1
  funext site
  by_cases shown : kept site
  · rw [issueAt?, issueAt?, flaws site shown]
  · rw [issueAt?, issueAt?]
    cases config.flawAt? site <;> cases other.flawAt? site <;> simp [shown, Option.filter_some]

end QueryConfig

inductive Edit where
  | language (name : String)
  | query (text : String)
  | matchLimit (limit : UInt32)
  | byteRange (start stop : UInt64)
  | chunkSize (size : Nat)
  | capture (predicate : Nat) (name : String)
  | value (predicate : Nat) (text : String)

namespace Edit

def site : Edit → Site
  | language _ => .language
  | query _ => .query
  | matchLimit _ => .matchLimit
  | byteRange _ _ => .byteRange
  | chunkSize _ => .chunkSize
  | capture predicate _ => .capture predicate
  | value predicate _ => .value predicate

def apply (config : QueryConfig) : Edit → QueryConfig
  | language name => { config with language := name }
  | query text => { config with query := text }
  | matchLimit limit => { config with cursor := { config.cursor with matchLimit := some limit } }
  | byteRange start stop => { config with cursor := { config.cursor with byteRange := some (start, stop) } }
  | chunkSize size => { config with provider := ⟨size⟩ }
  | capture predicate name => { config with
      predicates := config.predicates.modify predicate fun spec => { spec with capture := name } }
  | value predicate text => { config with
      predicates := config.predicates.modify predicate fun spec => { spec with value := text } }

def Valid [Engine] [RegexCompiler] (config : QueryConfig) : Edit → Prop
  | language name => ∃ language, Language.resolve name = .ok language
  | query text => isBlankText text = false
  | matchLimit limit => limit ≠ 0
  | byteRange start stop => start ≤ stop
  | chunkSize size => size ≠ 0
  | capture _ name => isBlankText name = false
  | value predicate text => ∀ spec ∈ config.predicates[predicate]?, spec.kind.Accepts text

def onPredicate (index : Nat) (spec : PredicateSpec) : Edit → PredicateSpec
  | capture predicate name => if predicate = index then { spec with capture := name } else spec
  | value predicate text => if predicate = index then { spec with value := text } else spec
  | _ => spec

theorem predicates_apply (config : QueryConfig) (edit : Edit) (index : Nat) :
    (edit.apply config).predicates[index]? = (config.predicates[index]?).map (edit.onPredicate index ·) := by
  cases edit with
  | language | query | matchLimit | byteRange | chunkSize => exact Option.map_id'.symm
  | capture predicate name => exact List.getElem?_modify ..
  | value predicate text => exact List.getElem?_modify ..

theorem onPredicate_kind (edit : Edit) (index : Nat) (spec : PredicateSpec) :
    (edit.onPredicate index spec).kind = spec.kind := by
  cases edit <;> simp only [onPredicate] <;> split <;> rfl

theorem onPredicate_capture {edit : Edit} (other : .capture index ≠ edit.site) (spec : PredicateSpec) :
    (edit.onPredicate index spec).capture = spec.capture := by
  cases edit with
  | language | query | matchLimit | byteRange | chunkSize => rfl
  | capture predicate name =>
    have apart : predicate ≠ index := fun same => other (by rw [same]; rfl)
    rw [onPredicate, if_neg apart]
  | value predicate text =>
    rw [onPredicate]
    split <;> rfl

theorem onPredicate_value {edit : Edit} (other : .value index ≠ edit.site) (spec : PredicateSpec) :
    (edit.onPredicate index spec).value = spec.value := by
  cases edit with
  | language | query | matchLimit | byteRange | chunkSize => rfl
  | capture predicate name =>
    rw [onPredicate]
    split <;> rfl
  | value predicate text =>
    have apart : predicate ≠ index := fun same => other (by rw [same]; rfl)
    rw [onPredicate, if_neg apart]

theorem sites_apply (config : QueryConfig) (edit : Edit) : (edit.apply config).sites = config.sites := by
  cases edit <;> simp [apply, QueryConfig.sites]

def applyAll (edits : List Edit) (config : QueryConfig) : QueryConfig := edits.foldl apply config

theorem sites_applyAll (edits : List Edit) (config : QueryConfig) :
    (applyAll edits config).sites = config.sites := by
  induction edits generalizing config with
  | nil => rfl
  | cons edit edits ih => exact (ih _).trans (sites_apply config edit)

variable [Engine] [RegexCompiler]

/-- A field other than the one that is edited has the flaw that it had. -/
theorem flawAt?_apply_of_ne {config : QueryConfig} {edit : Edit} {place : Site} (other : place ≠ edit.site) :
    (edit.apply config).flawAt? place = config.flawAt? place := by
  cases place with
  | language | query | matchLimit | byteRange | chunkSize =>
    cases edit <;> first | rfl | exact absurd rfl other
  | capture index =>
    rw [QueryConfig.flawAt?, QueryConfig.flawAt?, predicates_apply, Option.bind_map]
    congr 1
    funext spec
    rw [Function.comp_apply, PredicateSpec.captureFlaw?, PredicateSpec.captureFlaw?,
      onPredicate_capture other]
  | value index =>
    rw [QueryConfig.flawAt?, QueryConfig.flawAt?, predicates_apply, Option.bind_map]
    congr 1
    funext spec
    rw [Function.comp_apply, PredicateSpec.directValueFlaw?, PredicateSpec.directValueFlaw?,
      onPredicate_kind, onPredicate_value other]

theorem Valid.fits {config : QueryConfig} {edit : Edit} (valid : edit.Valid config) :
    (edit.apply config).Fits edit.site := by
  cases edit with
  | language | query | chunkSize => exact valid
  | matchLimit limit => exact fun zero => valid (Option.some.inj zero)
  | byteRange start stop =>
    rintro range ⟨⟩
    exact valid
  | capture index name =>
    intro spec member
    rw [predicates_apply] at member
    obtain ⟨old, -, rfl⟩ := Option.map_eq_some_iff.mp member
    rw [onPredicate, if_pos rfl]
    exact valid
  | value index text =>
    intro spec member
    rw [predicates_apply] at member
    obtain ⟨old, found, rfl⟩ := Option.map_eq_some_iff.mp member
    rw [onPredicate, if_pos rfl]
    exact valid old found

/-- Whether a new value is in order does not depend on other edits, since they do not change the kinds. -/
theorem valid_apply {config : QueryConfig} {edit : Edit} (valid : edit.Valid config) (before : Edit) :
    edit.Valid (before.apply config) := by
  cases edit with
  | language | query | matchLimit | byteRange | chunkSize | capture => exact valid
  | value index text =>
    intro spec member
    rw [predicates_apply] at member
    obtain ⟨old, found, rfl⟩ := Option.map_eq_some_iff.mp member
    rw [onPredicate_kind]
    exact valid old found

/-- One edit takes away the flaw of its field and leaves all others. -/
theorem flawAt?_apply (noneBlank : Language.NoneBlank) {config : QueryConfig} {edit : Edit}
    (valid : edit.Valid config) (place : Site) :
    (edit.apply config).flawAt? place = if place = edit.site then none else config.flawAt? place := by
  split
  next here =>
    subst here
    exact (QueryConfig.flawAt?_eq_none noneBlank _ _).mpr valid.fits
  next other => exact flawAt?_apply_of_ne other

theorem flawAt?_applyAll (noneBlank : Language.NoneBlank) {edits : List Edit} {config : QueryConfig}
    (valid : ∀ edit ∈ edits, edit.Valid config) (place : Site) :
    (applyAll edits config).flawAt? place =
      if place ∈ edits.map site then none else config.flawAt? place := by
  induction edits generalizing config with
  | nil => rfl
  | cons edit edits ih =>
    obtain ⟨first, later⟩ := List.forall_mem_cons.mp valid
    have rest := ih fun other member => valid_apply (later other member) edit
    rw [applyAll, List.foldl_cons, ← applyAll, rest, flawAt?_apply noneBlank first]
    simp only [List.map_cons, List.mem_cons]
    split <;> split <;> simp_all

end Edit

namespace QueryConfig

def replacePredicate (config : QueryConfig) (index : Nat) (spec : PredicateSpec) : QueryConfig :=
  { config with predicates := config.predicates.set index spec }

theorem flawAt?_replacePredicate [Engine] [RegexCompiler] {config : QueryConfig} {spec : PredicateSpec}
    {place : Site} (other : place.predicate? ≠ some index) :
    (config.replacePredicate index spec).flawAt? place = config.flawAt? place := by
  cases place with
  | language | query | matchLimit | byteRange | chunkSize => rfl
  | capture predicate | value predicate =>
    have apart : index ≠ predicate := fun same => other (by rw [same]; rfl)
    rw [flawAt?, flawAt?, replacePredicate, List.getElem?_set_ne apart]

end QueryConfig

/-- The index of a predicate and the name of a field tell the fields apart. -/
theorem Site.eq_of_name {first second : Site}
    (same : (first.predicate?, first.name) = (second.predicate?, second.name)) : first = second := by
  cases first <;> cases second <;> simp_all [predicate?, name]

/-- White space alone names no language. Then validation reports, whatever is in the cache, the fields that
are not in order and no others, none of them twice, those of the configuration before those of the
predicates, which come by their indexes. If some fields are given values that are in order, exactly the
issues of the other fields are left, so none is if all that were reported are given such values. And another
predicate in place of one changes no issue but those of this predicate. -/
theorem issues_local [Engine] [RegexCompiler] (noneBlank : Language.NoneBlank) (config : QueryConfig)
    (cache : RegexCache) (reachable : cache.Reachable) :
    let issues := (config.issues.run cache).1
    (issues.map fun issue => (issue.site.predicate?, issue.site.name)).Nodup ∧
    (issues.map (·.site)).Sublist config.sites ∧
    (∀ site, site ∈ issues.map (·.site) ↔ site ∈ config.sites ∧ ¬config.Fits site) ∧
    (∀ (edits : List Edit) (later : RegexCache), later.Reachable →
      (∀ edit ∈ edits, edit.Valid config) →
      let repaired := ((Edit.applyAll edits config).issues.run later).1
      repaired = issues.filter (fun issue => issue.site ∉ edits.map (·.site)) ∧
      ((∀ issue ∈ issues, issue.site ∈ edits.map (·.site)) → repaired = [])) ∧
    ∀ index spec (later : RegexCache), later.Reachable →
      let replaced := ((config.replacePredicate index spec).issues.run later).1
      replaced.filter (fun issue => issue.site.predicate? ≠ some index) =
        issues.filter fun issue => issue.site.predicate? ≠ some index := by
  intro issues
  have found : issues = config.sites.filterMap config.issueAt? := config.run_issues reachable.sound
  have places : issues.map (·.site) = config.sites.filter fun site => (config.flawAt? site).isSome := by
    rw [found, config.sites_of_issues]
  refine ⟨?_, ?_, fun site => ?_, fun edits later fresh valid => ?_, fun index spec later fresh => ?_⟩
  · have single : (issues.map (·.site)).Nodup := places ▸ config.nodup_sites.filter _
    have named := single.map (f := fun site => (site.predicate?, site.name)) fun _ _ => Site.eq_of_name
    rwa [List.map_map] at named
  · rw [places]
    exact List.filter_sublist
  · rw [places, List.mem_filter, ← config.flawAt?_eq_none noneBlank, Option.isSome_iff_ne_none]
  · intro repaired
    have left : repaired = issues.filter fun issue => issue.site ∉ edits.map (·.site) := by
      rw [found, ← QueryConfig.issues_masked (Edit.sites_applyAll edits config)
        (Edit.flawAt?_applyAll noneBlank valid)]
      exact QueryConfig.run_issues _ fresh.sound
    refine ⟨left, fun all => ?_⟩
    rw [left, List.filter_eq_nil_iff]
    exact fun issue member => by simpa using all issue member
  · intro replaced
    have same : (config.replacePredicate index spec).sites = config.sites := by
      rw [QueryConfig.sites, QueryConfig.replacePredicate, List.length_set, QueryConfig.sites]
    have ran : replaced = (config.replacePredicate index spec).sites.filterMap _ :=
      QueryConfig.run_issues _ fresh.sound
    rw [found, ran]
    exact QueryConfig.issues_agree same fun _ => QueryConfig.flawAt?_replacePredicate

/-- No letter of the basic Latin alphabet is white space. -/
theorem not_isWhiteSpace_of_isAlpha {c : Char} (letter : c.isAlpha) : Unicode.isWhiteSpace c = false := by
  have small : c.toNat < 128 := by
    simp only [Char.isAlpha, Char.isUpper, Char.isLower, Bool.or_eq_true, Bool.and_eq_true,
      decide_eq_true_eq, UInt32.le_iff_toNat_le] at letter
    have : c.val.toNat = c.toNat := rfl
    have : 'Z'.val.toNat = 90 ∧ 'z'.val.toNat = 122 := by decide
    omega
  have table : (List.range 128).all fun code =>
      !(Char.ofNat code).isAlpha || !Unicode.whiteSpace.contains code := by decide +kernel
  have here := List.all_eq_true.mp table c.toNat (List.mem_range.mpr small)
  rw [Char.ofNat_toNat, letter] at here
  simpa [Unicode.isWhiteSpace] using here

/-- White space alone names no language: letter case does not matter to it, and every name has letters. -/
theorem Language.noneBlank_standard : NoneBlank := by
  intro name blank
  refine List.find?_eq_none.mpr fun language _ matching => ?_
  obtain ⟨own, listed, same⟩ := List.any_eq_true.mp matching
  have lettered : language.aliases.all fun own => (own.toList.map Char.toLower).any (·.isAlpha) := by
    cases language <;> decide
  obtain ⟨low, member, letter⟩ := List.any_eq_true.mp (List.all_eq_true.mp lettered own listed)
  rw [← beq_iff_eq.mp same] at member
  obtain ⟨c, inside, rfl⟩ := List.mem_map.mp member
  rw [Char.isAlpha_toLower_eq_isAlpha] at letter
  have white := List.all_eq_true.mp blank c inside
  exact nomatch (not_isWhiteSpace_of_isAlpha letter).symm.trans white

/-- Every field is at fault; three are repaired, and the issues of the others are left. -/
theorem three_fields_repaired :
    let config : QueryConfig := ⟨"klingon", " ", ⟨some 0, none, some (10, 2)⟩, ⟨0⟩,
      [⟨0, .matching, "", "(", false, .all⟩]⟩
    let edits : List Edit := [.language "go", .byteRange 2 10, .value 0 "a"]
    let issues := (config.issues.run .empty).1
    Language.NoneBlank ∧
    (∀ edit ∈ edits, edit.Valid config) ∧
    issues.map (·.site) =
      [.language, .query, .matchLimit, .byteRange, .chunkSize, .capture 0, .value 0] ∧
    ((Edit.applyAll edits config).issues.run .empty).1 =
      issues.filter (fun issue => issue.site ∉ edits.map (·.site)) ∧
    ((Edit.applyAll edits config).issues.run .empty).1.map (·.site) =
      [.query, .matchLimit, .chunkSize, .capture 0] := by
  intro config edits issues
  have compiles : ∃ regex, Regex.compile "a" = .ok regex := exists_eq_ok (by decide +kernel)
  have valid : ∀ edit ∈ edits, edit.Valid config := by
    simp only [edits, List.mem_cons, List.not_mem_nil, or_false, forall_eq_or_imp, forall_eq]
    refine ⟨⟨Language.go, Language.resolve_of_ofName? (by decide +kernel)⟩,
      (by decide : (2 : UInt64) ≤ 10), ?_⟩
    rintro spec ⟨⟩
    exact compiles
  have repaired :=
    (issues_local Language.noneBlank_standard config .empty .empty).2.2.2.1 edits .empty .empty valid
  exact ⟨Language.noneBlank_standard, valid, by decide +kernel, repaired.1, by decide +kernel⟩

end SyntaxQuery
