import SyntaxQuery.Engine.Standard
import SyntaxQuery.Proofs.LoadedTexts
import SyntaxQuery.Proofs.Utf8Decoding
import SyntaxQuery.Toml.Reader

/-! Query files beside the texts in them. What comes of a file is what comes of its text, except that every
fault tells the file, at whatever stage it arises. -/
namespace SyntaxQuery

namespace Files

inductive Holds (files : Files) (path : String) : Except FileFault String → Prop where
  | text {contents : String} : files path = .ok (Bytes.ofString contents) → Holds files path (.ok contents)
  | notText : files path = .ok bytes → (∀ contents, bytes ≠ Bytes.ofString contents) →
      Holds files path (.error .notText)
  | refused : files path = .error cause → Holds files path (.error cause)

theorem text_of_bytes {files : Files} (read : files path = .ok bytes) :
    files.text path =
      ((Utf8.decode? bytes).elim (.error .notText) fun chars => .ok (String.ofList chars)) := by
  rw [text, read]
  dsimp only [bind, Except.bind]
  cases Utf8.decode? bytes <;> rfl

theorem holds_text (files : Files) (path : String) : files.Holds path (files.text path) := by
  cases read : files path with
  | error cause =>
    rw [text, read]
    exact .refused read
  | ok bytes =>
    rw [text_of_bytes read]
    cases decoded : Utf8.decode? bytes with
    | some chars => exact .text (read.trans (congrArg _ (Utf8.decode?_eq_some_iff.mp decoded)))
    | none =>
      refine .notText read fun contents same => ?_
      rw [← String.ofList_toList (s := contents)] at same
      exact nomatch decoded.symm.trans (Utf8.decode?_eq_some_iff.mpr same)

theorem Holds.text_eq {files : Files} (holds : files.Holds path contents) : files.text path = contents := by
  cases holds with
  | refused read =>
    rw [Files.text, read]
    rfl
  | @text contents read =>
    have decoded : Utf8.decode? (Bytes.ofString contents) = some contents.toList :=
      Utf8.decode?_eq_some_iff.mpr (by rw [String.ofList_toList])
    simp [text_of_bytes read, decoded]
  | @notText bytes read foreign =>
    rw [text_of_bytes read]
    cases decoded : Utf8.decode? bytes with
    | some chars => exact absurd (Utf8.decode?_eq_some_iff.mp decoded) (foreign _)
    | none => rfl

end Files

namespace ConfigError

/-- A fault of a text, and the same fault where the text is that of a file. -/
inductive Told (path : String) : ConfigError → ConfigError → Prop where
  | layout : Told path (.layout none source cause) (.layout (some path) source cause)
  | validation : Told path (.validation none issues) (.validation (some path) issues)
  | compilation : Told path (.compilation none cause) (.compilation (some path) cause)

theorem told_inFile {fault : ConfigError} (bare : fault.path? = none) (path : String) :
    Told path fault (fault.inFile path) := by
  cases fault with
  | file => cases bare
  | layout =>
    obtain rfl : _ = none := bare
    exact .layout
  | validation =>
    obtain rfl : _ = none := bare
    exact .validation
  | compilation =>
    obtain rfl : _ = none := bare
    exact .compilation

theorem inFile_of_path? {fault : ConfigError} {known : String} (placed : fault.path? = some known)
    (path : String) : fault.inFile path = fault := by
  cases fault with
  | file => rfl
  | layout | validation | compilation =>
    obtain rfl : _ = some known := placed
    rfl

theorem Told.path?_eq {plain told : ConfigError} (same : Told path plain told) :
    plain.path? = none ∧ told.path? = some path := by
  cases same <;> exact ⟨rfl, rfl⟩

theorem place_spliced (opening closing cause path : String) :
    opening ++ place none ++ closing ++ cause = opening ++ (closing ++ cause) ∧
    opening ++ place (some path) ++ closing ++ cause = opening ++ " " ++ path ++ (closing ++ cause) := by
  simp only [place]
  generalize " " = blank
  constructor
  · rw [String.append_empty, String.append_assoc]
  · rw [← String.append_assoc, String.append_assoc]

theorem Told.message_eq {plain told : ConfigError} (same : Told path plain told) :
    ∃ opening ∈ ["failed to parse ", "invalid ", ""], ∃ rest,
      plain.message = opening ++ "query file" ++ rest ∧
      told.message = opening ++ "query file" ++ " " ++ path ++ rest := by
  cases same with
  | layout =>
    exact ⟨"failed to parse ", .head _, _, place_spliced ("failed to parse " ++ "query file") ": " _ path⟩
  | validation =>
    exact ⟨"invalid ", .tail _ (.head _), _, place_spliced ("invalid " ++ "query file") ": " _ path⟩
  | compilation =>
    exact ⟨"", .tail _ (.tail _ (.head _)), _,
      place_spliced ("" ++ "query file") " does not compile: " _ path⟩

end ConfigError

/-- What comes of a text, beside what comes of a file that holds it: the same value, or the same fault, which
tells the file. -/
inductive Located (path : String) : Except ConfigError α → Except ConfigError α → Prop where
  | value : Located path (.ok value) (.ok value)
  | fault : ConfigError.Told path plain told → Located path (.error plain) (.error told)

namespace Cached

theorem Bare.path?_eq {step : Cached ConfigError α} (bare : Bare step)
    (failed : ((step.adapt (·.inFile path)).run cache).1 = .error fault) : fault.path? = some path := by
  obtain ⟨plain, before, rfl⟩ := of_adapt_error failed
  exact (ConfigError.told_inFile (bare cache plain before) path).path?_eq.2

theorem Bare.located [RegexCompiler] {step : Cached ConfigError α} (bare : Bare step)
    (blind : RegexCache.Blind step.run) {first second : RegexCache} (before : first.Proper)
    (between : second.Proper) (path : String) :
    Located path (step.run first).1 ((step.adapt (·.inFile path)).run second).1 := by
  obtain ⟨result, same⟩ := blind
  obtain ⟨_, early : step.run first = _⟩ := same first before
  obtain ⟨_, late : step.run second = _⟩ := same second between
  have none := bare first
  rw [run_adapt, early, late]
  rw [early] at none
  cases result with
  | ok value => exact .value
  | error fault => exact .fault (ConfigError.told_inFile (none fault rfl) path)

end Cached

section

variable [Engine] [RegexCompiler] [Toml.DocumentReader]

namespace QueryConfig

theorem loadFile_of_text {files : Files} (read : files.text path = .ok text) :
    loadFile files path = (load text).adapt (·.inFile path) := by
  rw [loadFile, read]

theorem loadFile_of_error {files : Files} (failed : files.text path = .error cause) :
    loadFile files path = throw (.file path cause) := by
  rw [loadFile, failed]

end QueryConfig

namespace CompiledQuery

/-- What fails in loading does not come to be compiled, and what is compiled has no other path to tell. -/
theorem loadFile_of_text {files : Files} (read : files.text path = .ok text) :
    loadFile files path = (load text).adapt (·.inFile path) := by
  rw [loadFile, QueryConfig.loadFile_of_text read, load, Cached.adapt_bind]

theorem loadFile_of_error {files : Files} (failed : files.text path = .error cause) :
    loadFile files path = throw (.file path cause) := by
  rw [loadFile, QueryConfig.loadFile_of_error failed]
  rfl

end CompiledQuery

end

/-- A query file is loaded or compiled by its path. If what is there is no text, the fault says so, and says
where. If it is a text, then, whatever calls have come before the one and the other, all comes out as for the
text alone: the same value, or the same fault, which has no path there and this path here, also in its message.
So every fault of a file tells the file; and one that tells some file is not made to tell another. -/
theorem files_load_as_texts [Engine] [RegexCompiler] [Toml.DocumentReader] (files : Files) (path : String) :
    (∃ contents, files.Holds path contents) ∧
    (∀ cause, files.Holds path (.error cause) → ∀ cache,
      (QueryConfig.loadFile files path).run cache = (.error (.file path cause), cache) ∧
      (CompiledQuery.loadFile files path).run cache = (.error (.file path cause), cache)) ∧
    (∀ text, files.Holds path (.ok text) → ∀ before between : List CacheCall,
      let first := RegexCache.empty.after before
      let second := RegexCache.empty.after between
      Located path ((QueryConfig.load text).run first).1 ((QueryConfig.loadFile files path).run second).1 ∧
      Located path ((CompiledQuery.load text).run first).1
        ((CompiledQuery.loadFile files path).run second).1) ∧
    (∀ plain told, ConfigError.Told path plain told →
      plain.path? = none ∧ told.path? = some path ∧
      ∃ opening ∈ ["failed to parse ", "invalid ", ""], ∃ rest,
        plain.message = opening ++ "query file" ++ rest ∧
        told.message = opening ++ "query file" ++ " " ++ path ++ rest) ∧
    (∀ cache fault, ((QueryConfig.loadFile files path).run cache).1 = .error fault ∨
      ((CompiledQuery.loadFile files path).run cache).1 = .error fault → fault.path? = some path) ∧
    ∀ (fault : ConfigError) known, fault.path? = some known → fault.inFile path = fault := by
  have refused (cause : FileFault) (failed : files.text path = .error cause) (cache : RegexCache) :
      (QueryConfig.loadFile files path).run cache = (.error (.file path cause), cache) ∧
      (CompiledQuery.loadFile files path).run cache = (.error (.file path cause), cache) := by
    rw [QueryConfig.loadFile_of_error failed, CompiledQuery.loadFile_of_error failed]
    exact ⟨rfl, rfl⟩
  refine ⟨⟨_, files.holds_text path⟩, fun cause holds => refused cause holds.text_eq, ?_,
    fun plain told same => ⟨same.path?_eq.1, same.path?_eq.2, same.message_eq⟩, ?_,
    fun fault known placed => ConfigError.inFile_of_path? placed path⟩
  · intro text holds before between first second
    have proper : first.Proper := RegexCache.empty_proper.after before
    have proper' : second.Proper := RegexCache.empty_proper.after between
    rw [QueryConfig.loadFile_of_text holds.text_eq, CompiledQuery.loadFile_of_text holds.text_eq]
    exact ⟨(QueryConfig.load_bare text).located (QueryConfig.load_blind text) proper proper' path,
      (CompiledQuery.load_bare text).located (CompiledQuery.load_blind text) proper proper' path⟩
  · intro cache fault failed
    cases read : files.text path with
    | error cause =>
      obtain ⟨loaded, compiled⟩ := refused cause read cache
      rw [loaded, compiled] at failed
      rcases failed with failed | failed <;> cases failed <;> rfl
    | ok text =>
      rw [QueryConfig.loadFile_of_text read, CompiledQuery.loadFile_of_text read] at failed
      rcases failed with failed | failed
      · exact (QueryConfig.load_bare text).path?_eq failed
      · exact (CompiledQuery.load_bare text).path?_eq failed

/-- A name that no capture has is found only by compiling, behind a file that has been read and is valid. The
other file holds a character in two bytes that takes one. -/
theorem unknown_capture_located :
    let text := "language = \"json\"\nquery = \"(null) @n\"\n[[predicates]]\nkind = \"equals\"\ncapture = \"m\"\n"
    let files : Files := fun path => .ok (if path = "q.toml" then Bytes.ofString text else [0xC1, 0x81])
    let compiled (path : String) := ((CompiledQuery.loadFile files path).run .empty).1
    files.Holds "q.toml" (.ok text) ∧
    Located "q.toml" ((CompiledQuery.load text).run .empty).1 (compiled "q.toml") ∧
    (match compiled "q.toml" with | .ok _ => none | .error fault => some fault.message) =
      some "query file q.toml does not compile: capture '@m' not found in query" ∧
    files.Holds "raw" (.error .notText) ∧
    compiled "raw" = .error (.file "raw" .notText) := by
  intro text files compiled
  have holds : files.Holds "q.toml" (.ok text) := .text rfl
  have raw : files.Holds "raw" (.error .notText) := by
    have none : files.text "raw" = .error .notText := rfl
    exact none ▸ files.holds_text "raw"
  refine ⟨holds, ?_, by decide +kernel, raw, ?_⟩
  · exact ((files_load_as_texts files "q.toml").2.2.1 text holds [] []).2
  · exact congrArg Prod.fst ((files_load_as_texts files "raw").2.1 .notText raw .empty).2

end SyntaxQuery
