import SyntaxQuery.Config.Compile
import SyntaxQuery.Config.Layout
import SyntaxQuery.Config.Validation
import SyntaxQuery.Text.Utf8

/-! Loading query files from text or by their path: reading, then validation, then compilation. Errors
of a file tell its path. -/
namespace SyntaxQuery

inductive FileFault where
  | notFound
  | isDirectory
  | notText
  /-- Any other reason, in the words of the system. -/
  | refused (reason : String)
deriving Repr, DecidableEq

def FileFault.message : FileFault → String
  | notFound => "No such file or directory (os error 2)"
  | isDirectory => "Is a directory (os error 21)"
  | notText => "stream did not contain valid UTF-8"
  | refused reason => reason

/-- What reading a path gives. A path stands for itself by the text that is shown for it. -/
abbrev Files := String → Except FileFault Bytes

def Files.text (files : Files) (path : String) : Except FileFault String := do
  match Utf8.decode? (← files path) with
  | some text => return String.ofList text
  | none => throw .notText

inductive ConfigError where
  | file (path : String) (cause : FileFault)
  | layout (path : Option String) (source : String) (cause : Toml.Fault)
  | validation (path : Option String) (issues : List Issue)
  | compilation (path : Option String) (cause : QueryError)
deriving Repr, DecidableEq

namespace ConfigError

def path? : ConfigError → Option String
  | file path _ => some path
  | layout path _ _ => path
  | validation path _ => path
  | compilation path _ => path

/-- Names the file unless it is named already. -/
def inFile (name : String) : ConfigError → ConfigError
  | file path cause => .file path cause
  | layout path source cause => .layout (path.or (some name)) source cause
  | validation path issues => .validation (path.or (some name)) issues
  | compilation path cause => .compilation (path.or (some name)) cause

def place : Option String → String
  | some path => " " ++ path
  | none => ""

def message : ConfigError → String
  | file path cause => "failed to read query file " ++ path ++ ": " ++ cause.message
  | layout path source cause =>
    "failed to parse query file" ++ place path ++ ": " ++ cause.message source
  | validation path issues => "invalid query file" ++ place path ++ ": " ++ Issue.report issues
  | compilation path cause => "query file" ++ place path ++ " does not compile: " ++ cause.message

end ConfigError

variable [Engine] [RegexCompiler] [Toml.DocumentReader]

structure CompiledQuery where
  config : QueryConfig
  query : PredicateQuery

namespace QueryConfig

def load (text : String) : Cached ConfigError QueryConfig := do
  match ofText text with
  | .error cause => throw (.layout none text cause)
  | .ok config =>
    match ← config.issues with
    | [] => return config
    | issues => throw (.validation none issues)

def loadFile (files : Files) (path : String) : Cached ConfigError QueryConfig := do
  match files.text path with
  | .error cause => throw (.file path cause)
  | .ok text => (load text).adapt (·.inFile path)

end QueryConfig

namespace CompiledQuery

def ofConfig (config : QueryConfig) : Cached ConfigError CompiledQuery :=
  (config.compile.map (⟨config, ·⟩)).adapt (.compilation none)

def load (text : String) : Cached ConfigError CompiledQuery := do
  ofConfig (← QueryConfig.load text)

def loadFile (files : Files) (path : String) : Cached ConfigError CompiledQuery := do
  let config ← QueryConfig.loadFile files path
  (ofConfig config).adapt (·.inFile path)

end CompiledQuery

end SyntaxQuery
