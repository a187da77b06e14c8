import SyntaxQuery.Config.Basic
import SyntaxQuery.Toml.Decoder

/-! How a query file is laid out as a TOML document. A misspelt setting is an error in the tables of
the cursor and the provider; elsewhere keys of other names are passed over. -/
namespace SyntaxQuery

open Toml

def word32 : Decoder UInt32 := fun extent item =>
  (Decoder.natural UInt32.size "u32" extent item).map UInt32.ofNat

def wordSize : Decoder Nat := Decoder.natural UInt64.size "usize"

def offsetRange : Shape (UInt64 × UInt64) where
  title := "struct Range"
  listing := "struct Range"
  isClosed := true
  fields := [
    .new "start" .required wordSize fun start range => (UInt64.ofNat start, range.2),
    .new "end" .required wordSize fun stop range => (range.1, UInt64.ofNat stop)]
  blank := (0, 0)

def CursorConfig.shape : Shape CursorConfig where
  title := "struct CursorConfig"
  listing := "struct CursorConfig with 3 elements"
  isClosed := true
  fields := [
    .new "match_limit" .listed word32 fun limit config => { config with matchLimit := some limit },
    .new "max_start_depth" .listed word32
      fun depth config => { config with maxStartDepth := some depth },
    .new "byte_range" .listed offsetRange.decoder
      fun range config => { config with byteRange := some range }]
  blank := .empty

def ProviderConfig.shape : Shape ProviderConfig where
  title := "struct ProviderConfig"
  listing := "struct ProviderConfig with 1 element"
  isClosed := true
  fields := [.new "chunk_size" .optional wordSize fun size _ => ⟨size⟩]
  blank := .standard

def PredicateKind.names : List (String × PredicateKind) :=
  [("equals", .equals), ("matches", .matching), ("equals_capture", .equalsCapture)]

def Quantifier.names : List (String × Quantifier) := [("all", .all), ("any", .any)]

def PredicateSpec.shape : Shape PredicateSpec where
  title := "struct PredicateSpec"
  listing := "struct PredicateSpec with 6 elements"
  isClosed := false
  fields := [
    .new "pattern" .optional wordSize fun pattern spec => { spec with pattern := pattern },
    .new "kind" .required (Decoder.variant PredicateKind.names)
      fun kind spec => { spec with kind := kind },
    .new "capture" .required Decoder.string fun capture spec => { spec with capture := capture },
    .new "value" .optional Decoder.string fun value spec => { spec with value := value },
    .new "negate" .optional Decoder.boolean fun negate spec => { spec with negate := negate },
    .new "quantifier" .optional (Decoder.variant Quantifier.names)
      fun quantifier spec => { spec with quantifier := quantifier }]
  blank := ⟨0, .equals, "", "", false, .all⟩

def QueryConfig.shape : Shape QueryConfig where
  title := "struct QueryConfig"
  listing := "struct QueryConfig with 5 elements"
  isClosed := false
  fields := [
    .new "language" .optional Decoder.string
      fun language config => { config with language := language },
    .new "query" .optional Decoder.string fun query config => { config with query := query },
    .new "cursor" .optional CursorConfig.shape.decoder
      fun cursor config => { config with cursor := cursor },
    .new "provider" .optional ProviderConfig.shape.decoder
      fun provider config => { config with provider := provider },
    .new "predicates" .optional (Decoder.list PredicateSpec.shape.decoder)
      fun predicates config => { config with predicates := predicates }]
  blank := .blank

/-- The configuration that a file's text describes. The whole text has to be well formed before any
of it is looked at. -/
def QueryConfig.ofText [DocumentReader] (text : String) : Except Toml.Fault QueryConfig :=
  match DocumentReader.read text with
  | .ok entries => shape.ofTable ⟨0, text.utf8ByteSize⟩ entries
  | .error report => .error (.malformed report)

end SyntaxQuery
