import Mathlib.Data.List.Find
import SyntaxQuery.Config.Load
import SyntaxQuery.Engine.Standard
import SyntaxQuery.Toml.Reader

/-! Keys in a document that name no field. In the tables of the cursor, of its range and of the provider such
a key is an error; in the document's own table and in those of the predicates it has no effect at all. -/
namespace SyntaxQuery

namespace Toml

namespace Entries

def HasOther (names : List String) (entries : Entries) : Prop := ∃ entry ∈ entries, entry.1.name ∉ names

instance (names : List String) (entries : Entries) : Decidable (HasOther names entries) :=
  inferInstanceAs (Decidable (∃ entry ∈ entries, entry.1.name ∉ names))

def tables (entries : Entries) (name : String) : List Entries :=
  entries.filterMap fun
    | (key, .table _ _ inner) => if key.name = name then some inner else none
    | _ => none

def elements (entries : Entries) (name : String) : List Entries :=
  entries.flatMap fun
    | (key, .array _ _ items) =>
      if key.name = name then items.filterMap fun
        | .table _ _ inner => some inner
        | _ => none
      else []
    | _ => []

theorem mem_tables {entries inner : Entries} (given : inner ∈ entries.tables name) :
    ∃ key extent origin, (key, .table extent origin inner) ∈ entries ∧ key.name = name := by
  obtain ⟨⟨key, item⟩, member, found⟩ := List.mem_filterMap.mp given
  cases item with
  | scalar | array => cases found
  | table extent origin entries =>
    simp only [Option.ite_none_right_eq_some, Option.some.injEq] at found
    obtain ⟨named, rfl⟩ := found
    exact ⟨key, extent, origin, member, named⟩

end Entries

/-- What is refused whatever has come before is refused in a sequence. -/
theorem foldlM_refused {step : β → α → Except ε β} {items : List α} (member : item ∈ items)
    (refused : ∀ state, ∃ fault, step state item = .error fault) (state : β) :
    ∃ fault, items.foldlM step state = .error fault := by
  induction items generalizing state with
  | nil => cases member
  | cons first items ih =>
    rw [List.foldlM_cons]
    rcases List.mem_cons.mp member with rfl | later
    · obtain ⟨fault, failed⟩ := refused state
      exact ⟨fault, by rw [failed]; rfl⟩
    · cases step state first with
      | error fault => exact ⟨fault, rfl⟩
      | ok next => exact ih later next

/-- The decoder takes no table with these entries, wherever it is written. -/
def Decoder.Refuses (decode : Decoder α) (entries : Entries) : Prop :=
  ∀ whole extent origin, ∃ fault, decode whole (.table extent origin entries) = .error fault

theorem Field.new_refuses {name : String} {presence : Presence} {decode : Decoder α} {set : α → σ → σ}
    (refuses : decode.Refuses entries) :
    (Field.new name presence decode set).decode.Refuses entries := by
  intro whole extent origin
  obtain ⟨fault, failed⟩ := refuses whole extent origin
  refine ⟨fault, ?_⟩
  change (decode whole _).map set = _
  rw [failed]
  rfl

namespace Shape

variable {shape : Shape σ}

theorem field?_eq_none (foreign : name ∉ shape.names) : shape.field? name = none := by
  rw [field?, List.find?_eq_none]
  intro field member same
  exact foreign (List.mem_map.mpr ⟨field, member, beq_iff_eq.mp same⟩)

theorem refuses_of_take {entries : Entries} {entry : Key × Item} (member : entry ∈ entries)
    (refused : ∀ record, ∃ fault, shape.take record entry = .error fault) :
    shape.decoder.Refuses entries := by
  intro whole extent origin
  obtain ⟨fault, failed⟩ := foldlM_refused member refused shape.blank
  refine ⟨fault, ?_⟩
  change shape.ofTable whole entries = _
  rw [ofTable, failed]
  rfl

/-- A closed record takes no key that is not the name of a field. -/
theorem refuses_foreign {entries : Entries} (closed : shape.isClosed)
    (other : entries.HasOther shape.names) : shape.decoder.Refuses entries := by
  obtain ⟨entry, member, foreign⟩ := other
  refine refuses_of_take member fun record => ?_
  rw [take, field?_eq_none foreign]
  exact ⟨_, if_pos closed⟩

/-- No record takes a table that is refused for a field. -/
theorem refuses_field {entries inner : Entries} {field : Field σ} (known : shape.field? name = some field)
    (given : inner ∈ entries.tables name) (refuses : field.decode.Refuses inner) :
    shape.decoder.Refuses entries := by
  obtain ⟨key, extent, origin, member, rfl⟩ := Entries.mem_tables given
  refine refuses_of_take member fun record => ?_
  obtain ⟨fault, failed⟩ := refuses (extent.getD key.extent) extent origin
  refine ⟨fault, ?_⟩
  rw [take, known]
  change (field.decode (extent.getD key.extent) _ >>= fun set => pure (set record)) = _
  rw [failed]
  rfl

/-- Two items under one key are the same to a record if they are to the field of that name. -/
theorem take_congr {key : Key} {item other : Item} {record : σ}
    (same : ∀ field, shape.field? key.name = some field →
      field.decode.entry (key, item) = field.decode.entry (key, other)) :
    shape.take record (key, item) = shape.take record (key, other) := by
  rw [take, take]
  cases known : shape.field? key.name with
  | none => rfl
  | some field => simp only [same field known]

/-- The entries that belong to fields. -/
def prune (shape : Shape σ) (entries : Entries) : Entries :=
  List.filter (fun entry => entry.1.name ∈ shape.names) entries

theorem find?_prune {entries : Entries} (known : name ∈ shape.names) :
    (shape.prune entries).find? name = entries.find? name := by
  rw [Entries.find?, Entries.find?, prune, List.find?_filter]
  congr 2
  funext entry
  by_cases same : entry.1.name = name
  · simp [same, known]
  · simp [same]

/-- To an open record only the entries of fields matter. -/
theorem ofTable_prune (isOpen : shape.isClosed = false) (extent : Extent) (entries : Entries) :
    shape.ofTable extent (shape.prune entries) = shape.ofTable extent entries := by
  have taken (record : σ) : (shape.prune entries).foldlM shape.take record = entries.foldlM shape.take record := by
    induction entries generalizing record with
    | nil => rfl
    | cons entry entries ih =>
      by_cases known : entry.1.name ∈ shape.names
      · rw [prune, List.filter_cons_of_pos (by simpa using known), List.foldlM_cons, List.foldlM_cons]
        exact congrArg (shape.take record entry >>= ·) (funext ih)
      · have passed : shape.take record entry = .ok record := by
          rw [take, field?_eq_none known, isOpen]
          rfl
        rw [prune, List.filter_cons_of_neg (by simpa using known), List.foldlM_cons, passed]
        exact ih record
  have missing : shape.missing? (shape.prune entries) = shape.missing? entries := by
    refine List.find?_congr fun field member => ?_
    rw [find?_prune (List.mem_map_of_mem member)]
  rw [ofTable, ofTable, taken, missing]

end Shape

end Toml

open Toml

def PredicateSpec.pruneItem : Item → Item
  | .table extent origin entries => .table extent origin (shape.prune entries)
  | item => item

theorem PredicateSpec.element_pruneItem (whole : Extent) (item : Item) :
    shape.decoder.element whole (pruneItem item) = shape.decoder.element whole item := by
  cases item with
  | scalar | array => rfl
  | table extent origin entries => exact shape.ofTable_prune rfl _ entries

namespace QueryConfig

/-- The entry, in all of whose tables of predicates only the fields are left. -/
def pruneEntry (entry : Key × Item) : Key × Item :=
  match entry with
  | (key, .array extent isOpen items) =>
    if key.name = "predicates" then (key, .array extent isOpen (items.map PredicateSpec.pruneItem)) else entry
  | _ => entry

/-- The document without the keys that name no field, in its own table and in those of predicates. -/
def prune (entries : Entries) : Entries := (shape.prune entries).map pruneEntry

theorem take_pruneEntry (config : QueryConfig) (entry : Key × Item) :
    shape.take config (pruneEntry entry) = shape.take config entry := by
  obtain ⟨key, item⟩ := entry
  cases item with
  | scalar | table => rfl
  | array extent isOpen items =>
    rw [pruneEntry]
    split
    next named =>
      have decoded : Decoder.list PredicateSpec.shape.decoder extent
          (.array extent isOpen (items.map PredicateSpec.pruneItem)) =
          Decoder.list PredicateSpec.shape.decoder extent (.array extent isOpen items) := by
        change (items.map PredicateSpec.pruneItem).mapM _ = items.mapM _
        rw [List.mapM_map]
        congr 1
        funext item
        exact PredicateSpec.element_pruneItem extent item
      refine Shape.take_congr fun field known => ?_
      rw [named] at known
      cases known
      exact congrArg (Except.map _) decoded
    · rfl

theorem ofTable_prune (extent : Extent) (entries : Entries) :
    shape.ofTable extent (prune entries) = shape.ofTable extent entries := by
  have missing (entries : Entries) : shape.missing? entries = none := rfl
  rw [← shape.ofTable_prune rfl extent entries, Shape.ofTable, Shape.ofTable, missing, missing, prune,
    List.foldlM_map]
  simp only [take_pruneEntry]

/-- A key that names no field is in a table of the cursor, of its range or of the provider. -/
def Misspelt (entries : Entries) : Prop :=
  (∃ cursor ∈ entries.tables "cursor", cursor.HasOther ["match_limit", "max_start_depth", "byte_range"] ∨
    ∃ range ∈ cursor.tables "byte_range", range.HasOther ["start", "end"]) ∨
  ∃ provider ∈ entries.tables "provider", provider.HasOther ["chunk_size"]

instance (entries : Entries) : Decidable (Misspelt entries) :=
  inferInstanceAs (Decidable (_ ∨ _))

theorem ofTable_misspelt {entries : Entries} (misspelt : Misspelt entries) (extent : Extent) :
    ∃ fault, shape.ofTable extent entries = .error fault := by
  suffices shape.decoder.Refuses entries from this extent none .header
  rcases misspelt with ⟨cursor, given, other | ⟨range, inside, other⟩⟩ | ⟨provider, given, other⟩
  · exact shape.refuses_field rfl given (Field.new_refuses (CursorConfig.shape.refuses_foreign rfl other))
  · have narrow : offsetRange.decoder.Refuses range := offsetRange.refuses_foreign rfl other
    have wide : CursorConfig.shape.decoder.Refuses cursor :=
      CursorConfig.shape.refuses_field rfl inside (Field.new_refuses narrow)
    exact shape.refuses_field rfl given (Field.new_refuses wide)
  · exact shape.refuses_field rfl given (Field.new_refuses (ProviderConfig.shape.refuses_foreign rfl other))

theorem ofText_eq [DocumentReader] {text : String} {entries : Entries}
    (read : DocumentReader.read text = .ok entries) :
    ofText text = shape.ofTable ⟨0, text.utf8ByteSize⟩ entries := by
  rw [ofText, read]

end QueryConfig

/-- A text is a document. If one of its keys names no field of the cursor, the range or the provider in the
table of which it stands, loading the text fails, and the fault is one of its layout. But all that is loaded
from it is what would be if the document had no such keys of its own, nor any in the tables of predicates. -/
theorem foreign_keys_pass [Engine] [RegexCompiler] [DocumentReader] (text : String) (entries : Entries)
    (read : DocumentReader.read text = .ok entries) :
    (QueryConfig.Misspelt entries → ∃ fault, ∀ cache : RegexCache,
      (QueryConfig.load text).run cache = (.error (.layout none text fault), cache)) ∧
    QueryConfig.ofText text =
      QueryConfig.shape.ofTable ⟨0, text.utf8ByteSize⟩ (QueryConfig.prune entries) := by
  have found := QueryConfig.ofText_eq read
  refine ⟨fun misspelt => ?_, by rw [found, QueryConfig.ofTable_prune]⟩
  obtain ⟨fault, failed⟩ := QueryConfig.ofTable_misspelt misspelt ⟨0, text.utf8ByteSize⟩
  refine ⟨fault, fun cache => ?_⟩
  rw [QueryConfig.load, found, failed]
  rfl

theorem misspelt_limit_refused :
    let text := "[cursor]\nmatch_limt = 5\n[[predicates]]\nnegated = true\n"
    ∃ entries fault, DocumentReader.read text = .ok entries ∧ QueryConfig.Misspelt entries ∧
      (QueryConfig.load text).run .empty = (.error (.layout none text fault), .empty) ∧
      QueryConfig.ofText text =
        QueryConfig.shape.ofTable ⟨0, text.utf8ByteSize⟩ (QueryConfig.prune entries) := by
  intro text
  have foreign : (DocumentReader.read text).toOption.any (QueryConfig.Misspelt ·) := by decide +kernel
  cases read : DocumentReader.read text with
  | error report =>
    rw [read] at foreign
    cases foreign
  | ok entries =>
    rw [read] at foreign
    have misspelt := of_decide_eq_true foreign
    obtain ⟨refused, pruned⟩ := foreign_keys_pass text entries read
    obtain ⟨fault, failed⟩ := refused misspelt
    exact ⟨entries, fault, rfl, misspelt, failed .empty, pruned⟩

/-- A wrong key in the document's own table, or in that of a predicate, is not noticed. -/
theorem misspelt_key_accepted :
    let own := "language = \"json\"\nquery = \"(null) @n\"\npredicate = []\n"
    let inner := "language = \"json\"\nquery = \"(null) @n\"\n" ++
      "[[predicates]]\nkind = \"equals\"\ncapture = \"n\"\nnegated = true\n"
    let entries? (text : String) := (DocumentReader.read text).toOption
    let loaded? (text : String) := ((QueryConfig.load text).run .empty).1.toOption
    (entries? own).any (·.HasOther ["language", "query", "cursor", "provider", "predicates"]) ∧
    loaded? own = some ⟨"json", "(null) @n", .empty, .standard, []⟩ ∧
    (entries? inner).any (fun entries => ∃ predicate ∈ entries.elements "predicates",
      predicate.HasOther ["pattern", "kind", "capture", "value", "negate", "quantifier"]) ∧
    loaded? inner = some ⟨"json", "(null) @n", .empty, .standard, [⟨0, .equals, "n", "", false, .all⟩]⟩ := by
  decide +kernel

end SyntaxQuery
