import SyntaxQuery.Toml.Value

/-! A document as a list of sections, and the table that they describe together. -/
namespace SyntaxQuery.Toml

structure Pair where
  path : List Key
  key : Key
  item : Item

inductive Heading where
  | table
  /-- The table is one more element of an open array. -/
  | element
deriving Repr, DecidableEq

structure Header where
  heading : Heading
  path : List Key
  key : Key
  extent : Extent

structure Section where
  header : Header
  pairs : List Pair

/-- The pairs in front of the first header belong to the document's own table. -/
structure Document where
  pairs : List Pair
  sections : List Section

namespace Entries

def replace (entries : Entries) (name : String) (item : Item) : Entries :=
  entries.map fun entry => if entry.1.name == name then (entry.1, item) else entry

def remove (entries : Entries) (name : String) : Entries :=
  List.filter (fun entry => entry.1.name != name) entries

/-- Whether a path that makes tables of one origin may pass through a table of another. Tables in
braces are closed, and dotted keys do not pass through tables with a header. -/
def passes (made : Origin) : Origin → Bool
  | .closed => false
  | .header => made != .dotted
  | .implied => true
  | .dotted => true

/-- Changes the table at the end of a path; the change may depend on the table's origin. Tables that
are missing on the way are made, and the last table of an open array stands for the array. -/
def alter (made : Origin) (change : Origin → Entries → Option Entries) :
    List Key → Origin → Entries → Option Entries
  | [], origin, entries => change origin entries
  | step :: path, _, entries =>
    match entries.find? step.name with
    | none => do return entries ++ [(step, .table none made (← alter made change path made []))]
    | some (.table extent origin inner) =>
      if passes made origin then do
        return entries.replace step.name (.table extent origin (← alter made change path origin inner))
      else none
    | some (.array extent true items) =>
      match items.getLast? with
      | some (.table own origin inner) => do
        let changed ← alter made change path origin inner
        return entries.replace step.name
          (.array extent true (items.dropLast ++ [.table own origin changed]))
      | _ => none
    | some _ => none

/-- Adds a pair. Its key is new, and a dotted key ends in a table that dotted keys have made. -/
def add (entries : Entries) (pair : Pair) : Option Entries :=
  alter .dotted (fun origin inner =>
    if (origin == .dotted) != pair.path.isEmpty ∧ (inner.find? pair.key.name).isNone then
      some (inner ++ [(pair.key, pair.item)])
    else none) pair.path .header entries

def addAll (entries : Entries) (pairs : List Pair) : Option Entries := pairs.foldlM add entries

end Entries

namespace Section

/-- A table's extent runs from its header to its last value. -/
def extent (part : Section) : Extent :=
  match part.pairs.getLast?.bind (·.item.extent?) with
  | some last => ⟨part.header.extent.start, last.stop⟩
  | none => part.header.extent

/-- Puts the parts table into the one that its header's path leads to. A table that other headers
have implied moves to the end; any other table of the same name is a duplicate. -/
def place (part : Section) (entries : Entries) : Option Entries :=
  let key := part.header.key
  let table (inner : Entries) : Option Item := do
    return .table part.extent .header (← inner.addAll part.pairs)
  match part.header.heading, entries.find? key.name with
  | .table, none => do return entries ++ [(key, ← table [])]
  | .table, some (.table _ .implied inner) => do
    return entries.remove key.name ++ [(key, ← table inner)]
  | .element, none => do
    return entries ++ [(key, .array part.extent true [← table []])]
  | .element, some (.array extent true items) => do
    return entries.replace key.name
      (.array ⟨extent.start, part.extent.stop⟩ true (items ++ [← table []]))
  | _, _ => none

def addTo (entries : Entries) (part : Section) : Option Entries :=
  Entries.alter .implied (fun _ => part.place) part.header.path .header entries

end Section

/-- The table of the whole document; there is none if a key is given twice. -/
def Document.entries? (document : Document) : Option Entries := do
  document.sections.foldlM Section.addTo (← Entries.addAll [] document.pairs)

end SyntaxQuery.Toml
