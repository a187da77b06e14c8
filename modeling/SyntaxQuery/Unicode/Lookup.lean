import SyntaxQuery.Unicode.Ranges
import SyntaxQuery.Unicode.Age
import SyntaxQuery.Unicode.CaseFold
import SyntaxQuery.Unicode.GeneralCategory
import SyntaxQuery.Unicode.Property
import SyntaxQuery.Unicode.Script
import SyntaxQuery.Unicode.ScriptExtensions
import SyntaxQuery.Unicode.Segmentation

/-! Sets of characters by name. Names are matched loosely: case, spaces, dashes, underscores and a
leading "is" do not count. -/
namespace SyntaxQuery.Unicode

inductive LookupFailure where
  | property
  | value
deriving Repr, DecidableEq

/-- The loose form of a name. "isc" keeps its start, since it is a name of its own and not the
category "c". -/
def looseName (name : List Char) : List Char :=
  let stripped := match name with
    | i :: s :: rest => if i.toLower == 'i' && s.toLower == 's' then some rest else none
    | _ => none
  let clean (cs : List Char) : List Char :=
    (cs.filter fun c => c.toNat < 0x80 && c != ' ' && c != '_' && c != '-').map Char.toLower
  match stripped with
  | some rest => if clean rest == ['c'] then ['i', 's', 'c'] else clean rest
  | none => clean name

abbrev NameTable := List (List String × List String)

def NameTable.find? (table : NameTable) (name : String) : Option Ranges :=
  (List.find? (fun entry => entry.1.contains name) table).map fun entry => Ranges.decode entry.2

def NameTable.unionOf (table : NameTable) (names : List String) : Ranges :=
  Ranges.normalize (names.flatMap fun name => (table.find? name).getD [])

namespace GeneralCategory

def groups : List (List String × List String) := [
  (["l", "letter"], ["lu", "ll", "lt", "lm", "lo"]),
  (["lc", "casedletter"], ["lu", "ll", "lt"]),
  (["m", "mark", "combiningmark"], ["mc", "me", "mn"]),
  (["n", "number"], ["nd", "nl", "no"]),
  (["p", "punctuation", "punct"], ["pc", "pd", "pe", "pf", "pi", "po", "ps"]),
  (["s", "symbol"], ["sc", "sk", "sm", "so"]),
  (["z", "separator"], ["zl", "zp", "zs"])]

def surrogates : Ranges := [(0xD800, 0xDFFF)]

def assigned : Ranges := Ranges.normalize (table.flatMap fun entry => Ranges.decode entry.2)

/-- The numbers that no category of the table has and that are not surrogates. -/
def unassigned : Ranges := Ranges.complement Ranges.top (assigned.union surrogates)

/-- Surrogates have a name and yet no set, since they are not characters. -/
def find? (name : String) : Option (Except LookupFailure Ranges) :=
  match name with
  | "any" => some (.ok [(0, Ranges.top)])
  | "ascii" => some (.ok [(0, 0x7F)])
  | "assigned" => some (.ok (Ranges.complement Ranges.top unassigned))
  | "cn" | "unassigned" => some (.ok unassigned)
  | "cs" | "surrogate" => some (.error .value)
  | "c" | "other" =>
    some (.ok (Ranges.union (NameTable.unionOf table ["cc", "cf", "co"]) unassigned))
  | _ =>
    match groups.find? (·.1.contains name) with
    | some (_, parts) => some (.ok (NameTable.unionOf table parts))
    | none => (NameTable.find? table name).map .ok

end GeneralCategory

def Script.find? (name : String) : Option (Except LookupFailure Ranges) :=
  if unpopulated.contains name then some (.error .value)
  else (NameTable.find? table name).map .ok

/-- Characters of a version are those of all versions up to it. -/
def Age.find? (name : String) : Option Ranges :=
  let (older, rest) := table.span fun entry => !entry.1.contains name
  match rest with
  | [] => none
  | this :: _ =>
    some (Ranges.normalize ((older ++ [this]).flatMap fun entry => Ranges.decode entry.2))

/-- Names of properties whose values are not looked up here; to ask one for a value is an unknown
value and not an unknown property. -/
def otherProperties : List String := [
  "nv", "numericvalue", "bmg", "bidimirroringglyph", "bpb", "bidipairedbracket", "cf", "casefolding",
  "dm", "decompositionmapping", "equideo", "equivalentunifiedideograph", "fcnfkc", "fcnfkcclosure",
  "lc", "lowercasemapping", "nfkccf", "nfkccasefold", "nfkcscf", "nfkcsimplecasefold", "scf",
  "simplecasefolding", "sfc", "slc", "simplelowercasemapping", "stc", "simpletitlecasemapping",
  "suc", "simpleuppercasemapping", "tc", "titlecasemapping", "uc", "uppercasemapping", "isc",
  "isocomment", "jsn", "jamoshortname", "na", "name", "na1", "unicode1name", "namealias", "blk",
  "block", "bc", "bidiclass", "bpt", "bidipairedbrackettype", "ccc", "canonicalcombiningclass", "dt",
  "decompositiontype", "ea", "eastasianwidth", "hst", "hangulsyllabletype", "incb",
  "indicconjunctbreak", "inpc", "indicpositionalcategory", "insc", "indicsyllabiccategory", "jg",
  "joininggroup", "jt", "joiningtype", "lb", "linebreak", "nfcqc", "nfcquickcheck", "nfdqc",
  "nfdquickcheck", "nfkcqc", "nfkcquickcheck", "nfkdqc", "nfkdquickcheck", "nt", "numerictype", "vo",
  "verticalorientation", "ce", "compositionexclusion", "compex", "fullcompositionexclusion", "cwkcf",
  "changeswhennfkccasefolded", "xonfc", "expandsonnfc", "xonfd", "expandsonnfd", "xonfkc",
  "expandsonnfkc", "xonfkd", "expandsonnfkd", "grlink", "graphemelink", "idsu", "idsunaryoperator",
  "oalpha", "otheralphabetic", "odi", "otherdefaultignorablecodepoint", "ogrext",
  "othergraphemeextend", "oidc", "otheridcontinue", "oids", "otheridstart", "olower",
  "otherlowercase", "omath", "othermath", "oupper", "otheruppercase", "mcm",
  "modifiercombiningmark", "idcompatmathstart", "idcompatmathcontinue", "cjkaccountingnumeric",
  "kaccountingnumeric", "cjkothernumeric", "kothernumeric", "cjkprimarynumeric", "kprimarynumeric",
  "cjkrsunicode", "krsunicode", "unicoderadicalstroke", "urs", "cjkiicore", "kiicore"]

/-- A set by a single name: a property, a category or a script, in this order. Three names of other
properties are left to the categories. -/
def named (name : List Char) : Except LookupFailure Ranges :=
  let loose := String.ofList (looseName name)
  let shared := ["cf", "sc", "lc"].contains loose
  match if shared then none else Property.table |> (NameTable.find? · loose) with
  | some set => .ok set
  | none =>
    if !shared && otherProperties.contains loose then .error .property
    else match GeneralCategory.find? loose with
      | some result => result
      | none => (Script.find? loose).getD (.error .property)

/-- A set by a property's name and one of its values. -/
def valued (name value : List Char) : Except LookupFailure Ranges :=
  let property := String.ofList (looseName name)
  let loose := String.ofList (looseName value)
  let orElse (found : Option Ranges) : Except LookupFailure Ranges :=
    match found with
    | some set => .ok set
    | none => .error .value
  if ["gc", "generalcategory"].contains property then
    (GeneralCategory.find? loose).getD (.error .value)
  else if ["sc", "script"].contains property then (Script.find? loose).getD (.error .value)
  else if ["scx", "scriptextensions"].contains property then
    orElse (NameTable.find? ScriptExtensions.table loose)
  else if property == "age" then orElse (Age.find? loose)
  else if ["gcb", "graphemeclusterbreak"].contains property then
    orElse (NameTable.find? Segmentation.grapheme loose)
  else if ["wb", "wordbreak"].contains property then
    orElse (NameTable.find? Segmentation.word loose)
  else if ["sb", "sentencebreak"].contains property then
    orElse (NameTable.find? Segmentation.sentence loose)
  else if otherProperties.contains property || (NameTable.find? Property.table property).isSome then
    .error .value
  else .error .property

def property (name : String) : Ranges := (NameTable.find? Property.table name).getD []

def whiteSpace : Ranges := property "whitespace"
def decimal : Ranges := (NameTable.find? GeneralCategory.table "nd").getD []

def word : Ranges :=
  Ranges.normalize (property "alphabetic" ++ property "joincontrol" ++
    NameTable.unionOf GeneralCategory.table ["mc", "me", "mn", "nd", "pc"])

def isWhiteSpace (c : Char) : Bool := whiteSpace.contains c.toNat
def isAlphabetic (c : Char) : Bool := (property "alphabetic").contains c.toNat
def isAlphanumeric (c : Char) : Bool :=
  isAlphabetic c ||
    (NameTable.unionOf GeneralCategory.table ["nd", "nl", "no"]).contains c.toNat

namespace CaseFold

def allOrbits : List (List Nat) :=
  (orbits.flatMap (Ranges.words ' ')).map fun orbit =>
    (Ranges.words ',' (String.ofList orbit)).map Ranges.hexNumber

/-- Adds to a set all that differs from a member only in case. -/
def close (set : Ranges) : Ranges :=
  let closed := allOrbits.filter fun orbit => orbit.any set.contains
  Ranges.normalize (set ++ closed.flatten.map fun n => (n, n))

def closeAscii (set : Ranges) : Ranges :=
  let lower := Ranges.intersection (Ranges.normalize set) [(97, 122)]
  let upper := Ranges.intersection (Ranges.normalize set) [(65, 90)]
  Ranges.normalize (set ++ lower.map (fun (a, b) => (a - 32, b - 32)) ++
    upper.map fun (a, b) => (a + 32, b + 32))

end CaseFold

end SyntaxQuery.Unicode
