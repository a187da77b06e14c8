import SyntaxQuery.Toml.Fault

/-! Decoders from items to the values that they stand for. Fields are decoded in the order of the
document, so the first defect in it is the one reported; what is missing comes after all of them. -/
namespace SyntaxQuery.Toml

/-- A decoder takes the extent that a defect of the item as a whole is reported for. -/
abbrev Decoder (α : Type) := Extent → Item → Except Fault α

namespace Decoder

def wrongType (extent : Extent) (item : Item) (expected : String) : Except Fault α :=
  .error (.at extent (.wrongType item.describe expected))

def string : Decoder String
  | _, .scalar _ (.string text) => .ok text
  | extent, item => wrongType extent item "a string"

def boolean : Decoder Bool
  | _, .scalar _ (.boolean value) => .ok value
  | extent, item => wrongType extent item "a boolean"

def natural (limit : Nat) (expected : String) : Decoder Nat
  | extent, .scalar _ (.integer value) =>
    if 0 ≤ value ∧ value < limit then .ok value.toNat
    else .error (.at extent (.wrongInteger value expected))
  | extent, item => wrongType extent item expected

/-- An element without an extent of its own is reported as the whole. -/
def element (decode : Decoder α) (whole : Extent) (item : Item) : Except Fault α :=
  decode (item.extent?.getD whole) item

/-- A table that is written nowhere as a whole is reported at its key. -/
def entry (decode : Decoder α) (entry : Key × Item) : Except Fault α :=
  decode.element entry.1.extent entry.2

def list (decode : Decoder α) : Decoder (List α)
  | extent, .array _ _ items => items.mapM (decode.element extent)
  | extent, item => wrongType extent item "a sequence"

/-- What the entry that names a variant in a table may hold: nothing. -/
def isVacant : Item → Except (Option String) Unit
  | .table _ _ [] => .ok ()
  | .array _ _ [] => .ok ()
  | .scalar _ (.string _) => .error (some "string")
  | .scalar _ (.integer _) => .error (some "integer")
  | .scalar _ (.float _) => .error (some "float")
  | .scalar _ (.boolean _) => .error (some "boolean")
  | .scalar _ .moment => .error (some "datetime")
  | _ => .error none

/-- One of several names, as a string or as the only key of a table. -/
def variant (choices : List (String × α)) : Decoder α
  | extent, .scalar _ (.string name) => find name extent
  | extent, .table _ _ entries =>
    match entries with
    | [(key, item)] => do
      let found ← find key.name key.extent
      match isVacant item with
      | .ok () => return found
      | .error content => throw (.at (item.extent?.getD extent) (.variantContent content))
    | [] => .error (.at extent (.variantCount true))
    | _ => .error (.at extent (.variantCount false))
  | extent, _ => .error (.at extent .notVariant)
where
  find (name : String) (extent : Extent) : Except Fault α :=
    match choices.find? (·.1 == name) with
    | some (_, value) => .ok value
    | none => .error (.at extent (.unknownVariant name (choices.map (·.1))))

end Decoder

inductive Presence where
  /-- The field keeps its default. -/
  | optional
  /-- The field keeps its default in a table, but a list has to reach to it. -/
  | listed
  | required
deriving Repr, DecidableEq

structure Field (σ : Type) where
  name : String
  presence : Presence
  decode : Decoder (σ → σ)

/-- Records are tables, or lists of the fields in their order. -/
structure Shape (σ : Type) where
  title : String
  /-- How a list of the fields is described. -/
  listing : String
  /-- Whether other keys than those of the fields are refused. -/
  isClosed : Bool
  fields : List (Field σ)
  blank : σ

namespace Field

def new (name : String) (presence : Presence) (decode : Decoder α) (set : α → σ → σ) : Field σ :=
  ⟨name, presence, fun extent item => (decode extent item).map set⟩

end Field

namespace Shape

def names (shape : Shape σ) : List String := shape.fields.map (·.name)

def field? (shape : Shape σ) (name : String) : Option (Field σ) :=
  shape.fields.find? (·.name == name)

def take (shape : Shape σ) (record : σ) (entry : Key × Item) : Except Fault σ :=
  match shape.field? entry.1.name with
  | some field => do return (← field.decode.entry entry) record
  | none =>
    if shape.isClosed then
      .error (.at entry.1.extent (.unknownField entry.1.name shape.names))
    else .ok record

def missing? (shape : Shape σ) (entries : Entries) : Option (Field σ) :=
  shape.fields.find? fun field =>
    field.presence == .required && (entries.find? field.name).isNone

def ofTable (shape : Shape σ) (extent : Extent) (entries : Entries) : Except Fault σ := do
  let record ← entries.foldlM shape.take shape.blank
  match shape.missing? entries with
  | some field => throw (.at extent (.missingField field.name))
  | none => return record

/-- Elements behind those of the fields are not looked at. -/
def ofList (shape : Shape σ) (extent : Extent) :
    Nat → List (Field σ) → List Item → σ → Except Fault σ
  | _, [], _, record => .ok record
  | index, field :: fields, item :: items, record => do
    ofList shape extent (index + 1) fields items ((← field.decode.element extent item) record)
  | index, field :: fields, [], record =>
    if field.presence = .optional then ofList shape extent (index + 1) fields [] record
    else .error (.at extent (.wrongLength index shape.listing))

/-- The key under which a date or time would be found if it were a table. -/
def momentKey (extent : Extent) : Key := ⟨"$__toml_private_datetime", extent⟩

def decoder (shape : Shape σ) : Decoder σ
  | extent, .table _ _ entries => shape.ofTable extent entries
  | extent, .array _ _ items => shape.ofList extent 0 shape.fields items shape.blank
  | extent, .scalar own .moment =>
    shape.ofTable extent [(momentKey extent, .scalar own .moment)]
  | extent, item => Decoder.wrongType extent item shape.title

end Shape

end SyntaxQuery.Toml
