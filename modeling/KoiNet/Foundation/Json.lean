import KoiNet.Foundation.Codec

/-!
# JSON objects of models

A model is written as an object of its fields.  Fields without a value are
left out, and a field that is missing takes its default when it is read.
-/

namespace Foundation

/-- The fields of an object have distinct names. -/
inductive Json where
  | null
  | bool (value : Bool)
  | num (value : Int)
  | str (value : String)
  | arr (items : List Json)
  | obj (fields : List (String × Json))

namespace Json

def string : Codec String Json :=
  { encode := .str
    decode := fun
      | .str value => some value
      | _ => none }

def int : Codec Int Json :=
  { encode := .num
    decode := fun
      | .num value => some value
      | _ => none }

def object : Codec (List (String × Json)) Json :=
  { encode := .obj
    decode := fun
      | .obj fields => some fields
      | _ => none }

def array : Codec (List Json) Json :=
  { encode := .arr
    decode := fun
      | .arr items => some items
      | _ => none }

theorem string_faithful (value : String) : string.Faithful value :=
  rfl

theorem int_faithful (value : Int) : int.Faithful value :=
  rfl

variable {α : Type}

def text (codec : Codec α String) : Codec α Json :=
  codec.comp string

def listOf (codec : Codec α Json) : Codec (List α) Json :=
  codec.list.comp array

theorem text_faithful {codec : Codec α String} {value : α}
    (faithful : codec.Faithful value) : (text codec).Faithful value :=
  .comp (string_faithful _) faithful

theorem listOf_faithful {codec : Codec α Json} {values : List α}
    (faithful : ∀ value ∈ values, codec.Faithful value) :
    (listOf codec).Faithful values :=
  .comp rfl (.list faithful)

/-- The object of the fields that have a value. -/
def model (fields : List (String × Option Json)) : Json :=
  .obj (fields.filterMap fun field => field.2.map (field.1, ·))

def lookup (name : String) : List (String × Json) → Option Json
  | [] => none
  | (head, value) :: rest => if head = name then some value else lookup name rest

def field (json : Json) (name : String) : Option Json :=
  match json with
  | .obj fields => lookup name fields
  | _ => none

/-- A field without a default. -/
def required (json : Json) (name : String) (codec : Codec α Json) : Option α :=
  json.field name >>= codec.decode

/-- A field with a default, which is not itself decoded. -/
def withDefault (json : Json) (name : String) (codec : Codec α Json)
    (default : α) : Option α :=
  match json.field name with
  | some value => codec.decode value
  | none => some default

/-- A field that may be null, which is its default. -/
def optional (json : Json) (name : String) (codec : Codec α Json) :
    Option (Option α) :=
  match json.field name with
  | none => some none
  | some .null => some none
  | some value => some <$> codec.decode value

/-- A field that is constant. -/
def literal (json : Json) (name value : String) : Option Unit :=
  match json.field name with
  | none => some ()
  | some (.str other) => if other = value then some () else none
  | some _ => none

section Fields

variable {name : String} {value : α} {codec : Codec α Json} {json : Json}

theorem required_of_faithful (written : json.field name =
      some (codec.encode value)) (faithful : codec.Faithful value) :
    json.required name codec = some value := by
  unfold required
  rw [written]
  exact faithful

theorem withDefault_of_faithful {default : α}
    (written : json.field name = some (codec.encode value))
    (faithful : codec.Faithful value) :
    json.withDefault name codec default = some value := by
  unfold withDefault
  rw [written]
  exact faithful

theorem optional_of_missing (missing : json.field name = none) :
    json.optional name codec = some none := by
  unfold optional
  rw [missing]

theorem optional_of_faithful
    (written : json.field name = some (codec.encode value))
    (present : codec.encode value ≠ .null) (faithful : codec.Faithful value) :
    json.optional name codec = some (some value) := by
  unfold optional
  rw [written]
  split
  · rename_i missing
    cases missing
  · rename_i encoded
    exact absurd (Option.some.inj encoded) present
  · rename_i other _ same
    cases same
    rw [faithful]
    rfl

theorem optional_of_map {value : Option α}
    (written : json.field name = value.map codec.encode)
    (present : ∀ some ∈ value, codec.encode some ≠ .null)
    (faithful : ∀ some ∈ value, codec.Faithful some) :
    json.optional name codec = some value := by
  cases value with
  | none => exact optional_of_missing written
  | some value =>
      exact optional_of_faithful written (present value rfl)
        (faithful value rfl)

theorem literal_of_written {constant : String}
    (written : json.field name = some (.str constant)) :
    json.literal name constant = some () := by
  unfold literal
  rw [written]
  exact if_pos rfl

end Fields

end Json

end Foundation
