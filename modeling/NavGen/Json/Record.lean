import NavGen.Json.Document

/-!
# Reading records

A record is written as an object with a member per field, or as an array of its fields in their fixed order, of which the last may be
missing. Members that no field is named for are passed over, a field given twice is refused. A reader gets the parts of a document with
the proof that they are smaller than it, so that readers of nested data end.
-/

namespace NavGen.Json

/-- A part of a document: something strictly inside it. -/
abbrev Part (doc : Json) :=
  { part : Json // sizeOf part < sizeOf doc }

/-- The items of an array. -/
def items? : (doc : Json) → Option (List doc.Part)
  | .array items => some (items.attach.map fun item =>
      ⟨item.val, by have := List.sizeOf_lt_of_mem item.property; simp only [array.sizeOf_spec]; omega⟩)
  | _ => none

/-- The members of an object. -/
def members? : (doc : Json) → Option (List (String × doc.Part))
  | .object members => some (members.attach.map fun member =>
      (member.val.1, ⟨member.val.2, by
        have h := List.sizeOf_lt_of_mem member.property
        have : sizeOf member.val.2 < sizeOf member.val := by
          rcases member with ⟨⟨key, value⟩, _⟩
          simp only [Prod.mk.sizeOf_spec]
          omega
        simp only [object.sizeOf_spec]
        omega⟩))
  | _ => none

/-- The text of a text document. -/
def asText? : Json → Option String
  | .text value => some value
  | _ => none

/-- The truth value of a document that is one. -/
def asBool? : Json → Option Bool
  | .bool value => some value
  | _ => none

/-- The integer of a document that is one and fits a signed word of 64 bits. -/
def asInt64? : Json → Option Int
  | .int value => if -0x8000000000000000 ≤ value ∧ value ≤ 0x7FFFFFFFFFFFFFFF then some value else none
  | _ => none

/-- The documents of an array, each read. -/
def list? {α : Type} (read : Json → Option α) (doc : Json) : Option (List α) := do
  (← doc.items?).mapM fun item => read item.val

/-- The texts of an array of texts. -/
def texts? (doc : Json) : Option (List String) :=
  doc.list? asText?

/-- The fields a document gives for a record. -/
structure Fields (doc : Json) where
  entries : List (String × doc.Part)

/-- Whether some name occurs twice among the entries. -/
def repeatsKey {α : Type} : List (String × α) → Bool
  | [] => false
  | (key, _) :: rest => rest.any (·.1 == key) || repeatsKey rest

/-- The fields of a record whose field names are given in their fixed order. -/
def fields? (names : List String) (doc : Json) : Option (Fields doc) :=
  match doc.items? with
  | some items => if items.length ≤ names.length then some ⟨names.zip items⟩ else none
  | none => do
    let known := (← doc.members?).filter fun member => names.contains member.1
    if repeatsKey known then none else some ⟨known⟩

namespace Fields

variable {doc : Json} {α : Type}

/-- What a document gives for a field. -/
def get? (fields : Fields doc) (name : String) : Option doc.Part :=
  (fields.entries.find? (·.1 == name)).map (·.2)

/-- A field that must be given. -/
def required (fields : Fields doc) (name : String) (read : doc.Part → Option α) : Option α := do
  read (← fields.get? name)

/-- A field that has the value `missing` when it is not given. -/
def orElse (fields : Fields doc) (name : String) (missing : α) (read : doc.Part → Option α) : Option α :=
  match fields.get? name with
  | none => some missing
  | some part => read part

/-- A field that may be missing or null. -/
def optional (fields : Fields doc) (name : String) (read : doc.Part → Option α) : Option (Option α) :=
  match fields.get? name with
  | none => some none
  | some ⟨.null, _⟩ => some none
  | some part => (read part).map some

end Fields

/-- The tag of a variant and what it carries. A variant that carries nothing is written as its tag alone. -/
def variant? : (doc : Json) → Option (String × Option doc.Part)
  | .text tag => some (tag, none)
  | doc => do
    match ← doc.members? with
    | [(tag, value)] => some (tag, some value)
    | _ => none

/-- The tag of a variant that carries nothing. It may also be written as an object whose only member is null. -/
def unitVariant? (doc : Json) : Option String := do
  match ← doc.variant? with
  | (tag, none) => some tag
  | (tag, some ⟨.null, _⟩) => some tag
  | _ => none

/-- The value of the variant tag in a list of variants that carry nothing. -/
def oneOf? {α : Type} (variants : List (String × α)) (doc : Json) : Option α := do
  variants.lookup (← doc.unitVariant?)

end NavGen.Json
