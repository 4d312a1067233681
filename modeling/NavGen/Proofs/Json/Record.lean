import Mathlib.Data.List.Basic
import Mathlib.Data.List.Nodup
import NavGen.Json.Record

/-!
# Reading records back

A record is written as an object that has its fields in their fixed order, except those that are left out. Such an object is read as the fields it
was written with: a field that must be given has the value that was written, one that was left out has its default, and one that may be missing has
none. A record is read back if each of its fields is.
-/

namespace NavGen.Json

variable {α : Type}

/-! ## Lists -/

/-- The documents of an array are read one after the other. -/
theorem list?_array (read : Json → Option α) (docs : List Json) : (array docs).list? read = docs.mapM read := by
  have hitems : (array docs).list? read = (docs.attach.map (·.val)).mapM read := by
    simp only [list?, items?, Option.bind_eq_bind, Option.bind_some, List.mapM_map]
    rfl
  rw [hitems, List.attach_map_subtype_val]

theorem mapM_map_eq_some {β : Type} {read : β → Option α} {write : α → β} {items : List α}
    (h : ∀ item ∈ items, read (write item) = some item) : (items.map write).mapM read = some items := by
  induction items with
  | nil => rfl
  | cons item rest ih =>
    rw [List.forall_mem_cons] at h
    rw [List.map_cons, List.mapM_cons, h.1, ih h.2]
    rfl

/-- A list is read back if its items are. -/
@[simp] theorem list?_ofList {read : Json → Option α} {write : α → Json} {items : List α}
    (h : ∀ item ∈ items, read (write item) = some item) : (ofList write items).list? read = some items := by
  rw [ofList, list?_array]
  exact mapM_map_eq_some h

@[simp] theorem asText?_text (value : String) : (text value).asText? = some value := by
  rw [asText?]

@[simp] theorem asBool?_bool (value : Bool) : (bool value).asBool? = some value := by
  rw [asBool?]

@[simp] theorem texts?_texts (items : List String) : (texts items).texts? = some items :=
  list?_ofList fun item _ => asText?_text item

/-! ## Members -/

/-- Whether some members are those of a record whose fields have the given names: in their order, some of them left out. -/
def InOrder (names : List String) (members : List (String × Json)) : Prop :=
  (members.map (·.1)).Sublist names

@[simp] theorem inOrder_nil (names : List String) : InOrder names [] :=
  List.nil_sublist names

@[simp] theorem inOrder_cons {names : List String} {name : String} {value : Json} {members : List (String × Json)} :
    InOrder (name :: names) ((name, value) :: members) ↔ InOrder names members :=
  List.cons_sublist_cons

@[simp] theorem inOrder_optionalMember_append {names : List String} {name : String} {write : α → Json} {value? : Option α}
    {members : List (String × Json)} (h : InOrder names members) :
    InOrder (name :: names) (optionalMember name write value? ++ members) := by
  cases value? with
  | none => exact h.cons name
  | some value => exact h.cons_cons name

@[simp] theorem inOrder_optionalMember {name : String} {write : α → Json} {value? : Option α} :
    InOrder [name] (optionalMember name write value?) := by
  cases value? <;> simp [optionalMember, InOrder]

@[simp] theorem lookup_member_cons (wanted name : String) (value : Json) (members : List (String × Json)) :
    ((name, value) :: members).lookup wanted = if wanted == name then some value else members.lookup wanted := by
  rw [List.lookup_cons]
  cases wanted == name <;> rfl

@[simp] theorem lookup_optionalMember (wanted name : String) (write : α → Json) (value? : Option α) :
    (optionalMember name write value?).lookup wanted = if wanted == name then value?.map write else none := by
  cases value? with
  | none => simp [optionalMember]
  | some value => simp [optionalMember]

/-- A member that is left out or not. -/
@[simp] theorem inOrder_ite {name : String} {value : Json} {leftOut : Prop} [Decidable leftOut] :
    InOrder [name] (if leftOut then [] else [(name, value)]) := by
  split <;> simp [InOrder]

@[simp] theorem lookup_ite (wanted name : String) (value : Json) (leftOut : Prop) [Decidable leftOut] :
    (if leftOut then [] else [(name, value)]).lookup wanted = if wanted == name && !leftOut then some value else none := by
  split <;> simp [*]

@[simp] theorem inOrder_nonEmptyMember {name : String} {write : α → Json} {items : List α} :
    InOrder [name] (nonEmptyMember name write items) := by
  cases items <;> simp [nonEmptyMember]

@[simp] theorem inOrder_nonEmptyMember_append {names : List String} {name : String} {write : α → Json} {items : List α}
    {members : List (String × Json)} (h : InOrder names members) :
    InOrder (name :: names) (nonEmptyMember name write items ++ members) := by
  cases items with
  | nil => exact h.cons name
  | cons item rest => exact h.cons_cons name

@[simp] theorem lookup_nonEmptyMember (wanted name : String) (write : α → Json) (items : List α) :
    (nonEmptyMember name write items).lookup wanted =
      if wanted == name && !items.isEmpty then some (ofList write items) else none := by
  cases items <;> simp [nonEmptyMember]

/-- The variant that an object with one member is. -/
@[simp] theorem variant?_object (tag : String) (value : Json) :
    (object [(tag, value)]).variant? = some (tag, some ⟨value, by simp; omega⟩) :=
  rfl

/-! ## Fields -/

/-- Whether the fields that a document gives are the members of an object. -/
def Fields.Hold {doc : Json} (fields : Fields doc) (members : List (String × Json)) : Prop :=
  ∀ name, (fields.get? name).map (·.val) = members.lookup name

/-- The value of a member that may be missing or null. -/
def ofMember? (read : Json → Option α) : Option Json → Option (Option α)
  | none => some none
  | some .null => some none
  | some value => (read value).map some

theorem repeatsKey_eq_false_iff {entries : List (String × α)} : repeatsKey entries = false ↔ (entries.map (·.1)).Nodup := by
  induction entries with
  | nil => simp [repeatsKey]
  | cons entry rest ih =>
    rw [repeatsKey, Bool.or_eq_false_iff, ih, List.map_cons, List.nodup_cons, List.mem_map, List.any_eq_false]
    simp only [beq_iff_eq, not_exists, not_and]

/-- The members of an object are its entries, each with a part of the object. -/
theorem exists_entries (members : List (String × Json)) :
    ∃ entries, (object members).members? = some entries ∧ entries.map (fun entry => (entry.1, entry.2.val)) = members := by
  refine ⟨_, rfl, ?_⟩
  rw [List.map_map]
  exact List.attach_map_subtype_val members

/-- The members of an object, the value of each of them read. -/
def membersOf? (read : Json → Option α) (doc : Json) : Option (List (String × α)) := do
  (← doc.members?).mapM fun member => do return (member.1, ← read member.2.val)

/-- Named values are read back if the values are. -/
theorem membersOf?_object {read : Json → Option α} {write : α → Json} {items : List (String × α)}
    (h : ∀ item ∈ items, read (write item.2) = some item.2) :
    (object (items.map fun item => (item.1, write item.2))).membersOf? read = some items := by
  obtain ⟨entries, hentries, hmembers⟩ := exists_entries (items.map fun item => (item.1, write item.2))
  have hread : entries.mapM (fun member => do return (member.1, ← read member.2.val))
      = (entries.map fun entry => (entry.1, entry.2.val)).mapM fun member => do return (member.1, ← read member.2) := by
    rw [List.mapM_map]
    rfl
  rw [membersOf?, hentries, Option.bind_eq_bind, Option.bind_some, hread, hmembers]
  refine mapM_map_eq_some fun item hmem => ?_
  rw [h item hmem]
  rfl

/-- What a document gives for a field is what stands under the name of the field. -/
theorem map_val_get? {doc : Json} (fields : Fields doc) (name : String) :
    (fields.get? name).map (·.val) = (fields.entries.map fun entry => (entry.1, entry.2.val)).lookup name := by
  rw [Fields.get?]
  generalize fields.entries = entries
  induction entries with
  | nil => rfl
  | cons entry rest ih =>
    rw [List.find?_cons, List.map_cons, List.lookup_cons, Bool.beq_comm]
    cases name == entry.1 with
    | true => rfl
    | false => exact ih

/-- A record is read from the members that it was written as. -/
theorem exists_fields {names : List String} (hnames : names.Nodup) {members : List (String × Json)} (h : InOrder names members) :
    ∃ fields, (object members).fields? names = some fields ∧ fields.Hold members := by
  obtain ⟨entries, hentries, hmembers⟩ := exists_entries members
  have hkeys : entries.map (·.1) = members.map (·.1) := by
    have := congrArg (List.map (·.1)) hmembers
    rwa [List.map_map] at this
  have hknown : entries.filter (fun entry => names.contains entry.1) = entries := by
    refine List.filter_eq_self.2 fun entry hentry => ?_
    have hkey : entry.1 ∈ members.map (·.1) := hkeys ▸ List.mem_map_of_mem hentry
    exact List.contains_iff_mem.2 (h.subset hkey)
  have hdistinct : repeatsKey entries = false := repeatsKey_eq_false_iff.2 (hkeys ▸ hnames.sublist h)
  refine ⟨⟨entries⟩, ?_, fun name => ?_⟩
  · have hitems : (object members).items? = none := rfl
    rw [fields?, hitems, hentries]
    dsimp only [Option.bind_eq_bind, Option.bind_some]
    rw [hknown, hdistinct]
    rfl
  · rw [map_val_get?, hmembers]

/-- A record is read back if it is from fields that have the members that it was written as. -/
theorem fields?_bind_eq_some (doc : Json) {members : List (String × Json)} (hdoc : doc = object members) {names : List String}
    (hnames : names.Nodup) (horder : InOrder names members) {read : Fields doc → Option α} {value : α}
    (h : ∀ fields, fields.Hold members → read fields = some value) : (doc.fields? names >>= read) = some value := by
  subst hdoc
  obtain ⟨fields, hfields, hhold⟩ := exists_fields hnames horder
  rw [hfields]
  exact h fields hhold

section

variable {doc : Json} {fields : Fields doc} {members : List (String × Json)} (h : fields.Hold members)

include h

/-- A field that must be given is read from the member of its name. -/
theorem Fields.Hold.required (name : String) (read : Json → Option α) :
    fields.required name (fun part => read part.val) = (members.lookup name).bind read := by
  rw [← h name, Fields.required]
  cases fields.get? name <;> rfl

/-- A field with a default is read from the member of its name, if there is one. -/
theorem Fields.Hold.orElse (name : String) (missing : α) (read : Json → Option α) :
    fields.orElse name missing (fun part => read part.val) = (members.lookup name).elim (some missing) read := by
  rw [← h name, Fields.orElse]
  cases fields.get? name <;> rfl

/-- A field that may be missing is read from the member of its name, if there is one. -/
theorem Fields.Hold.optional (name : String) (read : Json → Option α) :
    fields.optional name (fun part => read part.val) = ofMember? read (members.lookup name) := by
  rw [← h name, Fields.optional]
  cases hpart : fields.get? name with
  | none => rfl
  | some part =>
    obtain ⟨value, hvalue⟩ := part
    cases value <;> rfl

end

/-- A list that is left out when it is empty is read back. -/
@[simp] theorem elim_ite_eq_nil {read : Json → Option (List α)} {written : Json} {items : List α} [Decidable (items = [])]
    (h : read written = some items) : (if items = [] then none else some written).elim (some []) read = some items := by
  split
  · simp_all
  · exact h

/-- A value that may be missing is read back from its member. -/
@[simp] theorem ofMember?_map {read : Json → Option α} {write : α → Json} (hread : ∀ value, read (write value) = some value)
    (hnull : ∀ value, write value ≠ .null) (value? : Option α) : ofMember? read (value?.map write) = some value? := by
  cases value? with
  | none => rfl
  | some value =>
    have hmember : ofMember? read (some (write value)) = (read (write value)).map some := by
      cases hwritten : write value <;> first | rfl | exact absurd hwritten (hnull value)
    rw [Option.map_some, hmember, hread, Option.map_some]

end NavGen.Json
