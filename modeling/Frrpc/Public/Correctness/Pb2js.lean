import Mathlib.Data.List.TakeWhile
import Frrpc.Public.Pb2js

/-!
# `Public.Correctness.Pb2js` — which messages become the JSON they should

A message is rendered into a value that is not in the JSON that is built, so nothing of it arrives, and its
first member is one of no object (`formatToJson_null`). A field of messages is therefore never rendered, and
a string of a singular field ends at its first NUL; every other field that is there is its member
(`pbToJson_preserves_iff`).
-/

namespace Frrpc.Pb2js

open Lib

/-! ## What JSON should be made of a message -/

mutual

/-- An object with one member for each field that is there. -/
def Message.json : Message → Option Value
  | .mk fields => (fieldsJson fields).map .object

def fieldsJson : List Field → Option (List (String × Value))
  | [] => some []
  | field :: fields => do
    let members ← field.members
    let others ← fieldsJson fields
    return members ++ others

/-- The member of a field that is there. -/
def Field.members : Field → Option (List (String × Value))
  | .unset _ => some []
  | .set name value => value.json.map fun json => [(name, json)]
  | .repeated name values =>
    if values = [] then some [] else (valuesJson values).map fun jsons => [(name, .array jsons)]

def valuesJson : List FieldValue → Option (List Value)
  | [] => some []
  | value :: values => do
    let json ← value.json
    let jsons ← valuesJson values
    return json :: jsons

/-- The number or the whole string; nothing is said about the other types. -/
def FieldValue.json : FieldValue → Option Value
  | .message m => m.json
  | .int32 n => some (.number n.toInt)
  | .uint32 n => some (.number n.toNat)
  | .int64 n => some (.number n.toInt)
  | .uint64 n => some (.number n.toNat)
  | .string s => some (.string s)
  | .bytes s => some (.string s)
  | .other => none

end

/-- The JSON is built without a fault, and it is what it should be. -/
def Preserves (byteSize : Message → Nat) (m : Message) : Prop :=
  ∃ value, pbToJson byteSize m = some value ∧ m.json = some value

/-! ## Values that a message is rendered into -/

variable {byteSize : Message → Nat}

/-- A field leaves a null value null, if it does not fail on it. -/
theorem formatField_null {field : Field} {value : Value} (h : formatField byteSize .null field = some value) :
    value = .null := by
  cases field with
  | unset name =>
    rw [formatField] at h
    exact (Option.some.inj h).symm
  | repeated name values =>
    rw [formatField] at h
    split at h
    · obtain ⟨valueArray, _, hadd⟩ := Option.bind_eq_some_iff.mp h
      cases hadd
    · exact (Option.some.inj h).symm
  | set name fieldValue =>
    cases fieldValue with
    | message tmpMsg =>
      rw [formatField] at h
      split at h
      · cases h
      · exact (Option.some.inj h).symm
    | other =>
      rw [formatField] at h
      exact (Option.some.inj h).symm
    | _ =>
      rw [formatField] at h
      cases h

/-- **A message that is rendered into a null value leaves it null**, or fails on it. -/
theorem formatToJson_null {m : Message} {value : Value} (h : formatToJson byteSize .null m = some value) :
    value = .null := by
  obtain ⟨fields⟩ := m
  rw [formatToJson] at h
  induction fields with
  | nil =>
    rw [formatFields] at h
    exact (Option.some.inj h).symm
  | cons field fields ih =>
    rw [formatFields] at h
    obtain ⟨next, hfield, hrest⟩ := Option.bind_eq_some_iff.mp h
    rw [formatField_null hfield] at hrest
    exact ih hrest

/-! ## Elements -/

/-- A value of a type that both functions have a case for, and that is no message. -/
def FieldValue.Scalar : FieldValue → Prop
  | .message _ | .other => False
  | _ => True

/-- **An element is what it should be exactly if it is no message.** -/
theorem formatElement_iff (fieldValue : FieldValue) :
    (∃ value, formatElement byteSize fieldValue = some value ∧ fieldValue.json = some value)
      ↔ fieldValue.Scalar := by
  cases fieldValue with
  | message tmpMsg =>
    -- an object is expected, and whatever the message is, the element stays null
    refine iff_of_false ?_ id
    rintro ⟨value, hformat, hjson⟩
    have hnull : value = .null := by
      rw [formatElement] at hformat
      split at hformat
      · exact formatToJson_null hformat
      · exact (Option.some.inj hformat).symm
    obtain ⟨fields⟩ := tmpMsg
    rw [hnull, FieldValue.json, Message.json] at hjson
    obtain ⟨members, _, hobject⟩ := Option.map_eq_some_iff.mp hjson
    cases hobject
  | other =>
    refine iff_of_false ?_ id
    rintro ⟨value, _, hjson⟩
    rw [FieldValue.json] at hjson
    cases hjson
  | _ =>
    rw [formatElement, FieldValue.json]
    exact iff_of_true ⟨_, rfl, rfl⟩ trivial

/-- What a repeated field has in its array: its elements, one after the other. -/
theorem formatRepeatedField_array (values : List Value) (fieldValues : List FieldValue) :
    formatRepeatedField byteSize (.array values) fieldValues
      = (fieldValues.mapM (formatElement byteSize)).map fun elements => .array (values ++ elements) := by
  induction fieldValues generalizing values with
  | nil =>
    rw [formatRepeatedField, List.mapM_nil]
    exact congrArg (fun xs => some (Value.array xs)) (List.append_nil values).symm
  | cons fieldValue fieldValues ih =>
    rw [formatRepeatedField, List.mapM_cons]
    cases formatElement byteSize fieldValue with
    | none => rfl
    | some element =>
      simp only [Option.bind_eq_bind, Option.bind_some, Value.pushBack, ih]
      cases fieldValues.mapM (formatElement byteSize) with
      | none => rfl
      | some elements => simp

theorem valuesJson_mapM (fieldValues : List FieldValue) :
    valuesJson fieldValues = fieldValues.mapM FieldValue.json := by
  induction fieldValues with
  | nil => rw [valuesJson]; rfl
  | cons fieldValue fieldValues ih => rw [valuesJson, List.mapM_cons, ih]

/-! ## Lists of partial results -/

section

variable {α β γ : Type} {f g : α → Option β} {xs : List α} {ys : List β}

/-- Two partial functions give the same list exactly if they give the same at each of its members. -/
theorem mapM_agree_iff :
    (∃ ys, xs.mapM f = some ys ∧ xs.mapM g = some ys) ↔ ∀ x ∈ xs, ∃ y, f x = some y ∧ g x = some y := by
  induction xs with
  | nil => exact iff_of_true ⟨[], rfl, rfl⟩ nofun
  | cons x xs ih =>
    rw [List.forall_mem_cons, ← ih, List.mapM_cons, List.mapM_cons]
    constructor
    · rintro ⟨ys, hf, hg⟩
      obtain ⟨y, hy, hf⟩ := Option.bind_eq_some_iff.mp hf
      obtain ⟨rest, hrest, hf⟩ := Option.bind_eq_some_iff.mp hf
      obtain ⟨y', hy', hg⟩ := Option.bind_eq_some_iff.mp hg
      obtain ⟨rest', hrest', hg⟩ := Option.bind_eq_some_iff.mp hg
      obtain rfl := Option.some.inj hf
      obtain ⟨rfl, rfl⟩ := List.cons.inj (Option.some.inj hg)
      exact ⟨⟨y', hy, hy'⟩, rest', hrest, hrest'⟩
    · rintro ⟨⟨y, hf, hg⟩, rest, hf', hg'⟩
      refine ⟨y :: rest, ?_, ?_⟩
      · rw [hf, hf']; rfl
      · rw [hg, hg']; rfl

/-- What every result tells of its argument, the list of results tells of the list of arguments. -/
theorem map_of_mapM {measure : β → γ} {measure' : α → γ} (hf : ∀ x y, f x = some y → measure y = measure' x)
    (h : xs.mapM f = some ys) : ys.map measure = xs.map measure' := by
  induction xs generalizing ys with
  | nil =>
    obtain rfl := Option.some.inj h
    rfl
  | cons x xs ih =>
    rw [List.mapM_cons] at h
    obtain ⟨y, hy, h⟩ := Option.bind_eq_some_iff.mp h
    obtain ⟨rest, hrest, h⟩ := Option.bind_eq_some_iff.mp h
    obtain rfl := Option.some.inj h
    rw [List.map_cons, List.map_cons, hf x y hy, ih hrest]

end

/-! ## Fields -/

/-- The members of a field: none, or one of its value, or one of the array of its elements. -/
def Field.membersBy (value element : FieldValue → Option Value) : Field → Option (List (String × Value))
  | .unset _ => some []
  | .set name fieldValue => (value fieldValue).map fun json => [(name, json)]
  | .repeated name values =>
    if values = [] then some [] else (values.mapM element).map fun jsons => [(name, .array jsons)]

/-- How many they are. -/
def Field.weight : Field → Nat
  | .unset _ => 0
  | .set _ _ => 1
  | .repeated _ values => if values = [] then 0 else 1

theorem members_eq (field : Field) : field.members = field.membersBy FieldValue.json FieldValue.json := by
  cases field with
  | unset | set => rw [Field.members, Field.membersBy]
  | repeated => rw [Field.members, Field.membersBy, valuesJson_mapM]

section

variable {value element value' element' : FieldValue → Option Value} {field : Field}

theorem length_membersBy {members : List (String × Value)} (h : field.membersBy value element = some members) :
    members.length = field.weight := by
  cases field with
  | unset name =>
    obtain rfl := Option.some.inj h
    rfl
  | set name fieldValue =>
    obtain ⟨json, _, rfl⟩ := Option.map_eq_some_iff.mp h
    rfl
  | repeated name values =>
    rw [Field.membersBy] at h
    rw [Field.weight]
    split at h
    · next hempty =>
      obtain rfl := Option.some.inj h
      rw [if_pos hempty]
      rfl
    · next hne =>
      obtain ⟨jsons, _, rfl⟩ := Option.map_eq_some_iff.mp h
      rw [if_neg hne]
      rfl

/-- The values of a field agree. -/
def Field.AgreeBy (value element value' element' : FieldValue → Option Value) : Field → Prop
  | .unset _ => True
  | .set _ fieldValue => ∃ json, value fieldValue = some json ∧ value' fieldValue = some json
  | .repeated _ values => ∀ v ∈ values, ∃ json, element v = some json ∧ element' v = some json

theorem membersBy_agree_iff :
    (∃ members, field.membersBy value element = some members ∧ field.membersBy value' element' = some members)
      ↔ field.AgreeBy value element value' element' := by
  cases field with
  | unset name => exact iff_of_true ⟨[], rfl, rfl⟩ trivial
  | set name fieldValue =>
    constructor
    · rintro ⟨members, h, h'⟩
      obtain ⟨json, hjson, rfl⟩ := Option.map_eq_some_iff.mp h
      obtain ⟨json', hjson', heq⟩ := Option.map_eq_some_iff.mp h'
      obtain rfl := (Prod.mk.inj (List.cons.inj heq).1).2
      exact ⟨json', hjson, hjson'⟩
    · rintro ⟨json, hjson, hjson'⟩
      refine ⟨[(name, json)], ?_, ?_⟩
      · rw [Field.membersBy, hjson, Option.map_some]
      · rw [Field.membersBy, hjson', Option.map_some]
  | repeated name values =>
    rw [Field.AgreeBy, ← mapM_agree_iff, Field.membersBy, Field.membersBy]
    by_cases hempty : values = []
    · subst hempty
      exact iff_of_true ⟨[], rfl, rfl⟩ ⟨[], rfl, rfl⟩
    · rw [if_neg hempty, if_neg hempty]
      constructor
      · rintro ⟨members, h, h'⟩
        obtain ⟨jsons, hjsons, rfl⟩ := Option.map_eq_some_iff.mp h
        obtain ⟨jsons', hjsons', heq⟩ := Option.map_eq_some_iff.mp h'
        obtain rfl := Value.array.inj (Prod.mk.inj (List.cons.inj heq).1).2
        exact ⟨jsons', hjsons, hjsons'⟩
      · rintro ⟨jsons, hjsons, hjsons'⟩
        refine ⟨[(name, .array jsons)], ?_, ?_⟩
        · rw [hjsons, Option.map_some]
        · rw [hjsons', Option.map_some]

end

/-! ## What `FormatToJson` makes of a field -/

/-- What `AddMember` gets of the value of a singular field; of a message, nothing is added. -/
def FieldValue.added (fieldValue : FieldValue) : Option Value :=
  match fieldValue with
  | .message _ | .other => none
  | .string s | .bytes s => some (.string (cStr s))
  | _ => fieldValue.json

/-- What is there of the field is rendered in some way. -/
def Field.Rendered : Field → Prop
  | .set _ fieldValue => fieldValue.Scalar
  | _ => True

theorem formatField_rendered {field : Field} (h : field.Rendered) (members : List (String × Value)) :
    formatField byteSize (.object members) field
      = (field.membersBy FieldValue.added (formatElement byteSize)).map fun new =>
          .object (members ++ new) := by
  cases field with
  | unset name => rw [formatField, Field.membersBy, Option.map_some, List.append_nil]
  | repeated name values =>
    rw [formatField, Field.membersBy]
    by_cases hempty : values = []
    · rw [if_neg (by rw [hempty]; exact Nat.lt_irrefl 0), if_pos hempty, Option.map_some, List.append_nil]
    · rw [if_pos (List.length_pos_iff.mpr hempty), if_neg hempty, formatRepeatedField_array]
      cases values.mapM (formatElement byteSize) with
      | none => rfl
      | some elements => rfl
  | set name fieldValue =>
    cases fieldValue with
    | message | other => exact h.elim
    | _ =>
      rw [formatField, Field.membersBy]
      rfl

/-- A field that is not rendered is there, and adds no member. -/
theorem formatField_lost {field : Field} (h : ¬ field.Rendered) {members : List (String × Value)}
    {value : Value} (hformat : formatField byteSize (.object members) field = some value) :
    field.weight = 1 ∧ ∃ members', value = .object members' ∧ members'.length = members.length := by
  cases field with
  | unset | repeated => exact absurd trivial h
  | set name fieldValue =>
    refine ⟨rfl, ?_⟩
    cases fieldValue with
    | message tmpMsg =>
      rw [formatField] at hformat
      split at hformat
      · -- what was rendered is written back to a member that is there, or lost
        obtain ⟨member, _, hformat⟩ := Option.bind_eq_some_iff.mp hformat
        obtain ⟨member', _, hformat⟩ := Option.bind_eq_some_iff.mp hformat
        exact ⟨_, (Option.some.inj hformat).symm, List.length_replaceF⟩
      · exact ⟨members, (Option.some.inj hformat).symm, rfl⟩
    | other =>
      rw [formatField] at hformat
      exact ⟨members, (Option.some.inj hformat).symm, rfl⟩
    | _ => exact absurd trivial h

/-! ## All fields -/

def weights (fields : List Field) : Nat := (fields.map Field.weight).sum

/-- **There are as many members as fields are there only if every field is rendered.** -/
theorem formatFields_length {fields : List Field} {members : List (String × Value)} {value : Value}
    (h : formatFields byteSize (.object members) fields = some value) :
    ∃ members', value = .object members' ∧ members'.length ≤ members.length + weights fields ∧
      (members'.length = members.length + weights fields → ∀ field ∈ fields, field.Rendered) := by
  induction fields generalizing members with
  | nil =>
    rw [formatFields] at h
    exact ⟨members, (Option.some.inj h).symm, Nat.le_refl _, nofun⟩
  | cons field fields ih =>
    rw [formatFields] at h
    obtain ⟨next, hfield, hrest⟩ := Option.bind_eq_some_iff.mp h
    have hweights : weights (field :: fields) = field.weight + weights fields := List.sum_cons
    by_cases hrendered : field.Rendered
    · rw [formatField_rendered hrendered] at hfield
      obtain ⟨new, hnew, rfl⟩ := Option.map_eq_some_iff.mp hfield
      have hlength := length_membersBy hnew
      obtain ⟨members', hvalue, hle, hall⟩ := ih hrest
      rw [List.length_append] at hle hall
      refine ⟨members', hvalue, by omega, fun heq => ?_⟩
      exact List.forall_mem_cons.mpr ⟨hrendered, hall (by omega)⟩
    · -- one member is missing, and no later field makes up for it
      obtain ⟨hone, members₁, rfl, hsame⟩ := formatField_lost hrendered hfield
      obtain ⟨members', hvalue, hle, _⟩ := ih hrest
      exact ⟨members', hvalue, by omega, fun heq => by omega⟩

theorem formatFields_rendered {fields : List Field} (h : ∀ field ∈ fields, field.Rendered)
    (members : List (String × Value)) :
    formatFields byteSize (.object members) fields
      = (fields.mapM (Field.membersBy FieldValue.added (formatElement byteSize))).map fun new =>
          .object (members ++ new.flatten) := by
  induction fields generalizing members with
  | nil =>
    rw [formatFields, List.mapM_nil]
    exact congrArg (fun xs => some (Value.object xs)) (List.append_nil members).symm
  | cons field fields ih =>
    obtain ⟨hfield, hfields⟩ := List.forall_mem_cons.mp h
    rw [formatFields, List.mapM_cons, formatField_rendered hfield]
    cases field.membersBy FieldValue.added (formatElement byteSize) with
    | none => rfl
    | some new =>
      simp only [Option.map_some, Option.bind_eq_bind, Option.bind_some, ih hfields]
      cases fields.mapM (Field.membersBy FieldValue.added (formatElement byteSize)) with
      | none => rfl
      | some rest => simp

theorem fieldsJson_mapM (fields : List Field) :
    fieldsJson fields
      = (fields.mapM (Field.membersBy FieldValue.json FieldValue.json)).map List.flatten := by
  induction fields with
  | nil => rw [fieldsJson]; rfl
  | cons field fields ih =>
    rw [fieldsJson, List.mapM_cons, ih, members_eq]
    cases field.membersBy FieldValue.json FieldValue.json with
    | none => rfl
    | some members =>
      cases fields.mapM (Field.membersBy FieldValue.json FieldValue.json) with
      | none => rfl
      | some rest => rfl

/-! ## Messages -/

/-- A number, or a string without a NUL. -/
def FieldValue.Whole : FieldValue → Prop
  | .string s | .bytes s => 0 ∉ s
  | fieldValue => fieldValue.Scalar

/-- The field is not there, or its value is whole, or its elements are no messages. -/
def Field.Plain : Field → Prop
  | .unset _ => True
  | .set _ fieldValue => fieldValue.Whole
  | .repeated _ values => ∀ fieldValue ∈ values, fieldValue.Scalar

theorem cStr_eq_iff (s : Bytes) : cStr s = s ↔ 0 ∉ s := by
  unfold cStr
  rw [List.takeWhile_eq_self_iff]
  constructor
  · intro h hmem
    exact of_decide_eq_true (h 0 hmem) rfl
  · intro h b hmem
    apply decide_eq_true
    rintro rfl
    exact h hmem

/-- **The value of a singular field is what it should be exactly if it is whole.** -/
theorem added_iff (fieldValue : FieldValue) :
    (∃ value, fieldValue.added = some value ∧ fieldValue.json = some value) ↔ fieldValue.Whole := by
  have hstring : ∀ s : Bytes, (∃ value, some (Value.string (cStr s)) = some value ∧
      some (Value.string s) = some value) ↔ 0 ∉ s := by
    intro s
    rw [← cStr_eq_iff]
    constructor
    · rintro ⟨value, hadded, hjson⟩
      obtain rfl := Option.some.inj hjson
      exact Value.string.inj (Option.some.inj hadded)
    · intro h
      exact ⟨_, rfl, by rw [h]⟩
  cases fieldValue with
  | message | other => exact iff_of_false (fun ⟨_, hadded, _⟩ => nomatch hadded) id
  | string s | bytes s =>
    rw [FieldValue.json]
    exact hstring s
  | _ =>
    rw [FieldValue.json]
    exact iff_of_true ⟨_, rfl, rfl⟩ trivial

theorem agreeBy_iff (field : Field) :
    field.AgreeBy FieldValue.added (formatElement byteSize) FieldValue.json FieldValue.json ↔ field.Plain := by
  cases field with
  | unset name => exact Iff.rfl
  | set name fieldValue => exact added_iff fieldValue
  | repeated name values => exact forall₂_congr fun fieldValue _ => formatElement_iff fieldValue

theorem Field.Plain.rendered {field : Field} (h : field.Plain) : field.Rendered := by
  cases field with
  | unset | repeated => trivial
  | set name fieldValue =>
    cases fieldValue with
    | message | other => exact h
    | _ => trivial

/-- The members of rendered fields are what they should be exactly if every field is plain. -/
theorem members_agree_iff (byteSize : Message → Nat) (fields : List Field) :
    (∃ members, (fields.mapM (Field.membersBy FieldValue.added (formatElement byteSize))).map List.flatten
        = some members ∧ fieldsJson fields = some members)
      ↔ ∀ field ∈ fields, field.Plain := by
  have hplain : (∀ field ∈ fields, field.Plain) ↔ ∀ field ∈ fields, ∃ members,
      field.membersBy FieldValue.added (formatElement byteSize) = some members ∧
        field.membersBy FieldValue.json FieldValue.json = some members :=
    forall₂_congr fun field _ => (membersBy_agree_iff.trans (agreeBy_iff field)).symm
  rw [hplain, ← mapM_agree_iff, fieldsJson_mapM]
  constructor
  · rintro ⟨members, hcode, hjson⟩
    obtain ⟨new, hnew, hflat⟩ := Option.map_eq_some_iff.mp hcode
    obtain ⟨json, hjson, hflat'⟩ := Option.map_eq_some_iff.mp hjson
    -- a field has as many members here as there
    have hnewLengths := map_of_mapM (fun _ _ => length_membersBy) hnew
    have hjsonLengths := map_of_mapM (fun _ _ => length_membersBy) hjson
    have hsame : new = json :=
      List.eq_iff_flatten_eq.mpr ⟨hflat.trans hflat'.symm, hnewLengths.trans hjsonLengths.symm⟩
    exact ⟨json, hsame ▸ hnew, hjson⟩
  · rintro ⟨members, hcode, hjson⟩
    exact ⟨members.flatten, by rw [hcode, Option.map_some], by rw [hjson, Option.map_some]⟩

theorem length_fieldsJson {fields : List Field} {members : List (String × Value)}
    (h : fieldsJson fields = some members) : members.length = weights fields := by
  rw [fieldsJson_mapM] at h
  obtain ⟨json, hjson, rfl⟩ := Option.map_eq_some_iff.mp h
  rw [List.length_flatten, map_of_mapM (fun _ _ => length_membersBy) hjson, weights]

/-- **A message becomes the JSON that it should exactly if every field is plain**: no field of messages is
    there, and no string of a singular field has a NUL. -/
theorem pbToJson_preserves_iff (byteSize : Message → Nat) (m : Message) :
    Preserves byteSize m ↔ ∀ field ∈ m.fields, field.Plain := by
  obtain ⟨fields⟩ := m
  show (∃ value, formatFields byteSize (.object []) fields = some value ∧
    (fieldsJson fields).map Value.object = some value) ↔ ∀ field ∈ fields, field.Plain
  rw [← members_agree_iff byteSize]
  constructor
  · rintro ⟨value, hformat, hjson⟩
    obtain ⟨members, hmembers, rfl⟩ := Option.map_eq_some_iff.mp hjson
    obtain ⟨members', hvalue, _, hall⟩ := formatFields_length hformat
    obtain rfl := Value.object.inj hvalue
    -- so no field was lost, and the members can be compared one by one
    have hrendered := hall (by rw [length_fieldsJson hmembers, List.length_nil, Nat.zero_add])
    rw [formatFields_rendered hrendered] at hformat
    obtain ⟨new, hnew, hobject⟩ := Option.map_eq_some_iff.mp hformat
    refine ⟨members, ?_, hmembers⟩
    rw [hnew, Option.map_some]
    exact congrArg some (Value.object.inj hobject)
  · intro hagree
    have hplain := (members_agree_iff byteSize fields).mp hagree
    obtain ⟨members, hcode, hjson⟩ := hagree
    obtain ⟨new, hnew, rfl⟩ := Option.map_eq_some_iff.mp hcode
    refine ⟨.object new.flatten, ?_, by rw [hjson, Option.map_some]⟩
    rw [formatFields_rendered fun field hmem => (hplain field hmem).rendered, hnew]
    rfl

/-- **A request's meta is not rendered**: its request meta is rendered into a value that is no object. Nor is
    an empty message, nor what stands behind a NUL. -/
theorem pbToJson_not_preserves :
    pbToJson (fun _ => 2)
        (.mk [.set "rpc_request_meta" (.message (.mk [.set "request_id" (.int32 1)]))]) = none ∧
      ¬ Preserves (fun _ => 2)
        (.mk [.set "rpc_request_meta" (.message (.mk [.set "request_id" (.int32 1)]))]) ∧
      ¬ Preserves (fun _ => 0) (.mk [.repeated "requests" [.message (.mk [])]]) ∧
      ¬ Preserves (fun _ => 0) (.mk [.set "service_name" (.string [83, 0, 84])]) := by
  refine ⟨rfl, ?_, ?_, ?_⟩
  · rintro ⟨value, hformat, _⟩
    cases hformat
  · rintro ⟨value, hformat, hjson⟩
    cases hformat
    cases hjson
  · rintro ⟨value, hformat, hjson⟩
    cases hformat
    cases hjson

end Frrpc.Pb2js
