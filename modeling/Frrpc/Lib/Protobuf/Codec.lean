import Frrpc.Lib.Protobuf.Wire

/-!
# `Lib.Protobuf.Codec` — message codecs from their fields

`PbMessage` is what a program relies on from a message class. proto3 writes the fields of a message in the
order of their numbers and leaves out every field that has its default value; it reads fields in any order,
the last one of a number winning, and skips numbers it does not know. So a codec is a list of fields
(`fields`) and a way to take one field in (`merge`), and its round trip is: merging the fields of a message
into the default message restores it. `PbMessage.ofFields` turns that into a `PbMessage`.
-/

namespace Frrpc.Lib

/-! ## What a program relies on -/

/-- **What a program relies on from a generated message class**: a message within the library's size limit
    (`INT_MAX` bytes) parses back to itself, and no bytes at all parse to the default message. -/
class PbMessage (α : Type) [Inhabited α] where
  serialize : α → Bytes
  parse : Bytes → Option α
  parse_serialize : ∀ m, (serialize m).length < 2 ^ 31 → parse (serialize m) = some m
  parse_nil : parse [] = some default

export PbMessage (serialize parse)

/-- `ByteSize()`: the serialized length. -/
def byteSize {α : Type} [Inhabited α] [PbMessage α] (m : α) : Nat := (serialize m).length

/-- A message that serializes to nothing is the default one. -/
theorem eq_default_of_serialize_nil {α : Type} [Inhabited α] [PbMessage α] {m : α}
    (h : serialize m = []) : m = default := by
  have hparse := PbMessage.parse_serialize m (by rw [h]; decide)
  rw [h, PbMessage.parse_nil] at hparse
  exact (Option.some.inj hparse).symm

/-! ## Field types -/

/-- `int32` and enumerations: the sign-extended 64-bit pattern, as a varint. -/
def int32Bits (x : Int32) : Nat := x.toInt64.toUInt64.toNat

def ofInt32Bits (n : Nat) : Int32 := (UInt64.ofNat n).toInt64.toInt32

theorem ofInt32Bits_int32Bits (x : Int32) : ofInt32Bits (int32Bits x) = x := by
  simp [ofInt32Bits, int32Bits]

theorem int32Bits_lt (x : Int32) : int32Bits x < 2 ^ 64 := UInt64.toNat_lt _

theorem int32Bits_eq_zero {x : Int32} (h : int32Bits x = 0) : x = 0 := by
  rw [← ofInt32Bits_int32Bits x, h]; rfl

/-- `string`: UTF-8, checked on reading. -/
def utf8 (s : String) : Bytes := s.toByteArray.data.toList

def ofUtf8 (bs : Bytes) : Option String := String.fromUTF8? ⟨bs.toArray⟩

theorem ofUtf8_utf8 (s : String) : ofUtf8 (utf8 s) = some s := by
  unfold ofUtf8 utf8 String.fromUTF8?
  rw [Array.toArray_toList, dif_pos s.isValidUTF8]
  rfl

theorem utf8_eq_nil {s : String} (h : utf8 s = []) : s = "" := by
  have := ofUtf8_utf8 s
  rw [h] at this
  exact (Option.some.inj this).symm

/-- A packed `repeated int32`: its varints back to back. -/
def packed (xs : List Int32) : Bytes := xs.flatMap (fun x => encodeVarint (int32Bits x))

def unpackUpTo : Nat → Bytes → Option (List Int32)
  | _, [] => some []
  | 0, _ :: _ => none
  | fuel + 1, bs => do
    let (n, rest) ← decodeVarint bs
    let xs ← unpackUpTo fuel rest
    return ofInt32Bits n :: xs

def unpack (bs : Bytes) : Option (List Int32) := unpackUpTo bs.length bs

theorem unpackUpTo_packed (xs : List Int32) {fuel : Nat} (hfuel : (packed xs).length ≤ fuel) :
    unpackUpTo fuel (packed xs) = some xs := by
  induction xs generalizing fuel with
  | nil => cases fuel <;> rfl
  | cons x xs ih =>
    have hpos := encodeVarint_length_pos (int32Bits x)
    have hone := decodeVarint_encodeVarint (int32Bits_lt x) (packed xs)
    rw [packed, List.flatMap_cons, List.length_append] at hfuel
    rw [show packed (x :: xs) = encodeVarint (int32Bits x) ++ packed xs from rfl]
    obtain ⟨b, bs, hb⟩ := List.exists_cons_of_length_pos hpos
    cases fuel with
    | zero => omega
    | succ fuel =>
      have hrest : unpackUpTo fuel (packed xs) = some xs := ih (by rw [packed]; omega)
      rw [hb, List.cons_append] at hone ⊢
      simp only [unpackUpTo, hone, hrest, Option.bind_eq_bind, Option.bind_some,
        ofInt32Bits_int32Bits]
      rfl

theorem unpack_packed (xs : List Int32) : unpack (packed xs) = some xs :=
  unpackUpTo_packed xs (Nat.le_refl _)

theorem packed_eq_nil {xs : List Int32} (h : packed xs = []) : xs = [] := by
  have := unpack_packed xs
  rw [h] at this
  exact (Option.some.inj this).symm

/-! ## Fields that are left out at their default -/

def varintField (number n : Nat) : List Field := if n = 0 then [] else [⟨number, .varint n⟩]

def bytesField (number : Nat) (bs : Bytes) : List Field :=
  if bs = [] then [] else [⟨number, .bytes bs⟩]

/-- A sub-message is written whenever it is present, even when it is empty. -/
def messageField (number : Nat) : Option Bytes → List Field
  | none => []
  | some bs => [⟨number, .bytes bs⟩]

/-! ### How long they are -/

theorem encodeFields_bytes_length (number : Nat) (bs : Bytes) :
    (encodeFields [⟨number, .bytes bs⟩]).length
      = (encodeVarint (8 * number + 2)).length + ((encodeVarint bs.length).length + bs.length) := by
  simp only [encodeFields, List.flatMap_cons, List.flatMap_nil, encodeField, List.append_nil,
    List.length_append]

theorem varintField_length (number n : Nat) :
    (encodeFields (varintField number n)).length
      = if n = 0 then 0 else varintSize (8 * number) + varintSize n := by
  unfold varintField
  split
  · rfl
  · simp only [encodeFields, List.flatMap_cons, List.flatMap_nil, encodeField, List.append_nil,
      List.length_append, varintSize]

theorem bytesField_length (number : Nat) (bs : Bytes) :
    (encodeFields (bytesField number bs)).length
      = if bs = [] then 0 else varintSize (8 * number + 2) + (varintSize bs.length + bs.length) := by
  unfold bytesField
  split
  · rfl
  · exact encodeFields_bytes_length number bs

/-- A field a codec may write: a legal number and a 64-bit value. Lengths are bounded by the message. -/
def Legal (f : Field) : Prop :=
  0 < f.number ∧ f.number < 2 ^ 29 ∧
    match f.value with
    | .varint n => n < 2 ^ 64
    | .bytes _ => True
    | .skipped => False

theorem legal_nil : ∀ f ∈ ([] : List Field), Legal f := fun _ hf => absurd hf List.not_mem_nil

theorem legal_singleton {f : Field} (h : Legal f) : ∀ g ∈ [f], Legal g := by
  intro g hg
  obtain rfl := List.mem_singleton.mp hg
  exact h

theorem legal_varintField {number n : Nat} (h₀ : 0 < number) (h : number < 2 ^ 29) (hn : n < 2 ^ 64) :
    ∀ f ∈ varintField number n, Legal f := by
  unfold varintField
  split
  · exact legal_nil
  · exact legal_singleton ⟨h₀, h, hn⟩

theorem legal_bytesField {number : Nat} (bs : Bytes) (h₀ : 0 < number) (h : number < 2 ^ 29) :
    ∀ f ∈ bytesField number bs, Legal f := by
  unfold bytesField
  split
  · exact legal_nil
  · exact legal_singleton ⟨h₀, h, trivial⟩

theorem legal_messageField {number : Nat} (m : Option Bytes) (h₀ : 0 < number) (h : number < 2 ^ 29) :
    ∀ f ∈ messageField number m, Legal f := by
  cases m with
  | none => exact legal_nil
  | some bs => exact legal_singleton ⟨h₀, h, trivial⟩

theorem legal_append {fs gs : List Field} (hf : ∀ f ∈ fs, Legal f) (hg : ∀ f ∈ gs, Legal f) :
    ∀ f ∈ fs ++ gs, Legal f := by
  intro f h
  rcases List.mem_append.mp h with h | h
  · exact hf f h
  · exact hg f h

theorem valid_of_legal {fs : List Field} (hlen : (encodeFields fs).length < 2 ^ 31)
    (hlegal : ∀ f ∈ fs, Legal f) : ∀ f ∈ fs, f.Valid := by
  rintro ⟨number, value⟩ hf
  obtain ⟨h₀, h, hval⟩ := hlegal _ hf
  refine ⟨h₀, h, ?_⟩
  cases value with
  | varint n => exact hval
  | bytes bs => exact Nat.lt_of_le_of_lt (bytes_length_le_encodeFields hf) hlen
  | skipped => exact hval

/-! ## Codecs from fields -/

/-- Take the fields of a message in, one by one. -/
def parseInto {α : Type} (merge : α → Field → Option α) (m : α) (bs : Bytes) : Option α :=
  (decodeFields bs).bind (fun fs => fs.foldlM merge m)

/-- **A codec from its fields.** -/
@[reducible] def PbMessage.ofFields {α : Type} [Inhabited α] (fields : α → List Field)
    (merge : α → Field → Option α) (hlegal : ∀ m, ∀ f ∈ fields m, Legal f)
    (hmerge : ∀ m, (encodeFields (fields m)).length < 2 ^ 31 →
      (fields m).foldlM merge default = some m) : PbMessage α where
  serialize m := encodeFields (fields m)
  parse := parseInto merge default
  parse_serialize m hlen := by
    rw [parseInto, decodeFields_encodeFields (valid_of_legal hlen (hlegal m)), Option.bind_some,
      hmerge m hlen]
  parse_nil := rfl

theorem parseInto_encodeFields {α : Type} {merge : α → Field → Option α} {fs : List Field} {m m' : α}
    (hlen : (encodeFields fs).length < 2 ^ 31) (hlegal : ∀ f ∈ fs, Legal f)
    (hmerge : fs.foldlM merge m = some m') : parseInto merge m (encodeFields fs) = some m' := by
  rw [parseInto, decodeFields_encodeFields (valid_of_legal hlen hlegal), Option.bind_some, hmerge]

/-- A sub-message is shorter than the message it is in, so the size limit covers it. -/
theorem parseInto_subMessage {α : Type} {merge : α → Field → Option α} {fs sub : List Field} {number : Nat}
    {m m' : α} (hlen : (encodeFields fs).length < 2 ^ 31)
    (hmem : ⟨number, .bytes (encodeFields sub)⟩ ∈ fs) (hlegal : ∀ f ∈ sub, Legal f)
    (hmerge : sub.foldlM merge m = some m') : parseInto merge m (encodeFields sub) = some m' :=
  parseInto_encodeFields (Nat.lt_of_le_of_lt (bytes_length_le_encodeFields hmem) hlen) hlegal hmerge

/-- Merging the fields of one number, whether written or left out. -/
theorem foldlM_varintField {α : Type} {merge : α → Field → Option α} {number n : Nat} {m : α} (m' : α)
    {rest : List Field} (hzero : n = 0 → m' = m)
    (hstep : n ≠ 0 → merge m ⟨number, .varint n⟩ = some m') :
    (varintField number n ++ rest).foldlM merge m = rest.foldlM merge m' := by
  unfold varintField
  split
  · rename_i h; rw [hzero h]; rfl
  · rename_i h; rw [List.singleton_append, List.foldlM_cons, hstep h]; rfl

theorem foldlM_bytesField {α : Type} {merge : α → Field → Option α} {number : Nat} {bs : Bytes}
    {m : α} (m' : α) {rest : List Field} (hnil : bs = [] → m' = m)
    (hstep : bs ≠ [] → merge m ⟨number, .bytes bs⟩ = some m') :
    (bytesField number bs ++ rest).foldlM merge m = rest.foldlM merge m' := by
  unfold bytesField
  split
  · rename_i h; rw [hnil h]; rfl
  · rename_i h; rw [List.singleton_append, List.foldlM_cons, hstep h]; rfl

theorem foldlM_messageField {α : Type} {merge : α → Field → Option α} {number : Nat}
    {sub : Option Bytes} {m : α} (m' : α) {rest : List Field} (hnone : sub = none → m' = m)
    (hstep : ∀ bs, sub = some bs → merge m ⟨number, .bytes bs⟩ = some m') :
    (messageField number sub ++ rest).foldlM merge m = rest.foldlM merge m' := by
  cases sub with
  | none => rw [hnone rfl]; rfl
  | some bs => rw [messageField, List.singleton_append, List.foldlM_cons, hstep bs rfl]; rfl

end Frrpc.Lib
