import Frrpc.Lib.Bytes

/-!
# `Lib.Protobuf.Wire` — the protocol-buffer wire format

A message is a sequence of fields, each a varint key `8 * number + wire type` followed by a value. This
module is the format itself, independent of any message type:

* `encodeVarint` / `decodeVarint` — base-128 varints of at most ten bytes, decoded modulo `2 ^ 64`;
* `encodeField` / `decodeField`, `encodeFields` / `decodeFields` — one field, and a whole message;
* `skipGroup` — unknown groups are skipped, as a reader of any schema version must.

`decodeFields_encodeFields` is the round trip every message codec is built on.
-/

namespace Frrpc.Lib

/-! ## Varints -/

/-- Base-128 digits, least significant first, continuation bit on all but the last; `k + 1` bytes at
    most. -/
def encodeVarintUpTo : Nat → Nat → Bytes
  | 0, n => [UInt8.ofNat n]
  | k + 1, n =>
    if n < 128 then [UInt8.ofNat n]
    else UInt8.ofNat (n % 128 + 128) :: encodeVarintUpTo k (n / 128)

/-- A 64-bit varint takes at most ten bytes. -/
def encodeVarint (n : Nat) : Bytes := encodeVarintUpTo 9 n

def decodeVarintUpTo : Nat → Bytes → Option (Nat × Bytes)
  | _, [] => none
  | 0, b :: bs => if b.toNat < 128 then some (b.toNat, bs) else none
  | k + 1, b :: bs =>
    if b.toNat < 128 then some (b.toNat, bs)
    else (decodeVarintUpTo k bs).map (fun r => (b.toNat - 128 + 128 * r.1, r.2))

/-- Read a varint; bits beyond the 64th are dropped, and an eleventh byte is an error. -/
def decodeVarint (bs : Bytes) : Option (Nat × Bytes) :=
  (decodeVarintUpTo 9 bs).map (fun r => (r.1 % 2 ^ 64, r.2))

theorem decodeVarintUpTo_encode {k n : Nat} (hn : n < 128 ^ (k + 1)) (rest : Bytes) :
    decodeVarintUpTo k (encodeVarintUpTo k n ++ rest) = some (n, rest) := by
  induction k generalizing n with
  | zero =>
    have hb : (UInt8.ofNat n).toNat = n := by rw [UInt8.toNat_ofNat']; omega
    simp only [encodeVarintUpTo, List.singleton_append, decodeVarintUpTo, hb]
    rw [if_pos (by omega)]
  | succ k ih =>
    by_cases hsmall : n < 128
    · have hb : (UInt8.ofNat n).toNat = n := by rw [UInt8.toNat_ofNat']; omega
      simp only [encodeVarintUpTo, if_pos hsmall, List.singleton_append, decodeVarintUpTo, hb]
    · have hb : (UInt8.ofNat (n % 128 + 128)).toNat = n % 128 + 128 := by
        rw [UInt8.toNat_ofNat']; omega
      have hdiv : n / 128 < 128 ^ (k + 1) := by
        rw [Nat.div_lt_iff_lt_mul (by omega), ← Nat.pow_succ]; exact hn
      simp only [encodeVarintUpTo, if_neg hsmall, List.cons_append, decodeVarintUpTo, hb, ih hdiv]
      rw [if_neg (by omega), Option.map_some]
      have hsum : n % 128 + 128 - 128 + 128 * (n / 128) = n := by omega
      rw [hsum]

/-- **Varint round trip**, with any bytes following. -/
theorem decodeVarint_encodeVarint {n : Nat} (hn : n < 2 ^ 64) (rest : Bytes) :
    decodeVarint (encodeVarint n ++ rest) = some (n, rest) := by
  have h128 : n < 128 ^ (9 + 1) := Nat.lt_of_lt_of_le hn (by decide)
  rw [decodeVarint, encodeVarint, decodeVarintUpTo_encode h128, Option.map_some,
    Nat.mod_eq_of_lt hn]

/-- The number of bytes of a varint. -/
def varintSize (n : Nat) : Nat := (encodeVarint n).length

theorem encodeVarintUpTo_length_le {k n j : Nat} (hj : j ≤ k) (hn : n < 128 ^ (j + 1)) :
    (encodeVarintUpTo k n).length ≤ j + 1 := by
  induction j generalizing k n with
  | zero =>
    have hsmall : n < 128 := by omega
    cases k with
    | zero => exact Nat.le_refl 1
    | succ k => rw [encodeVarintUpTo, if_pos hsmall]; exact Nat.le_refl 1
  | succ j ih =>
    cases k with
    | zero => omega
    | succ k =>
      have hdiv : n / 128 < 128 ^ (j + 1) := by
        rw [Nat.div_lt_iff_lt_mul (by omega), ← Nat.pow_succ]; exact hn
      rw [encodeVarintUpTo]
      split
      · simp
      · rw [List.length_cons]
        have hrest := ih (show j ≤ k by omega) hdiv
        omega

/-- **A varint of up to nine groups takes as many bytes as it has groups of seven bits.** -/
theorem varintSize_le {n j : Nat} (hj : j ≤ 9) (hn : n < 128 ^ (j + 1)) : varintSize n ≤ j + 1 :=
  encodeVarintUpTo_length_le hj hn

theorem encodeVarint_length_pos (n : Nat) : 0 < (encodeVarint n).length := by
  unfold encodeVarint encodeVarintUpTo
  split <;> simp

/-! ## Fields -/

/-- A field's value, by wire type: varint (0), length-delimited (2), and the fixed-width and group types
    (1, 3, 5), which a schema without them skips. -/
inductive WireValue where
  | varint (n : Nat)
  | bytes (bs : Bytes)
  | skipped
deriving DecidableEq, Repr

structure Field where
  number : Nat
  value : WireValue
deriving DecidableEq, Repr

/-- Fields a writer of this schema produces: a legal number, a 64-bit varint or a string below 2 GiB. -/
def Field.Valid (f : Field) : Prop :=
  0 < f.number ∧ f.number < 2 ^ 29 ∧
    match f.value with
    | .varint n => n < 2 ^ 64
    | .bytes bs => bs.length < 2 ^ 31
    | .skipped => False

def encodeField (f : Field) : Bytes :=
  match f.value with
  | .varint n => encodeVarint (8 * f.number) ++ encodeVarint n
  | .bytes bs => encodeVarint (8 * f.number + 2) ++ (encodeVarint bs.length ++ bs)
  | .skipped => []

def encodeFields (fs : List Field) : Bytes := fs.flatMap encodeField

/-- Drop `n` bytes, if they are there. -/
def dropExact (n : Nat) (bs : Bytes) : Option Bytes :=
  if n ≤ bs.length then some (bs.drop n) else none

/-- Skip the fields of the open group `number`, up to its end tag. `fuel` bounds the fields read. -/
def skipGroup : Nat → Nat → Bytes → Option Bytes
  | 0, _, _ => none
  | fuel + 1, number, bs => do
    let (key, bs) ← decodeVarint bs
    if key / 8 = 0 then none
    else if key % 8 = 0 then
      let (_, bs) ← decodeVarint bs
      skipGroup fuel number bs
    else if key % 8 = 1 then
      let bs ← dropExact 8 bs
      skipGroup fuel number bs
    else if key % 8 = 2 then
      let (n, bs) ← decodeVarint bs
      let bs ← dropExact n bs
      skipGroup fuel number bs
    else if key % 8 = 3 then
      let bs ← skipGroup fuel (key / 8) bs
      skipGroup fuel number bs
    else if key % 8 = 4 then
      if key / 8 = number then some bs else none
    else if key % 8 = 5 then
      let bs ← dropExact 4 bs
      skipGroup fuel number bs
    else none

/-- Read one field. A zero field number, an end tag outside a group, an unknown wire type and a value that
    runs past the end are errors. -/
def decodeField (bs : Bytes) : Option (Field × Bytes) := do
  let (key, bs) ← decodeVarint bs
  let number := key / 8
  if number = 0 then none
  else if key % 8 = 0 then
    let (n, bs) ← decodeVarint bs
    return (⟨number, .varint n⟩, bs)
  else if key % 8 = 1 then
    let bs ← dropExact 8 bs
    return (⟨number, .skipped⟩, bs)
  else if key % 8 = 2 then
    let (n, bs) ← decodeVarint bs
    if n ≤ bs.length then return (⟨number, .bytes (bs.take n)⟩, bs.drop n) else none
  else if key % 8 = 3 then
    let bs ← skipGroup bs.length number bs
    return (⟨number, .skipped⟩, bs)
  else if key % 8 = 5 then
    let bs ← dropExact 4 bs
    return (⟨number, .skipped⟩, bs)
  else none

/-- Read fields until the input is used up; `fuel` bounds their number. -/
def decodeFieldsUpTo : Nat → Bytes → Option (List Field)
  | _, [] => some []
  | 0, _ :: _ => none
  | fuel + 1, bs => do
    let (f, rest) ← decodeField bs
    let fs ← decodeFieldsUpTo fuel rest
    return f :: fs

/-- A whole message: every field takes at least one byte, so its length is fuel enough. -/
def decodeFields (bs : Bytes) : Option (List Field) := decodeFieldsUpTo bs.length bs

/-! ## Round trip -/

theorem decodeField_encodeField {f : Field} (hf : f.Valid) (rest : Bytes) :
    decodeField (encodeField f ++ rest) = some (f, rest) := by
  obtain ⟨number, value⟩ := f
  obtain ⟨hpos, hlt, hval⟩ := hf
  simp only at hpos hlt
  cases value with
  | varint n =>
    have hkey := decodeVarint_encodeVarint (n := 8 * number) (by omega) (encodeVarint n ++ rest)
    have hnum : 8 * number / 8 = number := by omega
    have hwire : 8 * number % 8 = 0 := by omega
    simp only [encodeField, decodeField, List.append_assoc, hkey, Option.bind_eq_bind,
      Option.bind_some, hnum, hwire, decodeVarint_encodeVarint hval rest]
    rw [if_neg (by omega)]
    rfl
  | bytes bs =>
    have hkey := decodeVarint_encodeVarint (n := 8 * number + 2) (by omega)
      (encodeVarint bs.length ++ (bs ++ rest))
    have hnum : (8 * number + 2) / 8 = number := by omega
    have hwire : (8 * number + 2) % 8 = 2 := by omega
    have hlen := decodeVarint_encodeVarint (n := bs.length) (Nat.lt_trans hval (by decide)) (bs ++ rest)
    simp only [encodeField, decodeField, List.append_assoc, hkey, Option.bind_eq_bind,
      Option.bind_some, hnum, hwire, hlen, List.take_left, List.drop_left, List.length_append]
    rw [if_neg (by omega), if_neg (by decide), if_neg (by decide), if_pos trivial, if_pos (by omega)]
    rfl
  | skipped => exact hval.elim

theorem encodeField_length_pos {f : Field} (hf : f.Valid) : 0 < (encodeField f).length := by
  obtain ⟨number, value⟩ := f
  obtain ⟨_, _, hval⟩ := hf
  cases value with
  | varint n =>
    have := encodeVarint_length_pos (8 * number)
    simp only [encodeField, List.length_append]; omega
  | bytes bs =>
    have := encodeVarint_length_pos (8 * number + 2)
    simp only [encodeField, List.length_append]; omega
  | skipped => exact hval.elim

theorem decodeFieldsUpTo_encodeFields {fs : List Field} (hfs : ∀ f ∈ fs, f.Valid) {fuel : Nat}
    (hfuel : (encodeFields fs).length ≤ fuel) :
    decodeFieldsUpTo fuel (encodeFields fs) = some fs := by
  induction fs generalizing fuel with
  | nil => cases fuel <;> rfl
  | cons f fs ih =>
    have hf : f.Valid := hfs f (by simp)
    have hpos := encodeField_length_pos hf
    rw [encodeFields, List.flatMap_cons] at hfuel ⊢
    rw [List.length_append] at hfuel
    obtain ⟨b, bs, hb⟩ := List.exists_cons_of_length_pos hpos
    -- a field takes at least one byte, so there is fuel for it and for the rest
    cases fuel with
    | zero => omega
    | succ fuel =>
      have hone := decodeField_encodeField hf (fs.flatMap encodeField)
      have hrest : decodeFieldsUpTo fuel (fs.flatMap encodeField) = some fs :=
        ih (fun g hg => hfs g (by simp [hg])) (by rw [encodeFields]; omega)
      rw [hb, List.cons_append] at hone ⊢
      simp only [decodeFieldsUpTo, hone, hrest, Option.bind_eq_bind, Option.bind_some]
      rfl

/-- **Message round trip**: reading back what was written yields the same fields. -/
theorem decodeFields_encodeFields {fs : List Field} (hfs : ∀ f ∈ fs, f.Valid) :
    decodeFields (encodeFields fs) = some fs :=
  decodeFieldsUpTo_encodeFields hfs (Nat.le_refl _)

theorem encodeFields_append (fs gs : List Field) :
    encodeFields (fs ++ gs) = encodeFields fs ++ encodeFields gs := List.flatMap_append

/-- A length-delimited value is shorter than the message that contains it. -/
theorem bytes_length_le_encodeFields {fs : List Field} {number : Nat} {bs : Bytes}
    (h : ⟨number, .bytes bs⟩ ∈ fs) : bs.length ≤ (encodeFields fs).length := by
  induction fs with
  | nil => exact absurd h (by simp)
  | cons f fs ih =>
    rw [encodeFields, List.flatMap_cons, List.length_append]
    rcases List.mem_cons.mp h with rfl | h
    · simp only [encodeField, List.length_append]; omega
    · have := ih h
      rw [encodeFields] at this
      omega

end Frrpc.Lib
