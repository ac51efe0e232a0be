import Std.Data.ExtTreeMap.Lemmas
import Std.Data.ExtTreeSet.Lemmas
import Mathlib.Data.List.Nodup
import Mathlib.Data.List.Perm.Basic

/-!
# `Lib.TreeMap` — the values of an ordered map as a multiset

`Std.ExtTreeMap` is the ordered map of the standard library; this module adds what it says about the
**values** of a map, up to order: `vals`, and how `insertIfNew` and `erase` change it. `eraseFirst` is the
usual "walk the map in key order, erase the first entry that matches, stop" loop, with its effect on
lookups and on `vals`. Sets have the membership lemmas for lawful keys.
-/

namespace Frrpc.Lib

open Std

variable {κ ν : Type} {cmp : κ → κ → Ordering} [TransCmp cmp] [LawfulEqCmp cmp]

/-- The values of a map, in key order. -/
def vals (m : ExtTreeMap κ ν cmp) : List ν := m.toList.map Prod.snd

omit [LawfulEqCmp cmp] in
@[simp] theorem vals_empty : vals (∅ : ExtTreeMap κ ν cmp) = [] := by
  simp [vals]

theorem mem_vals {m : ExtTreeMap κ ν cmp} {v : ν} : v ∈ vals m ↔ ∃ k : κ, m[k]? = some v := by
  simp only [vals, List.mem_map, Prod.exists, exists_eq_right,
    ExtTreeMap.mem_toList_iff_getElem?_eq_some]

/-- `insertIfNew` writes at a key that was absent only. -/
theorem getElem?_insertIfNew_eq [DecidableEq κ] (m : ExtTreeMap κ ν cmp) (k : κ) (v : ν) (a : κ) :
    (m.insertIfNew k v)[a]? = if k = a ∧ m[a]? = none then some v else m[a]? := by
  rw [ExtTreeMap.getElem?_insertIfNew]
  by_cases hk : k = a
  · subst hk
    have habsent : k ∉ m ↔ m[k]? = none := by
      rw [ExtTreeMap.mem_iff_isSome_getElem?]
      cases m[k]? <;> simp
    simp only [ReflCmp.compare_self, true_and, habsent]
  · simp [hk]

/-- Writing what is there already changes nothing. -/
theorem insert_of_getElem? {m : ExtTreeMap κ ν cmp} {k : κ} {v : ν} (h : m[k]? = some v) :
    m.insert k v = m := by
  refine ExtTreeMap.ext_getElem? fun a => ?_
  rw [ExtTreeMap.getElem?_insert]
  split
  · next ha => rw [← LawfulEqCmp.compare_eq_iff_eq.mp ha, h]
  · rfl

theorem insertIfNew_of_contains {m : ExtTreeMap κ ν cmp} {k : κ} {v : ν} (h : m.contains k = true) :
    m.insertIfNew k v = m := by
  refine ExtTreeMap.ext_getElem? fun a => ?_
  rw [ExtTreeMap.getElem?_insertIfNew, if_neg]
  rintro ⟨-, habsent⟩
  exact habsent (ExtTreeMap.contains_iff_mem.mp h)

theorem toList_nodup (m : ExtTreeMap κ ν cmp) : m.toList.Nodup := by
  apply ExtTreeMap.distinct_keys_toList.imp
  rintro a _ hab rfl
  exact hab ReflCmp.compare_self

theorem toList_insertIfNew_perm {m : ExtTreeMap κ ν cmp} {k : κ} {v : ν} (h : m[k]? = none) :
    (m.insertIfNew k v).toList.Perm ((k, v) :: m.toList) := by
  have hk : k ∉ m := by
    rw [ExtTreeMap.mem_iff_isSome_getElem?, h]; simp
  -- both lists are without duplicates, so it is enough that they have the same members
  refine (List.perm_ext_iff_of_nodup (toList_nodup _) ?_).mpr ?_
  · refine List.nodup_cons.mpr ⟨?_, toList_nodup m⟩
    rw [ExtTreeMap.mem_toList_iff_getElem?_eq_some, h]; simp
  · rintro ⟨a, w⟩
    rw [List.mem_cons, ExtTreeMap.mem_toList_iff_getElem?_eq_some,
      ExtTreeMap.mem_toList_iff_getElem?_eq_some, ExtTreeMap.getElem?_insertIfNew]
    by_cases ha : cmp k a = .eq
    · have hka : k = a := LawfulEqCmp.compare_eq_iff_eq.mp ha
      subst hka
      rw [if_pos ⟨ha, hk⟩, h]
      simp [eq_comm]
    · have hne : a ≠ k := fun he => ha (he ▸ ReflCmp.compare_self)
      simp [ha, hne]

theorem toList_erase_perm {m : ExtTreeMap κ ν cmp} {k : κ} {v : ν} (h : m[k]? = some v) :
    m.toList.Perm ((k, v) :: (m.erase k).toList) := by
  refine (List.perm_ext_iff_of_nodup (toList_nodup _) ?_).mpr ?_
  · refine List.nodup_cons.mpr ⟨?_, toList_nodup _⟩
    rw [ExtTreeMap.mem_toList_iff_getElem?_eq_some, ExtTreeMap.getElem?_erase_self]; simp
  · rintro ⟨a, w⟩
    rw [List.mem_cons, ExtTreeMap.mem_toList_iff_getElem?_eq_some,
      ExtTreeMap.mem_toList_iff_getElem?_eq_some, ExtTreeMap.getElem?_erase]
    by_cases ha : cmp k a = .eq
    · have hka : k = a := LawfulEqCmp.compare_eq_iff_eq.mp ha
      subst hka
      simp [h, eq_comm]
    · have hne : a ≠ k := fun he => ha (he ▸ ReflCmp.compare_self)
      simp [ha, hne]

/-- **A fresh insertion adds one value.** -/
theorem vals_insertIfNew_perm {m : ExtTreeMap κ ν cmp} {k : κ} {v : ν} (h : m[k]? = none) :
    (vals (m.insertIfNew k v)).Perm (v :: vals m) :=
  (toList_insertIfNew_perm h).map Prod.snd

/-- **Erasing a present key removes one value.** -/
theorem vals_erase_perm {m : ExtTreeMap κ ν cmp} {k : κ} {v : ν} (h : m[k]? = some v) :
    (vals m).Perm (v :: vals (m.erase k)) :=
  (toList_erase_perm h).map Prod.snd

/-! ## Erasing the first match -/

/-- Walk the map in key order and erase the first entry whose value satisfies `p`, if any. -/
def eraseFirst (p : ν → Bool) (m : ExtTreeMap κ ν cmp) : ExtTreeMap κ ν cmp :=
  match m.toList.find? (fun e => p e.2) with
  | some e => m.erase e.1
  | none => m

/-- What the walk does: it erases some matching entry, or there was none. -/
theorem eraseFirst_cases (p : ν → Bool) (m : ExtTreeMap κ ν cmp) :
    (∃ k v, m[k]? = some v ∧ p v = true ∧ eraseFirst p m = m.erase k) ∨
    ((∀ v ∈ vals m, p v = false) ∧ eraseFirst p m = m) := by
  unfold eraseFirst
  cases h : m.toList.find? (fun e => p e.2) with
  | some e =>
    have hmem : (e.1, e.2) ∈ m.toList := List.mem_of_find?_eq_some h
    refine Or.inl ⟨e.1, e.2, ExtTreeMap.mem_toList_iff_getElem?_eq_some.mp hmem, ?_, rfl⟩
    exact List.find?_some (p := fun e : κ × ν => p e.2) h
  | none =>
    refine Or.inr ⟨fun v hv => ?_, rfl⟩
    obtain ⟨e, he, rfl⟩ := List.mem_map.mp hv
    simpa using List.find?_eq_none.mp h e he

/-- Erasing the first entry with value `v` erases `v` once from the values. -/
theorem vals_eraseFirst_perm [BEq ν] [LawfulBEq ν] (v : ν) (m : ExtTreeMap κ ν cmp) :
    (vals (eraseFirst (fun w => v == w) m)).Perm ((vals m).erase v) := by
  rcases eraseFirst_cases (fun w => v == w) m with ⟨k, w, hk, hw, he⟩ | ⟨hnone, he⟩
  · have hvw : v = w := eq_of_beq hw
    subst hvw
    rw [he]
    have hperm := (vals_erase_perm hk).erase v
    rw [List.erase_cons_head] at hperm
    exact hperm.symm
  · have hnot : v ∉ vals m := fun hmem => by simpa using hnone v hmem
    rw [he, List.erase_of_not_mem hnot]

/-! ## Sets -/

theorem mem_insert_iff {s : ExtTreeSet κ cmp} {k a : κ} : a ∈ s.insert k ↔ a = k ∨ a ∈ s := by
  rw [ExtTreeSet.mem_insert, LawfulEqCmp.compare_eq_iff_eq, eq_comm]

theorem mem_erase_iff {s : ExtTreeSet κ cmp} {k a : κ} : a ∈ s.erase k ↔ a ≠ k ∧ a ∈ s := by
  rw [ExtTreeSet.mem_erase, Ne, LawfulEqCmp.compare_eq_iff_eq, eq_comm]

/-- Erasing the keys of a list, one by one. -/
theorem mem_foldl_erase_iff {keys : List κ} {s : ExtTreeSet κ cmp} {a : κ} :
    a ∈ keys.foldl (fun s k => s.erase k) s ↔ a ∉ keys ∧ a ∈ s := by
  induction keys generalizing s with
  | nil => simp
  | cons k keys ih =>
    rw [List.foldl_cons, ih, mem_erase_iff, List.mem_cons, not_or]
    exact ⟨fun ⟨hkeys, hk, hs⟩ => ⟨⟨hk, hkeys⟩, hs⟩, fun ⟨⟨hk, hkeys⟩, hs⟩ => ⟨hkeys, hk, hs⟩⟩

theorem toList_set_nodup (s : ExtTreeSet κ cmp) : s.toList.Nodup := by
  apply ExtTreeSet.distinct_toList.imp
  rintro a _ hab rfl
  exact hab ReflCmp.compare_self

end Frrpc.Lib
