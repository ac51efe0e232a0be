import Frrpc.Lib.Stream

/-!
# `Lib.Wire` — one direction of a connection

A sender appends frames, the network moves any number of elements on at a time, and the receiver keeps what
it has not taken. `Carries enc P` says that all of it together is a stream of frames with the property `P`.
The receiver's share then splits into complete frames and a piece of the next one (`Carries.split`), and
taking some of the complete frames leaves a stream of frames (`Carries.drop`).
-/

namespace Frrpc.Lib

variable {α φ : Type}

structure Wire (α : Type) where
  unread : List α
  transit : List α
deriving DecidableEq, Repr

namespace Wire

def empty : Wire α := ⟨[], []⟩

def send (w : Wire α) (xs : List α) : Wire α := { w with transit := w.transit ++ xs }

/-- The next `n` elements reach the receiver. -/
def arrive (w : Wire α) (n : Nat) : Wire α := ⟨w.unread ++ w.transit.take n, w.transit.drop n⟩

/-- The receiver takes `n` elements. -/
def drop (w : Wire α) (n : Nat) : Wire α := { w with unread := w.unread.drop n }

def Carries (enc : φ → List α) (P : φ → Prop) (w : Wire α) : Prop :=
  ∃ fs, w.unread ++ w.transit = stream enc fs ∧ ∀ f ∈ fs, P f

variable {enc : φ → List α} {P Q : φ → Prop} {w : Wire α}

theorem carries_empty : Carries enc P empty := ⟨[], rfl, nofun⟩

theorem Carries.mono (h : Carries enc P w) (hPQ : ∀ f, P f → Q f) : Carries enc Q w := by
  obtain ⟨fs, hfs, hP⟩ := h
  exact ⟨fs, hfs, fun f hf => hPQ f (hP f hf)⟩

theorem Carries.send (h : Carries enc P w) {f : φ} (hf : P f) : Carries enc P (w.send (enc f)) := by
  obtain ⟨fs, hfs, hP⟩ := h
  refine ⟨fs ++ [f], ?_, ?_⟩
  · rw [Wire.send, ← List.append_assoc, hfs, stream_append, stream_cons, stream_nil, List.append_nil]
  · intro g hg
    rcases List.mem_append.mp hg with hold | hnew
    · exact hP g hold
    · rw [List.mem_singleton.mp hnew]
      exact hf

/-- Moving elements on changes nothing about the whole. -/
theorem Carries.arrive (h : Carries enc P w) (n : Nat) : Carries enc P (w.arrive n) := by
  obtain ⟨fs, hfs, hP⟩ := h
  refine ⟨fs, ?_, hP⟩
  rw [Wire.arrive, List.append_assoc, List.take_append_drop, hfs]

/-- **The receiver's share splits** into the complete frames and an incomplete rest. -/
theorem Carries.split (h : Carries enc P w) :
    ∃ gs rest t, w.unread = stream enc gs ++ t ∧ Incomplete enc rest t ∧ t ++ w.transit = stream enc rest ∧
      ∀ f ∈ gs ++ rest, P f := by
  obtain ⟨fs, hfs, hP⟩ := h
  obtain ⟨gs, rest, t, rfl, hunread, ht⟩ := prefix_split (hfs ▸ List.prefix_append w.unread w.transit)
  refine ⟨gs, rest, t, hunread, ht, ?_, hP⟩
  rw [hunread, List.append_assoc, stream_append, List.append_right_inj] at hfs
  exact hfs

/-- **Taking the first of the complete frames leaves a stream of frames.** -/
theorem Carries.drop {gs hs later rest : List φ} {t : List α} (hunread : w.unread = stream enc gs ++ t)
    (hrest : t ++ w.transit = stream enc rest) (hP : ∀ f ∈ gs ++ rest, P f) (hgs : gs = hs ++ later) :
    Carries enc P (w.drop (stream enc hs).length) := by
  subst hgs
  refine ⟨later ++ rest, ?_, fun f hf => hP f ?_⟩
  · rw [stream_append, List.append_assoc] at hunread
    rw [Wire.drop, hunread, List.drop_left, List.append_assoc, hrest, stream_append]
  · rw [List.append_assoc]
    exact List.mem_append_right hs hf

end Wire

end Frrpc.Lib
