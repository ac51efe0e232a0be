import Frrpc.Lib.Machine
import Frrpc.Lib.Rotation
import Frrpc.Route.Services

/-!
# `Route.Correctness.RoundRobin` — whose turn it is

The servers of a service as a machine of its three operations. A removal leaves the send index where it is,
so it may point behind the list; but it never reaches the end of an `int32_t` (`Indexable`), and the next turn
takes it modulo the length. So in every reachable state the lookups without an address are a rotation of the
list (`turns_eq`), which is fair wherever it starts (`round_robin_fair`).
-/

namespace Frrpc

open Lib Std

namespace RouteServiceInfos

inductive Event where
  | addService (socket : Socket) (serviceAddr : ServiceAddr)
  | deleteService (socket : Socket)
  | getServiceSocket (serviceAddr : ServiceAddr)
deriving DecidableEq, Repr

def step (infos : RouteServiceInfos) : Event → Option RouteServiceInfos
  | .addService socket serviceAddr => some (infos.addService socket serviceAddr).1
  | .deleteService socket => some (infos.deleteService socket)
  | .getServiceSocket serviceAddr => (infos.getServiceSocket serviceAddr).map Prod.snd

/-- There are never more sockets than an `int32_t` counts. -/
def Counted (infos : RouteServiceInfos) (e : Event) : Prop :=
  ∀ infos', step infos e = some infos' → infos'.sockets.length ≤ 2 ^ 31 - 1

/-- Consecutive lookups: each one without an address, by the index it used and the socket it returned. -/
def turns (infos : RouteServiceInfos) : List ServiceAddr → Option (List (Nat × Socket))
  | [] => some []
  | serviceAddr :: serviceAddrs => do
    let (socket, infos) ← infos.getServiceSocket serviceAddr
    let rest ← turns infos serviceAddrs
    return if serviceAddr = "" then (infos.curSendIndex.toNat, socket) :: rest else rest

/-- The number of sockets and the send index are such that the next index does not overflow. -/
structure Indexable (infos : RouteServiceInfos) : Prop where
  length_le : infos.sockets.length ≤ 2 ^ 31 - 1
  nonneg : 0 ≤ infos.curSendIndex
  lt : infos.curSendIndex < 2 ^ 31 - 1

variable {infos infos' : RouteServiceInfos}

theorem indexable_new : Indexable .new := ⟨by decide, by decide, by decide⟩

/-- The next turn is that after the last one, in the list as it is now. -/
theorem Indexable.nextSendIndex_eq (h : infos.Indexable) (hne : infos.sockets ≠ []) :
    infos.nextSendIndex = ((infos.curSendIndex.toNat + 1) % infos.sockets.length : Nat) := by
  obtain ⟨hlength, hnonneg, hlt⟩ := h
  have hpos : 0 < infos.sockets.length := List.length_pos_iff.mpr hne
  have hmod : (infos.curSendIndex.toNat + 1) % infos.sockets.length < infos.sockets.length := Nat.mod_lt _ hpos
  have hnext : int32 (infos.curSendIndex + 1) = ((infos.curSendIndex.toNat + 1 : Nat) : Int) := by
    rw [int32_of_lt (by omega) (by omega)]
    omega
  have hwide : ((infos.curSendIndex.toNat + 1 : Nat) : Int) % 2 ^ 64 = (infos.curSendIndex.toNat + 1 : Nat) :=
    Int.emod_eq_of_lt (by omega) (by omega)
  rw [nextSendIndex, hnext, hwide, ← Int.natCast_emod]
  exact int32_of_lt (by omega) (by omega)

/-- **A lookup without an address takes the next turn**; its index is in the list. -/
theorem Indexable.getServiceSocket_turn (h : infos.Indexable) (hne : infos.sockets ≠ []) :
    ∃ socket, infos.sockets[(infos.curSendIndex.toNat + 1) % infos.sockets.length]? = some socket ∧
      infos.getServiceSocket "" = some (socket, { infos with
        curSendIndex := ((infos.curSendIndex.toNat + 1) % infos.sockets.length : Nat) }) := by
  have hindex := h.nextSendIndex_eq hne
  have hlt : (infos.curSendIndex.toNat + 1) % infos.sockets.length < infos.sockets.length :=
    Nat.mod_lt _ (List.length_pos_iff.mpr hne)
  have hget := List.getElem?_eq_getElem hlt
  refine ⟨_, hget, ?_⟩
  rw [getServiceSocket, if_neg hne, if_pos rfl]
  dsimp only
  rw [hindex, if_pos (by omega), Int.toNat_natCast, hget]
  rfl

/-- A lookup with an address moves nothing. -/
theorem getServiceSocket_addressed {serviceAddr : ServiceAddr} (h : serviceAddr ≠ "")
    (infos : RouteServiceInfos) :
    ∃ socket, infos.getServiceSocket serviceAddr = some (socket, infos) := by
  unfold getServiceSocket
  rw [if_neg h]
  split
  · exact ⟨_, rfl⟩
  · exact ⟨_, rfl⟩

/-- After a turn the index is inside the list. -/
theorem Indexable.turn (h : infos.Indexable) (hne : infos.sockets ≠ []) : Indexable { infos with
    curSendIndex := ((infos.curSendIndex.toNat + 1) % infos.sockets.length : Nat) } := by
  have hlt : (infos.curSendIndex.toNat + 1) % infos.sockets.length < infos.sockets.length :=
    Nat.mod_lt _ (List.length_pos_iff.mpr hne)
  have hlength := h.length_le
  exact ⟨hlength, by dsimp only; omega, by dsimp only; omega⟩

/-! ## Every reachable state -/

theorem curSendIndex_addService (infos : RouteServiceInfos) (socket : Socket) (serviceAddr : ServiceAddr) :
    (infos.addService socket serviceAddr).1.curSendIndex = infos.curSendIndex := by
  unfold addService
  split
  · rfl
  · rfl

theorem Indexable.step {e : Event} (h : infos.Indexable) (hcounted : Counted infos e)
    (hstep : infos.step e = some infos') : infos'.Indexable := by
  have hlength := hcounted infos' hstep
  cases e with
  | addService socket serviceAddr =>
    obtain rfl := Option.some.inj hstep
    refine ⟨hlength, ?_, ?_⟩
    · rw [curSendIndex_addService]
      exact h.nonneg
    · rw [curSendIndex_addService]
      exact h.lt
  | deleteService socket =>
    obtain rfl := Option.some.inj hstep
    exact ⟨hlength, h.nonneg, h.lt⟩
  | getServiceSocket serviceAddr =>
    obtain ⟨⟨socket, infos₁⟩, hget, rfl⟩ := Option.map_eq_some_iff.mp hstep
    by_cases haddr : serviceAddr = ""
    · subst haddr
      by_cases hne : infos.sockets = []
      · rw [RouteServiceInfos.getServiceSocket, if_pos hne] at hget
        cases hget
        exact h
      · obtain ⟨_, _, heq⟩ := h.getServiceSocket_turn hne
        rw [heq] at hget
        cases hget
        exact h.turn hne
    · obtain ⟨_, heq⟩ := getServiceSocket_addressed haddr infos
      rw [heq] at hget
      cases hget
      exact h

theorem indexable_reachable (hrun : Reaches step Counted new infos) : infos.Indexable := by
  apply hrun.invariant indexable_new
  intro infos e infos' hcounted h hstep
  exact h.step hcounted hstep

/-! ## Turns -/

/-- **Lookups are a rotation**: those without an address use the positions from the one after the last on,
    and return what stands there. -/
theorem turns_eq (h : infos.Indexable) (hne : infos.sockets ≠ []) (serviceAddrs : List ServiceAddr) :
    ∃ ts, infos.turns serviceAddrs = some ts ∧
      ts.map Prod.fst = rotation infos.sockets.length (infos.curSendIndex.toNat + 1) (serviceAddrs.count "") ∧
      ∀ t ∈ ts, infos.sockets[t.1]? = some t.2 := by
  induction serviceAddrs generalizing infos with
  | nil => exact ⟨[], rfl, rfl, nofun⟩
  | cons serviceAddr serviceAddrs ih =>
    by_cases haddr : serviceAddr = ""
    · subst haddr
      obtain ⟨socket, hsocket, hget⟩ := h.getServiceSocket_turn hne
      obtain ⟨ts, hts, hpositions, hsockets⟩ := ih (h.turn hne) hne
      refine ⟨((infos.curSendIndex.toNat + 1) % infos.sockets.length, socket) :: ts, ?_, ?_, ?_⟩
      · rw [turns, hget]
        simp only [Option.bind_eq_bind, Option.bind_some, hts]
        rfl
      · rw [List.map_cons, hpositions, List.count_cons_self, rotation_succ]
        dsimp only
        rw [Int.toNat_natCast, ← rotation_mod _ (_ % _ + 1), Nat.mod_add_mod, rotation_mod]
      · intro t ht
        rcases List.mem_cons.mp ht with rfl | ht
        · exact hsocket
        · exact hsockets t ht
    · obtain ⟨socket, hget⟩ := getServiceSocket_addressed haddr infos
      obtain ⟨ts, hts, hpositions, hsockets⟩ := ih h hne
      refine ⟨ts, ?_, ?_, hsockets⟩
      · rw [turns, hget]
        simp only [Option.bind_eq_bind, Option.bind_some, hts, if_neg haddr]
        rfl
      · rw [List.count_cons_of_ne haddr]
        exact hpositions

/-- **Round robin is fair from every reachable state**: lookups are defined, each one without an address uses an
    index in the list and returns what stands there; as many in a row as there are sockets use every
    position once; and no position is ever used more than once more often than another. -/
theorem round_robin_fair (hrun : Reaches step Counted new infos) (hpos : 1 ≤ infos.sockets.length)
    (serviceAddrs : List ServiceAddr) :
    ∃ ts, infos.turns serviceAddrs = some ts ∧ ts.length = serviceAddrs.count "" ∧
      (∀ t ∈ ts, infos.sockets[t.1]? = some t.2) ∧
      (∀ i, i + infos.sockets.length ≤ ts.length →
        (((ts.drop i).take infos.sockets.length).map Prod.fst).Perm (List.range infos.sockets.length)) ∧
      ∀ p q, p < infos.sockets.length → q < infos.sockets.length →
        (ts.map Prod.fst).count p ≤ (ts.map Prod.fst).count q + 1 := by
  obtain ⟨ts, hts, hpositions, hsockets⟩ :=
    turns_eq (indexable_reachable hrun) (List.length_pos_iff.mp hpos) serviceAddrs
  have hlength : ts.length = serviceAddrs.count "" := by
    rw [← List.length_map Prod.fst, hpositions, length_rotation]
  refine ⟨ts, hts, hlength, hsockets, fun i hi => ?_, fun p q _ hq => ?_⟩
  · rw [List.map_take, List.map_drop, hpositions, rotation_window (hlength ▸ hi)]
    exact rotation_perm _ _
  · rw [hpositions]
    exact rotation_balanced _ _ hq

/-- Two of three servers are left, and the index stands behind the list: the turns go on with the second
    one. -/
theorem round_robin_fair_stale :
    ∃ infos : RouteServiceInfos, infos.curSendIndex = 2 ∧ infos.sockets = [1, 2] ∧
      infos.turns ["", "x", "", ""] = some [(1, 2), (0, 1), (1, 2)] ∧
      ∃ ts, infos.turns ["", "x", "", ""] = some ts ∧
        ∀ p q, p < infos.sockets.length → q < infos.sockets.length →
          (ts.map Prod.fst).count p ≤ (ts.map Prod.fst).count q + 1 := by
  have hadd : ∀ {infos infos' : RouteServiceInfos} {e : Event}, Reaches step Counted new infos →
      step infos e = some infos' → infos'.sockets.length ≤ 2 ^ 31 - 1 → Reaches step Counted new infos' := by
    intro infos infos' e hrun hstep hlength
    refine hrun.snoc (fun infos₁ hstep₁ => ?_) hstep
    rw [hstep] at hstep₁
    exact Option.some.inj hstep₁ ▸ hlength
  have hrun := hadd (e := .deleteService 3) (hadd (e := .getServiceSocket "") (hadd (e := .getServiceSocket "")
    (hadd (e := .addService 3 "z") (hadd (e := .addService 2 "y") (hadd (e := .addService 1 "x") (.refl _)
      rfl (by decide)) rfl (by decide)) rfl (by decide)) rfl (by decide)) rfl (by decide)) rfl (by decide)
  obtain ⟨ts, hts, -, -, -, hbalanced⟩ := round_robin_fair hrun (by decide) ["", "x", "", ""]
  exact ⟨_, by decide, by decide, by decide, ts, hts, hbalanced⟩

end RouteServiceInfos

end Frrpc
