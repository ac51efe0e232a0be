import Frrpc.Rpc.NetServer

/-!
# `Rpc.Correctness.LinkId` — when a link id identifies its client

A link id is `r * 10 ^ L + s` for gateway `r` and socket `s`, and is taken apart by division by `10 ^ L`.
That is exact only when the socket has at most `L` digits; but `L` counts the digits of the **number of
gateways**, not of sockets. Two more limits come from the arithmetic: `10 ^ L` has to be a `uint32_t`, and
the sum has to be a double.
-/

namespace Frrpc

open Lib

/-- The pairs of a gateway and a socket whose link id can be taken apart again, with `gateways` gateways
    configured. -/
def LinkIdFits (gateways r s : Nat) : Prop :=
  gateways < 10 ^ 9 ∧ s < 10 ^ getNumberLength gateways ∧
    Representable (r * 10 ^ getNumberLength gateways + s)

instance (gateways r s : Nat) : Decidable (LinkIdFits gateways r s) :=
  inferInstanceAs (Decidable (_ ∧ _ ∧ _))

section

variable {gateways r s : Nat}

/-- Up to nine digits, the modulus is a `uint32_t`. -/
theorem linkModulus_eq (h : gateways < 10 ^ 9) :
    linkModulus (getNumberLength gateways) = some (10 ^ getNumberLength gateways) := by
  have hlen : getNumberLength gateways ≤ 9 := (lt_ten_pow_iff (by decide)).mp h
  have hpow : 10 ^ getNumberLength gateways ≤ 10 ^ 9 := Nat.pow_le_pow_right (by decide) hlen
  rw [linkModulus, if_pos (Nat.lt_of_le_of_lt hpow (by decide))]

theorem linkModulus_eq_none (h : ¬ gateways < 10 ^ 9) : linkModulus (getNumberLength gateways) = none := by
  have hlen : ¬ getNumberLength gateways ≤ 9 := fun hle => h ((lt_ten_pow_iff (by decide)).mpr hle)
  have hpow : 10 ^ 10 ≤ 10 ^ getNumberLength gateways := Nat.pow_le_pow_right (by decide) (by omega)
  rw [linkModulus, if_neg (Nat.not_lt.mpr (Nat.le_trans (by decide) hpow))]

/-- The gateway's share of a link id is a double: it is a multiple of `2 ^ L`. -/
theorem representable_gateway (h : gateways < 10 ^ 9) (hr : r < gateways) :
    Representable (r * 10 ^ getNumberLength gateways) := by
  have hlen : getNumberLength gateways ≤ 9 := (lt_ten_pow_iff (by decide)).mp h
  have hfive : 5 ^ getNumberLength gateways ≤ 5 ^ 9 := Nat.pow_le_pow_right (by decide) hlen
  have hlt : r * 5 ^ getNumberLength gateways < 2 ^ 53 := by
    have hmul := Nat.mul_le_mul (Nat.le_of_lt (Nat.lt_trans hr h)) hfive
    exact Nat.lt_of_le_of_lt hmul (by decide)
  have hten : 10 ^ getNumberLength gateways
      = 5 ^ getNumberLength gateways * 2 ^ getNumberLength gateways := by rw [← Nat.mul_pow]
  rw [hten, ← Nat.mul_assoc]
  exact representable_mul_two_pow hlt _

/-- **Within the range of the modulus, a link id is the rounded sum.** -/
theorem buildLinkID_toNat (h : gateways < 10 ^ 9) (hr : r < gateways) (hs : s < 2 ^ 31) :
    (buildLinkID (getNumberLength gateways) (UInt32.ofNat r) (Int32.ofNat s)).toNat
        = roundNat (r * 10 ^ getNumberLength gateways + s) ∧
      roundNat (r * 10 ^ getNumberLength gateways + s)
        ≤ r * 10 ^ getNumberLength gateways + s + 128 := by
  have hlen : getNumberLength gateways ≤ 9 := (lt_ten_pow_iff (by decide)).mp h
  have hpow : 10 ^ getNumberLength gateways ≤ 10 ^ 9 := Nat.pow_le_pow_right (by decide) hlen
  have hsum : r * 10 ^ getNumberLength gateways + s < 2 ^ (53 + 7) := by
    have hmul := Nat.mul_le_mul (Nat.le_of_lt (Nat.lt_trans hr h)) hpow
    have hmax : 10 ^ 9 * 10 ^ 9 + 2 ^ 31 < 2 ^ (53 + 7) := by decide
    omega
  have hround : roundNat (r * 10 ^ getNumberLength gateways + s)
      ≤ r * 10 ^ getNumberLength gateways + s + 128 :=
    Nat.le_trans (roundNat_le _) (Nat.add_le_add_left (ulp_le hsum) _)
  refine ⟨?_, hround⟩
  have hid : (UInt32.ofNat r).toNat = r := UInt32.toNat_ofNat_of_lt' (show r < 2 ^ 32 by omega)
  have hsocket : (Int32.ofNat s).toInt = s := Int32.toInt_ofNat_of_lt hs
  -- the conversion back to `uint64_t` keeps the rounded sum
  have hlink : roundNat (r * 10 ^ getNumberLength gateways + s) < 2 ^ 64 := by omega
  have hwrap : ((roundNat (r * 10 ^ getNumberLength gateways + s) : Int) % 2 ^ 64).toNat
      = roundNat (r * 10 ^ getNumberLength gateways + s) := by omega
  simp only [buildLinkID, hid, roundNat_eq_self_iff.mpr (representable_gateway h hr), hsocket]
  rw [← Int.natCast_add, roundInt_natCast, UInt64.ofInt, hwrap]
  exact UInt64.toNat_ofNat_of_lt' hlink

/-- Different sockets are different integers. -/
theorem socket_ofNat_inj {s s' : Nat} (hs : s < 2 ^ 31) (hs' : s' < 2 ^ 31) :
    Int32.ofNat s = Int32.ofNat s' ↔ s = s' := by
  refine ⟨fun heq => ?_, fun heq => by rw [heq]⟩
  have hint := congrArg Int32.toInt heq
  rw [Int32.toInt_ofNat_of_lt hs, Int32.toInt_ofNat_of_lt hs'] at hint
  omega

/-- **Taking a link id apart restores its parts exactly when they fit.** -/
theorem roundTrip_iff (hr : r < gateways) (hs : s < 2 ^ 31) :
    ((getRouteID (getNumberLength gateways)
        (buildLinkID (getNumberLength gateways) (UInt32.ofNat r) (Int32.ofNat s))).map UInt32.toNat
          = some r ∧
      getSocket (getNumberLength gateways)
        (buildLinkID (getNumberLength gateways) (UInt32.ofNat r) (Int32.ofNat s))
          = some (Int32.ofNat s)) ↔ LinkIdFits gateways r s := by
  unfold LinkIdFits getRouteID getSocket
  by_cases h : gateways < 10 ^ 9
  · obtain ⟨hlink, hround⟩ := buildLinkID_toNat h hr hs
    have hlen : getNumberLength gateways ≤ 9 := (lt_ten_pow_iff (by decide)).mp h
    have hpow : 10 ^ getNumberLength gateways ≤ 10 ^ 9 := Nat.pow_le_pow_right (by decide) hlen
    have hpos : 10 ≤ 10 ^ getNumberLength gateways :=
      Nat.pow_le_pow_right (by decide : 0 < 10) (getNumberLength_pos gateways)
    rw [← roundNat_eq_self_iff, linkModulus_eq h, hlink]
    simp only [Option.map_some, Option.some.injEq, h, true_and]
    generalize hm : 10 ^ getNumberLength gateways = m at *
    generalize hv : roundNat (r * m + s) = v at *
    -- rounding moves the sum by at most 128, so the quotient stays a `uint32_t`
    have hquot : v / m < 2 ^ 32 := by
      have hdiv : v / m ≤ (r * m + (s + 128)) / m := Nat.div_le_div_right (by omega)
      rw [Nat.mul_comm, Nat.mul_add_div (by omega)] at hdiv
      have := Nat.div_le_self (s + 128) m
      omega
    have hrem : v % m < m := Nat.mod_lt _ (by omega)
    rw [UInt32.toNat_ofNat_of_lt' hquot, socket_ofNat_inj (by omega) hs,
      Nat.div_mod_unique (by omega : 0 < m), Nat.add_comm, Nat.mul_comm, eq_comm, and_comm]
  · rw [linkModulus_eq_none h]
    exact iff_of_false (fun hsome => by simp at hsome) (fun hfits => h hfits.1)

end

/-! ## Replies -/

/-- The link id of a request from socket `s` of gateway `r` names this gateway and this socket. -/
def LinkIdIdentifies (srv : RpcServerRoute) (r s : Nat) : Prop :=
  (getRouteID srv.routeLength
      (buildLinkID srv.routeLength (UInt32.ofNat r) (Int32.ofNat s))).map UInt32.toNat = some r ∧
    getSocket srv.routeLength (buildLinkID srv.routeLength (UInt32.ofNat r) (Int32.ofNat s))
      = some (Int32.ofNat s)

/-- A server with this many gateways, numbered as the constructor does. -/
def RpcServerRoute.Serves (srv : RpcServerRoute) (gateways : Nat) : Prop :=
  srv.routeLength = getNumberLength gateways ∧
    srv.routeClientList.map RpcServerRouteClient.routeId = (List.range gateways).map UInt32.ofNat

theorem RpcServerRoute.new_serves (gateways : Nat) : (RpcServerRoute.new gateways).Serves gateways :=
  ⟨rfl, by simp [RpcServerRoute.new, Function.comp_def]⟩

section

variable {srv : RpcServerRoute} {gateways r s : Nat}

theorem RpcServerRoute.Serves.getElem? (h : srv.Serves gateways) (hr : r < gateways) :
    ∃ client, srv.routeClientList[r]? = some client ∧ client.routeId = UInt32.ofNat r := by
  have hat : (srv.routeClientList.map RpcServerRouteClient.routeId)[r]? = some (UInt32.ofNat r) := by
    rw [h.2, List.getElem?_map, List.getElem?_range hr]; rfl
  rw [List.getElem?_map] at hat
  exact Option.map_eq_some_iff.mp hat

/-- A reply or a disconnect addressed to the link id goes out through the client of gateway `r` and is for
    socket `s`. -/
theorem reply_addressed (h : srv.Serves gateways) (hr : r < gateways) (hid : LinkIdIdentifies srv r s) :
    ∃ client, srv.getRouteClient (buildLinkID srv.routeLength (UInt32.ofNat r) (Int32.ofNat s))
        = some (some client) ∧ client.routeId = UInt32.ofNat r ∧
      client.targetSockets srv.routeLength
        [buildLinkID srv.routeLength (UInt32.ofNat r) (Int32.ofNat s)] = some [Int32.ofNat s] ∧
      RpcServerRouteClient.disconnectRequest srv.routeLength
        (buildLinkID srv.routeLength (UInt32.ofNat r) (Int32.ofNat s)) = some ⟨[Int32.ofNat s]⟩ := by
  obtain ⟨hroute, hsocket⟩ := hid
  obtain ⟨routeId, hrouteId, hval⟩ := Option.map_eq_some_iff.mp hroute
  obtain ⟨client, hclient, hcid⟩ := h.getElem? hr
  have hsame : client.routeId = routeId := by
    rw [hcid, ← hval, UInt32.ofNat_toNat]
  refine ⟨client, ?_, hcid, ?_, ?_⟩
  · rw [RpcServerRoute.getRouteClient, hrouteId, Option.map_some, hval, hclient]
  · simp only [RpcServerRouteClient.targetSockets, hrouteId, hsocket, hsame, Option.bind_eq_bind,
      Option.bind_some, if_true]
    rfl
  · rw [RpcServerRouteClient.disconnectRequest, hsocket]; rfl

/-- **Link ids identify exactly the clients whose parts fit**; among these no two share a link id, and what
    is addressed to the link id reaches the client. -/
theorem linkId_identifies_iff (h : srv.Serves gateways) (hr : r < gateways) (hs : s < 2 ^ 31) :
    (LinkIdIdentifies srv r s ↔ LinkIdFits gateways r s) ∧
    (LinkIdFits gateways r s →
      (∀ r' s', r' < gateways → s' < 2 ^ 31 → LinkIdFits gateways r' s' →
        buildLinkID srv.routeLength (UInt32.ofNat r) (Int32.ofNat s)
          = buildLinkID srv.routeLength (UInt32.ofNat r') (Int32.ofNat s') → r = r' ∧ s = s') ∧
      ∃ client, srv.getRouteClient (buildLinkID srv.routeLength (UInt32.ofNat r) (Int32.ofNat s))
          = some (some client) ∧ client.routeId = UInt32.ofNat r ∧
        client.targetSockets srv.routeLength
          [buildLinkID srv.routeLength (UInt32.ofNat r) (Int32.ofNat s)] = some [Int32.ofNat s] ∧
        RpcServerRouteClient.disconnectRequest srv.routeLength
          (buildLinkID srv.routeLength (UInt32.ofNat r) (Int32.ofNat s)) = some ⟨[Int32.ofNat s]⟩) := by
  have hiff : ∀ {r s}, r < gateways → s < 2 ^ 31 →
      (LinkIdIdentifies srv r s ↔ LinkIdFits gateways r s) := by
    intro r s hr hs
    rw [LinkIdIdentifies, h.1]
    exact roundTrip_iff hr hs
  refine ⟨hiff hr hs, fun hfits => ⟨?_, reply_addressed h hr ((hiff hr hs).mpr hfits)⟩⟩
  intro r' s' hr' hs' hfits' hlink
  obtain ⟨hroute, hsocket⟩ := (hiff hr hs).mpr hfits
  obtain ⟨hroute', hsocket'⟩ := (hiff hr' hs').mpr hfits'
  rw [hlink, hroute'] at hroute
  rw [hlink, hsocket'] at hsocket
  exact ⟨(Option.some.inj hroute).symm, ((socket_ofNat_inj hs' hs).mp (Option.some.inj hsocket)).symm⟩

end

/-- Three gateways, sockets up to nine. -/
theorem linkId_identifies_seven : LinkIdIdentifies (.new 3) 2 7 :=
  ((linkId_identifies_iff (RpcServerRoute.new_serves 3) (by decide : 2 < 3) (by decide)).1).mpr (by decide)

/-- With a single gateway, socket 10 is taken for socket 0 of gateway 1. -/
theorem linkId_socket_ten :
    ¬ LinkIdIdentifies (.new 1) 0 10 ∧
      getRouteID 1 (buildLinkID 1 0 10) = some 1 ∧ getSocket 1 (buildLinkID 1 0 10) = some 0 := by
  refine ⟨?_, by decide, by decide⟩
  rintro ⟨hroute, -⟩
  exact absurd hroute (by decide)

end Frrpc
