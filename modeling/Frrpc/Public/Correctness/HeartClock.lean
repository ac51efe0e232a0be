import Mathlib.Tactic.Linarith
import Mathlib.Algebra.Order.Ring.Cast
import Mathlib.Algebra.Order.Ring.Int
import Frrpc.Public.HeartClock
import Frrpc.Public.Correctness.Heart

/-!
# `Public.Correctness.HeartClock` — hearts keep a client connected

The client's two divisions leave as many rounds of 250 ms as the server has rounds of a second, and both
counters add one round, so four hearts are due in the time of one check. In a connected client's life the
next heart is due before the next check, or one was sent since the last check (`Alive`), whatever the
offset of the two loops.
-/

namespace Frrpc

open Lib

namespace RpcHeart

/-! ## The counters -/

/-- A timeout of at least one second whose milliseconds fit in 64 bits. -/
structure Fits (timeout : Int64) : Prop where
  pos : 1 ≤ timeout.toInt
  lt : timeout.toInt * 1000 < 2 ^ 63

/-- **The two divisions give the timeout back**: `timeout` rounds of 250 ms, not of one second. -/
theorem sleepTime_eq {timeout : Int64} (h : Fits timeout) : timeout * 1000 / sleepTimeMs / 4 = timeout := by
  obtain ⟨hpos, hlt⟩ := h
  have hmul : (timeout * 1000).toInt = timeout.toInt * 1000 := by
    rw [Int64.toInt_mul]
    exact Int.bmod_eq_of_le (by simp; omega) (by simp; omega)
  have hdiv : (timeout * 1000 / sleepTimeMs).toInt = timeout.toInt * 4 := by
    rw [Int64.toInt_div_of_ne_right _ _ (by decide), hmul]
    show (timeout.toInt * 1000).tdiv 250 = timeout.toInt * 4
    rw [Int.tdiv_eq_ediv_of_nonneg (by omega)]
    omega
  rw [← Int64.toInt_inj, Int64.toInt_div_of_ne_right _ _ (by decide), hdiv]
  show (timeout.toInt * 4).tdiv 4 = timeout.toInt
  rw [Int.tdiv_eq_ediv_of_nonneg (by omega)]
  omega

theorem clientRound_eq {timeout : Int64} (h : Fits timeout) (curTimes : Int64) :
    clientRound timeout curTimes = countTimes timeout curTimes := by
  unfold clientRound
  rw [sleepTime_eq h]

/-- A counter between its reset and its limit. -/
structure Counts (limit curTimes : Int64) : Prop where
  nonneg : 0 ≤ curTimes.toInt
  le : curTimes.toInt ≤ limit.toInt

theorem counts_zero {limit : Int64} (hlimit : Fits limit) : Counts limit 0 :=
  ⟨Int.le_refl 0, Int.le_trans (by decide) hlimit.pos⟩

/-- **The branch is taken when the counter is at its limit**, and else the counter comes one nearer. -/
theorem countTimes_cases {limit curTimes : Int64} (hlimit : Fits limit) (h : Counts limit curTimes) :
    (curTimes.toInt = limit.toInt ∧ countTimes limit curTimes = (0, true)) ∨
    ((curTimes + 1).toInt = curTimes.toInt + 1 ∧ Counts limit (curTimes + 1) ∧
      countTimes limit curTimes = (curTimes + 1, false)) := by
  obtain ⟨hpos, hlt⟩ := hlimit
  obtain ⟨hnonneg, hle⟩ := h
  have hsucc : (curTimes + 1).toInt = curTimes.toInt + 1 := by
    rw [Int64.toInt_add]
    exact Int.bmod_eq_of_le (by simp; omega) (by simp; omega)
  have hiff : limit < curTimes + 1 ↔ limit.toInt < curTimes.toInt + 1 := by
    rw [Int64.lt_iff_toInt_lt, hsucc]
  unfold countTimes
  dsimp only
  by_cases hdue : limit < curTimes + 1
  · rw [if_pos hdue]
    rw [hiff] at hdue
    exact .inl ⟨by omega, rfl⟩
  · rw [if_neg hdue]
    rw [hiff] at hdue
    exact .inr ⟨hsucc, ⟨by omega, by omega⟩, rfl⟩

end RpcHeart

open RpcHeart HeartCheck

/-! ## When the branch is due -/

namespace HeartLoop

variable {K : Type} [CommRing K]

/-- When the loop's branch is taken next, if it sleeps `period` between two rounds. -/
def due (loop : HeartLoop K) (period : K) (limit : Int64) : K :=
  loop.wake + period * ((limit.toInt - loop.curTimes.toInt : ℤ) : K)

theorem due_zero (wake period : K) (limit : Int64) :
    due ⟨0, wake⟩ period limit = wake + period * (limit.toInt : K) := by
  show wake + period * ((limit.toInt - 0 : ℤ) : K) = _
  rw [Int.sub_zero]

/-- **A round at its time** takes the branch when it is due, and else leaves the due time as it is. -/
theorem round_cases {loop : HeartLoop K} {limit : Int64} (hlimit : Fits limit)
    (h : Counts limit loop.curTimes) (period : K) :
    (countTimes limit loop.curTimes = (0, true) ∧ loop.due period limit = loop.wake) ∨
    (∃ curTimes, countTimes limit loop.curTimes = (curTimes, false) ∧ Counts limit curTimes ∧
      due ⟨curTimes, loop.wake + period⟩ period limit = loop.due period limit) := by
  rcases countTimes_cases hlimit h with ⟨hlast, hround⟩ | ⟨hsucc, hcounts, hround⟩
  · refine .inl ⟨hround, ?_⟩
    rw [due, hlast, Int.sub_self, Int.cast_zero, mul_zero, add_zero]
  · refine .inr ⟨_, hround, hcounts, ?_⟩
    show loop.wake + period + period * ((limit.toInt - (loop.curTimes + 1).toInt : ℤ) : K) =
      loop.wake + period * ((limit.toInt - loop.curTimes.toInt : ℤ) : K)
    rw [hsucc]
    push_cast
    ring

variable [LinearOrder K] [IsStrictOrderedRing K]

theorem wake_le_due {loop : HeartLoop K} {limit : Int64} (h : Counts limit loop.curTimes) {period : K}
    (hperiod : 0 ≤ period) : loop.wake ≤ loop.due period limit := by
  have hleft : (0 : K) ≤ ((limit.toInt - loop.curTimes.toInt : ℤ) : K) :=
    Int.cast_nonneg (Int.sub_nonneg.mpr h.le)
  exact le_add_of_nonneg_right (mul_nonneg hperiod hleft)

theorem due_le {loop : HeartLoop K} {limit : Int64} (h : Counts limit loop.curTimes) {period : K}
    (hperiod : 0 ≤ period) : loop.due period limit ≤ loop.wake + period * (limit.toInt : K) := by
  have hleft : ((limit.toInt - loop.curTimes.toInt : ℤ) : K) ≤ (limit.toInt : K) :=
    Int.cast_le.mpr (Int.sub_le_self _ h.nonneg)
  exact add_le_add_right (mul_le_mul_of_nonneg_left hleft hperiod) _

end HeartLoop

namespace HeartClock

/-! ## Hearts between checks -/

section

variable {K : Type}

def Checks (entry : K × RpcHeart.Event) : Prop := IsCheck entry.2

/-- A heart strictly between two times. -/
def HeartIn [LT K] (socket : Socket) (since : List (K × RpcHeart.Event)) (t₁ t₂ : K) : Prop :=
  ∃ t, (t, RpcHeart.Event.updateSocket socket) ∈ since ∧ t₁ < t ∧ t < t₂

/-- Every check of the log has a heart strictly between the last check before it and itself. -/
def HeartBetweenChecks [LT K] (s : HeartClock K) (socket : Socket) : Prop :=
  AtEach (fun log check => Checks check → ∀ before last since, SplitAtLast Checks log before last since →
    HeartIn socket since last.1 check.1) s.log

theorem HeartIn.append [LT K] {socket : Socket} {since since' : List (K × RpcHeart.Event)} {t₁ t₂ : K}
    (h : HeartIn socket since t₁ t₂) : HeartIn socket (since ++ since') t₁ t₂ := by
  obtain ⟨t, hmem, hbetween⟩ := h
  exact ⟨t, List.mem_append_left _ hmem, hbetween⟩

/-- What happens at a time, but a check, prolongs the period. -/
theorem between_record [LT K] {s : HeartClock K} {socket : Socket} (h : s.HeartBetweenChecks socket)
    {e : RpcHeart.Event} (he : ¬ IsCheck e) : (s.record e).HeartBetweenChecks socket :=
  atEach_snoc h fun hcheck => absurd hcheck he

end

variable {K : Type} [CommRing K] [LinearOrder K]

/-! ## The invariant -/

/-- The server, with or without the client. -/
structure Ticking (timeout : Int64) (s : HeartClock K) : Prop where
  counts : Counts timeout s.server.curTimes
  awake : s.now ≤ s.server.wake
  sound : s.check.Sound

/-- The server's next check is a whole period after the last one. Before it the next heart is due, or one
    was sent since. -/
structure Alive (timeout : Int64) (socket : Socket) (s : HeartClock K) (client : HeartLoop K) : Prop where
  counts : Counts timeout client.curTimes
  awake : s.now ≤ client.wake
  soon : client.wake ≤ s.now + 250
  waits : socket ∈ s.check.heart.waitHeartArray → client.due 250 timeout < s.server.due 1000 timeout
  kept : socket ∉ s.check.disconnected
  last : ∀ before last since, SplitAtLast Checks s.log before last since →
    s.server.due 1000 timeout = last.1 + 1000 + 1000 * (timeout.toInt : K) ∧ last.1 ≤ s.now ∧
      (client.due 250 timeout < s.server.due 1000 timeout ∨
        HeartIn socket since last.1 (s.server.due 1000 timeout))
  between : s.HeartBetweenChecks socket

/-- The server ticks, and a connected client is alive. -/
structure Beating (timeout : Int64) (socket : Socket) (s : HeartClock K) : Prop where
  ticking : Ticking timeout s
  alive : ∀ client, s.client = some client → Alive timeout socket s client

variable {timeout : Int64} {socket : Socket} {s : HeartClock K} {client : HeartLoop K}

theorem beating_started (hlimit : Fits timeout) (start : K) : Beating timeout socket (started start) :=
  ⟨⟨counts_zero hlimit, le_refl _, HeartCheck.sound_started⟩, nofun⟩

/-! ## Rounds -/

/-- A round of the server without a check. -/
theorem alive_serverRound (h : Alive timeout socket s client) {server : HeartLoop K}
    (hdue : server.due 1000 timeout = s.server.due 1000 timeout) :
    Alive timeout socket { s with server } client := by
  obtain ⟨hcounts, hawake, hsoon, hwaits, hkept, hlast, hbetween⟩ := h
  rw [← hdue] at hwaits hlast
  exact ⟨hcounts, hawake, hsoon, hwaits, hkept, hlast, hbetween⟩

/-- **Other threads** do not make the client wait. -/
theorem alive_other (hticking : Ticking timeout s) (h : Alive timeout socket s client) {e : RpcHeart.Event}
    (he : ¬ IsCheck e) : Alive timeout socket (s.record e) client := by
  refine ⟨h.counts, h.awake, h.soon, ?_, ?_, ?_, between_record h.between he⟩
  · intro hwait
    exact h.waits ((waiting_step hticking.sound he socket).mp hwait).1
  · show socket ∉ (s.check.step e).disconnected
    rw [disconnected_step _ he]
    exact h.kept
  · intro before last since hsnoc
    have hentry : ¬ Checks (s.now, e) := he
    obtain ⟨since', rfl, hsplit⟩ := (splitAtLast_snoc hentry).mp hsnoc
    obtain ⟨hdue, hlast, hheart⟩ := h.last before last since' hsplit
    exact ⟨hdue, hlast, hheart.imp_right HeartIn.append⟩

theorem beating_other (h : Beating timeout socket s) {e : RpcHeart.Event} (he : ¬ IsCheck e) :
    Beating timeout socket (s.record e) :=
  ⟨⟨h.ticking.counts, h.ticking.awake, sound_step h.ticking.sound e⟩,
    fun client hclient => alive_other h.ticking (h.alive client hclient) he⟩

variable [IsStrictOrderedRing K]

theorem alive_advance (h : Alive timeout socket s client) {time : K} (hnow : s.now ≤ time)
    (hclient : time ≤ client.wake) : Alive timeout socket { s with now := time } client := by
  refine ⟨h.counts, hclient, ?_, h.waits, h.kept, ?_, h.between⟩
  · show client.wake ≤ time + 250
    linarith [h.soon]
  · intro before last since hsplit
    obtain ⟨hdue, hlast, hheart⟩ := h.last before last since hsplit
    exact ⟨hdue, le_trans hlast hnow, hheart⟩

/-- A round of the client without a heart. -/
theorem alive_clientRound (h : Alive timeout socket s client) {client' : HeartLoop K}
    (hcounts : Counts timeout client'.curTimes) (hwake : client'.wake = s.now + 250)
    (hdue : client'.due 250 timeout = client.due 250 timeout) :
    Alive timeout socket { s with client := some client' } client' := by
  obtain ⟨_, _, _, hwaits, hkept, hlast, hbetween⟩ := h
  rw [← hdue] at hwaits hlast
  refine ⟨hcounts, ?_, le_of_eq hwake, hwaits, hkept, hlast, hbetween⟩
  show s.now ≤ client'.wake
  linarith

/-- **A heart** makes the client stop waiting. Sent later than the last check it is strictly between the
    checks, and sent at its instant it leaves time for another one. -/
theorem alive_heart (hticking : Ticking timeout s) (h : Alive timeout socket s client) (hlimit : Fits timeout)
    (hdue : client.due 250 timeout = s.now) :
    Alive timeout socket ({ s with client := some ⟨0, s.now + 250⟩ }.record (.updateSocket socket))
      ⟨0, s.now + 250⟩ := by
  have hheart : ¬ IsCheck (.updateSocket socket) := nofun
  have hentry : ¬ Checks (s.now, RpcHeart.Event.updateSocket socket) := hheart
  refine ⟨counts_zero hlimit, ?_, le_refl _, ?_, ?_, ?_, ?_⟩
  · show s.now ≤ s.now + 250
    linarith
  · intro hwait
    exact absurd rfl ((waiting_step hticking.sound hheart socket).mp hwait).2.1
  · show socket ∉ (s.check.step (.updateSocket socket)).disconnected
    rw [disconnected_step _ hheart]
    exact h.kept
  · intro before last since hsnoc
    obtain ⟨since', rfl, hsplit⟩ := (splitAtLast_snoc hentry).mp hsnoc
    obtain ⟨hcheck, hlast, hnext⟩ := h.last before last since' hsplit
    refine ⟨hcheck, hlast, ?_⟩
    rcases hnext with hbefore | hsent
    · rcases lt_or_eq_of_le hlast with hlater | hsame
      · refine .inr ⟨s.now, List.mem_append_right _ List.mem_cons_self, hlater, ?_⟩
        rw [← hdue]
        exact hbefore
      · left
        have hpos : (1 : K) ≤ (timeout.toInt : K) := by exact_mod_cast hlimit.pos
        show HeartLoop.due ⟨0, s.now + 250⟩ 250 timeout < s.server.due 1000 timeout
        rw [HeartLoop.due_zero, hcheck, hsame]
        linarith
    · exact .inr hsent.append
  · exact atEach_snoc h.between fun hcheck => absurd hcheck hentry

/-- **A check** finds that a heart was sent since the last one; the next heart is due before the next
    check. -/
theorem alive_check (h : Alive timeout socket s client) (hlimit : Fits timeout)
    (hdue : s.server.due 1000 timeout = s.now) :
    Alive timeout socket ({ s with server := ⟨0, s.now + 1000⟩ }.record .checkTimeout) client := by
  have hperiod : (0 : K) ≤ 250 := by linarith
  have hnever : ¬ client.due 250 timeout < s.now := by
    have hwake := HeartLoop.wake_le_due h.counts hperiod
    linarith [h.awake]
  have hnext : client.due 250 timeout < HeartLoop.due ⟨0, s.now + 1000⟩ 1000 timeout := by
    have hpos : (1 : K) ≤ (timeout.toInt : K) := by exact_mod_cast hlimit.pos
    have hle := HeartLoop.due_le h.counts hperiod
    rw [HeartLoop.due_zero]
    linarith [h.soon]
  have hquiet : socket ∉ s.check.heart.waitHeartArray := by
    intro hwait
    have hbefore := h.waits hwait
    rw [hdue] at hbefore
    exact hnever hbefore
  refine ⟨h.counts, h.awake, h.soon, fun _ => hnext, ?_, ?_, ?_⟩
  · show socket ∉ s.check.disconnected ++ s.check.heart.waitHeartArray.toList
    rw [List.mem_append, Std.ExtTreeSet.mem_toList]
    exact not_or.mpr ⟨h.kept, hquiet⟩
  · intro before last since hsnoc
    have hentry : Checks (s.now, RpcHeart.Event.checkTimeout) := isCheck
    obtain ⟨_, rfl, _⟩ := (splitAtLast_snoc_mark hentry).mp hsnoc
    exact ⟨HeartLoop.due_zero _ _ _, le_refl _, .inl hnext⟩
  · apply atEach_snoc h.between
    intro _ before last since hsplit
    obtain ⟨_, _, hbefore | hsent⟩ := h.last before last since hsplit
    · rw [hdue] at hbefore
      exact absurd hbefore hnever
    · rw [hdue] at hsent
      exact hsent

/-- A client that connects does not wait. -/
theorem alive_connect (hticking : Ticking timeout s) (hlimit : Fits timeout)
    (habsent : socket ∉ s.check.heart.socketArray) :
    Alive timeout socket
      { s with
        client := some ⟨0, s.now⟩
        check := ⟨s.check.heart.addSocket socket, []⟩
        log := [] } ⟨0, s.now⟩ := by
  refine ⟨counts_zero hlimit, le_refl _, ?_, ?_, List.not_mem_nil, ?_, atEach_nil⟩
  · show s.now ≤ s.now + 250
    linarith
  · intro hwait
    rw [addSocket_eq hticking.sound.serves] at hwait
    exact absurd (hticking.sound.subset socket hwait) habsent
  · intro before last since hsplit
    exact absurd hsplit not_splitAtLast_nil

/-! ## Runs -/

theorem beating_serverRound {s' : HeartClock K} (hlimit : Fits timeout) (h : Beating timeout socket s)
    (hstep : step timeout socket s .serverRound = some s') : Beating timeout socket s' := by
  simp only [step] at hstep
  split at hstep
  · next hwake =>
    have hsleeps : s.now ≤ s.now + 1000 := by linarith
    rcases HeartLoop.round_cases hlimit h.ticking.counts 1000 with
      ⟨hround, hdue⟩ | ⟨curTimes, hround, hcounts, hdue⟩
    · have hchecks : serverRound timeout s.server.curTimes = (0, true) := hround
      simp only [hchecks, if_true] at hstep
      obtain rfl := Option.some.inj hstep
      refine ⟨⟨counts_zero hlimit, hsleeps, sound_step h.ticking.sound .checkTimeout⟩, ?_⟩
      intro client hclient
      exact alive_check (h.alive client hclient) hlimit (hdue.trans hwake)
    · have hsleep : serverRound timeout s.server.curTimes = (curTimes, false) := hround
      simp only [hsleep, Bool.false_eq_true, if_false] at hstep
      obtain rfl := Option.some.inj hstep
      refine ⟨⟨hcounts, hsleeps, h.ticking.sound⟩, ?_⟩
      intro client hclient
      apply alive_serverRound (h.alive client hclient)
      rw [← hwake]
      exact hdue
  · cases hstep

theorem beating_clientRound {s' : HeartClock K} (hlimit : Fits timeout) (h : Beating timeout socket s)
    (hstep : step timeout socket s .clientRound = some s') : Beating timeout socket s' := by
  simp only [step, clientRound_eq hlimit] at hstep
  split at hstep
  · cases hstep
  · next client hclient =>
    split at hstep
    · next hwake =>
      have halive := h.alive client hclient
      rcases HeartLoop.round_cases hlimit halive.counts 250 with
        ⟨hround, hdue⟩ | ⟨curTimes, hround, hcounts, hdue⟩
      · simp only [hround, if_true] at hstep
        obtain rfl := Option.some.inj hstep
        have hsound := sound_step h.ticking.sound (.updateSocket socket)
        refine ⟨⟨h.ticking.counts, h.ticking.awake, hsound⟩, ?_⟩
        rintro _ ⟨⟩
        exact alive_heart h.ticking halive hlimit (hdue.trans hwake)
      · simp only [hround, Bool.false_eq_true, if_false] at hstep
        obtain rfl := Option.some.inj hstep
        refine ⟨⟨h.ticking.counts, h.ticking.awake, h.ticking.sound⟩, ?_⟩
        rintro _ ⟨⟩
        rw [hwake] at hdue
        exact alive_clientRound halive hcounts rfl hdue
    · cases hstep

theorem beating_step {s' : HeartClock K} {e : Event K} (hlimit : Fits timeout) (h : Beating timeout socket s)
    (hstep : step timeout socket s e = some s') : Beating timeout socket s' := by
  cases e with
  | advance time =>
    simp only [step] at hstep
    split at hstep
    · next htime =>
      obtain ⟨hnow, hserver, hclients⟩ := htime
      obtain rfl := Option.some.inj hstep
      refine ⟨⟨h.ticking.counts, hserver, h.ticking.sound⟩, ?_⟩
      intro client hclient
      have hclient' : s.client = some client := hclient
      rw [hclient'] at hclients
      exact alive_advance (h.alive client hclient) hnow (of_decide_eq_true hclients)
    · cases hstep
  | serverRound => exact beating_serverRound hlimit h hstep
  | connect =>
    simp only [step] at hstep
    split at hstep
    · next hnew =>
      obtain rfl := Option.some.inj hstep
      have hsound := sound_step h.ticking.sound (.addSocket socket)
      refine ⟨⟨h.ticking.counts, h.ticking.awake, hsound.serves, hsound.subset⟩, ?_⟩
      rintro _ ⟨⟩
      exact alive_connect h.ticking hlimit hnew.2
    · cases hstep
  | clientRound => exact beating_clientRound hlimit h hstep
  | other e =>
    simp only [step] at hstep
    split at hstep
    · next hmay =>
      obtain rfl := Option.some.inj hstep
      have hcheck : e ≠ .checkTimeout := of_decide_eq_true (Bool.and_eq_true_iff.mp hmay).1
      exact beating_other h hcheck
    · cases hstep

/-- **Hearts keep a client connected**, for every timeout and every offset of the two loops: a heart falls
    strictly between every two consecutive checks since the client connected, and no check disconnects it. -/
theorem hearts_keep_connected {start : K} (hlimit : Fits timeout)
    (hrun : Reaches (step timeout socket) anyStep (started start) s) (hclient : s.client.isSome) :
    s.HeartBetweenChecks socket ∧ socket ∉ s.check.disconnected := by
  have h : Beating timeout socket s := by
    apply hrun.invariant (beating_started hlimit start)
    intro s e s' _ h hstep
    exact beating_step hlimit h hstep
  obtain ⟨client, hsome⟩ := Option.isSome_iff_exists.mp hclient
  exact ⟨(h.alive client hsome).between, (h.alive client hsome).kept⟩

def clientRounds (times : List ℤ) : List (Event ℤ) := times.flatMap fun time => [.advance time, .clientRound]

/-- A client that connects between two rounds of the server, and two checks. -/
def twoChecks : List (Event ℤ) :=
  [.serverRound, .advance 300, .connect, .clientRound] ++ clientRounds [550, 800] ++
    [.advance 1000, .serverRound] ++ clientRounds [1050, 1300, 1550, 1800] ++
    [.advance 2000, .serverRound] ++ clientRounds [2050, 2300, 2550, 2800] ++
    [.advance 3000, .serverRound]

theorem hearts_keep_connected_twoChecks :
    ∃ s : HeartClock ℤ, Reaches (step 1 7) anyStep (started 0) s ∧
      s.log = [(550, .updateSocket 7), (1000, .checkTimeout), (1050, .updateSocket 7),
        (1550, .updateSocket 7), (2050, .updateSocket 7), (2550, .updateSocket 7), (3000, .checkTimeout)] ∧
      s.HeartBetweenChecks 7 ∧ 7 ∉ s.check.disconnected := by
  have hresult : (exec (step 1 7) (started 0) twoChecks).map (fun s => (s.client.isSome, s.log)) =
      some (true, [(550, .updateSocket 7), (1000, .checkTimeout), (1050, .updateSocket 7),
        (1550, .updateSocket 7), (2050, .updateSocket 7), (2550, .updateSocket 7),
        (3000, .checkTimeout)]) := by
    decide
  obtain ⟨s, hexec, hs⟩ := Option.map_eq_some_iff.mp hresult
  obtain ⟨hclient, hlog⟩ := Prod.mk.inj hs
  have hrun := reaches_exec hexec
  exact ⟨s, hrun, hlog, hearts_keep_connected ⟨by decide, by decide⟩ hrun hclient⟩

end HeartClock

end Frrpc
