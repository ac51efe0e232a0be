import Mathlib.Data.List.Induction
import Frrpc.Lib.History
import Frrpc.Lib.TreeMap
import Frrpc.Public.Heart

/-!
# `Public.Correctness.Heart` — a check disconnects the silent sockets

The two sets are two generations. A check makes its survivors wait, and a socket waits until it is heard of
or deleted; whoever still waits at the next check was silent since the last one (`waiting_iff`). So the
calls of `Disconnect` are told by the history alone (`disconnects_silent`).
-/

namespace Frrpc

open Lib Std

/-! ## The operations of a running server -/

namespace RpcHeart

structure Serves (h : RpcHeart) : Prop where
  running : h.running = true
  server : h.isClient = false

variable {h : RpcHeart} {socket : Socket}

theorem Serves.guard (hserves : h.Serves) : (h.running && !h.isClient) = true := by
  rw [hserves.running, hserves.server]
  rfl

theorem addSocket_eq (hserves : h.Serves) (socket : Socket) :
    h.addSocket socket = { h with socketArray := h.socketArray.insert socket } :=
  if_pos hserves.guard

theorem delSocket_eq (hserves : h.Serves) (socket : Socket) :
    h.delSocket socket = { h with
      waitHeartArray := h.waitHeartArray.erase socket, socketArray := h.socketArray.erase socket } :=
  if_pos hserves.guard

/-- A socket that does not wait is not erased, which is no difference for the members. -/
theorem updateSocket_spec (hserves : h.Serves) (socket : Socket) :
    (h.updateSocket socket).Serves ∧ (h.updateSocket socket).socketArray = h.socketArray ∧
      ∀ a, a ∈ (h.updateSocket socket).waitHeartArray ↔ a ≠ socket ∧ a ∈ h.waitHeartArray := by
  unfold updateSocket
  rw [hserves.guard, Bool.true_and]
  split
  · exact ⟨⟨hserves.running, hserves.server⟩, rfl, fun _ => mem_erase_iff⟩
  · next habsent =>
    refine ⟨hserves, rfl, ?_⟩
    intro a
    constructor
    · intro ha
      refine ⟨?_, ha⟩
      rintro rfl
      exact habsent (ExtTreeSet.contains_iff_mem.mpr ha)
    · exact And.right

theorem mem_checkTimeout {a : Socket} :
    a ∈ h.checkTimeout.1.socketArray ↔ a ∉ h.waitHeartArray ∧ a ∈ h.socketArray := by
  unfold checkTimeout
  rw [mem_foldl_erase_iff, ExtTreeSet.mem_toList]

end RpcHeart

namespace HeartCheck

open RpcHeart

/-! ## Steps -/

/-- **What waits is registered**, on a running server. -/
structure Sound (s : HeartCheck) : Prop where
  serves : s.heart.Serves
  subset : ∀ socket ∈ s.heart.waitHeartArray, socket ∈ s.heart.socketArray

theorem sound_started : started.Sound := by
  refine ⟨⟨rfl, rfl⟩, ?_⟩
  intro socket hmem
  exact absurd hmem ExtTreeSet.not_mem_empty

theorem sound_step {s : HeartCheck} (h : s.Sound) (e : Event) : (s.step e).Sound := by
  cases e with
  | addSocket socket =>
    rw [step, addSocket_eq h.serves]
    refine ⟨⟨h.serves.running, h.serves.server⟩, ?_⟩
    intro a hwait
    exact mem_insert_iff.mpr (.inr (h.subset a hwait))
  | delSocket socket =>
    rw [step, delSocket_eq h.serves]
    refine ⟨⟨h.serves.running, h.serves.server⟩, ?_⟩
    intro a hwait
    obtain ⟨hne, hold⟩ := mem_erase_iff.mp hwait
    exact mem_erase_iff.mpr ⟨hne, h.subset a hold⟩
  | updateSocket socket =>
    obtain ⟨hserves, hsame, hwaits⟩ := updateSocket_spec h.serves socket
    refine ⟨hserves, ?_⟩
    intro a hwait
    show a ∈ (s.heart.updateSocket socket).socketArray
    rw [hsame]
    exact h.subset a ((hwaits a).mp hwait).2
  | checkTimeout => exact ⟨⟨h.serves.running, h.serves.server⟩, fun _ hwait => hwait⟩

/-- **A socket waits until it is heard of or deleted.** -/
theorem waiting_step {s : HeartCheck} (h : s.Sound) {e : Event} (he : e ≠ .checkTimeout) (socket : Socket) :
    socket ∈ (s.step e).heart.waitHeartArray ↔
      socket ∈ s.heart.waitHeartArray ∧ .updateSocket socket ≠ e ∧ .delSocket socket ≠ e := by
  cases e with
  | addSocket other =>
    rw [step, addSocket_eq h.serves]
    exact ⟨fun hwait => ⟨hwait, nofun, nofun⟩, And.left⟩
  | delSocket other =>
    rw [step, delSocket_eq h.serves, mem_erase_iff, ne_eq (Event.delSocket socket), Event.delSocket.injEq]
    exact ⟨fun ⟨hne, hwait⟩ => ⟨hwait, nofun, hne⟩, fun ⟨hwait, _, hne⟩ => ⟨hne, hwait⟩⟩
  | updateSocket other =>
    obtain ⟨_, _, hwaits⟩ := updateSocket_spec h.serves other
    rw [step, hwaits, ne_eq (Event.updateSocket socket), Event.updateSocket.injEq]
    exact ⟨fun ⟨hne, hwait⟩ => ⟨hwait, hne, nofun⟩, fun ⟨hwait, hne, _⟩ => ⟨hne, hwait⟩⟩
  | checkTimeout => exact absurd rfl he

/-- Only a check disconnects. -/
theorem disconnected_step (s : HeartCheck) {e : Event} (he : e ≠ .checkTimeout) :
    (s.step e).disconnected = s.disconnected := by
  cases e with
  | checkTimeout => exact absurd rfl he
  | addSocket _ | delSocket _ | updateSocket _ => rfl

/-- Only `AddSocket` registers. -/
theorem unregistered_step {s : HeartCheck} (h : s.Sound) {e : Event} {socket : Socket}
    (he : e ≠ .addSocket socket) (habsent : socket ∉ s.heart.socketArray) :
    socket ∉ (s.step e).heart.socketArray := by
  cases e with
  | addSocket other =>
    rw [step, addSocket_eq h.serves, mem_insert_iff]
    rintro (rfl | hmem)
    · exact he rfl
    · exact habsent hmem
  | delSocket other =>
    rw [step, delSocket_eq h.serves, mem_erase_iff]
    exact fun hmem => habsent hmem.2
  | updateSocket other =>
    rw [step, (updateSocket_spec h.serves other).2.1]
    exact habsent
  | checkTimeout =>
    intro hmem
    exact habsent (mem_checkTimeout.mp hmem).2

/-! ## Histories -/

theorem run_snoc (es : List Event) (e : Event) : run (es ++ [e]) = (run es).step e := by
  rw [run, List.foldl_append]
  rfl

theorem sound_run (es : List Event) : (run es).Sound := by
  induction es using List.reverseRecOn with
  | nil => exact sound_started
  | append_singleton es e ih =>
    rw [run_snoc]
    exact sound_step ih e

def IsCheck (e : Event) : Prop := e = .checkTimeout

theorem isCheck : IsCheck .checkTimeout := rfl

/-- The socket was registered right after the last check, and since then it was neither heard of nor
    deleted. -/
def Silent (es : List Event) (socket : Socket) : Prop :=
  ∃ before since, SplitAtLast IsCheck es before .checkTimeout since ∧
    socket ∈ (run (before ++ [.checkTimeout])).heart.socketArray ∧
    .updateSocket socket ∉ since ∧ .delSocket socket ∉ since

/-- **The sockets that wait are the silent ones.** -/
theorem waiting_iff (es : List Event) (socket : Socket) :
    socket ∈ (run es).heart.waitHeartArray ↔ Silent es socket := by
  induction es using List.reverseRecOn with
  | nil =>
    constructor
    · intro hwait
      exact absurd hwait ExtTreeSet.not_mem_empty
    · rintro ⟨before, since, hsplit, _⟩
      exact absurd hsplit not_splitAtLast_nil
  | append_singleton es e ih =>
    by_cases he : IsCheck e
    · -- a check makes its survivors wait
      obtain rfl : e = .checkTimeout := he
      constructor
      · intro hwait
        refine ⟨es, [], (splitAtLast_snoc_mark isCheck).mpr ⟨rfl, rfl, rfl⟩, ?_, List.not_mem_nil,
          List.not_mem_nil⟩
        rw [run_snoc] at hwait ⊢
        exact hwait
      · rintro ⟨before, since, hsplit, hregistered, _⟩
        obtain ⟨rfl, _, _⟩ := (splitAtLast_snoc_mark isCheck).mp hsplit
        rw [run_snoc] at hregistered ⊢
        exact hregistered
    · rw [run_snoc, waiting_step (sound_run es) he, ih]
      constructor
      · rintro ⟨⟨before, since, hsplit, hregistered, hupdate, hdel⟩, hupdated, hdeleted⟩
        refine ⟨before, since ++ [e], (splitAtLast_snoc he).mpr ⟨since, rfl, hsplit⟩, hregistered, ?_, ?_⟩
        · rw [List.mem_append, List.mem_singleton]
          exact not_or.mpr ⟨hupdate, hupdated⟩
        · rw [List.mem_append, List.mem_singleton]
          exact not_or.mpr ⟨hdel, hdeleted⟩
      · rintro ⟨before, _, hlonger, hregistered, hupdate, hdel⟩
        obtain ⟨since, rfl, hsplit⟩ := (splitAtLast_snoc he).mp hlonger
        rw [List.mem_append, List.mem_singleton, not_or] at hupdate hdel
        exact ⟨⟨before, since, hsplit, hregistered, hupdate.1, hdel.1⟩, hupdate.2, hdel.2⟩

/-- **Every call of `Disconnect` is on a silent socket**, at a check. -/
theorem mem_disconnected {es : List Event} {socket : Socket} (h : socket ∈ (run es).disconnected) :
    ∃ before after, es = before ++ .checkTimeout :: after ∧ Silent before socket := by
  induction es using List.reverseRecOn with
  | nil => cases h
  | append_singleton es e ih =>
    have hold : socket ∈ (run es).disconnected →
        ∃ before after, es ++ [e] = before ++ .checkTimeout :: after ∧ Silent before socket := by
      intro hmem
      obtain ⟨before, after, rfl, hsilent⟩ := ih hmem
      exact ⟨before, after ++ [e], by rw [List.append_assoc, List.cons_append], hsilent⟩
    rw [run_snoc] at h
    by_cases he : e = .checkTimeout
    · subst he
      rcases List.mem_append.mp h with hmem | hnew
      · exact hold hmem
      · exact ⟨es, [], rfl, (waiting_iff es socket).mp (ExtTreeSet.mem_toList.mp hnew)⟩
    · rw [disconnected_step _ he] at h
      exact hold h

/-- A socket that is not registered is not disconnected until it is added. -/
theorem unregistered_run {es after : List Event} {socket : Socket}
    (habsent : socket ∉ (run es).heart.socketArray) (hadd : .addSocket socket ∉ after) :
    socket ∉ (run (es ++ after)).heart.socketArray ∧
      (run (es ++ after)).disconnected.count socket = (run es).disconnected.count socket := by
  induction after using List.reverseRecOn with
  | nil =>
    rw [List.append_nil]
    exact ⟨habsent, rfl⟩
  | append_singleton after e ih =>
    rw [List.mem_append, List.mem_singleton, not_or] at hadd
    obtain ⟨hgone, hcount⟩ := ih hadd.1
    have hsound := sound_run (es ++ after)
    rw [← List.append_assoc, run_snoc]
    refine ⟨unregistered_step hsound (Ne.symm hadd.2) hgone, ?_⟩
    by_cases he : e = .checkTimeout
    · subst he
      show ((run (es ++ after)).disconnected ++ (run (es ++ after)).heart.waitHeartArray.toList).count socket
        = _
      rw [List.count_append, hcount, Nat.add_eq_left, List.count_eq_zero]
      intro hwait
      exact hgone (hsound.subset socket (ExtTreeSet.mem_toList.mp hwait))
    · rw [disconnected_step _ he, hcount]

/-! ## Exactness -/

/-- The socket sends something between every two consecutive checks. -/
def Active (es : List Event) (socket : Socket) : Prop :=
  ∀ before since after, es = before ++ .checkTimeout :: (since ++ .checkTimeout :: after) →
    .checkTimeout ∉ since → .updateSocket socket ∈ since

/-- The check after a history disconnects exactly the silent sockets, and each once. -/
structure DisconnectsSilent (es : List Event) : Prop where
  subset : ∀ socket ∈ (run es).heart.waitHeartArray, socket ∈ (run es).heart.socketArray
  exact : ∃ sockets : List Socket,
    (run (es ++ [.checkTimeout])).disconnected = (run es).disconnected ++ sockets ∧ sockets.Nodup ∧
      ∀ socket, socket ∈ sockets ↔ Silent es socket
  active : ∀ socket, Active es socket → socket ∉ (run es).disconnected
  once : ∀ socket, Silent es socket → ∀ after, .addSocket socket ∉ after →
    (run (es ++ .checkTimeout :: after)).disconnected.count socket =
      (run es).disconnected.count socket + 1

theorem active_not_disconnected {es : List Event} {socket : Socket} (h : Active es socket) :
    socket ∉ (run es).disconnected := by
  intro hmem
  obtain ⟨_, after, rfl, before, since, hsplit, _, hupdate, _⟩ := mem_disconnected hmem
  apply hupdate
  apply h before since after
  · rw [hsplit.split, List.append_assoc, List.cons_append]
  · intro hcheck
    exact hsplit.quiet _ hcheck rfl

theorem silent_disconnected_once {es : List Event} {socket : Socket} (h : Silent es socket)
    {after : List Event} (hadd : .addSocket socket ∉ after) :
    (run (es ++ .checkTimeout :: after)).disconnected.count socket =
      (run es).disconnected.count socket + 1 := by
  have hwait := (waiting_iff es socket).mpr h
  have hgone : socket ∉ (run (es ++ [.checkTimeout])).heart.socketArray := by
    rw [run_snoc]
    intro hmem
    exact (mem_checkTimeout.mp hmem).1 hwait
  rw [List.append_cons, (unregistered_run hgone hadd).2, run_snoc]
  show ((run es).disconnected ++ (run es).heart.waitHeartArray.toList).count socket = _
  rw [List.count_append, List.count_eq_one_of_mem (toList_set_nodup _) (ExtTreeSet.mem_toList.mpr hwait)]

/-- **The heartbeat check disconnects exactly the silent sockets**, after every history of a server. -/
theorem disconnects_silent (es : List Event) : DisconnectsSilent es := by
  refine ⟨(sound_run es).subset, ?_, ?_, ?_⟩
  · refine ⟨(run es).heart.waitHeartArray.toList, ?_, toList_set_nodup _, ?_⟩
    · rw [run_snoc]
      rfl
    · intro socket
      rw [ExtTreeSet.mem_toList, waiting_iff]
  · intro socket hactive
    exact active_not_disconnected hactive
  · intro socket hsilent after hadd
    exact silent_disconnected_once hsilent hadd

end HeartCheck

end Frrpc
