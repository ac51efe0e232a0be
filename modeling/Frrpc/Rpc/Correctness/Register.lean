import Frrpc.Lib.TreeMap
import Frrpc.Rpc.Register
import Frrpc.Rpc.Correctness.Threads

/-!
# `Rpc.Correctness.Register` — which callback a push is built from

A thread that registers a key that is there already calls `DelCallback` under the lock that `DelCallback`
takes again. As long as every `RegisterCallback` finds its key free, the one thread behind the lock can
always go on (`Orderly.live`), the map says what the changes so far say (`Orderly.map`), and a push is built
from the last callback registered for it. The first `RegisterCallback` of a key that is there ends all
that, for every thread (`selfLock_forever`).
-/

namespace Frrpc

open Lib Std

/-- The info that the last `RegisterCallback` of the key has left, if no `DelCallback` followed. -/
def lastRegistered (callbackKey : String) (history : List RegisterChange) : Option CallbackInfo :=
  history.foldl
    (fun last change =>
      match change with
      | .registered key info => if key = callbackKey then some info else last
      | .deleted key => if key = callbackKey then none else last)
    none

theorem lastRegistered_registered (callbackKey : String) (history : List RegisterChange) (key : String)
    (info : CallbackInfo) :
    lastRegistered callbackKey (history ++ [.registered key info])
      = if key = callbackKey then some info else lastRegistered callbackKey history := by
  rw [lastRegistered, List.foldl_append]
  rfl

theorem lastRegistered_deleted (callbackKey : String) (history : List RegisterChange) (key : String) :
    lastRegistered callbackKey (history ++ [.deleted key])
      = if key = callbackKey then none else lastRegistered callbackKey history := by
  rw [lastRegistered, List.foldl_append]
  rfl

namespace RegisterStage

/-- The thread is about to lock the mutex. -/
def Locks : RegisterStage → Prop
  | .register _ _ | .del _ _ | .packet _ => True
  | _ => False

/-- The thread is in a scope that holds the lock. -/
def Holds : RegisterStage → Prop
  | .registerLocked _ _ | .del _ (some _) | .delLocked _ _ | .insert _ _ | .packetLocked _ => True
  | _ => False

/-- A bound on the steps that are left of the call. -/
def remaining : RegisterStage → Nat
  | .idle => 0
  | .insert _ _ | .packetLocked _ => 1
  | .delLocked _ _ | .packet _ => 2
  | .del _ _ => 3
  | .registerLocked _ _ => 4
  | .register _ _ => 5

end RegisterStage

namespace RegisterThreads

/-- The thread can take the next step of its call. -/
def CanRun (s : RegisterThreads) (thread : Nat) : Prop := ∃ s', s.step (.run thread) = some s'

/-- **How the threads should stand**: none of them is about to lock a mutex that it holds; each one that has
    something to do can go on, or waits for another one that can; and the map says what was registered last. -/
structure Orderly (s : RegisterThreads) : Prop where
  noSelfLock : ∀ t, s.mutexRegisterMap = some t → ¬ (s.stages t).Locks
  live : ∀ t, s.stages t ≠ .idle →
    s.CanRun t ∨ ∃ u, u ≠ t ∧ s.mutexRegisterMap = some u ∧ s.CanRun u
  map : ∀ callbackKey : String,
    s.channel.registerCallback[callbackKey]? = lastRegistered callbackKey s.history

/-- A push with a callback has a body. -/
def HasBody (s : RegisterThreads) (package : RpcPacket) : Prop :=
  convertMethodKey package.rpcMeta.serviceName package.rpcMeta.methodIndex ∈ s.channel.registerCallback →
    package.binary ≠ none

/-- The find of a `RegisterCallback` finds nothing; a push that gets the lock has a body if it needs one. -/
def MayRun (s : RegisterThreads) : RegisterStage → Prop
  | .registerLocked callbackKey _ => callbackKey ∉ s.channel.registerCallback
  | .packet package => s.HasBody package
  | _ => True

def RegisterStep (s : RegisterThreads) : Event → Prop
  | .run thread => s.MayRun (s.stages thread)
  | .call _ _ => True

/-! ## The invariant -/

/-- What is true at a stage, of the thread that holds the mutex. -/
def AtStage (s : RegisterThreads) : RegisterStage → Prop
  | .del _ caller | .delLocked _ caller => caller = none
  | .insert callbackKey _ => callbackKey ∉ s.channel.registerCallback
  | .packetLocked package => s.HasBody package
  | _ => True

structure Inv (s : RegisterThreads) : Prop where
  initSuccess : s.channel.initSuccess = true
  holder : ∀ t, s.mutexRegisterMap = some t ↔ (s.stages t).Holds
  atStage : ∀ t, s.AtStage (s.stages t)
  map : ∀ callbackKey : String,
    s.channel.registerCallback[callbackKey]? = lastRegistered callbackKey s.history

theorem inv_started (option : ChannelOption) : (started option).Inv where
  initSuccess := rfl
  holder _ := ⟨nofun, nofun⟩
  atStage _ := trivial
  map _ := ExtTreeMap.getElem?_empty

theorem atStage_of_eq {s s' : RegisterThreads}
    (h : s'.channel.registerCallback = s.channel.registerCallback) (stage : RegisterStage) :
    s'.AtStage stage ↔ s.AtStage stage := by
  cases stage with
  | insert callbackKey info => rw [AtStage, AtStage, h]
  | packetLocked package => rw [AtStage, AtStage, HasBody, HasBody, h]
  | _ => exact Iff.rfl

/-- Only the thread behind the lock relies on the map. -/
theorem atStage_of_not_holds {s s' : RegisterThreads} {stage : RegisterStage} (hnot : ¬ stage.Holds)
    (h : s.AtStage stage) : s'.AtStage stage := by
  cases stage with
  | insert callbackKey info => exact absurd trivial hnot
  | packetLocked package => exact absurd trivial hnot
  | _ => exact h

/-- One thread moves to another stage; if it changes the map, it holds the lock. -/
theorem Inv.move {s s' : RegisterThreads} (h : s.Inv) {t : Nat} {stage : RegisterStage}
    (hstages : s'.stages = Function.update s.stages t stage)
    (hinit : s'.channel.initSuccess = s.channel.initSuccess)
    (hholder : s'.mutexRegisterMap = some t ↔ stage.Holds)
    (hothers : ∀ u, u ≠ t → (s'.mutexRegisterMap = some u ↔ s.mutexRegisterMap = some u))
    (hat : s'.AtStage stage)
    (hmutex : s'.channel.registerCallback = s.channel.registerCallback ∨ s.mutexRegisterMap = some t)
    (hmap : ∀ callbackKey : String,
      s'.channel.registerCallback[callbackKey]? = lastRegistered callbackKey s'.history) : s'.Inv where
  initSuccess := hinit.trans h.initSuccess
  holder u := by
    rw [hstages]
    by_cases hu : u = t
    · subst hu
      rw [Function.update_self]
      exact hholder
    · rw [Function.update_of_ne hu, hothers u hu]
      exact h.holder u
  atStage u := by
    rw [hstages]
    by_cases hu : u = t
    · subst hu
      rw [Function.update_self]
      exact hat
    · rw [Function.update_of_ne hu]
      rcases hmutex with hsame | hheld
      · exact (atStage_of_eq hsame _).mpr (h.atStage u)
      · refine atStage_of_not_holds (fun hholds => hu ?_) (h.atStage u)
        exact Option.some.inj (((h.holder u).mpr hholds).symm.trans hheld)
  map := hmap

theorem lock_eq_some {s s' : RegisterThreads} {t : Nat} {stage : RegisterStage}
    (h : s.lock t stage = some s') : s.mutexRegisterMap = none ∧
      s' = { s with mutexRegisterMap := some t }.setStage t stage := by
  unfold lock at h
  split at h
  · next hfree => exact ⟨hfree, (Option.some.inj h).symm⟩
  · cases h

/-- A thread that gets the lock has it alone. -/
theorem Inv.lock {s s' : RegisterThreads} (h : s.Inv) {t : Nat} {stage : RegisterStage}
    (hlock : s.lock t stage = some s') (hholds : stage.Holds) (hat : s.AtStage stage) : s'.Inv := by
  obtain ⟨hfree, rfl⟩ := lock_eq_some hlock
  refine h.move rfl rfl (iff_of_true rfl hholds) (fun u hu => ?_) ((atStage_of_eq rfl _).mpr hat) (Or.inl rfl)
    h.map
  rw [hfree]
  exact iff_of_false (fun heq => hu (Option.some.inj heq).symm) nofun

/-- A thread that leaves the lock leaves it to anyone. -/
theorem Inv.unlock {s s' : RegisterThreads} (h : s.Inv) {t : Nat} (hheld : s.mutexRegisterMap = some t)
    (hstages : s'.stages = Function.update s.stages t .idle)
    (hinit : s'.channel.initSuccess = s.channel.initSuccess) (hfree : s'.mutexRegisterMap = none)
    (hmap : ∀ callbackKey : String,
      s'.channel.registerCallback[callbackKey]? = lastRegistered callbackKey s'.history) : s'.Inv := by
  refine h.move hstages hinit (by rw [hfree]; exact iff_of_false nofun id) (fun u hu => ?_) trivial
    (Or.inr hheld) hmap
  rw [hfree, hheld]
  exact iff_of_false nofun fun heq => hu (Option.some.inj heq).symm

theorem delCallback_map (c : Channel) (key callbackKey : String) :
    (c.delCallback key).1.registerCallback[callbackKey]?
      = if key = callbackKey then none else c.registerCallback[callbackKey]? := by
  unfold Channel.delCallback
  split
  · rw [ExtTreeMap.getElem?_erase]
    simp only [LawfulEqCmp.compare_eq_iff_eq]
  · next habsent =>
    split
    · next heq =>
      subst heq
      rw [← ExtTreeMap.isSome_getElem?_eq_contains, Option.isSome_iff_ne_none, not_not] at habsent
      exact habsent
    · rfl

theorem initSuccess_delCallback (c : Channel) (key : String) :
    (c.delCallback key).1.initSuccess = c.initSuccess := by
  unfold Channel.delCallback
  split
  · rfl
  · rfl

/-- **Every step that meets the condition keeps the invariant.** -/
theorem Inv.step {s s' : RegisterThreads} {e : Event} (h : s.Inv) (hok : RegisterStep s e)
    (hstep : s.step e = some s') : s'.Inv := by
  cases e with
  | call t call =>
    unfold RegisterThreads.step at hstep
    dsimp only at hstep
    split at hstep
    · next hidle =>
      obtain rfl := Option.some.inj hstep
      have hfree : s.mutexRegisterMap ≠ some t := by
        rw [Ne, h.holder, hidle]
        exact id
      have henter : ¬ (enter s.channel call).Holds ∧ s.AtStage (enter s.channel call) := by
        cases call with
        | registerCallback callbackKey info =>
          rw [enter, h.initSuccess]
          exact ⟨id, trivial⟩
        | delCallback callbackKey => exact ⟨id, rfl⟩
        | doRegisterPacket package => exact ⟨id, trivial⟩
      exact h.move rfl rfl (iff_of_false hfree henter.1) (fun _ _ => Iff.rfl)
        ((atStage_of_eq rfl _).mpr henter.2) (Or.inl rfl) h.map
    · cases hstep
  | run t =>
    have hat := h.atStage t
    have hheld := h.holder t
    have hok : s.MayRun (s.stages t) := hok
    have hstep : s.runStage t (s.stages t) = some s' := hstep
    cases hstage : s.stages t with
    | idle =>
      rw [hstage] at hstep
      cases hstep
    | register callbackKey info =>
      rw [hstage] at hstep
      exact h.lock hstep trivial trivial
    | registerLocked callbackKey info =>
      rw [hstage] at hstep hok
      rw [runStage, if_neg (fun hmem => hok (ExtTreeMap.contains_iff_mem.mp hmem))] at hstep
      obtain rfl := Option.some.inj hstep
      rw [hstage] at hheld
      exact h.move rfl rfl hheld (fun _ _ => Iff.rfl) hok (Or.inl rfl) h.map
    | del callbackKey caller =>
      rw [hstage] at hstep hat
      exact h.lock hstep trivial hat
    | delLocked callbackKey caller =>
      rw [hstage] at hstep hat hheld
      obtain rfl : caller = none := hat
      obtain rfl := Option.some.inj hstep
      refine h.unlock (hheld.mpr trivial) rfl (initSuccess_delCallback _ _) rfl fun key => ?_
      show (s.channel.delCallback callbackKey).1.registerCallback[key]?
        = lastRegistered key (s.history ++ [.deleted callbackKey])
      rw [delCallback_map, lastRegistered_deleted, h.map]
    | insert callbackKey info =>
      rw [hstage] at hstep hat hheld
      obtain rfl := Option.some.inj hstep
      refine h.unlock (hheld.mpr trivial) rfl rfl rfl fun key => ?_
      show (s.channel.registerCallback.insertIfNew callbackKey info)[key]?
        = lastRegistered key (s.history ++ [.registered callbackKey info])
      have hfree : s.channel.registerCallback[callbackKey]? = none :=
        ExtTreeMap.getElem?_eq_none hat
      rw [getElem?_insertIfNew_eq, lastRegistered_registered, ← h.map]
      by_cases hkey : callbackKey = key
      · rw [if_pos ⟨hkey, hkey ▸ hfree⟩, if_pos hkey]
      · rw [if_neg (fun hboth => hkey hboth.1), if_neg hkey]
    | packet package =>
      rw [hstage] at hstep hok
      exact h.lock hstep trivial hok
    | packetLocked package =>
      rw [hstage] at hstep hheld
      obtain ⟨channel, hpacket, rfl⟩ := Option.map_eq_some_iff.mp hstep
      have hsame : channel.registerCallback = s.channel.registerCallback ∧
          channel.initSuccess = s.channel.initSuccess := by
        rcases Channel.doRegisterPacket_cases hpacket with rfl | ⟨_, _, _, rfl⟩
        · exact ⟨rfl, rfl⟩
        · exact ⟨rfl, rfl⟩
      refine h.unlock (hheld.mpr trivial) rfl hsame.2 rfl fun key => ?_
      show channel.registerCallback[key]? = lastRegistered key s.history
      rw [hsame.1, h.map]

/-! ## What the invariant gives -/

theorem lock_of_free {s : RegisterThreads} (hfree : s.mutexRegisterMap = none) (t : Nat)
    (stage : RegisterStage) : ∃ s', s.lock t stage = some s' := ⟨_, if_pos hfree⟩

theorem lock_of_held {s : RegisterThreads} (hheld : s.mutexRegisterMap ≠ none) (t : Nat)
    (stage : RegisterStage) : s.lock t stage = none := if_neg hheld

/-- A push with a callback is built if it has a body. -/
theorem doRegisterPacket_isSome {s : RegisterThreads} {package : RpcPacket} (h : s.HasBody package) :
    ∃ channel, s.channel.doRegisterPacket package = some channel := by
  unfold Channel.doRegisterPacket
  split
  · exact ⟨_, rfl⟩
  · next info hinfo =>
    obtain ⟨binary, hbinary⟩ := Option.ne_none_iff_exists'.mp (h (ExtTreeMap.mem_iff_isSome_getElem?.mpr (by
      rw [hinfo]
      rfl)))
    rw [hbinary]
    exact ⟨_, rfl⟩

/-- **The thread behind the lock can always go on.** -/
theorem Inv.canRun_holder {s : RegisterThreads} (h : s.Inv) {t : Nat} (hheld : s.mutexRegisterMap = some t) :
    s.CanRun t := by
  have hholds := (h.holder t).mp hheld
  have hat := h.atStage t
  show ∃ s', s.runStage t (s.stages t) = some s'
  cases hstage : s.stages t with
  | registerLocked callbackKey info =>
    rw [runStage]
    split
    · exact ⟨_, rfl⟩
    · exact ⟨_, rfl⟩
  | del callbackKey caller =>
    rw [hstage] at hat hholds
    obtain rfl : caller = none := hat
    exact absurd hholds id
  | packetLocked package =>
    rw [hstage] at hat
    obtain ⟨channel, hpacket⟩ := doRegisterPacket_isSome hat
    rw [runStage, hpacket]
    exact ⟨_, rfl⟩
  | delLocked callbackKey caller => exact ⟨_, rfl⟩
  | insert callbackKey info => exact ⟨_, rfl⟩
  | _ =>
    rw [hstage] at hholds
    exact absurd hholds id

theorem Inv.orderly {s : RegisterThreads} (h : s.Inv) : s.Orderly where
  noSelfLock t hheld hlocks := by
    have hholds := (h.holder t).mp hheld
    have hat := h.atStage t
    cases hstage : s.stages t with
    | del callbackKey caller =>
      rw [hstage] at hholds hat
      obtain rfl : caller = none := hat
      exact hholds
    | register callbackKey info => rw [hstage] at hholds; exact hholds
    | packet package => rw [hstage] at hholds; exact hholds
    | _ => rw [hstage] at hlocks; exact hlocks
  live t hbusy := by
    cases hmutex : s.mutexRegisterMap with
    | some u =>
      by_cases hu : u = t
      · exact Or.inl (hu ▸ h.canRun_holder hmutex)
      · exact Or.inr ⟨u, hu, rfl, h.canRun_holder hmutex⟩
    | none =>
      -- nobody is behind the lock, so this thread is in front of it
      have hnot : ¬ (s.stages t).Holds := by
        rw [← h.holder, hmutex]
        nofun
      refine Or.inl (show ∃ s', s.runStage t (s.stages t) = some s' from ?_)
      cases hstage : s.stages t with
      | idle => exact absurd hstage hbusy
      | register callbackKey info => exact lock_of_free hmutex t _
      | del callbackKey caller => exact lock_of_free hmutex t _
      | packet package => exact lock_of_free hmutex t _
      | _ => rw [hstage] at hnot; exact absurd trivial hnot
  map := h.map

/-- **A step keeps the threads orderly exactly when it meets the condition.** -/
theorem orderly_step_iff {s s' : RegisterThreads} {e : Event} (h : s.Inv) (hstep : s.step e = some s') :
    s'.Orderly ↔ RegisterStep s e := by
  refine ⟨fun horderly => ?_, fun hok => (h.step hok hstep).orderly⟩
  cases e with
  | call t call => trivial
  | run t =>
    show s.MayRun (s.stages t)
    have hstep : s.runStage t (s.stages t) = some s' := hstep
    cases hstage : s.stages t with
    | registerLocked callbackKey info =>
      -- the thread would lock the mutex it holds
      intro hmem
      have hheld : s.mutexRegisterMap = some t := (h.holder t).mpr (by rw [hstage]; trivial)
      rw [hstage, runStage, if_pos (ExtTreeMap.contains_iff_mem.mpr hmem)] at hstep
      obtain rfl := Option.some.inj hstep
      refine horderly.noSelfLock t hheld ?_
      rw [show (s.setStage t (.del callbackKey (some info))).stages t = .del callbackKey (some info) from
        Function.update_self ..]
      trivial
    | packet package =>
      -- the thread would stay behind the lock
      intro hmem hnull
      rw [hstage] at hstep
      obtain ⟨_, rfl⟩ := lock_eq_some hstep
      have hstage' : ({ s with mutexRegisterMap := some t }.setStage t (.packetLocked package)).stages t
          = .packetLocked package := Function.update_self ..
      have hstuck : ¬ ({ s with mutexRegisterMap := some t }.setStage t (.packetLocked package)).CanRun t := by
        rintro ⟨s₁, hs₁⟩
        rw [step, hstage'] at hs₁
        obtain ⟨channel, hpacket, _⟩ := Option.map_eq_some_iff.mp hs₁
        obtain ⟨info, hinfo⟩ := Option.isSome_iff_exists.mp (ExtTreeMap.mem_iff_isSome_getElem?.mp hmem)
        have hnone : s.channel.doRegisterPacket package = none := by
          rw [Channel.doRegisterPacket, hinfo, hnull]
          rfl
        exact absurd (hnone.symm.trans hpacket) nofun
      rcases horderly.live t (by rw [hstage']; nofun) with hrun | ⟨u, hu, hheld, _⟩
      · exact hstuck hrun
      · exact hu (Option.some.inj hheld).symm
    | _ => trivial

/-- **Each step of a call is one less to go**, and is nothing to the other threads. -/
theorem run_remaining {s s' : RegisterThreads} {t : Nat} (hstep : s.step (.run t) = some s') :
    (s'.stages t).remaining < (s.stages t).remaining ∧ ∀ u, u ≠ t → s'.stages u = s.stages u := by
  have hmove : ∀ stage : RegisterStage, s'.stages = Function.update s.stages t stage →
      stage.remaining < (s.stages t).remaining →
      (s'.stages t).remaining < (s.stages t).remaining ∧ ∀ u, u ≠ t → s'.stages u = s.stages u := by
    intro stage hstages hless
    rw [hstages, Function.update_self]
    exact ⟨hless, fun u hu => Function.update_of_ne hu ..⟩
  have hstep : s.runStage t (s.stages t) = some s' := hstep
  cases hstage : s.stages t with
  | idle => rw [hstage] at hstep; cases hstep
  | register callbackKey info =>
    rw [hstage] at hstep hmove
    obtain ⟨_, rfl⟩ := lock_eq_some hstep
    exact hmove _ rfl (by simp [RegisterStage.remaining])
  | registerLocked callbackKey info =>
    rw [hstage] at hstep hmove
    rw [runStage] at hstep
    split at hstep
    · obtain rfl := Option.some.inj hstep
      exact hmove _ rfl (by simp [RegisterStage.remaining])
    · obtain rfl := Option.some.inj hstep
      exact hmove _ rfl (by simp [RegisterStage.remaining])
  | del callbackKey caller =>
    rw [hstage] at hstep hmove
    obtain ⟨_, rfl⟩ := lock_eq_some hstep
    exact hmove _ rfl (by simp [RegisterStage.remaining])
  | delLocked callbackKey caller =>
    rw [hstage] at hstep hmove
    obtain rfl := Option.some.inj hstep
    cases caller with
    | none => exact hmove _ rfl (by simp [RegisterStage.remaining])
    | some info => exact hmove _ rfl (by split <;> simp [RegisterStage.remaining])
  | insert callbackKey info =>
    rw [hstage] at hstep hmove
    obtain rfl := Option.some.inj hstep
    exact hmove _ rfl (by simp [RegisterStage.remaining])
  | packet package =>
    rw [hstage] at hstep hmove
    obtain ⟨_, rfl⟩ := lock_eq_some hstep
    exact hmove _ rfl (by simp [RegisterStage.remaining])
  | packetLocked package =>
    rw [hstage] at hstep hmove
    obtain ⟨channel, _, rfl⟩ := Option.map_eq_some_iff.mp hstep
    exact hmove _ rfl (by simp [RegisterStage.remaining])

/-- **A push is built from the last callback registered for its key**, or from none. -/
theorem Inv.push_last {s s' : RegisterThreads} (h : s.Inv) {t : Nat} {package : RpcPacket}
    (hstage : s.stages t = .packetLocked package) (hstep : s.step (.run t) = some s') :
    ∃ new : Option ChannelCallback,
      s'.channel.alreadyCallbackQueue = s.channel.alreadyCallbackQueue ++ new.toList ∧
      new.map ChannelCallback.callback
        = (lastRegistered (convertMethodKey package.rpcMeta.serviceName package.rpcMeta.methodIndex)
            s.history).map (fun info => some info.function) ∧
      ∀ callback ∈ new, callback.response = package.binary := by
  have hstep : s.runStage t (s.stages t) = some s' := hstep
  rw [hstage] at hstep
  obtain ⟨channel, hpacket, rfl⟩ := Option.map_eq_some_iff.mp hstep
  rw [← h.map]
  unfold Channel.doRegisterPacket at hpacket
  split at hpacket
  · next hnone =>
    obtain rfl := Option.some.inj hpacket
    rw [hnone]
    exact ⟨none, (List.append_nil _).symm, rfl, nofun⟩
  · next info hinfo =>
    obtain ⟨binary, hbinary, hpacket⟩ := Option.bind_eq_some_iff.mp hpacket
    obtain rfl := Option.some.inj hpacket
    rw [hinfo]
    refine ⟨some _, rfl, rfl, ?_⟩
    rintro _ ⟨⟩
    exact hbinary.symm

/-- **Re-registering is orderly in every run in which no key is registered twice at a time**: no thread locks
    what it holds, every call has fewer steps to go after each of its steps and can always take the next or
    waits for another thread that can, and the map and the pushes follow the last registration. The next step
    keeps it so exactly when it meets the condition. -/
theorem registerCallback_orderly {option : ChannelOption} {s : RegisterThreads}
    (hrun : Reaches step RegisterStep (started option) s) :
    s.Orderly ∧
    (∀ t s', s.step (.run t) = some s' → (s'.stages t).remaining < (s.stages t).remaining) ∧
    (∀ t package s', s.stages t = .packetLocked package → s.step (.run t) = some s' →
      ∃ new : Option ChannelCallback,
        s'.channel.alreadyCallbackQueue = s.channel.alreadyCallbackQueue ++ new.toList ∧
        new.map ChannelCallback.callback
          = (lastRegistered (convertMethodKey package.rpcMeta.serviceName package.rpcMeta.methodIndex)
              s.history).map (fun info => some info.function) ∧
        ∀ callback ∈ new, callback.response = package.binary) ∧
    ∀ e s', s.step e = some s' → (s'.Orderly ↔ RegisterStep s e) := by
  have hinv : s.Inv := hrun.invariant (inv_started option) fun _ _ _ hok h hstep => h.step hok hstep
  exact ⟨hinv.orderly, fun t s' hstep => (run_remaining hstep).1,
    fun t package s' hstage hstep => hinv.push_last hstage hstep, fun e s' hstep => orderly_step_iff hinv hstep⟩

/-! ## A key registered twice -/

/-- Who is about to lock the mutex waits while it is held. -/
theorem runStage_locks {s : RegisterThreads} (hheld : s.mutexRegisterMap ≠ none) (t : Nat)
    {stage : RegisterStage} (h : stage.Locks) : s.runStage t stage = none := by
  cases stage with
  | register callbackKey info => exact lock_of_held hheld t _
  | del callbackKey caller => exact lock_of_held hheld t _
  | packet package => exact lock_of_held hheld t _
  | _ => exact absurd h id

theorem locks_of_not_holds {stage : RegisterStage} (h : ¬ stage.Holds) (hbusy : stage ≠ .idle) :
    stage.Locks := by
  cases stage with
  | idle => exact absurd rfl hbusy
  | register callbackKey info => trivial
  | del callbackKey caller => trivial
  | packet package => trivial
  | _ => exact absurd trivial h

theorem not_holds_enter (c : Channel) (call : RegisterCall) : ¬ (enter c call).Holds := by
  cases call with
  | registerCallback callbackKey info =>
    rw [enter]
    split
    · exact id
    · exact id
  | delCallback callbackKey => exact id
  | doRegisterPacket package => exact id

/-- Thread `t` locks the mutex that it holds, and nobody else is behind it. -/
structure SelfLocked (s : RegisterThreads) (t : Nat) : Prop where
  held : s.mutexRegisterMap = some t
  locks : (s.stages t).Locks
  alone : ∀ u, u ≠ t → ¬ (s.stages u).Holds

/-- **A thread that locks its own mutex stays there for ever**, and no call of any other thread gets to the
    map again. -/
theorem selfLock_forever {s s' : RegisterThreads} {t : Nat} (h : s.SelfLocked t)
    (hrun : Reaches step anyStep s s') :
    s'.SelfLocked t ∧ s'.stages t = s.stages t ∧ s'.channel = s.channel := by
  apply hrun.invariant
  · exact ⟨h, rfl, rfl⟩
  rintro s₁ e s₂ - ⟨hlocked, hstage, hchannel⟩ hstep
  have hheld : s₁.mutexRegisterMap ≠ none := by rw [hlocked.held]; nofun
  cases e with
  | run u =>
    have hstep : s₁.runStage u (s₁.stages u) = some s₂ := hstep
    have hstuck : s₁.runStage u (s₁.stages u) = none := by
      by_cases hu : u = t
      · subst hu
        exact runStage_locks hheld u hlocked.locks
      · by_cases hidle : s₁.stages u = .idle
        · rw [hidle]
          rfl
        · exact runStage_locks hheld u (locks_of_not_holds (hlocked.alone u hu) hidle)
    rw [hstuck] at hstep
    cases hstep
  | call u call =>
    unfold step at hstep
    dsimp only at hstep
    split at hstep
    · next hidle =>
      obtain rfl := Option.some.inj hstep
      have hu : u ≠ t := by
        rintro rfl
        have hlocks := hlocked.locks
        rw [hidle] at hlocks
        exact hlocks
      have hself : (s₁.setStage u (enter s₁.channel call)).stages t = s₁.stages t :=
        Function.update_of_ne hu.symm ..
      refine ⟨⟨hlocked.held, ?_, fun v hv => ?_⟩, hself.trans hstage, hchannel⟩
      · rw [hself]
        exact hlocked.locks
      · show ¬ (Function.update s₁.stages u (enter s₁.channel call) v).Holds
        by_cases hvu : v = u
        · subst hvu
          rw [Function.update_self]
          exact not_holds_enter _ _
        · rw [Function.update_of_ne hvu]
          exact hlocked.alone v hv
    · cases hstep

/-- The other threads are where they were. -/
def Event.thread : Event → Nat
  | .call thread _ => thread
  | .run thread => thread

theorem stages_other {s s' : RegisterThreads} {e : Event} (hstep : s.step e = some s') {u : Nat}
    (hu : u ≠ e.thread) : s'.stages u = s.stages u := by
  cases e with
  | run t => exact (run_remaining hstep).2 u hu
  | call t call =>
    unfold step at hstep
    dsimp only at hstep
    split at hstep
    · obtain rfl := Option.some.inj hstep
      exact Function.update_of_ne hu ..
    · cases hstep

theorem exec_other {t : Nat} {es : List Event} (hes : ∀ e ∈ es, e.thread = t) {s s' : RegisterThreads}
    (hexec : exec step s es = some s') {u : Nat} (hu : u ≠ t) : s'.stages u = s.stages u := by
  induction es generalizing s with
  | nil =>
    obtain rfl := Option.some.inj hexec
    rfl
  | cons e es ih =>
    obtain ⟨s₁, hfirst, hrest⟩ := Option.bind_eq_some_iff.mp (by
      simpa only [exec, List.foldlM_cons, Option.bind_eq_bind] using hexec)
    rw [ih (fun e' he' => hes e' (List.mem_cons_of_mem e he')) hrest]
    exact stages_other hfirst (by rw [hes e List.mem_cons_self]; exact hu)

/-- A whole `RegisterCallback` of one thread. -/
def register (thread : Nat) (callbackKey : String) (info : CallbackInfo) : List Event :=
  [.call thread (.registerCallback callbackKey info), .run thread, .run thread, .run thread]

/-- **Alone, it comes to what `registerCallbackInfo` says**: the map with the new key, or no result where the
    key is there already. -/
theorem exec_register {s : RegisterThreads} {t : Nat} (hinit : s.channel.initSuccess = true)
    (hfree : s.mutexRegisterMap = none) (hidle : s.stages t = .idle) (callbackKey : String)
    (info : CallbackInfo) :
    (exec step s (register t callbackKey info)).map RegisterThreads.channel
      = s.channel.registerCallbackInfo callbackKey info := by
  by_cases hkey : callbackKey ∈ s.channel.registerCallback
  · simp [exec, register, step, runStage, lock, enter, setStage, Channel.registerCallbackInfo, hinit, hfree,
      hidle, hkey]
  · simp [exec, register, step, runStage, lock, enter, setStage, runInsert, unlock,
      Channel.registerCallbackInfo, hinit, hfree, hidle, hkey]

/-- **The second registration of a key locks the mutex a second time**: it never returns, no other thread
    gets to the map any more, and the first callback stays. -/
theorem registerCallback_deadlock :
    ∃ s, exec step (started ⟨0, 1000⟩) (register 0 "S.0" ⟨1⟩ ++
        [.call 0 (.registerCallback "S.0" ⟨2⟩), .run 0, .run 0]) = some s ∧ ¬ s.Orderly ∧
      ∀ s', Reaches step anyStep s s' → s'.stages 0 = .del "S.0" (some ⟨2⟩) ∧
        s'.channel.registerCallback["S.0"]? = some ⟨1⟩ := by
  have hrun : (exec step (started ⟨0, 1000⟩) (register 0 "S.0" ⟨1⟩ ++
      [.call 0 (.registerCallback "S.0" ⟨2⟩), .run 0, .run 0])).map (fun s =>
        (s.mutexRegisterMap, s.stages 0, s.channel.registerCallback["S.0"]?))
      = some (some 0, .del "S.0" (some ⟨2⟩), some ⟨1⟩) := by decide
  obtain ⟨s, hexec, hs⟩ := Option.map_eq_some_iff.mp hrun
  obtain ⟨hheld, hs⟩ := Prod.mk.inj hs
  obtain ⟨hstage, hmap⟩ := Prod.mk.inj hs
  have hlocked : s.SelfLocked 0 := by
    refine ⟨hheld, by rw [hstage]; trivial, fun u hu => ?_⟩
    rw [exec_other (by decide) hexec hu]
    exact id
  refine ⟨s, hexec, fun horderly => horderly.noSelfLock 0 hheld hlocked.locks, fun s' hreaches => ?_⟩
  obtain ⟨_, hstage', hchannel⟩ := selfLock_forever hlocked hreaches
  rw [hstage', hchannel]
  exact ⟨hstage, hmap⟩

instance (s : RegisterThreads) (package : RpcPacket) : Decidable (s.HasBody package) :=
  inferInstanceAs (Decidable (_ → _))

instance (s : RegisterThreads) (stage : RegisterStage) : Decidable (s.MayRun stage) :=
  match stage with
  | .registerLocked callbackKey _ => inferInstanceAs (Decidable (callbackKey ∉ s.channel.registerCallback))
  | .packet package => inferInstanceAs (Decidable (s.HasBody package))
  | .idle | .register _ _ | .del _ _ | .delLocked _ _ | .insert _ _ | .packetLocked _ => isTrue trivial

instance (s : RegisterThreads) (e : Event) : Decidable (RegisterStep s e) :=
  match e with
  | .run thread => inferInstanceAs (Decidable (s.MayRun (s.stages thread)))
  | .call _ _ => isTrue trivial

/-- One thread registers a callback, another deletes it, and it is registered again for the push that a third
    thread handles. -/
def replaceCallback : List Event :=
  register 0 "S.0" ⟨1⟩ ++ [.call 1 (.delCallback "S.0"), .run 1, .run 1] ++ register 0 "S.0" ⟨2⟩ ++
    [.call 2 (.doRegisterPacket ⟨0, .method, ⟨"S", 0, none, none, 0⟩, some [7]⟩), .run 2]

theorem registerCallback_orderly_replace :
    ∃ s, exec step (started ⟨0, 1000⟩) replaceCallback = some s ∧ s.Orderly ∧
      lastRegistered "S.0" s.history = some ⟨2⟩ := by
  have hrun : (exec (guarded step RegisterStep) (started ⟨0, 1000⟩) replaceCallback).map (fun s =>
      lastRegistered "S.0" s.history) = some (some ⟨2⟩) := by decide
  obtain ⟨s, hguarded, hlast⟩ := Option.map_eq_some_iff.mp hrun
  obtain ⟨hexec, hreaches⟩ := reaches_guarded hguarded
  exact ⟨s, hexec, (registerCallback_orderly hreaches).1, hlast⟩

end RegisterThreads

end Frrpc
