import Mathlib.Logic.Function.Basic
import Frrpc.Lib.Machine
import Frrpc.Rpc.Channel

/-!
# `Rpc.Register` — the callbacks for pushes (`RegisterCallback`, `DelCallback`, `DoRegisterPacket`)

Any number of threads register and delete callbacks and handle pushes. A step of a thread locks
`mutex_register_map_`, or does what stands between two calls under the lock. The mutex is not recursive: a
thread waits until nobody holds it, itself included. `history` records the changes of the map.
-/

namespace Frrpc

open Lib Std

/-- The body of `DelCallback`, under its lock. -/
def Channel.delCallback (c : Channel) (callbackKey : String) : Channel × Bool :=
  if c.registerCallback.contains callbackKey then
    ({ c with registerCallback := c.registerCallback.erase callbackKey }, true)
  else (c, false)

inductive RegisterCall where
  | registerCallback (callbackKey : String) (info : CallbackInfo)
  | delCallback (callbackKey : String)
  | doRegisterPacket (package : RpcPacket)
deriving DecidableEq, Repr

/-- How far a thread's call has come; `…Locked` is behind the lock. The `caller` of a `DelCallback` is the
    `RegisterCallback` that goes on with its info afterwards, if there is one. -/
inductive RegisterStage where
  | idle
  | register (callbackKey : String) (info : CallbackInfo)
  | registerLocked (callbackKey : String) (info : CallbackInfo)
  | del (callbackKey : String) (caller : Option CallbackInfo)
  | delLocked (callbackKey : String) (caller : Option CallbackInfo)
  | insert (callbackKey : String) (info : CallbackInfo)
  | packet (package : RpcPacket)
  | packetLocked (package : RpcPacket)
deriving DecidableEq, Repr

/-- A change of the map. -/
inductive RegisterChange where
  | registered (callbackKey : String) (info : CallbackInfo)
  | deleted (callbackKey : String)
deriving DecidableEq, Repr

/-- A channel with its threads and the thread that holds the mutex. -/
structure RegisterThreads where
  channel : Channel
  mutexRegisterMap : Option Nat
  stages : Nat → RegisterStage
  history : List RegisterChange

namespace RegisterThreads

def started (option : ChannelOption) : RegisterThreads := ⟨.started option, none, fun _ => .idle, []⟩

inductive Event where
  /-- A thread that does nothing else makes a call. -/
  | call (thread : Nat) (call : RegisterCall)
  /-- The next step of a thread's call. -/
  | run (thread : Nat)

def setStage (s : RegisterThreads) (thread : Nat) (stage : RegisterStage) : RegisterThreads :=
  { s with stages := Function.update s.stages thread stage }

def lock (s : RegisterThreads) (thread : Nat) (stage : RegisterStage) : Option RegisterThreads :=
  if s.mutexRegisterMap = none then some ({ s with mutexRegisterMap := some thread }.setStage thread stage)
  else none

/-- The end of a scope that holds the lock. -/
def unlock (s : RegisterThreads) (thread : Nat) (stage : RegisterStage) : RegisterThreads :=
  { s with mutexRegisterMap := none }.setStage thread stage

/-- What a call does before it locks the mutex. -/
def enter (c : Channel) : RegisterCall → RegisterStage
  | .registerCallback callbackKey info => if c.initSuccess then .register callbackKey info else .idle
  | .delCallback callbackKey => .del callbackKey none
  | .doRegisterPacket package => .packet package

/-- The find and the erase of `DelCallback`, and where its caller goes on. -/
def runDel (s : RegisterThreads) (thread : Nat) (callbackKey : String) (caller : Option CallbackInfo) :
    RegisterThreads :=
  let (channel, ret) := s.channel.delCallback callbackKey
  let s := { s with channel, history := s.history ++ [RegisterChange.deleted callbackKey] }
  match caller with
  | none => s.unlock thread .idle
  | some info => s.unlock thread (if ret then .insert callbackKey info else .idle)

def runInsert (s : RegisterThreads) (thread : Nat) (callbackKey : String) (info : CallbackInfo) :
    RegisterThreads :=
  let channel :=
    { s.channel with registerCallback := s.channel.registerCallback.insertIfNew callbackKey info }
  { s with channel, history := s.history ++ [RegisterChange.registered callbackKey info] }.unlock thread .idle

/-- The next step of a thread at a stage. -/
def runStage (s : RegisterThreads) (thread : Nat) : RegisterStage → Option RegisterThreads
  | .idle => none
  | .register callbackKey info => s.lock thread (.registerLocked callbackKey info)
  | .registerLocked callbackKey info =>
    -- a key that is there is deleted first, and `DelCallback` locks the same mutex
    if s.channel.registerCallback.contains callbackKey then
      some (s.setStage thread (.del callbackKey (some info)))
    else some (s.setStage thread (.insert callbackKey info))
  | .del callbackKey caller => s.lock thread (.delLocked callbackKey caller)
  | .delLocked callbackKey caller => some (s.runDel thread callbackKey caller)
  | .insert callbackKey info => some (s.runInsert thread callbackKey info)
  | .packet package => s.lock thread (.packetLocked package)
  | .packetLocked package =>
    (s.channel.doRegisterPacket package).map fun channel => { s with channel }.unlock thread .idle

def step (s : RegisterThreads) : Event → Option RegisterThreads
  | .call thread call =>
    if s.stages thread = .idle then some (s.setStage thread (enter s.channel call)) else none
  | .run thread => s.runStage thread (s.stages thread)

end RegisterThreads

end Frrpc
