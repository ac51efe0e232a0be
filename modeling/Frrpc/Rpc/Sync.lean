import Mathlib.Logic.Function.Basic
import Frrpc.Rpc.Machine

/-!
# `Rpc.Sync` — synchronous calls (the end of `Channel::CallMethod`, `ChannelCallback::Call`)

Behind its `push_back`, `CallMethod` tests `callback->sync_condition`, locks the mutex and waits on it,
without a predicate. A work thread calls the callback, which notifies the condition variable, and then
deletes it. A condition variable forgets a notification that nobody waits for, and may wake its waiter for
no reason. The rest of the channel's threads is `ChannelThreads`, with any other calls and packets.
-/

namespace Frrpc

open Lib

/-- How far a caller has come once its event is pushed. A woken caller locks the mutex again to return. -/
inductive WaitStage where
  | testing | locking | waiting | woken | returned
deriving DecidableEq, Repr

/-- The threads of a channel, with the waits of the invocations, the callback that each work thread has
    called and not deleted yet, and the callbacks that are deleted, or were dropped by a cancel. -/
structure SyncThreads where
  threads : ChannelThreads
  waits : Nat → WaitStage
  calling : Nat → Option Nat
  deleted : List Nat
  cancelled : List Nat

namespace SyncThreads

def started (option : ChannelOption) (workThreadNum : Nat) : SyncThreads :=
  ⟨.started option workThreadNum, fun _ => .testing, fun _ => none, [], []⟩

inductive Event where
  /-- A step of the channel's threads; a call of a callback notifies. -/
  | threads (e : ChannelThreads.Event)
  /-- A work thread deletes the callback it has called. -/
  | delete (thread : Nat)
  | test (index : Nat)
  | wait (index : Nat)
  /-- A spurious wake-up. -/
  | wake (index : Nat)
  | leave (index : Nat)

/-- The callback of an invocation that has pushed its event. -/
def awaited (s : SyncThreads) (index : Nat) : Option Nat :=
  match s.threads.invocations[index]? with
  | some ⟨_, _, .scheduled ptr _⟩ => some ptr
  | _ => none

def setWait (s : SyncThreads) (index : Nat) (stage : WaitStage) : SyncThreads :=
  { s with waits := Function.update s.waits index stage }

/-- `notify_one` on the condition variable of a callback: the one invocation that may wait on it is woken,
    if it does. -/
def notifyOne (s : SyncThreads) (ptr : Nat) : SyncThreads :=
  { s with waits := fun index =>
      if s.awaited index = some ptr ∧ s.waits index = .waiting then .woken else s.waits index }

/-- `callback->Call()`; the closure of an asynchronous call runs elsewhere. -/
def call (s : SyncThreads) (thread : Nat) : Option SyncThreads :=
  match s.calling thread, s.threads.batches[thread]? with
  | none, some (callback :: _) =>
    (s.threads.call thread).map fun threads =>
      let s := if callback.cntl.isSync then s.notifyOne callback.ptr else s
      { s with threads, calling := Function.update s.calling thread (some callback.ptr) }
  | _, _ => none

def delete (s : SyncThreads) (thread : Nat) : Option SyncThreads :=
  match s.calling thread with
  | some ptr => some { s with
      calling := Function.update s.calling thread none
      deleted := ptr :: s.deleted }
  | none => none

/-- Reading through the pointer of a deleted callback is undefined. -/
def test (s : SyncThreads) (index : Nat) : Option SyncThreads :=
  match s.threads.invocations[index]?, s.waits index with
  | some ⟨method, _, .scheduled ptr _⟩, .testing =>
    if ptr ∈ s.deleted then none
    else some (s.setWait index (if method.isSync = some true then .locking else .returned))
  | _, _ => none

def wait (s : SyncThreads) (index : Nat) : Option SyncThreads :=
  match s.awaited index, s.waits index with
  | some ptr, .locking => if ptr ∈ s.deleted then none else some (s.setWait index .waiting)
  | _, _ => none

def wake (s : SyncThreads) (index : Nat) : Option SyncThreads :=
  if s.waits index = .waiting then some (s.setWait index .woken) else none

def leave (s : SyncThreads) (index : Nat) : Option SyncThreads :=
  if s.waits index = .woken then some (s.setWait index .returned) else none

variable [Protobuf] [FrNet]

def step (s : SyncThreads) : Event → Option SyncThreads
  | .threads (.call thread) => s.call thread
  | .threads (.pop thread dealMsgNumOnce) =>
    -- the work thread has deleted the last callback of its batch
    if s.calling thread = none then
      (ChannelThreads.step s.threads (.pop thread dealMsgNumOnce)).map fun threads => { s with threads }
    else none
  | .threads (.cancel requestId) =>
    (ChannelThreads.step s.threads (.cancel requestId)).map fun threads =>
      { s with threads, cancelled := s.threads.channel.droppedBy requestId ++ s.cancelled }
  | .threads e => (ChannelThreads.step s.threads e).map fun threads => { s with threads }
  | .delete thread => s.delete thread
  | .test index => s.test index
  | .wait index => s.wait index
  | .wake index => s.wake index
  | .leave index => s.leave index

end SyncThreads

end Frrpc
