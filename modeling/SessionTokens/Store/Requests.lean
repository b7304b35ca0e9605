import SessionTokens.Store.Calls
import SessionTokens.Store.Enumeration

/-! # Requests to a store

The calls of a session store as data, so that a run of them can be spoken of: each with what it
gives, one after another, with time passing in between. Running the rotation script whatever the
store has forgotten is a request of its own, since it is made of several calls.
-/

namespace SessionTokens

/-- What a call of a store gives. -/
inductive Answer where
  | done
  | value (value : Option String)
  | flag (flag : Bool)
  | count (n : Nat)
  | remaining (ms : Option Nat)
  | keys (keys : List String)
  | page (page : ScanPage)
  | reply (text : String)
deriving DecidableEq, Repr

/-- What a call of a store came to. -/
abbrev Answered := Outcome ServiceError Answer

/-- An operation, with what it gives as an answer. -/
def Action.answering {α : Type} (m : Action ServiceError α) (f : α → Answer) :
    Action ServiceError Answer := fun w =>
  let r := m w
  (r.1.bind fun a => .ok (f a), r.2)

namespace StoreStep

/-- A step, with what it gives. The list of all keys and the forgetting of scripts are not calls
that can be out of order. -/
def perform : StoreStep → Action ServiceError Answer
  | .get key => (Store.get key).answering .value
  | .set key value ttl => (Store.set key value ttl).answering fun _ => .done
  | .setIfAbsent key value ttl => (Store.setIfAbsent key value ttl).answering .flag
  | .delete keys => (Store.delete keys).answering .count
  | .contains key => (Store.contains key).answering .flag
  | .expire key ttl => (Store.expire key ttl).answering .flag
  | .ttlRemaining key => (Store.ttlRemaining key).answering .remaining
  | .allKeys => fun w =>
    let r := w.store.keys w.clock
    (.ok (.keys r.1), { w with store := r.2 })
  | .scanPage pattern cursor count => (Store.scanPage pattern cursor count).answering .page
  | .loadScript => Store.loadScript.answering fun _ => .done
  | .flushScripts => fun w => (.ok .done, { w with store := w.store.flushScripts })
  | .evalScript keys args => (Store.evalScript keys args).answering .reply
  | .advance ms => fun w => (.ok .done, w.advance ms)

end StoreStep

/-- What is asked of a store. -/
inductive StoreRequest where
  | step (s : StoreStep)
  /-- To run the rotation script, and to register it first if it has been forgotten. -/
  | runScript (keys args : List String)

/-- A request, with what it gives. -/
def StoreRequest.perform : StoreRequest → Action ServiceError Answer
  | .step s => s.perform
  | .runScript keys args => (Store.runScript keys args).answering .reply

namespace World

/-- The answers to requests, one after another. -/
def answers (w : World) : List StoreRequest → List Answered
  | [] => []
  | r :: rs => (r.perform w).1 :: (r.perform w).2.answers rs

/-- The world after requests. -/
def afterRequests (w : World) (rs : List StoreRequest) : World :=
  rs.foldl (fun w r => (r.perform w).2) w

end World

end SessionTokens
