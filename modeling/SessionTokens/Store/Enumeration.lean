import SessionTokens.Store.Memory

/-! # Enumerations among other calls

An enumeration asks for one page after another, each with the cursor that the page before ended
with, until a page ends with zero. A store serves others in the meantime: between two pages any
calls may come, and time may pass. A turn is a page of the enumeration that is followed, or one of
those other steps, and what is recorded of a run of turns is what its pages were served from and
who was given which cursors.
-/

namespace SessionTokens

/-- The cursor to go on with after a page, if there is one. -/
def ScanPage.next? : Outcome ServiceError ScanPage → Option UInt64
  | .ok page => if page.cursor = 0 then none else some page.cursor
  | _ => none

/-- A call of a memory store, or time passing. -/
inductive StoreStep where
  | get (key : String)
  | set (key value : String) (ttl : Nat)
  | setIfAbsent (key value : String) (ttl : Nat)
  | delete (keys : List String)
  | contains (key : String)
  | expire (key : String) (ttl : Nat)
  | ttlRemaining (key : String)
  | allKeys
  | scanPage (pattern : String) (cursor : UInt64) (count : Nat)
  | loadScript
  | flushScripts
  | evalScript (keys args : List String)
  | advance (ms : Nat)

namespace StoreStep

/-- The store after a step that comes at a time. -/
def store (s : MemoryStore) (now : Nat) : StoreStep → MemoryStore
  | .get key => (s.get now key).2
  | .set key value ttl => (s.set now key value ttl).2
  | .setIfAbsent key value ttl => (s.setIfAbsent now key value ttl).2
  | .delete keys => (s.delete now keys).2
  | .contains key => (s.contains now key).2
  | .expire key ttl => (s.expire now key ttl).2
  | .ttlRemaining key => (s.ttlRemaining now key).2
  | .allKeys => (s.keys now).2
  | .scanPage pattern cursor count => (s.scanPage now pattern cursor count).2
  | .loadScript => s.loadScript
  | .flushScripts => s.flushScripts
  | .evalScript keys args => (s.evalScript now keys args).2
  | .advance _ => s

/-- The time after a step. -/
def time (now : Nat) : StoreStep → Nat
  | .advance ms => now + ms
  | _ => now

/-- The cursor that whoever takes the step is given to go on with. -/
def given? (s : MemoryStore) (now : Nat) : StoreStep → Option UInt64
  | .scanPage pattern cursor count => ScanPage.next? (s.scanPage now pattern cursor count).1
  | _ => none

/-- The cursor that a step goes on with. -/
def presented? : StoreStep → Option UInt64
  | .scanPage _ cursor _ => some cursor
  | _ => none

end StoreStep

/-- A page that was asked for: the store and the time that it was asked at, and the reply. -/
structure Served where
  store : MemoryStore
  now : Nat
  reply : Outcome ServiceError ScanPage

/-- The entries that were there when the page was asked for. -/
def Served.live (v : Served) : Keyspace := v.store.live v.now

/-- The keys on the page. -/
def Served.keys (v : Served) : List String :=
  match v.reply with
  | .ok page => page.keys
  | _ => []

/-- An enumeration, with the store that it goes over. -/
structure Enumeration where
  store : MemoryStore
  now : Nat
  /-- The cursor to go on with, which is zero at first, unless the enumeration is over. -/
  cursor : Option UInt64
  /-- The pages so far, in their order. -/
  served : List Served
  /-- The cursors that its pages ended with. -/
  mine : List UInt64
  /-- The cursors that others have been given meanwhile. -/
  others : List UInt64

/-- A page of the enumeration, of any size, or a step of somebody else's. -/
inductive Turn where
  | page (count : Nat)
  | other (step : StoreStep)

namespace Enumeration

/-- An enumeration that has not begun. -/
def start (s : MemoryStore) (now : Nat) : Enumeration := ⟨s, now, some 0, [], [], []⟩

/-- The keys found so far. -/
def keys (e : Enumeration) : List String := e.served.flatMap Served.keys

/-- How many cursors have been handed out. -/
def handedOut (e : Enumeration) : Nat := e.mine.length + e.others.length

/-- The page for a cursor. -/
def serve (e : Enumeration) (pattern : String) (cursor : UInt64) (count : Nat) : Enumeration :=
  let r := e.store.scanPage e.now pattern cursor count
  { e with
    store := r.2
    cursor := ScanPage.next? r.1
    served := e.served ++ [⟨e.store, e.now, r.1⟩]
    mine := e.mine ++ (ScanPage.next? r.1).toList }

/-- A step that somebody else takes. -/
def pass (e : Enumeration) (step : StoreStep) : Enumeration :=
  { e with
    store := step.store e.store e.now
    now := step.time e.now
    others := e.others ++ (step.given? e.store e.now).toList }

/-- One turn. An enumeration that is over asks for nothing. -/
def take (pattern : String) (e : Enumeration) : Turn → Enumeration
  | .page count =>
    match e.cursor with
    | some cursor => e.serve pattern cursor count
    | none => e
  | .other step => e.pass step

/-- One turn after another. -/
def run (pattern : String) (e : Enumeration) (turns : List Turn) : Enumeration :=
  turns.foldl (take pattern) e

/-- Nobody else goes on with the cursor that the enumeration is to go on with. Zero is nobody's. -/
def Leaves (e : Enumeration) : Turn → Prop
  | .page _ => True
  | .other step => ∀ c ≠ 0, e.cursor = some c → step.presented? ≠ some c

/-- Nobody else uses the enumeration's cursor, at any turn. -/
def Undisturbed (pattern : String) : Enumeration → List Turn → Prop
  | _, [] => True
  | e, t :: ts => e.Leaves t ∧ Undisturbed pattern (e.take pattern t) ts

end Enumeration

end SessionTokens
