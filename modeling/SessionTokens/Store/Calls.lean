import SessionTokens.Store.Memory
import SessionTokens.World

/-! # Store calls

The calls of the session store as operations on a world. A call that is out of order at present
fails before it reaches the store. Enumerating all keys and running a script whatever the store has
forgotten are built from the single calls.
-/

namespace SessionTokens.Store

variable {α : Type}

/-- A call of the store, unless it is out of order. -/
def call (c : StoreCall) (f : MemoryStore → Nat → MemoryStore.Reply α) : Action ServiceError α :=
  fun w =>
    match w.outages c with
    | some how => (.error (.storeFailed c how), w)
    | none =>
      let r := f w.store w.clock
      (r.1, { w with store := r.2 })

/-- The value of a key. -/
def get (key : String) : Action ServiceError (Option String) :=
  call .get fun s now => s.get now key

/-- Sets the value of a key for a lifetime in milliseconds. -/
def set (key value : String) (ttl : Nat) : Action ServiceError Unit :=
  call .set fun s now => s.set now key value ttl

/-- Sets the value of a key that has none. -/
def setIfAbsent (key value : String) (ttl : Nat) : Action ServiceError Bool :=
  call .setIfAbsent fun s now => s.setIfAbsent now key value ttl

/-- Removes keys, and gives how many of them were there. -/
def delete (keys : List String) : Action ServiceError Nat :=
  call .delete fun s now => s.delete now keys

/-- The key has a value. -/
def contains (key : String) : Action ServiceError Bool :=
  call .exists fun s now => s.contains now key

/-- Gives a key that has a value a new lifetime. -/
def expire (key : String) (ttl : Nat) : Action ServiceError Bool :=
  call .expire fun s now => s.expire now key ttl

/-- How long a key's value stays, in milliseconds. -/
def ttlRemaining (key : String) : Action ServiceError (Option Nat) :=
  call .ttl fun s now => s.ttlRemaining now key

/-- One page of the keys that match a pattern. -/
def scanPage (pattern : String) (cursor : UInt64) (count : Nat) : Action ServiceError ScanPage :=
  call .scanPage fun s now => s.scanPage now pattern cursor count

/-- Registers the rotation script. -/
def loadScript : Action ServiceError Unit :=
  call .loadScript fun s _ => (.ok (), s.loadScript)

/-- Runs the rotation script. -/
def evalScript (keys args : List String) : Action ServiceError String := fun w =>
  match w.outages .evalScript, w.forcedReply with
  | none, some reply => (.ok reply, w)
  | _, _ => call .evalScript (fun s now => s.evalScript now keys args) w

/-- The store answers. -/
def health : Action ServiceError Bool := call .health fun s _ => (.ok true, s)

/-- What an enumeration has still to look at, from a cursor on. -/
def left (w : World) (cursor : UInt64) : Keyspace := w.store.left w.clock cursor

/-- A page that does not end the enumeration leaves less to look at. -/
theorem left_scanPage {pattern : String} {cursor : UInt64} {count : Nat} {page : ScanPage}
    {w w' : World} (h : scanPage pattern cursor count w = (.ok page, w'))
    (hmore : page.cursor ≠ 0) :
    (left w' page.cursor).entries.length < (left w cursor).entries.length := by
  cases hout : w.outages .scanPage with
  | some how => simp [scanPage, call, hout] at h
  | none =>
    simp only [scanPage, call, hout, Prod.mk.injEq] at h
    obtain ⟨hpage, rfl⟩ := h
    exact MemoryStore.left_scanPage (Prod.ext hpage rfl) hmore

/-- The keys found on the pages from a cursor on. -/
def scanFrom (pattern : String) (count : Nat) (cursor : UInt64) :
    Action ServiceError (List String) := fun w =>
  match _page : scanPage pattern cursor count w with
  | (.ok page, w') =>
    if _more : page.cursor = 0 then (.ok page.keys, w')
    else
      let rest := scanFrom pattern count page.cursor w'
      (rest.1.bind fun keys => .ok (page.keys ++ keys), rest.2)
  | (.error e, w') => (.error e, w')
  | (.outOfRange, w') => (.outOfRange, w')
termination_by w => (left w cursor).entries.length
decreasing_by exact left_scanPage _page _more

/-- All keys that match a pattern, in their order and each of them once. -/
def scan (pattern : String) (count : Nat) : Action ServiceError (List String) := do
  let found ← scanFrom pattern count 0
  return found.mergeSort.eraseReps

/-- Runs the rotation script; a store that has forgotten it is told once more. -/
def runScript (keys args : List String) : Action ServiceError String := do
  match ← (evalScript keys args).attempt with
  | .ok reply => return reply
  | .error e =>
    if e.kind = .scriptNotFound then
      loadScript
      evalScript keys args
    else Action.fail e

end SessionTokens.Store
