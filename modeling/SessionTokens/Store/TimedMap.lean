import SessionTokens.Store.Requests

/-! # Timed maps

What a session store is, said without saying how it is kept: a map from keys to values with
deadlines, a script that is registered or not, and cursors that stand for keys. An entry is present
as long as the clock is before its deadline. Nothing happens to an entry when its time is over; it
stays in the map, and no answer depends on it.
-/

namespace SessionTokens

/-- A map of values with deadlines, with the clock that they are held against. -/
structure TimedMap where
  entries : Keyspace
  now : Nat
  scriptLoaded : Bool
  /-- The key that an open cursor stands for. -/
  cursors : UInt64 → Option String
  /-- The cursor handed out last. -/
  lastCursor : UInt64

namespace TimedMap

/-- A map without entries, scripts and cursors. -/
def empty (now : Nat) : TimedMap := ⟨.empty, now, false, fun _ => none, 0⟩

/-- An answer and the map after it. -/
abbrev Reply := Answered × TimedMap

variable (t : TimedMap)

/-- The entry of a key, if the clock is before its deadline. -/
def present? (key : String) : Option Entry :=
  (t.entries.get? key).filter fun e => t.now < e.deadline

/-- The keys whose entries are present, in their order. -/
def presentKeys : List String := t.entries.keys.filter fun key => (t.present? key).isSome

/-- Sets a value for the given lifetime, if the clock has a number for its end. -/
def write (key value : String) (ttl : Nat) (answer : Answer) : Reply :=
  match MemoryStore.deadline? t.now ttl with
  | some deadline => (.ok answer, { t with entries := t.entries.insert key ⟨value, deadline⟩ })
  | none => (.outOfRange, t)

/-! ## Enumeration -/

/-- The keys that an enumeration has still to look at: all, or those behind the key of a cursor. -/
def left? (cursor : UInt64) : Option (List String) :=
  if cursor = 0 then some t.presentKeys
  else (t.cursors cursor).map fun last => t.presentKeys.filter fun key => last < key

/-- The cursor that is handed out next; zero is none. -/
def nextCursor : UInt64 := if t.lastCursor + 1 = 0 then 1 else t.lastCursor + 1

/-- The table of cursors with one more, or one less. -/
def setCursor (cursor : UInt64) (key : Option String) : UInt64 → Option String := fun c =>
  if c = cursor then key else t.cursors c

/-- One page: the first keys of those that are left, at least one, and a cursor if there are more.
The cursor that the page is for is used up. -/
def scanPage (pattern : String) (cursor : UInt64) (count : Nat) : Reply :=
  match t.left? cursor with
  | none => (.error (.unknownCursor cursor), t)
  | some left =>
    let looked := left.take (max count 1)
    let found := looked.filter (Glob.isMatch pattern)
    let t := { t with cursors := t.setCursor cursor none }
    match looked.getLast?, left.drop (max count 1) with
    | some last, _ :: _ =>
      (.ok (.page ⟨t.nextCursor, found⟩),
        { t with lastCursor := t.nextCursor, cursors := t.setCursor t.nextCursor (some last) })
    | _, _ => (.ok (.page ⟨0, found⟩), t)

/-! ## The rotation script -/

/-- Moves a refresh token's key to its fence: the one goes and the other comes, or neither. -/
def rotate (refreshKey usedKey expected : String) (seconds : Nat) : Reply :=
  if (t.present? usedKey).isSome then (.ok (.reply MemoryStore.reused), t)
  else if (t.present? refreshKey).map Entry.value = some expected then
    match MemoryStore.deadline? t.now (seconds * 1000) with
    | some deadline =>
      (.ok (.reply MemoryStore.rotated),
        { t with entries := (t.entries.insert usedKey ⟨"used", deadline⟩).erase refreshKey })
    | none => (.outOfRange, t)
  else (.ok (.reply MemoryStore.invalid), t)

/-- Runs the rotation script, if it is registered, on what it is given. -/
def evalScript (keys args : List String) : Reply :=
  if t.scriptLoaded then
    match keys with
    | [refreshKey, usedKey] =>
      match args with
      | [expected, fence] =>
        match Decimal.word? fence with
        | some seconds => t.rotate refreshKey usedKey expected seconds
        | none => (.error (.scriptFenceTtl fence), t)
      | _ => (.error .scriptArgumentCount, t)
    | _ => (.error .scriptKeyCount, t)
  else (.error .scriptNotRegistered, t)

/-! ## Requests -/

/-- What a step gives, and the map after it. -/
def step : StoreStep → Reply
  | .get key => (.ok (.value ((t.present? key).map Entry.value)), t)
  | .set key value ttl => t.write key value ttl .done
  | .setIfAbsent key value ttl =>
    if (t.present? key).isSome then (.ok (.flag false), t) else t.write key value ttl (.flag true)
  | .delete keys =>
    (.ok (.count (t.presentKeys.countP keys.contains)),
      { t with entries := t.entries.filter fun p => !keys.contains p.1 })
  | .contains key => (.ok (.flag (t.present? key).isSome), t)
  | .expire key ttl =>
    match t.present? key with
    | some e => t.write key e.value ttl (.flag true)
    | none => (.ok (.flag false), t)
  | .ttlRemaining key =>
    (.ok (.remaining ((t.present? key).map fun e => e.deadline - t.now)), t)
  | .allKeys => (.ok (.keys t.presentKeys), t)
  | .scanPage pattern cursor count => t.scanPage pattern cursor count
  | .loadScript => (.ok .done, { t with scriptLoaded := true })
  | .flushScripts => (.ok .done, { t with scriptLoaded := false })
  | .evalScript keys args => t.evalScript keys args
  | .advance ms => (.ok .done, { t with now := t.now + ms })

/-- What a request gives, and the map after it. The script that is to run in any case is one that
is registered. -/
def perform : StoreRequest → Reply
  | .step s => t.step s
  | .runScript keys args => { t with scriptLoaded := true }.evalScript keys args

/-- The answers to requests, one after another. -/
def answers (t : TimedMap) : List StoreRequest → List Answered
  | [] => []
  | r :: rs => (t.perform r).1 :: (t.perform r).2.answers rs

/-- The map after requests. -/
def afterRequests (t : TimedMap) (rs : List StoreRequest) : TimedMap :=
  rs.foldl (fun t r => (t.perform r).2) t

end TimedMap

end SessionTokens
