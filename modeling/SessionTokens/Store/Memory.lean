import SessionTokens.Error
import SessionTokens.Glob
import SessionTokens.Outcome
import SessionTokens.Store.Keyspace
import SessionTokens.Text.Decimal

/-! # The session store in memory

A store of values with deadlines. Entries whose deadline has passed stay in the keyspace until some
operation comes across them: reading a key drops that key's, an enumeration drops all of them. What
is there at a time is the live part of the keyspace, and no answer depends on anything else.

An enumeration goes page by page. A page ends with a cursor that remembers the last key looked at,
so the next page goes on right after it, whatever has been set or deleted in between.
-/

namespace SessionTokens

/-- The state of a store. -/
structure MemoryStore where
  keyspace : Keyspace
  /-- The rotation script has been registered. -/
  scriptLoaded : Bool
  /-- The open cursors, each with the last key its enumeration looked at. -/
  cursors : List (UInt64 × String)
  /-- The cursor handed out last. -/
  lastCursor : UInt64

/-- One page of an enumeration: the keys found and where to go on, zero for nowhere. -/
structure ScanPage where
  cursor : UInt64
  keys : List String
deriving DecidableEq, Repr

namespace MemoryStore

/-- A store without entries, scripts and cursors. -/
def empty : MemoryStore := ⟨.empty, false, [], 0⟩

instance : Inhabited MemoryStore := ⟨empty⟩

/-- An answer and the store after it. -/
abbrev Reply (α : Type) := Outcome ServiceError α × MemoryStore

/-- The entries that are there at a time. -/
def live (s : MemoryStore) (now : Nat) : Keyspace := s.keyspace.live now

/-- The last second that the clock has a number for. -/
def lastSecond : Nat := 0x7FFFFFFFFFFFFFFF

/-- The clock has a number for the end of a lifetime that begins now, both in milliseconds. -/
def IsStorable (now ttl : Nat) : Prop := (now + ttl) / 1000 ≤ lastSecond

instance (now ttl : Nat) : Decidable (IsStorable now ttl) := inferInstanceAs (Decidable (_ ≤ _))

/-- The end of a lifetime that begins now, if the clock has a number for it. -/
def deadline? (now ttl : Nat) : Option Nat :=
  if IsStorable now ttl then some (now + ttl) else none

/-- Drops the entry of a key if it is dead. -/
def touch (s : MemoryStore) (now : Nat) (key : String) : MemoryStore :=
  match s.keyspace.get? key with
  | some e => if e.isLive now then s else { s with keyspace := s.keyspace.erase key }
  | none => s

/-- Drops all dead entries. -/
def purge (s : MemoryStore) (now : Nat) : MemoryStore :=
  { s with keyspace := s.keyspace.live now }

/-- Sets the entry of a key. -/
def put (s : MemoryStore) (key : String) (e : Entry) : MemoryStore :=
  { s with keyspace := s.keyspace.insert key e }

/-- Removes the entry of a key. -/
def remove (s : MemoryStore) (key : String) : MemoryStore :=
  { s with keyspace := s.keyspace.erase key }

/-- Sets a value for the given lifetime. -/
def write {α : Type} (s : MemoryStore) (now : Nat) (key value : String) (ttl : Nat) (reply : α) :
    Reply α :=
  match deadline? now ttl with
  | some deadline => (.ok reply, s.put key ⟨value, deadline⟩)
  | none => (.outOfRange, s)

/-! ## Values -/

/-- The value of a key. -/
def get (s : MemoryStore) (now : Nat) (key : String) : Reply (Option String) :=
  let s := s.touch now key
  (.ok ((s.keyspace.get? key).map Entry.value), s)

/-- Sets the value of a key, whatever it was. -/
def set (s : MemoryStore) (now : Nat) (key value : String) (ttl : Nat) : Reply Unit :=
  s.write now key value ttl ()

/-- Sets the value of a key that has none, and tells whether it had none. -/
def setIfAbsent (s : MemoryStore) (now : Nat) (key value : String) (ttl : Nat) : Reply Bool :=
  let s := s.touch now key
  match s.keyspace.get? key with
  | some _ => (.ok false, s)
  | none => s.write now key value ttl true

/-- Removes the keys one after another and counts those that were there. -/
def deleteFrom (s : MemoryStore) (now : Nat) (count : Nat) : List String → Nat × MemoryStore
  | [] => (count, s)
  | key :: keys =>
    let s := s.touch now key
    match s.keyspace.get? key with
    | some _ => (s.remove key).deleteFrom now (count + 1) keys
    | none => s.deleteFrom now count keys

/-- Removes keys, and gives how many of them were there. -/
def delete (s : MemoryStore) (now : Nat) (keys : List String) : Reply Nat :=
  let r := s.deleteFrom now 0 keys
  (.ok r.1, r.2)

/-- The key has a value. -/
def contains (s : MemoryStore) (now : Nat) (key : String) : Reply Bool :=
  let s := s.touch now key
  (.ok (s.keyspace.get? key).isSome, s)

/-- Gives a key that has a value a new lifetime. -/
def expire (s : MemoryStore) (now : Nat) (key : String) (ttl : Nat) : Reply Bool :=
  let s := s.touch now key
  match s.keyspace.get? key with
  | none => (.ok false, s)
  | some e => s.write now key e.value ttl true

/-- How long a key's value stays, in milliseconds. -/
def ttlRemaining (s : MemoryStore) (now : Nat) (key : String) : Reply (Option Nat) :=
  let s := s.touch now key
  (.ok ((s.keyspace.get? key).map fun e => e.deadline - now), s)

/-- All keys in their order. -/
def keys (s : MemoryStore) (now : Nat) : List String × MemoryStore :=
  let s := s.purge now
  (s.keyspace.keys, s)

/-! ## Enumeration -/

/-- The key that a cursor's enumeration looked at last. -/
def cursorKey? (s : MemoryStore) (cursor : UInt64) : Option String :=
  (s.cursors.find? (·.1 = cursor)).map (·.2)

/-- Forgets a cursor. -/
def closeCursor (s : MemoryStore) (cursor : UInt64) : MemoryStore :=
  { s with cursors := s.cursors.filter (·.1 ≠ cursor) }

/-- The cursor that is handed out next; zero is none. -/
def nextCursor (s : MemoryStore) : UInt64 :=
  if s.lastCursor + 1 = 0 then 1 else s.lastCursor + 1

/-- Hands out a cursor for an enumeration that has looked at keys up to this one. -/
def openCursor (s : MemoryStore) (key : String) : MemoryStore :=
  { s with
    lastCursor := s.nextCursor
    cursors := (s.nextCursor, key) :: s.cursors.filter (·.1 ≠ s.nextCursor) }

/-- Looks at the first keys of those that are left, up to `count` and at least one, and leaves a
cursor if there are more. -/
def page (s : MemoryStore) (pattern : String) (count : Nat) (left : Keyspace) : Reply ScanPage :=
  let looked := left.keys.take (max count 1)
  let found := looked.filter (Glob.isMatch pattern)
  match looked.getLast? with
  | none => (.ok ⟨0, found⟩, s)
  | some last =>
    if (left.after last).entries.isEmpty then (.ok ⟨0, found⟩, s)
    else (.ok ⟨s.nextCursor, found⟩, s.openCursor last)

/-- One page of the keys that match a pattern: the first one for cursor zero, and the one that
follows for a cursor that a page ended with. A cursor is good for one page. -/
def scanPage (s : MemoryStore) (now : Nat) (pattern : String) (cursor : UInt64) (count : Nat) :
    Reply ScanPage :=
  let s := s.purge now
  if cursor = 0 then s.page pattern count s.keyspace
  else
    match s.cursorKey? cursor with
    | none => (.error (.unknownCursor cursor), s)
    | some last => (s.closeCursor cursor).page pattern count (s.keyspace.after last)

/-- What an enumeration has still to look at, from a cursor on. -/
def left (s : MemoryStore) (now : Nat) (cursor : UInt64) : Keyspace :=
  if cursor = 0 then s.live now
  else
    match s.cursorKey? cursor with
    | none => .empty
    | some last => (s.live now).after last

@[simp] theorem live_purge (s : MemoryStore) (now : Nat) : (s.purge now).live now = s.live now :=
  Keyspace.live_self ..

theorem nextCursor_ne_zero (s : MemoryStore) : s.nextCursor ≠ 0 := by
  unfold nextCursor
  split
  · decide
  · next h => exact h

theorem cursorKey?_openCursor (s : MemoryStore) (key : String) :
    (s.openCursor key).cursorKey? s.nextCursor = some key := by
  simp [cursorKey?, openCursor]

theorem left_openCursor (s : MemoryStore) (now : Nat) (key : String) :
    (s.openCursor key).left now s.nextCursor = (s.live now).after key := by
  rw [left, if_neg s.nextCursor_ne_zero, cursorKey?_openCursor]
  rfl

/-- A page that does not end the enumeration leaves a cursor for one of the keys it looked at. -/
theorem page_of_more {s s' : MemoryStore} {pattern : String} {count : Nat} {left : Keyspace}
    {page : ScanPage} (h : s.page pattern count left = (.ok page, s')) (hmore : page.cursor ≠ 0) :
    ∃ last ∈ left.keys, page.cursor = s.nextCursor ∧ s' = s.openCursor last := by
  unfold MemoryStore.page at h
  dsimp only at h
  split at h
  · cases h
    exact absurd rfl hmore
  · next last hlast =>
    split at h
    · cases h
      exact absurd rfl hmore
    · cases h
      exact ⟨last, List.mem_of_mem_take (List.mem_of_getLast? hlast), rfl, rfl⟩

/-- A page that does not end the enumeration leaves less to look at. -/
theorem left_scanPage {s s' : MemoryStore} {now : Nat} {pattern : String} {cursor : UInt64}
    {count : Nat} {page : ScanPage} (h : s.scanPage now pattern cursor count = (.ok page, s'))
    (hmore : page.cursor ≠ 0) :
    (s'.left now page.cursor).entries.length < (s.left now cursor).entries.length := by
  unfold scanPage at h
  dsimp only at h
  split at h
  · next hzero =>
    obtain ⟨last, hmem, hcursor, rfl⟩ := page_of_more h hmore
    rw [hcursor, left_openCursor, live_purge, left, if_pos hzero]
    exact Keyspace.length_after_lt hmem
  · next hne =>
    split at h
    · cases h
    · next before hbefore =>
      obtain ⟨last, hmem, hcursor, rfl⟩ := page_of_more h hmore
      have hlast : s.cursorKey? cursor = some before := hbefore
      obtain ⟨p, hp, rfl⟩ := List.mem_map.mp hmem
      have hlt : before < p.1 := Keyspace.lt_fst_of_mem_after hp
      rw [hcursor, left_openCursor, left, if_neg hne, hlast]
      show (((s.purge now).live now).after p.1).entries.length <
        ((s.live now).after before).entries.length
      rw [live_purge, ← Keyspace.after_after hlt]
      exact Keyspace.length_after_lt hmem

/-! ## The rotation script -/

/-- What the rotation script replies when it has rotated. -/
def rotated : String := "OK"

/-- What the rotation script replies for a token that has been used. -/
def reused : String := "REUSED"

/-- What the rotation script replies for a token that is not the live one. -/
def invalid : String := "INVALID"

/-- Uses up a refresh token: removes its key, if it holds the expected identifier, and sets the
fence. Nothing changes otherwise. -/
def rotate (s : MemoryStore) (now : Nat) (refreshKey usedKey expected : String)
    (fenceSeconds : Nat) : Reply String :=
  let s := s.touch now usedKey
  match s.keyspace.get? usedKey with
  | some _ => (.ok reused, s)
  | none =>
    let s := s.touch now refreshKey
    if (s.keyspace.get? refreshKey).map Entry.value = some expected then
      match s.write now usedKey "used" (fenceSeconds * 1000) rotated with
      | (.ok reply, s) => (.ok reply, s.remove refreshKey)
      | failed => failed
    else (.ok invalid, s)

/-- Registers the rotation script. -/
def loadScript (s : MemoryStore) : MemoryStore := { s with scriptLoaded := true }

/-- Forgets all scripts. -/
def flushScripts (s : MemoryStore) : MemoryStore := { s with scriptLoaded := false }

/-- Runs the rotation script, if it is registered, on a refresh key and a fence's key with the
expected identifier and the fence's lifetime in seconds. -/
def evalScript (s : MemoryStore) (now : Nat) (keys args : List String) : Reply String :=
  if s.scriptLoaded then
    match keys with
    | [refreshKey, usedKey] =>
      match args with
      | [expected, fence] =>
        match Decimal.word? fence with
        | some seconds => s.rotate now refreshKey usedKey expected seconds
        | none => (.error (.scriptFenceTtl fence), s)
      | _ => (.error .scriptArgumentCount, s)
    | _ => (.error .scriptKeyCount, s)
  else (.error .scriptNotRegistered, s)

end MemoryStore

end SessionTokens
