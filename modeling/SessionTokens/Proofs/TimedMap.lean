import SessionTokens.Proofs.Calls
import SessionTokens.Proofs.Cursors
import SessionTokens.Store.TimedMap

/-!
# The memory store is a timed map

A memory store drops dead entries when it comes across them: one when a key is
read, all when keys are enumerated, none when a value is set. A timed map drops
none at any time. What is live is the same in both, and stays the same whatever
either of them is asked, because an answer and the live entries after it depend
on the live entries before it only: a new entry covers a dead one as it covers
none, and the clock does not go back, so what is dead stays dead.

So one map shows many stores, all those that differ in their dead entries, and
they answer alike for ever after. Purging goes from one of them to another.
-/

namespace SessionTokens

namespace Keyspace

variable {k : Keyspace}

theorem keys_after (k : Keyspace) (last : String) :
    (k.after last).keys = k.keys.filter fun key => last < key := by
  rw [keys, keys, List.filter_map]
  rfl

/-- What comes after the last of so many keys are the keys after so many. -/
theorem keys_after_getLast?_take {n : Nat} {last : String}
    (h : (k.keys.take n).getLast? = some last) :
    (k.after last).keys = k.keys.drop n := by
  obtain ⟨l, hl⟩ := List.getLast?_eq_some_iff.mp h
  have hsplit : k.entries.map (·.1) = l ++ last :: k.keys.drop n := by
    calc k.entries.map (·.1) = k.keys.take n ++ k.keys.drop n :=
          (List.take_append_drop ..).symm
      _ = l ++ last :: k.keys.drop n := by
          rw [hl, List.append_assoc, List.singleton_append]
  obtain ⟨before, rest, hentries, -, hrest⟩ := List.map_eq_append_iff.mp hsplit
  obtain ⟨p, behind, rfl, rfl, hbehind⟩ := List.map_eq_cons_iff.mp hrest
  rw [keys, entries_after hentries, hbehind]

end Keyspace

namespace MemoryStore

variable (s : MemoryStore)

/-- A page looks at so many keys, and leaves a cursor if there are more. -/
theorem page_eq (pattern : String) (count : Nat) (left : Keyspace) :
    let looked := left.keys.take (max count 1)
    let found := looked.filter (Glob.isMatch pattern)
    s.page pattern count left =
      match looked.getLast?, left.keys.drop (max count 1) with
      | some last, _ :: _ => (.ok ⟨s.nextCursor, found⟩, s.openCursor last)
      | _, _ => (.ok ⟨0, found⟩, s) := by
  dsimp only
  unfold page
  dsimp only
  cases hlast : (left.keys.take (max count 1)).getLast? with
  | none => rfl
  | some last =>
      dsimp only
      have hrest := Keyspace.keys_after_getLast?_take hlast
      rw [← hrest, Keyspace.keys]
      cases hend : (left.after last).entries with
      | nil => simp [Keyspace.keys, hend]
      | cons p rest => simp [Keyspace.keys, hend]

theorem evalScript_error_kind {now : Nat} {keys args : List String}
    {e : ServiceError} (hloaded : s.scriptLoaded = true)
    (h : (s.evalScript now keys args).1 = .error e) :
    e.kind ≠ .scriptNotFound := by
  unfold evalScript at h
  rw [if_pos hloaded] at h
  split at h
  · split at h
    · split at h
      · exact absurd h (rotate_ne_error s now e)
      · cases h; exact nofun
    · cases h; exact nofun
  · cases h; exact nofun

end MemoryStore

/-- To run the script in any case is to run it where it is registered. -/
theorem Store.runScript_eq {w : World} (heval : w.outages .evalScript = none)
    (hload : w.outages .loadScript = none) (hforced : w.forcedReply = none)
    (keys args : List String) :
    runScript keys args w =
      evalScript keys args { w with store := w.store.loadScript } := by
  rw [runScript, Action.bind_apply, Action.attempt]
  by_cases hloaded : w.store.scriptLoaded = true
  · have hsame : { w with store := w.store.loadScript } = w := by
      rw [MemoryStore.loadScript, ← hloaded]
    rw [hsame, evalScript_of_none heval hforced]
    cases hr : (w.store.evalScript w.clock keys args).1 with
    | ok reply => rfl
    | error e =>
        dsimp only
        rw [if_neg (w.store.evalScript_error_kind hloaded hr)]
        rfl
    | outOfRange => rfl
  · rw [evalScript_of_none heval hforced,
      MemoryStore.evalScript_of_not_loaded _ _ hloaded]
    dsimp only
    rw [if_pos (by rfl), Action.bind_apply, loadScript_of_none hload]

namespace TimedMap

variable {t t' : TimedMap} {s s' : MemoryStore} {α : Type}

/-! ## What a map shows -/

/-- The map shows what there is to see of a store: what is live, the script, and
the cursors. -/
structure Shows (t : TimedMap) (s : MemoryStore) : Prop where
  live : s.live t.now = t.entries.live t.now
  script : s.scriptLoaded = t.scriptLoaded
  cursors : ∀ c ≠ 0, s.cursorKey? c = t.cursors c
  lastCursor : s.lastCursor = t.lastCursor

theorem present?_eq_get? (t : TimedMap) (key : String) :
    t.present? key = (t.entries.live t.now).get? key := by
  rw [Keyspace.get?_live]
  rfl

theorem presentKeys_eq_keys (t : TimedMap) :
    t.presentKeys = (t.entries.live t.now).keys := by
  have hlive : ∀ p ∈ t.entries.entries,
      (t.present? p.1).isSome = p.2.isLive t.now := by
    rintro ⟨key, e⟩ hmem
    rw [present?, Keyspace.get?_eq_some.mpr hmem, Option.filter_some,
      Entry.isLive]
    by_cases h : t.now < e.deadline <;> simp [h]
  rw [presentKeys, Keyspace.keys, List.filter_map, Keyspace.keys,
    Keyspace.live, Keyspace.entries_filter]
  exact congrArg (List.map (·.1)) (List.filter_congr hlive)

namespace Shows

theorem present? (h : t.Shows s) (key : String) :
    t.present? key = (s.live t.now).get? key := by
  rw [present?_eq_get?, h.live]

theorem presentKeys (h : t.Shows s) : t.presentKeys = (s.live t.now).keys := by
  rw [presentKeys_eq_keys, h.live]

theorem nextCursor (h : t.Shows s) : s.nextCursor = t.nextCursor := by
  rw [MemoryStore.nextCursor, TimedMap.nextCursor, h.lastCursor]

/-- A call that leaves the script and the cursors alone is shown by its live
entries. -/
theorem of_live (h : t.Shows s) {k : Keyspace}
    (hlive : s'.live t.now = k.live t.now)
    (hscript : s'.scriptLoaded = s.scriptLoaded) (hsame : s.SameCursors s') :
    Shows { t with entries := k } s' where
  live := hlive
  script := hscript.trans h.script
  cursors := fun c hc => (hsame.cursorKey? c).trans (h.cursors c hc)
  lastCursor := hsame.lastCursor.trans h.lastCursor

theorem touch (h : t.Shows s) (key : String) :
    t.Shows (s.touch t.now key) :=
  h.of_live (by rw [MemoryStore.live_touch, h.live])
    (MemoryStore.scriptLoaded_touch ..) (.touch ..)

theorem put (h : t.Shows s) (key : String) (e : Entry) :
    Shows { t with entries := t.entries.insert key e } (s.put key e) := by
  refine h.of_live ?_ rfl ⟨rfl, rfl⟩
  rw [MemoryStore.live_put, h.live, ← Keyspace.live_insert]

theorem remove (h : t.Shows s) (key : String) :
    Shows { t with entries := t.entries.erase key } (s.remove key) := by
  refine h.of_live ?_ rfl ⟨rfl, rfl⟩
  rw [MemoryStore.live_remove, h.live, ← Keyspace.live_erase]

/-- Time may pass: what is dead stays dead. -/
theorem advance (h : t.Shows s) (ms : Nat) :
    Shows { t with now := t.now + ms } s where
  live := by
    have hle : t.now ≤ t.now + ms := Nat.le_add_right ..
    calc s.live (t.now + ms) = (s.live t.now).live (t.now + ms) :=
          (Keyspace.live_live hle).symm
      _ = (t.entries.live t.now).live (t.now + ms) := by rw [h.live]
      _ = t.entries.live (t.now + ms) := Keyspace.live_live hle
  script := h.script
  cursors := h.cursors
  lastCursor := h.lastCursor

theorem openCursor (h : t.Shows s) (key : String) :
    Shows { t with
        lastCursor := t.nextCursor
        cursors := t.setCursor t.nextCursor (some key) }
      (s.openCursor key) where
  live := h.live
  script := h.script
  cursors := fun c hc => by
    show _ = if c = t.nextCursor then some key else t.cursors c
    rw [← h.nextCursor]
    split
    · next heq => rw [heq, MemoryStore.cursorKey?_openCursor]
    · next hne =>
        rw [s.cursorKey?_openCursor_of_ne hne, h.cursors c hc]
  lastCursor := h.nextCursor

/-- Dead entries may come and go. -/
theorem of_live_eq (h : t.Shows s) {k : Keyspace}
    (hk : k.live t.now = s.live t.now) :
    t.Shows { s with keyspace := k } :=
  ⟨hk.trans h.live, h.script, h.cursors, h.lastCursor⟩

end Shows

/-! ## Calls -/

/-- A store's reply is the map's, and what it leaves is shown by the map that is
left. -/
structure Agrees (t : TimedMap) (f : α → Answer) (r : MemoryStore.Reply α)
    (r' : Reply) : Prop where
  answer : (r.1.bind fun a => .ok (f a)) = r'.1
  shows : r'.2.Shows r.2
  now : r'.2.now = t.now

namespace Shows

theorem agrees_write (h : t.Shows s) (key value : String) (ttl : Nat)
    (reply : α) (f : α → Answer) :
    t.Agrees f (s.write t.now key value ttl reply)
      (t.write key value ttl (f reply)) := by
  unfold MemoryStore.write TimedMap.write
  cases MemoryStore.deadline? t.now ttl with
  | none => exact ⟨rfl, h, rfl⟩
  | some deadline => exact ⟨rfl, h.put .., rfl⟩

variable (h : t.Shows s)

include h

theorem agrees_get (key : String) :
    t.Agrees .value (s.get t.now key) (t.step (.get key)) := by
  rw [MemoryStore.get_eq, ← h.present?]
  exact ⟨rfl, h.touch key, rfl⟩

theorem agrees_contains (key : String) :
    t.Agrees .flag (s.contains t.now key) (t.step (.contains key)) := by
  rw [MemoryStore.contains_eq, ← h.present?]
  exact ⟨rfl, h.touch key, rfl⟩

theorem agrees_ttlRemaining (key : String) :
    t.Agrees .remaining (s.ttlRemaining t.now key)
      (t.step (.ttlRemaining key)) := by
  rw [MemoryStore.ttlRemaining, MemoryStore.get?_touch, ← h.present?]
  exact ⟨rfl, h.touch key, rfl⟩

theorem agrees_setIfAbsent (key value : String) (ttl : Nat) :
    t.Agrees .flag (s.setIfAbsent t.now key value ttl)
      (t.step (.setIfAbsent key value ttl)) := by
  simp only [step, h.present?]
  cases hkey : (s.live t.now).get? key with
  | some e =>
      rw [MemoryStore.setIfAbsent_of_some _ _ hkey]
      exact ⟨rfl, h.touch key, rfl⟩
  | none =>
      rw [MemoryStore.setIfAbsent_of_none _ _ hkey]
      exact (h.touch key).agrees_write key value ttl true .flag

theorem agrees_expire (key : String) (ttl : Nat) :
    t.Agrees .flag (s.expire t.now key ttl) (t.step (.expire key ttl)) := by
  simp only [step, h.present?, MemoryStore.expire, MemoryStore.get?_touch]
  cases (s.live t.now).get? key with
  | none => exact ⟨rfl, h.touch key, rfl⟩
  | some e => exact (h.touch key).agrees_write key e.value ttl true .flag

/-- Keys that are repeated or missing do not count, in either. -/
theorem agrees_delete (keys : List String) :
    t.Agrees .count (s.delete t.now keys) (t.step (.delete keys)) := by
  obtain ⟨hlive, hcount, hscript⟩ := s.deleteFrom_live t.now keys 0
  have hpresent : (s.deleteFrom t.now 0 keys).1 =
      t.presentKeys.countP keys.contains := by
    have hsplit := List.length_eq_countP_add_countP
      (fun p : String × Entry => keys.contains p.1)
      (l := (s.live t.now).entries)
    rw [Keyspace.entries_filter, ← List.countP_eq_length_filter] at hcount
    rw [h.presentKeys, Keyspace.keys, List.countP_map]
    have hnot : ∀ p : String × Entry, (!keys.contains p.1) =
        decide (¬ keys.contains p.1 = true) := fun p => by
      cases keys.contains p.1 <;> rfl
    simp only [← hnot] at hsplit
    have hcomp : (keys.contains ∘ fun p : String × Entry => p.1) =
        fun p => keys.contains p.1 := rfl
    rw [hcomp]
    omega
  refine ⟨by rw [MemoryStore.delete, hpresent]; rfl, ?_, rfl⟩
  refine h.of_live ?_ hscript (.deleteFrom ..)
  rw [MemoryStore.delete, hlive, h.live]
  exact (t.entries.live_filter_key t.now fun key => !keys.contains key).symm

/-! ## Pages -/

theorem left?_of_isOpen {cursor : UInt64} (hopen : s.IsOpen cursor) :
    t.left? cursor = some (s.left t.now cursor).keys := by
  unfold TimedMap.left? MemoryStore.left
  by_cases hzero : cursor = 0
  · rw [if_pos hzero, if_pos hzero, h.presentKeys]
  · obtain ⟨last, hlast⟩ := hopen.resolve_left hzero
    rw [if_neg hzero, if_neg hzero, ← h.cursors cursor hzero, hlast,
      h.presentKeys]
    exact congrArg some (Keyspace.keys_after ..).symm

theorem left?_of_not_isOpen {cursor : UInt64} (hopen : ¬ s.IsOpen cursor) :
    t.left? cursor = none := by
  have hzero : cursor ≠ 0 := fun hzero => hopen (.inl hzero)
  have hnone : s.cursorKey? cursor = none :=
    Option.eq_none_iff_forall_ne_some.mpr
      fun last hlast => hopen (.inr ⟨last, hlast⟩)
  rw [TimedMap.left?, if_neg hzero, ← h.cursors cursor hzero, hnone]
  rfl

theorem purge : t.Shows (s.purge t.now) :=
  h.of_live_eq (Keyspace.live_self ..)

theorem agrees_scanPage (pattern : String) (cursor : UInt64) (count : Nat) :
    t.Agrees .page (s.scanPage t.now pattern cursor count)
      (t.scanPage pattern cursor count) := by
  unfold TimedMap.scanPage
  by_cases hopen : s.IsOpen cursor
  · obtain ⟨s₁, hspace, hscript, hscan, hlast, hcursors⟩ :=
      s.scanPage_of_isOpen t.now pattern cursor count hopen
    have hclosed : Shows { t with cursors := t.setCursor cursor none } s₁ := {
      live := by
        rw [MemoryStore.live, hspace, h.live]
        exact Keyspace.live_self ..
      script := hscript.trans h.script
      cursors := fun c hc => by
        rw [hcursors c hc, h.cursors c hc]
        rfl
      lastCursor := hlast.trans h.lastCursor }
    rw [h.left?_of_isOpen hopen, hscan, MemoryStore.page_eq]
    dsimp only
    generalize ((s.left t.now cursor).keys.take (max count 1)).getLast? = last
    cases last with
    | none => exact ⟨rfl, hclosed, rfl⟩
    | some last =>
        cases (s.left t.now cursor).keys.drop (max count 1) with
        | nil => exact ⟨rfl, hclosed, rfl⟩
        | cons key rest =>
            refine ⟨?_, hclosed.openCursor last, rfl⟩
            rw [hclosed.nextCursor]
            rfl
  · rw [h.left?_of_not_isOpen hopen,
      s.scanPage_of_not_isOpen t.now pattern cursor count hopen]
    exact ⟨rfl, h.purge, rfl⟩

/-! ## The script -/

theorem agrees_rotate (refreshKey usedKey expected : String) (seconds : Nat) :
    t.Agrees .reply
      (s.rotate t.now refreshKey usedKey expected seconds)
      (t.rotate refreshKey usedKey expected seconds) := by
  unfold TimedMap.rotate
  rw [h.present?, h.present?]
  cases hused : (s.live t.now).get? usedKey with
  | some e =>
      rw [s.rotate_of_used t.now hused]
      exact ⟨rfl, h.touch usedKey, rfl⟩
  | none =>
      have htouched := (h.touch usedKey).touch refreshKey
      rw [if_neg nofun]
      by_cases hrefresh :
        ((s.live t.now).get? refreshKey).map Entry.value = some expected
      · rw [if_pos hrefresh, MemoryStore.deadline?]
        by_cases hfence : MemoryStore.IsStorable t.now (seconds * 1000)
        · rw [s.rotate_of_fresh t.now hused hrefresh hfence, if_pos hfence]
          exact ⟨rfl, (htouched.put usedKey _).remove refreshKey, rfl⟩
        · rw [s.rotate_of_fresh_of_not_isStorable t.now hused hrefresh hfence,
            if_neg hfence]
          exact ⟨rfl, htouched, rfl⟩
      · rw [if_neg hrefresh, s.rotate_of_stale t.now hused hrefresh]
        exact ⟨rfl, htouched, rfl⟩

theorem agrees_evalScript (keys args : List String) :
    t.Agrees .reply (s.evalScript t.now keys args)
      (t.evalScript keys args) := by
  unfold MemoryStore.evalScript TimedMap.evalScript
  rw [h.script]
  split
  · match keys, args with
    | [refreshKey, usedKey], [expected, fence] =>
        dsimp only
        cases Decimal.word? fence with
        | none => exact ⟨rfl, h, rfl⟩
        | some seconds =>
            exact h.agrees_rotate refreshKey usedKey expected seconds
    | [_, _], [] | [_, _], [_] | [_, _], _ :: _ :: _ :: _ =>
        exact ⟨rfl, h, rfl⟩
    | [], _ | [_], _ | _ :: _ :: _ :: _, _ => exact ⟨rfl, h, rfl⟩
  · exact ⟨rfl, h, rfl⟩

theorem loadScript : Shows { t with scriptLoaded := true } s.loadScript :=
  ⟨h.live, rfl, h.cursors, h.lastCursor⟩

theorem flushScripts : Shows { t with scriptLoaded := false } s.flushScripts :=
  ⟨h.live, rfl, h.cursors, h.lastCursor⟩

end Shows

/-! ## Worlds -/

/-- The map shows the store of a world in which nothing is out of order. -/
structure Mirrors (t : TimedMap) (w : World) : Prop where
  shows : t.Shows w.store
  clock : w.clock = t.now
  outages : ∀ c, w.outages c = none
  forcedReply : w.forcedReply = none

namespace Mirrors

variable {w : World}

/-- The world has this store now. -/
theorem of_store (h : t.Mirrors w) (hs : t'.Shows s) (hnow : t'.now = t.now) :
    t'.Mirrors { w with store := s } :=
  ⟨hs, h.clock.trans hnow.symm, h.outages, h.forcedReply⟩

theorem call (h : t.Mirrors w) {c : StoreCall}
    {f : MemoryStore → Nat → MemoryStore.Reply α} {g : α → Answer} {r : Reply}
    (hr : t.Agrees g (f w.store t.now) r) :
    ((Store.call c f).answering g w).1 = r.1 ∧
      r.2.Mirrors ((Store.call c f).answering g w).2 := by
  rw [← h.clock] at hr
  rw [Action.answering, Store.call_of_none (h.outages c)]
  exact ⟨hr.answer, h.of_store hr.shows hr.now⟩

theorem evalScript (h : t.Mirrors w) (keys args : List String) :
    ((Store.evalScript keys args).answering .reply w).1 =
        (t.evalScript keys args).1 ∧
      (t.evalScript keys args).2.Mirrors
        ((Store.evalScript keys args).answering .reply w).2 := by
  have hr := h.shows.agrees_evalScript keys args
  rw [← h.clock] at hr
  rw [Action.answering,
    Store.evalScript_of_none (h.outages _) h.forcedReply]
  exact ⟨hr.answer, h.of_store hr.shows hr.now⟩

/-- A step gives what the map gives. -/
theorem step (h : t.Mirrors w) (step : StoreStep) :
    (step.perform w).1 = (t.step step).1 ∧
      (t.step step).2.Mirrors (step.perform w).2 := by
  cases step with
  | get key => exact h.call (h.shows.agrees_get key)
  | set key value ttl =>
      exact h.call (h.shows.agrees_write key value ttl () fun _ => .done)
  | setIfAbsent key value ttl =>
      exact h.call (h.shows.agrees_setIfAbsent key value ttl)
  | delete keys => exact h.call (h.shows.agrees_delete keys)
  | contains key => exact h.call (h.shows.agrees_contains key)
  | expire key ttl => exact h.call (h.shows.agrees_expire key ttl)
  | ttlRemaining key => exact h.call (h.shows.agrees_ttlRemaining key)
  | allKeys =>
      have hkeys := h.shows.presentKeys
      have hpurge := h.shows.purge
      rw [← h.clock] at hkeys hpurge
      exact ⟨congrArg (fun keys => Outcome.ok (Answer.keys keys)) hkeys.symm,
        h.of_store hpurge rfl⟩
  | scanPage pattern cursor count =>
      exact h.call (h.shows.agrees_scanPage pattern cursor count)
  | loadScript => exact h.call ⟨rfl, h.shows.loadScript, rfl⟩
  | flushScripts => exact ⟨rfl, h.of_store h.shows.flushScripts rfl⟩
  | evalScript keys args => exact h.evalScript keys args
  | advance ms =>
      exact ⟨rfl, h.shows.advance ms, congrArg (· + ms) h.clock, h.outages,
        h.forcedReply⟩

theorem perform (h : t.Mirrors w) (r : StoreRequest) :
    (r.perform w).1 = (t.perform r).1 ∧
      (t.perform r).2.Mirrors (r.perform w).2 := by
  cases r with
  | step step => exact h.step step
  | runScript keys args =>
      have hloaded := h.of_store h.shows.loadScript rfl
      rw [StoreRequest.perform, Action.answering,
        Store.runScript_eq (h.outages _) (h.outages _) h.forcedReply]
      exact hloaded.evalScript keys args

/-- What is answered to any requests is what the map answers. The induction is
on the requests; the map goes along with the store. -/
theorem answers (h : t.Mirrors w) (rs : List StoreRequest) :
    w.answers rs = t.answers rs := by
  induction rs generalizing t w with
  | nil => rfl
  | cons r rs ih =>
      obtain ⟨hanswer, hafter⟩ := h.perform r
      rw [World.answers, TimedMap.answers, hanswer, ih hafter]

theorem afterRequests (h : t.Mirrors w) (rs : List StoreRequest) :
    (t.afterRequests rs).Mirrors (w.afterRequests rs) := by
  induction rs generalizing t w with
  | nil => exact h
  | cons r rs ih => exact ih (h.perform r).2

/-- Worlds that differ in dead entries only answer alike. -/
theorem answers_of_live_eq (h : t.Mirrors w) {k : Keyspace}
    (hk : k.live w.clock = w.live) (rs : List StoreRequest) :
    World.answers { w with store := { w.store with keyspace := k } } rs =
      w.answers rs := by
  rw [World.live, h.clock] at hk
  rw [h.answers, (h.of_store (h.shows.of_live_eq hk) rfl).answers]

end Mirrors

theorem mirrors_empty (now wall : Nat) :
    (empty now).Mirrors { World.initial wall with clock := now } :=
  ⟨⟨rfl, rfl, fun _ _ => rfl, rfl⟩, rfl, fun _ => rfl, rfl⟩

end TimedMap

/-- From an empty store on, every request is answered as a timed map answers it.
At any point the entries that are dead can be others, or be purged, and no later
answer changes. -/
theorem memory_store_is_timed_map (now wall : Nat) (rs : List StoreRequest) :
    let start := { World.initial wall with clock := now }
    let w := start.afterRequests rs
    start.answers rs = (TimedMap.empty now).answers rs ∧
      (∀ k : Keyspace, k.live w.clock = w.live → ∀ later,
        World.answers { w with store := { w.store with keyspace := k } } later =
          w.answers later) ∧
      ∀ later,
        World.answers { w with store := w.store.purge w.clock } later =
          w.answers later := by
  intro start w
  have hstart := TimedMap.mirrors_empty now wall
  have hafter := hstart.afterRequests rs
  exact ⟨hstart.answers rs, fun k hk => hafter.answers_of_live_eq hk,
    hafter.answers_of_live_eq (Keyspace.live_self ..)⟩

/-- An entry is gone at its deadline, though nothing has dropped it yet. -/
example : (World.initial 0).answers
    [.step (.set "a" "x" 10), .step (.advance 9), .step (.ttlRemaining "a"),
      .step (.advance 1), .step (.contains "a"),
      .step (.setIfAbsent "a" "y" 0), .step (.get "a")] =
    [.ok .done, .ok .done, .ok (.remaining (some 1)), .ok .done,
      .ok (.flag false), .ok (.flag true), .ok (.value none)] := by
  decide +kernel

end SessionTokens
