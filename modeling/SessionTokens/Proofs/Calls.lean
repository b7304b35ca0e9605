import SessionTokens.Proofs.Memory
import SessionTokens.Store.Calls

/-!
# Store calls as steps of a world

A call leaves everything outside the store as it is, and of the store only the
live part counts, so a call is described by its answer and by the entries that
are there afterwards: `Becomes` says the second. A call that is out of order
leaves even the dead entries alone.

Two calls are made of others. An enumeration reads page after page; every page
takes at least one entry off what is left, so the pages come to an end, and as
the keys ascend there is nothing to put in order afterwards. Running the
rotation script may register it first, which changes no entry; so what the
script does to the entries is the same whether the store had forgotten it or
not.
-/

namespace SessionTokens

namespace World

/-- Nothing outside the store has changed, and its entries are now these. A
script that was registered still is. -/
structure Becomes (w : World) (k : Keyspace) (w' : World) : Prop where
  live : w'.live = k
  rest : w' = { w with store := w'.store }
  script : w.store.scriptLoaded = true → w'.store.scriptLoaded = true

namespace Becomes

variable {w w' w'' : World} {k k' : Keyspace}

theorem refl (w : World) : w.Becomes w.live w := ⟨rfl, rfl, id⟩

theorem trans (h : w.Becomes k w') (h' : w'.Becomes k' w'') :
    w.Becomes k' w'' where
  live := h'.live
  rest := by
    rw [h'.rest, h.rest]
  script := fun hs => h'.script (h.script hs)

theorem clock (h : w.Becomes k w') : w'.clock = w.clock := by rw [h.rest]

theorem wall (h : w.Becomes k w') : w'.wall = w.wall := by rw [h.rest]

theorem outages (h : w.Becomes k w') : w'.outages = w.outages := by rw [h.rest]

theorem forcedReply (h : w.Becomes k w') : w'.forcedReply = w.forcedReply := by
  rw [h.rest]

theorem minted (h : w.Becomes k w') : w'.minted = w.minted := by rw [h.rest]

theorem users (h : w.Becomes k w') : w'.users = w.users := by rw [h.rest]

theorem sweepable (h : w.Becomes k w') : w'.Sweepable ↔ w.Sweepable := by
  rw [Sweepable, h.outages, Sweepable]

theorem runsScripts (h : w.Becomes k w') (hw : w.RunsScripts) :
    w'.RunsScripts := by
  obtain ⟨heval, hload⟩ := hw
  rw [RunsScripts, h.outages]
  exact ⟨heval, hload.imp h.script id⟩

theorem of_store {s : MemoryStore} (h : s.live w.clock = k)
    (hs : w.store.scriptLoaded = true → s.scriptLoaded = true) :
    w.Becomes k { w with store := s } := ⟨h, rfl, hs⟩

/-- Touching a key drops what is over, and no entry that counts. -/
theorem touch (h : w.Becomes k w') (key : String) :
    w.Becomes k { w' with store := w'.store.touch w'.clock key } := by
  refine h.trans (.of_store ?_ fun hs => ?_)
  · rw [MemoryStore.live_touch]
    exact h.live
  · rwa [MemoryStore.scriptLoaded_touch]

end Becomes

end World

namespace Store

variable {α : Type} {w : World}

theorem call_of_none {c : StoreCall} (h : w.outages c = none)
    (f : MemoryStore → Nat → MemoryStore.Reply α) :
    call c f w =
      ((f w.store w.clock).1, { w with store := (f w.store w.clock).2 }) := by
  simp only [call, h]

theorem call_of_some {c : StoreCall} {how : Outage} (h : w.outages c = some how)
    (f : MemoryStore → Nat → MemoryStore.Reply α) :
    call c f w = (.error (.storeFailed c how), w) := by
  simp only [call, h]

/-! ## Keys -/

theorem get_of_none (h : w.outages .get = none) (key : String) :
    ∃ w', get key w = (.ok ((w.live.get? key).map Entry.value), w') ∧
      w.Becomes w.live w' := by
  rw [get, call_of_none h, MemoryStore.get_eq]
  exact ⟨_, rfl, (World.Becomes.refl w).touch key⟩

theorem contains_of_none (h : w.outages .exists = none) (key : String) :
    ∃ w', contains key w = (.ok (w.live.get? key).isSome, w') ∧
      w.Becomes w.live w' := by
  rw [contains, call_of_none h, MemoryStore.contains_eq]
  exact ⟨_, rfl, (World.Becomes.refl w).touch key⟩

theorem set_of_none (h : w.outages .set = none) {ttl : Nat}
    (httl : MemoryStore.IsStorable w.clock ttl) (key value : String) :
    ∃ w', set key value ttl w = (.ok (), w') ∧
      w.Becomes ((w.live.insert key ⟨value, w.clock + ttl⟩).live w.clock)
        w' := by
  rw [set, call_of_none h, MemoryStore.set,
    MemoryStore.write_of_isStorable _ _ httl]
  exact ⟨_, rfl, .of_store (MemoryStore.live_put ..) id⟩

theorem set_of_not_isStorable (h : w.outages .set = none) {ttl : Nat}
    (httl : ¬ MemoryStore.IsStorable w.clock ttl) (key value : String) :
    set key value ttl w = (.outOfRange, w) := by
  rw [set, call_of_none h, MemoryStore.set,
    MemoryStore.write_of_not_isStorable _ _ httl]

/-- A key that has a value keeps it. -/
theorem setIfAbsent_of_some (h : w.outages .setIfAbsent = none) {key : String}
    {e : Entry} (hkey : w.live.get? key = some e) (value : String) (ttl : Nat) :
    ∃ w', setIfAbsent key value ttl w = (.ok false, w') ∧
      w.Becomes w.live w' := by
  rw [setIfAbsent, call_of_none h, MemoryStore.setIfAbsent_of_some _ _ hkey]
  exact ⟨_, rfl, (World.Becomes.refl w).touch key⟩

theorem setIfAbsent_of_none (h : w.outages .setIfAbsent = none) {key : String}
    (hkey : w.live.get? key = none) {ttl : Nat}
    (httl : MemoryStore.IsStorable w.clock ttl) (value : String) :
    ∃ w', setIfAbsent key value ttl w = (.ok true, w') ∧
      w.Becomes ((w.live.insert key ⟨value, w.clock + ttl⟩).live w.clock)
        w' := by
  rw [setIfAbsent, call_of_none h, MemoryStore.setIfAbsent_of_none _ _ hkey,
    MemoryStore.write_of_isStorable _ _ httl]
  refine ⟨_, rfl, .of_store ?_ fun hs => ?_⟩
  · rw [MemoryStore.live_put, MemoryStore.live_touch]
    rfl
  · exact (MemoryStore.scriptLoaded_touch ..).trans hs

theorem setIfAbsent_of_not_isStorable (h : w.outages .setIfAbsent = none)
    {key : String} (hkey : w.live.get? key = none) {ttl : Nat}
    (httl : ¬ MemoryStore.IsStorable w.clock ttl) (value : String) :
    ∃ w', setIfAbsent key value ttl w = (.outOfRange, w') ∧
      w.Becomes w.live w' := by
  rw [setIfAbsent, call_of_none h, MemoryStore.setIfAbsent_of_none _ _ hkey,
    MemoryStore.write_of_not_isStorable _ _ httl]
  exact ⟨_, rfl, (World.Becomes.refl w).touch key⟩

/-- The key is set, or all entries stay. -/
theorem setIfAbsent_spec (key value : String) (ttl : Nat) (w : World) :
    ∃ r w', setIfAbsent key value ttl w = (r, w') ∧
      ((r = .ok true ∧ w.outages .setIfAbsent = none ∧
          w.live.get? key = none ∧ MemoryStore.IsStorable w.clock ttl ∧
          w.Becomes ((w.live.insert key ⟨value, w.clock + ttl⟩).live w.clock)
            w') ∨
        (r ≠ .ok true ∧ w.Becomes w.live w')) := by
  cases hout : w.outages .setIfAbsent with
  | some how =>
      exact ⟨_, w, call_of_some hout _, .inr ⟨nofun, .refl w⟩⟩
  | none =>
      cases hkey : w.live.get? key with
      | some e =>
          obtain ⟨w', hset, hb⟩ := setIfAbsent_of_some hout hkey value ttl
          exact ⟨_, w', hset, .inr ⟨by simp, hb⟩⟩
      | none =>
          by_cases httl : MemoryStore.IsStorable w.clock ttl
          · obtain ⟨w', hset, hb⟩ := setIfAbsent_of_none hout hkey httl value
            exact ⟨_, w', hset, .inl ⟨rfl, rfl, rfl, httl, hb⟩⟩
          · obtain ⟨w', hset, hb⟩ :=
              setIfAbsent_of_not_isStorable hout hkey httl value
            exact ⟨_, w', hset, .inr ⟨nofun, hb⟩⟩

/-- A mark that has been set was not there before. -/
theorem setIfAbsent_eq_true {w' : World} {key value : String} {ttl : Nat}
    (h : setIfAbsent key value ttl w = (.ok true, w')) :
    w.outages .setIfAbsent = none ∧ w.live.get? key = none ∧
      MemoryStore.IsStorable w.clock ttl ∧
      w.Becomes ((w.live.insert key ⟨value, w.clock + ttl⟩).live w.clock)
        w' := by
  obtain ⟨r, w₁, hset, ⟨-, hfound⟩ | ⟨hne, -⟩⟩ :=
    setIfAbsent_spec key value ttl w
  · cases hset.symm.trans h
    exact hfound
  · cases hset.symm.trans h
    exact absurd rfl hne

/-- Deleting counts how many entries fewer there are. -/
theorem delete_of_none (h : w.outages .delete = none) (keys : List String) :
    ∃ n w', delete keys w = (.ok n, w') ∧
      w.Becomes (w.live.filter fun p => !keys.contains p.1) w' ∧
      n + w'.live.entries.length = w.live.entries.length := by
  obtain ⟨hlive, hcount, hscript⟩ :=
    MemoryStore.deleteFrom_live w.store w.clock keys 0
  rw [delete, call_of_none h]
  refine ⟨_, _, rfl, .of_store hlive fun hs => hscript.trans hs, ?_⟩
  rw [Nat.zero_add] at hcount
  rw [← hlive] at hcount
  exact hcount

/-! ## Enumeration -/

/-- One page: either the last, with all matches that are left, or one with a
cursor for the rest, of which there is less. -/
theorem scanPage_of_none (h : w.outages .scanPage = none) {cursor : UInt64}
    (hopen : w.store.IsOpen cursor) (pattern : String) (count : Nat) :
    ∃ page w', scanPage pattern cursor count w = (.ok page, w') ∧
      w.Becomes w.live w' ∧
      ((page.cursor = 0 ∧ page.keys =
          (left w cursor).keys.filter (Glob.isMatch pattern)) ∨
        (page.cursor ≠ 0 ∧ w'.store.IsOpen page.cursor ∧
          (left w' page.cursor).entries.length <
            (left w cursor).entries.length ∧
          (left w cursor).keys.filter (Glob.isMatch pattern) =
            page.keys ++
              (left w' page.cursor).keys.filter (Glob.isMatch pattern))) := by
  obtain ⟨page, s', hpage, hlive, hscript, hend⟩ :=
    w.store.scanPage_spec w.clock pattern cursor count hopen
  refine ⟨page, { w with store := s' }, ?_,
    .of_store hlive fun hs => hscript.trans hs, hend⟩
  rw [scanPage, call_of_none h, hpage]

theorem scanPage_of_some {how : Outage} (h : w.outages .scanPage = some how)
    (pattern : String) (cursor : UInt64) (count : Nat) :
    scanPage pattern cursor count w =
      (.error (.storeFailed .scanPage how), w) :=
  call_of_some h _

section scanFrom

variable {pattern : String} {count : Nat} {cursor : UInt64} {w' : World}

theorem scanFrom_of_last {page : ScanPage}
    (h : scanPage pattern cursor count w = (.ok page, w'))
    (hzero : page.cursor = 0) :
    scanFrom pattern count cursor w = (.ok page.keys, w') := by
  rw [scanFrom]
  split
  · next heq => rw [h] at heq; cases heq; rw [dif_pos hzero]
  · next heq => rw [h] at heq; cases heq
  · next heq => rw [h] at heq; cases heq

theorem scanFrom_of_more {page : ScanPage} {keys : List String} {w'' : World}
    (h : scanPage pattern cursor count w = (.ok page, w'))
    (hmore : page.cursor ≠ 0)
    (hrest : scanFrom pattern count page.cursor w' = (.ok keys, w'')) :
    scanFrom pattern count cursor w = (.ok (page.keys ++ keys), w'') := by
  rw [scanFrom]
  split
  · next heq =>
      rw [h] at heq
      cases heq
      rw [dif_neg hmore]
      simp only [hrest]
      rfl
  · next heq => rw [h] at heq; cases heq
  · next heq => rw [h] at heq; cases heq

theorem scanFrom_of_error {e : ServiceError}
    (h : scanPage pattern cursor count w = (.error e, w')) :
    scanFrom pattern count cursor w = (.error e, w') := by
  rw [scanFrom]
  split
  · next heq => rw [h] at heq; cases heq
  · next heq => rw [h] at heq; cases heq; rfl
  · next heq => rw [h] at heq; cases heq

end scanFrom

/-- From a cursor on, the pages give all matches among what is left. The
induction is on how much that is, as the recursion of the pages is. -/
theorem scanFrom_of_none (pattern : String) (count : Nat) {w : World}
    (h : w.outages .scanPage = none) {cursor : UInt64}
    (hopen : w.store.IsOpen cursor) :
    ∃ w', scanFrom pattern count cursor w =
        (.ok ((left w cursor).keys.filter (Glob.isMatch pattern)), w') ∧
      w.Becomes w.live w' := by
  induction hn : (left w cursor).entries.length using Nat.strongRecOn
    generalizing w cursor with
  | _ n ih =>
      obtain ⟨page, w₁, hpage, hw₁, hend⟩ :=
        scanPage_of_none h hopen pattern count
      rcases hend with ⟨hzero, hkeys⟩ | ⟨hmore, hopen₁, hlt, hkeys⟩
      · refine ⟨w₁, ?_, hw₁⟩
        rw [scanFrom_of_last hpage hzero, hkeys]
      · obtain ⟨w₂, hrest, hw₂⟩ :=
          ih _ (hn ▸ hlt) (by rw [hw₁.outages, h]) hopen₁ rfl
        rw [hw₁.live] at hw₂
        refine ⟨w₂, ?_, hw₁.trans hw₂⟩
        rw [scanFrom_of_more hpage hmore hrest, hkeys]

/-- Keys that ascend are in order, and none of them is repeated. -/
theorem sort_of_ascending {keys : List String} (h : keys.Pairwise (· < ·)) :
    keys.mergeSort.eraseReps = keys := by
  have hle : keys.Pairwise fun a b => decide (a ≤ b) = true :=
    h.imp fun hlt => decide_eq_true (Std.le_of_lt hlt)
  rw [List.mergeSort_of_pairwise hle]
  have hloop : ∀ (a : String) (rest seen : List String),
      (a :: rest).Pairwise (· < ·) →
      List.eraseRepsBy.loop (· == ·) a rest seen =
        seen.reverse ++ a :: rest := by
    intro a rest
    induction rest generalizing a with
    | nil => intro seen _; simp [List.eraseRepsBy.loop]
    | cons b rest ih =>
        intro seen hsorted
        obtain ⟨hfirst, hrest⟩ := List.pairwise_cons.mp hsorted
        have hne : (a == b) = false :=
          beq_false_of_ne fun heq =>
            String.lt_irrefl _ (heq ▸ hfirst b List.mem_cons_self)
        rw [List.eraseRepsBy.loop, hne]
        simp [ih b (a :: seen) hrest]
  cases keys with
  | nil => rfl
  | cons a rest => exact hloop a rest [] h

/-- An enumeration gives all matches among the entries that are there. -/
theorem scan_of_none (h : w.outages .scanPage = none) (pattern : String)
    (count : Nat) :
    ∃ w', scan pattern count w =
        (.ok (w.live.keys.filter (Glob.isMatch pattern)), w') ∧
      w.Becomes w.live w' := by
  have hopen : w.store.IsOpen 0 := .inl rfl
  obtain ⟨w', hfound, hw'⟩ := scanFrom_of_none pattern count h hopen
  have hsorted : w.live.keys.Pairwise (· < ·) :=
    List.pairwise_map.mpr w.live.sorted
  refine ⟨w', ?_, hw'⟩
  rw [scan, Action.bind_apply, hfound]
  exact congrArg (fun keys => (Outcome.ok keys, w'))
    (sort_of_ascending (hsorted.filter _))

theorem scan_of_some {how : Outage} (h : w.outages .scanPage = some how)
    (pattern : String) (count : Nat) :
    scan pattern count w = (.error (.storeFailed .scanPage how), w) := by
  rw [scan, Action.bind_apply,
    scanFrom_of_error (scanPage_of_some h pattern 0 count)]

/-! ## The rotation script -/

theorem loadScript_of_none (h : w.outages .loadScript = none) :
    loadScript w = (.ok (), { w with store := w.store.loadScript }) :=
  call_of_none h _

theorem evalScript_of_none (h : w.outages .evalScript = none)
    (hforced : w.forcedReply = none) (keys args : List String) :
    evalScript keys args w = ((w.store.evalScript w.clock keys args).1,
      { w with store := (w.store.evalScript w.clock keys args).2 }) := by
  simp only [evalScript, h, hforced, call_of_none h]

theorem evalScript_of_some {how : Outage} (h : w.outages .evalScript = some how)
    (keys args : List String) :
    evalScript keys args w = (.error (.storeFailed .evalScript how), w) := by
  simp only [evalScript, h, call_of_some h]

theorem loadScript_becomes (w : World) : w.Becomes w.live (loadScript w).2 := by
  cases h : w.outages .loadScript with
  | none =>
      rw [loadScript_of_none h]
      exact .of_store rfl fun _ => rfl
  | some how =>
      rw [loadScript, call_of_some h]
      exact .refl w

section runScript

variable (refresh used expected : String) {fence : String} {seconds : Nat}

theorem evalScript_of_loaded (h : w.outages .evalScript = none)
    (hforced : w.forcedReply = none) (hloaded : w.store.scriptLoaded = true)
    (hfence : Decimal.word? fence = some seconds) :
    evalScript [refresh, used] [expected, fence] w =
      ((w.store.rotate w.clock refresh used expected seconds).1,
        { w with store :=
          (w.store.rotate w.clock refresh used expected seconds).2 }) := by
  rw [evalScript_of_none h hforced, MemoryStore.evalScript, if_pos hloaded]
  simp only [hfence]

theorem runScript_of_loaded (h : w.outages .evalScript = none)
    (hforced : w.forcedReply = none) (hloaded : w.store.scriptLoaded = true)
    (hfence : Decimal.word? fence = some seconds) :
    runScript [refresh, used] [expected, fence] w =
      ((w.store.rotate w.clock refresh used expected seconds).1,
        { w with store :=
          (w.store.rotate w.clock refresh used expected seconds).2 }) := by
  rw [runScript, Action.bind_apply, Action.attempt,
    evalScript_of_loaded _ _ _ h hforced hloaded hfence]
  cases hr : (w.store.rotate w.clock refresh used expected seconds).1 with
  | ok reply => rfl
  | error e => exact absurd hr (MemoryStore.rotate_ne_error _ _ e)
  | outOfRange => rfl

/-- A script that can be run does what the store's rotation does, on the same
entries. -/
theorem runScript_of_runsScripts (h : w.RunsScripts)
    (hforced : w.forcedReply = none)
    (hfence : Decimal.word? fence = some seconds) :
    ∃ w₁, w.Becomes w.live w₁ ∧
      runScript [refresh, used] [expected, fence] w =
        ((w₁.store.rotate w₁.clock refresh used expected seconds).1,
          { w₁ with store :=
            (w₁.store.rotate w₁.clock refresh used expected seconds).2 }) := by
  obtain ⟨heval, hload⟩ := h
  by_cases hloaded : w.store.scriptLoaded = true
  · exact ⟨w, .refl w, runScript_of_loaded _ _ _ heval hforced hloaded hfence⟩
  · have hnone : w.outages .loadScript = none := hload.resolve_left hloaded
    refine ⟨{ w with store := w.store.loadScript },
      .of_store rfl fun _ => rfl, ?_⟩
    have hmissing : evalScript [refresh, used] [expected, fence] w =
        (.error .scriptNotRegistered, w) := by
      rw [evalScript_of_none heval hforced,
        MemoryStore.evalScript_of_not_loaded _ _ hloaded]
    rw [runScript, Action.bind_apply, Action.attempt, hmissing]
    dsimp only
    rw [if_pos (by rfl), Action.bind_apply, loadScript_of_none hnone]
    exact evalScript_of_loaded
      (w := { w with store := w.store.loadScript }) _ _ _
      heval hforced rfl hfence

/-- A script that cannot be run fails, which is no judgement on any token, and
leaves the entries as they are. -/
theorem runScript_of_not_runsScripts (h : ¬ w.RunsScripts)
    (hforced : w.forcedReply = none) (keys args : List String) :
    ∃ e w', runScript keys args w = (.error e, w') ∧ e.source = none ∧
      w.Becomes w.live w' := by
  have hbecomes := loadScript_becomes w
  rw [runScript, Action.bind_apply, Action.attempt]
  cases heval : w.outages .evalScript with
  | some how =>
      rw [evalScript_of_some heval]
      dsimp only
      split
      · rw [Action.bind_apply]
        rcases hload : loadScript w with ⟨r, w₁⟩
        rw [hload] at hbecomes
        cases r with
        | ok =>
            have heval₁ : w₁.outages .evalScript = some how := by
              rw [hbecomes.outages, heval]
            exact ⟨_, _, evalScript_of_some heval₁ .., rfl, hbecomes⟩
        | error e =>
            refine ⟨e, w₁, rfl, ?_, hbecomes⟩
            rw [loadScript] at hload
            cases hout : w.outages .loadScript with
            | none => rw [call_of_none hout] at hload; cases hload
            | some how => rw [call_of_some hout] at hload; cases hload; rfl
        | outOfRange =>
            rw [loadScript] at hload
            cases hout : w.outages .loadScript with
            | none => rw [call_of_none hout] at hload; cases hload
            | some how => rw [call_of_some hout] at hload; cases hload
      · exact ⟨_, _, rfl, rfl, .refl w⟩
  | none =>
      have hloaded : ¬ w.store.scriptLoaded = true :=
        fun hl => h ⟨heval, .inl hl⟩
      rw [evalScript_of_none heval hforced,
        MemoryStore.evalScript_of_not_loaded _ _ hloaded]
      dsimp only
      rw [if_pos (by rfl), Action.bind_apply]
      cases hout : w.outages .loadScript with
      | none => exact absurd ⟨heval, .inr hout⟩ h
      | some how =>
          rw [loadScript, call_of_some hout]
          exact ⟨_, _, rfl, rfl, .refl w⟩

end runScript

end Store

end SessionTokens
