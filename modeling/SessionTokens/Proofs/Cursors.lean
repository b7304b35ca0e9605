import SessionTokens.Proofs.Memory
import SessionTokens.Store.Enumeration

/-!
# Cursors

A cursor stands for a key, the last one that was looked at, and for nothing
else about the store. The next page goes on behind that key, and the key itself
may be gone by then; it is only compared with.

Cursors are numbers counted up, and around, so one that has been handed out
comes up again only after all the others have. Until then nobody else is given
it, and once it has been used it is good for nothing. All other calls leave the
cursors alone.
-/

namespace SessionTokens

namespace Keyspace

variable {k : Keyspace} {key last : String}

theorem keys_ascending (k : Keyspace) : k.keys.Pairwise (· < ·) :=
  List.pairwise_map.mpr k.sorted

theorem mem_keys_after :
    key ∈ (k.after last).keys ↔ key ∈ k.keys ∧ last < key := by
  simp only [keys, after, entries_filter, List.mem_map, List.mem_filter,
    decide_eq_true_eq]
  constructor
  · rintro ⟨p, ⟨hp, hlt⟩, rfl⟩
    exact ⟨⟨p, hp, rfl⟩, hlt⟩
  · rintro ⟨⟨p, hp, rfl⟩, hlt⟩
    exact ⟨p, ⟨hp, hlt⟩, rfl⟩

/-- What a page has found is what it has looked at, up to its last key. -/
theorem mem_of_split {p : String → Bool} {found : List String}
    (h : k.keys.filter p = found ++ (k.after last).keys.filter p) :
    key ∈ found ↔ key ∈ k.keys ∧ p key = true ∧ key ≤ last := by
  have hsorted := k.keys_ascending.filter p
  rw [h, List.pairwise_append] at hsorted
  have hall : key ∈ k.keys ∧ p key = true ↔
      key ∈ found ∨ (key ∈ k.keys ∧ last < key) ∧ p key = true := by
    rw [← List.mem_filter, h, List.mem_append, List.mem_filter, mem_keys_after]
  constructor
  · intro hfound
    obtain ⟨hkey, hp⟩ := hall.mpr (.inl hfound)
    refine ⟨hkey, hp, String.not_lt.mp fun hlt => ?_⟩
    have hrest : key ∈ (k.after last).keys.filter p :=
      List.mem_filter.mpr ⟨mem_keys_after.mpr ⟨hkey, hlt⟩, hp⟩
    exact String.lt_irrefl _ (hsorted.2.2 key hfound key hrest)
  · rintro ⟨hkey, hp, hle⟩
    rcases hall.mp ⟨hkey, hp⟩ with hfound | ⟨⟨-, hlt⟩, -⟩
    · exact hfound
    · exact absurd hle (String.not_le.mpr hlt)

end Keyspace

namespace MemoryStore

variable {s s' s'' : MemoryStore} {now : Nat}

/-! ## Calls that leave the cursors alone -/

/-- The cursors are as they were. -/
structure SameCursors (s s' : MemoryStore) : Prop where
  cursors : s'.cursors = s.cursors
  lastCursor : s'.lastCursor = s.lastCursor

namespace SameCursors

theorem refl (s : MemoryStore) : SameCursors s s := ⟨rfl, rfl⟩

theorem trans (h : SameCursors s s') (h' : SameCursors s' s'') :
    SameCursors s s'' :=
  ⟨h'.cursors.trans h.cursors, h'.lastCursor.trans h.lastCursor⟩

theorem cursorKey? (h : SameCursors s s') (c : UInt64) :
    s'.cursorKey? c = s.cursorKey? c := by
  rw [MemoryStore.cursorKey?, MemoryStore.cursorKey?, h.cursors]

theorem touch (s : MemoryStore) (now : Nat) (key : String) :
    SameCursors s (s.touch now key) := by
  unfold MemoryStore.touch
  split
  · split <;> exact ⟨rfl, rfl⟩
  · exact refl s

theorem remove (s : MemoryStore) (key : String) :
    SameCursors s (s.remove key) := ⟨rfl, rfl⟩

theorem write {α : Type} (s : MemoryStore) (now : Nat) (key value : String)
    (ttl : Nat) (reply : α) :
    SameCursors s (s.write now key value ttl reply).2 := by
  unfold MemoryStore.write
  split <;> exact ⟨rfl, rfl⟩

theorem deleteFrom (s : MemoryStore) (now count : Nat) (keys : List String) :
    SameCursors s (s.deleteFrom now count keys).2 := by
  induction keys generalizing s count with
  | nil => exact refl s
  | cons key keys ih =>
      have htouch := touch s now key
      simp only [MemoryStore.deleteFrom]
      split
      · exact htouch.trans ((remove _ key).trans (ih _ _))
      · exact htouch.trans (ih _ _)

theorem setIfAbsent (s : MemoryStore) (now : Nat) (key value : String)
    (ttl : Nat) : SameCursors s (s.setIfAbsent now key value ttl).2 := by
  simp only [MemoryStore.setIfAbsent]
  split
  · exact touch s now key
  · exact (touch s now key).trans (write ..)

theorem expire (s : MemoryStore) (now : Nat) (key : String) (ttl : Nat) :
    SameCursors s (s.expire now key ttl).2 := by
  simp only [MemoryStore.expire]
  split
  · exact touch s now key
  · exact (touch s now key).trans (write ..)

theorem rotate (s : MemoryStore) (now : Nat)
    (refreshKey usedKey expected : String) (fence : Nat) :
    SameCursors s (s.rotate now refreshKey usedKey expected fence).2 := by
  simp only [MemoryStore.rotate]
  split
  · exact touch s now usedKey
  · have htouch := (touch s now usedKey).trans (touch _ now refreshKey)
    split
    · have hwrite := htouch.trans (write ((s.touch now usedKey).touch now
        refreshKey) now usedKey "used" (fence * 1000) rotated)
      split
      · next heq =>
          rw [heq] at hwrite
          exact hwrite.trans (remove ..)
      · exact hwrite
    · exact htouch

theorem evalScript (s : MemoryStore) (now : Nat) (keys args : List String) :
    SameCursors s (s.evalScript now keys args).2 := by
  unfold MemoryStore.evalScript
  split
  · split
    · split
      · split
        · exact rotate ..
        · exact refl s
      · exact refl s
    · exact refl s
  · exact refl s

end SameCursors

end MemoryStore

/-- Only pages concern cursors. -/
theorem StoreStep.sameCursors (s : MemoryStore) (now : Nat) (step : StoreStep)
    (h : ∀ pattern cursor count, step ≠ .scanPage pattern cursor count) :
    s.SameCursors (step.store s now) := by
  cases step with
  | get key => exact .touch s now key
  | set key value ttl => exact .write s now key value ttl ()
  | setIfAbsent key value ttl => exact .setIfAbsent s now key value ttl
  | delete keys => exact .deleteFrom s now 0 keys
  | contains key => exact .touch s now key
  | expire key ttl => exact .expire s now key ttl
  | ttlRemaining key => exact .touch s now key
  | scanPage pattern cursor count => exact absurd rfl (h pattern cursor count)
  | evalScript keys args => exact .evalScript s now keys args
  | _ => exact ⟨rfl, rfl⟩

namespace MemoryStore

variable {s : MemoryStore} {now : Nat} {pattern : String} {cursor : UInt64}

/-! ## How a page ends -/

/-- The page for a cursor is refused, is the last one, or ends with a cursor
that has just been handed out for the last key it looked at. The cursor that
was presented is closed, and the others are as they were. -/
inductive Page (s : MemoryStore) (now : Nat) (pattern : String)
    (cursor : UInt64) : Reply ScanPage → Prop
  | refused : ¬ s.IsOpen cursor →
      Page s now pattern cursor
        (.error (.unknownCursor cursor), s.purge now)
  | last {s' : MemoryStore} : s.IsOpen cursor →
      s'.live now = s.live now → s'.lastCursor = s.lastCursor →
      (∀ c ≠ 0, s'.cursorKey? c =
        if c = cursor then none else s.cursorKey? c) →
      Page s now pattern cursor
        (.ok ⟨0, (s.left now cursor).keys.filter (Glob.isMatch pattern)⟩, s')
  | more {s' : MemoryStore} {found : List String} {last : String} :
      s.IsOpen cursor →
      s'.live now = s.live now → s'.lastCursor = s.nextCursor →
      (∀ c ≠ 0, s'.cursorKey? c =
        if c = s.nextCursor then some last
        else if c = cursor then none else s.cursorKey? c) →
      last ∈ (s.left now cursor).keys →
      (∀ key, key ∈ found ↔ key ∈ (s.left now cursor).keys ∧
        Glob.isMatch pattern key = true ∧ key ≤ last) →
      found.Pairwise (· < ·) →
      Page s now pattern cursor (.ok ⟨s.nextCursor, found⟩, s')

theorem scanPage_page (s : MemoryStore) (now : Nat) (pattern : String)
    (cursor : UInt64) (count : Nat) :
    Page s now pattern cursor (s.scanPage now pattern cursor count) := by
  by_cases hopen : s.IsOpen cursor
  · obtain ⟨s₁, hspace, -, hscan, hlast, hcursors⟩ :=
      s.scanPage_of_isOpen now pattern cursor count hopen
    have hlive : s₁.live now = s.live now := by
      rw [live, hspace]
      exact Keyspace.live_self ..
    have hnext : s₁.nextCursor = s.nextCursor := by
      rw [nextCursor, nextCursor, hlast]
    rw [hscan]
    rcases s₁.page_spec pattern count (s.left now cursor) with
      heq | ⟨found, last, heq, ⟨e, hmem⟩, -, hfound⟩
    · rw [heq]
      exact .last hopen hlive hlast hcursors
    · have hsorted := (s.left now cursor).keys_ascending.filter
        (Glob.isMatch pattern)
      rw [hfound, List.pairwise_append] at hsorted
      rw [heq, hnext]
      refine .more hopen hlive hnext (fun c hc => ?_)
        (List.mem_map.mpr ⟨_, hmem, rfl⟩)
        (fun key => Keyspace.mem_of_split hfound) hsorted.1
      split
      · next hc => rw [hc, ← hnext, cursorKey?_openCursor]
      · next hc' =>
          rw [s₁.cursorKey?_openCursor_of_ne (hnext ▸ hc'), hcursors c hc]
  · rw [s.scanPage_of_not_isOpen now pattern cursor count hopen]
    exact .refused hopen

/-! ## What a step does to the cursors -/

/-- A step opens at most one cursor, the next number, and closes at most the
one that it presents. -/
structure Moves (s s' : MemoryStore) (presented given : Option UInt64) :
    Prop where
  next : ∀ c, given = some c → c = s.nextCursor
  lastCursor : s'.lastCursor = given.getD s.lastCursor
  kept : ∀ c ≠ 0, given ≠ some c → presented ≠ some c →
    s'.cursorKey? c = s.cursorKey? c
  closed : ∀ c ≠ 0, given ≠ some c →
    presented = some c ∨ s.cursorKey? c = none → s'.cursorKey? c = none

theorem Page.moves {r : Reply ScanPage} (h : Page s now pattern cursor r) :
    s.Moves r.2 (some cursor) (ScanPage.next? r.1) := by
  cases h with
  | refused hnot =>
      refine ⟨nofun, rfl, fun c _ _ _ => rfl, fun c hc _ hor => ?_⟩
      rcases hor with hpresented | hnone
      · cases hpresented
        exact Option.eq_none_iff_forall_ne_some.mpr
          fun last hlast => hnot (.inr ⟨last, hlast⟩)
      · exact hnone
  | @last s' hopen hlive hlast hcursors =>
      refine ⟨nofun, hlast, fun c hc _ hne => ?_, fun c hc _ hor => ?_⟩
      · rw [hcursors c hc, if_neg fun heq : c = cursor => hne (by rw [heq])]
      · rw [hcursors c hc]
        split
        · rfl
        · next hne =>
            exact hor.resolve_left fun heq => hne (Option.some.inj heq).symm
  | @more s' found last hopen hlive hlast hcursors _ _ _ =>
      have hnext : ScanPage.next? (.ok ⟨s.nextCursor, found⟩) =
          some s.nextCursor := if_neg s.nextCursor_ne_zero
      rw [hnext]
      refine ⟨fun c heq => (Option.some.inj heq).symm, hlast,
        fun c hc hgiven hne => ?_, fun c hc hgiven hor => ?_⟩
      · rw [hcursors c hc,
          if_neg fun heq : c = s.nextCursor => hgiven (by rw [heq]),
          if_neg fun heq : c = cursor => hne (by rw [heq])]
      · rw [hcursors c hc,
          if_neg fun heq : c = s.nextCursor => hgiven (by rw [heq])]
        split
        · rfl
        · next hne =>
            exact hor.resolve_left fun heq => hne (Option.some.inj heq).symm

end MemoryStore

theorem StoreStep.moves (s : MemoryStore) (now : Nat) (step : StoreStep) :
    s.Moves (step.store s now) step.presented? (step.given? s now) := by
  by_cases hscan : ∃ pattern cursor count,
      step = .scanPage pattern cursor count
  · obtain ⟨pattern, cursor, count, rfl⟩ := hscan
    exact (s.scanPage_page now pattern cursor count).moves
  · have hsame := step.sameCursors s now fun pattern cursor count heq =>
      hscan ⟨pattern, cursor, count, heq⟩
    have hnone : step.presented? = none ∧ step.given? s now = none := by
      cases step with
      | scanPage pattern cursor count => exact absurd ⟨_, _, _, rfl⟩ hscan
      | _ => exact ⟨rfl, rfl⟩
    rw [hnone.1, hnone.2]
    refine ⟨nofun, hsame.lastCursor, fun c _ _ _ => hsame.cursorKey? c,
      fun c _ _ hor => ?_⟩
    rw [hsame.cursorKey?]
    exact hor.resolve_left nofun

namespace MemoryStore

variable {s s' : MemoryStore} {n : Nat} {c : UInt64}
  {presented given : Option UInt64}

/-! ## Fresh numbers -/

/-- How many cursors there are. -/
def cursorCount : Nat := 0xFFFFFFFFFFFFFFFF

/-- The cursor has been handed out, and fewer than so many since. -/
def Trails (s : MemoryStore) (n : Nat) (c : UInt64) : Prop :=
  c ≠ 0 ∧ ∃ j < n, s.lastCursor.toNat = (c.toNat - 1 + j) % cursorCount + 1

theorem toNat_nextCursor (s : MemoryStore) :
    s.nextCursor.toNat = s.lastCursor.toNat % cursorCount + 1 := by
  have hlt : s.lastCursor.toNat < 2 ^ 64 := s.lastCursor.toNat_lt
  have hadd : (s.lastCursor + 1).toNat = (s.lastCursor.toNat + 1) % 2 ^ 64 :=
    UInt64.toNat_add s.lastCursor 1
  unfold nextCursor cursorCount
  split
  · next hzero =>
      rw [hzero] at hadd
      have hone : (1 : UInt64).toNat = 1 := rfl
      have hnone : (0 : UInt64).toNat = 0 := rfl
      omega
  · next hne =>
      have hpos : (s.lastCursor + 1).toNat ≠ 0 := fun hzero =>
        hne (UInt64.toNat_inj.mp hzero)
      omega

/-- The cursor that has just been handed out is the freshest. -/
theorem trails_nextCursor (h : s'.lastCursor = s.nextCursor) :
    s'.Trails (n + 1) s.nextCursor := by
  refine ⟨s.nextCursor_ne_zero, 0, Nat.succ_pos n, ?_⟩
  have hnext := s.toNat_nextCursor
  rw [h]
  unfold cursorCount at *
  omega

namespace Trails

theorem next (h : s.Trails n c) (hl : s'.lastCursor = s.nextCursor) :
    s'.Trails (n + 1) c := by
  obtain ⟨hc, j, hj, hlast⟩ := h
  refine ⟨hc, j + 1, Nat.succ_lt_succ hj, ?_⟩
  have hnext := s.toNat_nextCursor
  rw [hl]
  unfold cursorCount at *
  omega

theorem same (h : s.Trails n c) (hl : s'.lastCursor = s.lastCursor) :
    s'.Trails n c := by
  rw [Trails, hl]
  exact h

/-- It is not handed out again before all the others have been. -/
theorem ne_nextCursor (h : s.Trails n c) (hn : n < cursorCount) :
    c ≠ s.nextCursor := by
  obtain ⟨hc, j, hj, hlast⟩ := h
  intro heq
  have hnext := s.toNat_nextCursor
  have hlt : c.toNat < 2 ^ 64 := c.toNat_lt
  rw [← heq] at hnext
  unfold cursorCount at *
  omega

end Trails

end MemoryStore

end SessionTokens
