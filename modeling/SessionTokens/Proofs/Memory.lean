import SessionTokens.Proofs.Keyspace
import SessionTokens.Store.Memory

/-!
# What the store's calls do to what is there

Dead entries stay in a memory store until something comes across them, so its
keyspace says more than anyone can ask for. What can be asked for is the live
part. Each lemma below gives a call's answer, and the live part after it, from
the live part before it: dropping a dead entry changes neither, and everything
else a call does is a filter or an insertion.

An enumeration needs one more idea. The keys ascend, so the entries after the
last one that a page looked at are just the rest of the list, and a cursor,
which remembers nothing but that key, stands for the rest.
-/

namespace SessionTokens

namespace Keyspace

/-- What comes after one of a keyspace's own keys is the rest of the list. -/
theorem entries_after {k : Keyspace} {l r : List (String × Entry)}
    {p : String × Entry} (h : k.entries = l ++ p :: r) :
    (k.after p.1).entries = r := by
  have hsorted := k.sorted
  rw [h, List.pairwise_append, List.pairwise_cons] at hsorted
  obtain ⟨-, ⟨hright, -⟩, hleft⟩ := hsorted
  rw [after, entries_filter, h, List.filter_append, List.filter_cons]
  have hl : l.filter (fun q => decide (p.1 < q.1)) = [] := by
    refine List.filter_eq_nil_iff.mpr fun q hq hlt => ?_
    have hqp := hleft q hq p List.mem_cons_self
    exact String.lt_irrefl _ (String.lt_trans hqp (of_decide_eq_true hlt))
  have hr : r.filter (fun q => decide (p.1 < q.1)) = r :=
    List.filter_eq_self.mpr fun q hq => decide_eq_true (hright q hq)
  rw [hl, hr, if_neg (String.lt_irrefl _ ∘ of_decide_eq_true), List.nil_append]

/-- Taking away a key that is there leaves one entry less. -/
theorem length_entries_erase {k : Keyspace} {key : String} {e : Entry}
    (h : k.get? key = some e) :
    (k.erase key).entries.length + 1 = k.entries.length := by
  obtain ⟨l, r, heq⟩ := List.append_of_mem (get?_eq_some.mp h)
  have hsorted := k.sorted
  rw [heq, List.pairwise_append, List.pairwise_cons] at hsorted
  obtain ⟨-, ⟨hright, -⟩, hleft⟩ := hsorted
  have hl : l.filter (fun q => decide (q.1 ≠ key)) = l := by
    refine List.filter_eq_self.mpr fun q hq => decide_eq_true fun hqk => ?_
    have hlt := hleft q hq (key, e) List.mem_cons_self
    exact String.lt_irrefl _ (hqk ▸ hlt)
  have hr : r.filter (fun q => decide (q.1 ≠ key)) = r := by
    refine List.filter_eq_self.mpr fun q hq => decide_eq_true fun hqk => ?_
    have hlt := hright q hq
    exact String.lt_irrefl _ (hqk ▸ hlt)
  rw [erase, entries_filter, heq, List.filter_append, List.filter_cons, hl, hr,
    if_neg (by simp)]
  simp only [List.length_append, List.length_cons]
  omega

end Keyspace

namespace MemoryStore

variable {α : Type} (s : MemoryStore) (now : Nat)

/-! ## Single steps -/

@[simp] theorem live_put (key : String) (e : Entry) :
    (s.put key e).live now = ((s.live now).insert key e).live now :=
  Keyspace.live_insert ..

@[simp] theorem live_remove (key : String) :
    (s.remove key).live now = (s.live now).erase key := Keyspace.live_erase ..

/-- Coming across a key drops at most a dead entry. -/
@[simp] theorem live_touch (key : String) :
    (s.touch now key).live now = s.live now := by
  unfold touch
  split
  · next e he =>
      split
      · rfl
      · next hdead =>
          refine Keyspace.ext_get? fun key' => ?_
          rw [live, live, Keyspace.live_erase, Keyspace.get?_erase]
          split
          · next heq =>
              rw [heq, Keyspace.get?_live, he]
              simp [Option.filter_some, hdead]
          · rfl
  · rfl

/-- After coming across a key, its entry is the live one. -/
theorem get?_touch (key : String) :
    (s.touch now key).keyspace.get? key = (s.live now).get? key := by
  rw [live, Keyspace.get?_live]
  unfold touch
  split
  · next e he =>
      rw [he]
      split
      · next hlive => simp [he, Option.filter_some, hlive]
      · next hdead => simp [Option.filter_some, hdead]
  · next he => rw [he, Option.filter_none]

@[simp] theorem scriptLoaded_touch (key : String) :
    (s.touch now key).scriptLoaded = s.scriptLoaded := by
  unfold touch
  split
  · split <;> rfl
  · rfl

/-- An earlier clock has a number for the end of a shorter lifetime. -/
theorem IsStorable.mono {now now' ttl ttl' : Nat} (h : IsStorable now ttl)
    (hnow : now' ≤ now) (httl : ttl' ≤ ttl) : IsStorable now' ttl' :=
  Nat.le_trans (Nat.div_le_div_right (Nat.add_le_add hnow httl)) h

theorem write_of_isStorable {ttl : Nat} (h : IsStorable now ttl)
    (key value : String) (reply : α) :
    s.write now key value ttl reply =
      (.ok reply, s.put key ⟨value, now + ttl⟩) := by
  simp only [write, deadline?, if_pos h]

theorem write_of_not_isStorable {ttl : Nat} (h : ¬ IsStorable now ttl)
    (key value : String) (reply : α) :
    s.write now key value ttl reply = (.outOfRange, s) := by
  simp only [write, deadline?, if_neg h]

/-! ## Calls on keys -/

theorem get_eq (key : String) :
    s.get now key =
      (.ok (((s.live now).get? key).map Entry.value), s.touch now key) := by
  rw [get, get?_touch]

theorem contains_eq (key : String) :
    s.contains now key =
      (.ok ((s.live now).get? key).isSome, s.touch now key) := by
  rw [contains, get?_touch]

theorem setIfAbsent_of_some {key : String} {e : Entry}
    (h : (s.live now).get? key = some e) (value : String) (ttl : Nat) :
    s.setIfAbsent now key value ttl = (.ok false, s.touch now key) := by
  simp only [setIfAbsent, get?_touch, h]

theorem setIfAbsent_of_none {key : String} (h : (s.live now).get? key = none)
    (value : String) (ttl : Nat) :
    s.setIfAbsent now key value ttl =
      (s.touch now key).write now key value ttl true := by
  simp only [setIfAbsent, get?_touch, h]

/-- Deleting takes away the given keys, and counts how many entries fewer there
are. -/
theorem deleteFrom_live (keys : List String) (count : Nat) :
    (s.deleteFrom now count keys).2.live now =
        (s.live now).filter (fun p => !keys.contains p.1) ∧
      (s.deleteFrom now count keys).1 +
          ((s.live now).filter fun p => !keys.contains p.1).entries.length =
        count + (s.live now).entries.length ∧
      (s.deleteFrom now count keys).2.scriptLoaded = s.scriptLoaded := by
  induction keys generalizing s count with
  | nil =>
      have hall :
          (s.live now).filter (fun p => !([] : List String).contains p.1) =
          s.live now := Keyspace.ext_entries (List.filter_eq_self.mpr (by simp))
      exact ⟨hall.symm, by rw [hall]; rfl, rfl⟩
  | cons key keys ih =>
      have hstep : (s.live now).filter (fun p => !(key :: keys).contains p.1) =
          ((s.live now).erase key).filter fun p => !keys.contains p.1 := by
        apply Keyspace.ext_entries
        rw [Keyspace.erase, Keyspace.entries_filter, Keyspace.entries_filter,
          Keyspace.entries_filter, List.filter_filter]
        refine List.filter_congr fun p _ => ?_
        by_cases hp : p.1 = key <;> simp [hp]
      rw [hstep]
      simp only [deleteFrom, get?_touch]
      cases hkey : (s.live now).get? key with
      | some e =>
          dsimp only
          obtain ⟨hl, hn, hs⟩ := ih ((s.touch now key).remove key) (count + 1)
          simp only [live_remove, live_touch] at hl hn hs
          refine ⟨hl, ?_, hs.trans (scriptLoaded_touch ..)⟩
          have hlen := Keyspace.length_entries_erase hkey
          omega
      | none =>
          obtain ⟨hl, hn, hs⟩ := ih (s.touch now key) count
          have herase : (s.live now).erase key = s.live now := by
            refine Keyspace.ext_get? fun key' => ?_
            rw [Keyspace.get?_erase]
            split
            · next heq => rw [heq, hkey]
            · rfl
          rw [live_touch] at hl hn
          rw [herase]
          exact ⟨hl, hn, hs.trans (scriptLoaded_touch ..)⟩

/-! ## The rotation script -/

section rotate

variable {refreshKey usedKey expected : String} {fence : Nat}

theorem rotate_of_used {e : Entry} (h : (s.live now).get? usedKey = some e) :
    s.rotate now refreshKey usedKey expected fence =
      (.ok reused, s.touch now usedKey) := by
  simp only [rotate, get?_touch, h]

theorem rotate_of_stale (hused : (s.live now).get? usedKey = none)
    (hrefresh :
      ((s.live now).get? refreshKey).map Entry.value ≠ some expected) :
    s.rotate now refreshKey usedKey expected fence =
      (.ok invalid, (s.touch now usedKey).touch now refreshKey) := by
  simp only [rotate, get?_touch, hused, live_touch, hrefresh, if_false]

theorem rotate_of_fresh (hused : (s.live now).get? usedKey = none)
    (hrefresh : ((s.live now).get? refreshKey).map Entry.value = some expected)
    (hfence : IsStorable now (fence * 1000)) :
    s.rotate now refreshKey usedKey expected fence =
      (.ok rotated,
        (((s.touch now usedKey).touch now refreshKey).put usedKey
          ⟨"used", now + fence * 1000⟩).remove refreshKey) := by
  simp only [rotate, get?_touch, hused, live_touch, hrefresh, if_true,
    write_of_isStorable _ _ hfence]

theorem rotate_of_fresh_of_not_isStorable
    (hused : (s.live now).get? usedKey = none)
    (hrefresh : ((s.live now).get? refreshKey).map Entry.value = some expected)
    (hfence : ¬ IsStorable now (fence * 1000)) :
    s.rotate now refreshKey usedKey expected fence =
      (.outOfRange, (s.touch now usedKey).touch now refreshKey) := by
  simp only [rotate, get?_touch, hused, live_touch, hrefresh, if_true,
    write_of_not_isStorable _ _ hfence]

theorem rotate_ne_error (e : ServiceError) :
    (s.rotate now refreshKey usedKey expected fence).1 ≠ .error e := by
  by_cases hfence : IsStorable now (fence * 1000) <;>
  · simp only [rotate]
    split
    · exact nofun
    · split
      · first
        | rw [write_of_isStorable _ _ hfence]
        | rw [write_of_not_isStorable _ _ hfence]
        exact nofun
      · exact nofun

theorem evalScript_of_not_loaded (h : ¬ s.scriptLoaded = true)
    (keys args : List String) :
    s.evalScript now keys args = (.error .scriptNotRegistered, s) := by
  unfold evalScript
  rw [if_neg h]

end rotate

/-! ## Pages -/

theorem cursorKey?_closeCursor (cursor c : UInt64) :
    (s.closeCursor cursor).cursorKey? c =
      if c = cursor then none else s.cursorKey? c := by
  rw [cursorKey?, closeCursor, List.find?_filter]
  split
  · next heq =>
      rw [heq, Option.map_eq_none_iff, List.find?_eq_none]
      simp
  · next hne =>
      congr 2
      funext p
      by_cases hp : p.1 = c <;> simp [hp, hne]

theorem cursorKey?_openCursor_of_ne {c : UInt64} (h : c ≠ s.nextCursor)
    (key : String) : (s.openCursor key).cursorKey? c = s.cursorKey? c := by
  have hclose := s.cursorKey?_closeCursor s.nextCursor c
  rw [if_neg h] at hclose
  rw [← hclose, cursorKey?, openCursor, List.find?_cons_of_neg]
  · rfl
  · simp [Ne.symm h]

/-- A page gives the matches among the entries it looked at. It ends with
cursor zero if those were all, and otherwise with a cursor for the rest, of
which there is less. -/
theorem page_spec (pattern : String) (count : Nat) (left : Keyspace) :
    (s.page pattern count left =
      (.ok ⟨0, left.keys.filter (Glob.isMatch pattern)⟩, s)) ∨
    ∃ found last, s.page pattern count left =
        (.ok ⟨s.nextCursor, found⟩, s.openCursor last) ∧
      (∃ e, (last, e) ∈ left.entries) ∧
      (left.after last).entries.length < left.entries.length ∧
      left.keys.filter (Glob.isMatch pattern) =
        found ++ (left.after last).keys.filter (Glob.isMatch pattern) := by
  have hpos : 0 < max count 1 := by omega
  generalize hn : max count 1 = n at hpos
  -- The entries looked at, with the last one apart from the others.
  rcases List.eq_nil_or_concat (left.entries.take n) with hnil | ⟨l, p, hl⟩
  · have hempty : left.keys = [] := by
      have hlen := congrArg List.length hnil
      rw [List.length_take, List.length_nil] at hlen
      have hzero : left.entries.length = 0 := by omega
      rw [Keyspace.keys, List.length_eq_zero_iff.mp hzero, List.map_nil]
    exact .inl (by simp [page, hempty])
  · have hsplit : left.entries = l ++ p :: left.entries.drop n := by
      calc left.entries = left.entries.take n ++ left.entries.drop n :=
            (List.take_append_drop ..).symm
        _ = l ++ p :: left.entries.drop n := by rw [hl]; simp
    have hrest := Keyspace.entries_after hsplit
    have hlooked : left.keys.take n = l.map (·.1) ++ [p.1] := by
      rw [Keyspace.keys, ← List.map_take, hl]
      simp
    have hkeys : left.keys =
        (l.map (·.1) ++ [p.1]) ++ (left.after p.1).keys := by
      have hmap := congrArg (List.map (·.1)) hsplit
      rw [← hrest] at hmap
      simpa [Keyspace.keys] using hmap
    have hpage : s.page pattern count left =
        if (left.after p.1).entries.isEmpty then
          (.ok ⟨0, (l.map (·.1) ++ [p.1]).filter (Glob.isMatch pattern)⟩, s)
        else (.ok ⟨s.nextCursor,
          (l.map (·.1) ++ [p.1]).filter (Glob.isMatch pattern)⟩,
          s.openCursor p.1) := by
      simp only [page, hn, hlooked, List.getLast?_concat]
    by_cases hend : (left.after p.1).entries.isEmpty
    · rw [if_pos hend] at hpage
      refine .inl (hpage.trans ?_)
      rw [hkeys, Keyspace.keys, List.isEmpty_iff.mp hend]
      simp
    · rw [if_neg hend] at hpage
      refine .inr ⟨_, p.1, hpage, ⟨p.2, by rw [hsplit]; simp⟩, ?_, ?_⟩
      · have hlen := congrArg List.length hsplit
        rw [List.length_append, List.length_cons, ← hrest] at hlen
        omega
      · rw [hkeys, List.filter_append]

/-- A cursor to go on from. -/
def IsOpen (cursor : UInt64) : Prop :=
  cursor = 0 ∨ ∃ last, s.cursorKey? cursor = some last

variable (pattern : String) (cursor : UInt64) (count : Nat)

theorem scanPage_of_not_isOpen (h : ¬ s.IsOpen cursor) :
    s.scanPage now pattern cursor count =
      (.error (.unknownCursor cursor), s.purge now) := by
  have hne : cursor ≠ 0 := fun hzero => h (.inl hzero)
  have hnone : (s.purge now).cursorKey? cursor = none := by
    rw [Option.eq_none_iff_forall_ne_some]
    exact fun last hlast => h (.inr ⟨last, hlast⟩)
  simp only [scanPage, if_neg hne, hnone]

/-- A page is taken off what is left, from a store that is the same but for its
cursors and its dead entries. -/
theorem scanPage_of_isOpen (h : s.IsOpen cursor) :
    ∃ s₁ : MemoryStore, s₁.keyspace = s.live now ∧
      s₁.scriptLoaded = s.scriptLoaded ∧
      s.scanPage now pattern cursor count =
        s₁.page pattern count (s.left now cursor) ∧
      s₁.lastCursor = s.lastCursor ∧
      ∀ c ≠ 0, s₁.cursorKey? c =
        if c = cursor then none else s.cursorKey? c := by
  by_cases hzero : cursor = 0
  · refine ⟨s.purge now, rfl, rfl, ?_, rfl, fun c hc => ?_⟩
    · simp only [scanPage, left, if_pos hzero]
      rfl
    · rw [if_neg (hzero ▸ hc)]
      rfl
  · obtain ⟨last, hlast⟩ := h.resolve_left hzero
    have hcursor : (s.purge now).cursorKey? cursor = some last := hlast
    refine ⟨(s.purge now).closeCursor cursor, rfl, rfl, ?_, rfl, fun c _ =>
      (s.purge now).cursorKey?_closeCursor cursor c⟩
    simp only [scanPage, left, if_neg hzero, hcursor, hlast]
    rfl

/-- The rest behind a key that is left is the rest of what is left. -/
theorem after_left {last : String} {e : Entry}
    (h : (last, e) ∈ (s.left now cursor).entries) :
    (s.live now).after last = (s.left now cursor).after last := by
  unfold left at h ⊢
  split at h
  · next hzero => rw [if_pos hzero]
  · next hne =>
      rw [if_neg hne]
      split at h
      · cases h
      · exact (Keyspace.after_after (Keyspace.lt_fst_of_mem_after h)).symm

/-- One page: either the last, with all matches that are left, or one with a
cursor for the rest, of which there is less. -/
theorem scanPage_spec (h : s.IsOpen cursor) :
    ∃ page s', s.scanPage now pattern cursor count = (.ok page, s') ∧
      s'.live now = s.live now ∧ s'.scriptLoaded = s.scriptLoaded ∧
      ((page.cursor = 0 ∧ page.keys =
          (s.left now cursor).keys.filter (Glob.isMatch pattern)) ∨
        (page.cursor ≠ 0 ∧ s'.IsOpen page.cursor ∧
          (s'.left now page.cursor).entries.length <
            (s.left now cursor).entries.length ∧
          (s.left now cursor).keys.filter (Glob.isMatch pattern) =
            page.keys ++ (s'.left now page.cursor).keys.filter
              (Glob.isMatch pattern))) := by
  obtain ⟨s₁, hspace, hscript, hscan, -⟩ :=
    s.scanPage_of_isOpen now pattern cursor count h
  have hlive : s₁.live now = s.live now := by
    rw [live, hspace]
    exact Keyspace.live_self ..
  rw [hscan]
  rcases s₁.page_spec pattern count (s.left now cursor) with
    heq | ⟨found, last, heq, ⟨e, hmem⟩, hlt, hfound⟩
  · exact ⟨_, _, heq, hlive, hscript, .inl ⟨rfl, rfl⟩⟩
  · have hrest : (s₁.openCursor last).left now s₁.nextCursor =
        (s.left now cursor).after last := by
      rw [left_openCursor, hlive, after_left s now cursor hmem]
    refine ⟨_, _, heq, hlive, hscript, .inr ⟨s₁.nextCursor_ne_zero,
      .inr ⟨last, s₁.cursorKey?_openCursor last⟩, ?_, ?_⟩⟩
    · rw [hrest]
      exact hlt
    · rw [hrest]
      exact hfound

end MemoryStore

end SessionTokens
