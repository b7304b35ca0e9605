import SessionTokens.Proofs.Calls
import SessionTokens.Proofs.Cursors
import SessionTokens.Proofs.Invalidation

/-!
# An enumeration loses and repeats nothing

Whatever others set, delete or let expire between two pages, the keys up to the
one that the cursor stands for have been passed, and the keys behind it have
not. So what has been found so far is exactly what has been passed and was
there to be found, and the next page, which is taken from behind, can neither
miss a key that has stayed nor meet one again. A page of somebody else's moves
only the cursor that it presents, and cursors are not confused, because a number
is not handed out again before all the others have been.
-/

namespace SessionTokens

namespace MemoryStore

variable {s s' : MemoryStore} {now : Nat} {c : UInt64} {key : String}

/-- The enumeration that goes on with this cursor has passed the key. -/
def Passed (s : MemoryStore) (c : UInt64) (key : String) : Prop :=
  c ≠ 0 ∧ ∃ last, s.cursorKey? c = some last ∧ key ≤ last

/-- What is left are the keys that are there and have not been passed. -/
theorem mem_keys_left (h : s.IsOpen c) :
    key ∈ (s.left now c).keys ↔ key ∈ (s.live now).keys ∧ ¬ s.Passed c key := by
  rcases h with rfl | ⟨last, hlast⟩
  · rw [left, if_pos rfl]
    exact ⟨fun hkey => ⟨hkey, fun hpassed => hpassed.1 rfl⟩, And.left⟩
  · by_cases hzero : c = 0
    · rw [left, if_pos hzero]
      exact ⟨fun hkey => ⟨hkey, fun hpassed => hpassed.1 hzero⟩, And.left⟩
    · rw [left, if_neg hzero, hlast]
      dsimp only
      rw [Keyspace.mem_keys_after]
      refine and_congr_right fun _ => ⟨fun hlt hpassed => ?_, fun hnot => ?_⟩
      · obtain ⟨-, last', hlast', hle⟩ := hpassed
        cases hlast.symm.trans hlast'
        exact String.not_le.mpr hlt hle
      · exact String.not_le.mp fun hle => hnot ⟨hzero, last, hlast, hle⟩

/-- A key that has been passed comes before every key that is left. -/
theorem Passed.lt {key' : String} (h : s.Passed c key)
    (hkey' : key' ∈ (s.left now c).keys) : key < key' := by
  obtain ⟨hzero, last, hlast, hle⟩ := h
  rw [left, if_neg hzero, hlast] at hkey'
  exact Std.lt_of_le_of_lt hle (Keyspace.mem_keys_after.mp hkey').2

theorem isOpen_congr (h : c ≠ 0 → s'.cursorKey? c = s.cursorKey? c) :
    s'.IsOpen c ↔ s.IsOpen c := by
  by_cases hzero : c = 0
  · exact ⟨fun _ => .inl hzero, fun _ => .inl hzero⟩
  · rw [IsOpen, h hzero, IsOpen]

theorem passed_congr (h : c ≠ 0 → s'.cursorKey? c = s.cursorKey? c) :
    s'.Passed c key ↔ s.Passed c key :=
  and_congr_right fun hzero => by rw [h hzero]

end MemoryStore

namespace Enumeration

variable {pattern : String} {e : Enumeration}

/-! ## Whose cursors are whose -/

/-- The cursors that have been handed out are told apart: each was given to one
party, and the enumeration's own are used up, all but the one that it is to go
on with. -/
structure Numbered (e : Enumeration) : Prop where
  trails : ∀ c ∈ e.mine ++ e.others, e.store.Trails e.handedOut c
  distinct : (e.mine ++ e.others).Nodup
  current : ∀ c, e.cursor = some c → c ≠ 0 → c ∈ e.mine
  usedUp : ∀ c ∈ e.mine, e.cursor ≠ some c → e.store.cursorKey? c = none

theorem numbered_start (s : MemoryStore) (now : Nat) :
    (start s now).Numbered where
  trails := nofun
  distinct := .nil
  current := fun _ hc hzero => absurd (Option.some.inj hc).symm hzero
  usedUp := nofun

namespace Numbered

theorem ne_zero (h : e.Numbered) {c : UInt64} (hc : c ∈ e.mine) : c ≠ 0 :=
  (h.trails c (List.mem_append_left _ hc)).1

/-- A cursor that is handed out is nobody's yet. -/
theorem fresh (h : e.Numbered) (hfew : e.handedOut < MemoryStore.cursorCount)
    {s' : MemoryStore} {presented given : Option UInt64}
    (hmoves : e.store.Moves s' presented given) {c : UInt64}
    (hc : c ∈ e.mine ++ e.others) : given ≠ some c := by
  intro heq
  exact (h.trails c hc).ne_nextCursor hfew (hmoves.next c heq)

theorem trails_moves (h : e.Numbered) {s' : MemoryStore}
    {presented given : Option UInt64}
    (hmoves : e.store.Moves s' presented given) {c : UInt64}
    (hc : c ∈ e.mine ++ e.others ∨ given = some c) :
    s'.Trails (e.handedOut + given.toList.length) c := by
  have hlast := hmoves.lastCursor
  cases given with
  | none => exact (h.trails c (hc.resolve_right nofun)).same hlast
  | some d =>
      have hd := hmoves.next d rfl
      rw [hd] at hlast
      rcases hc with hc | hc
      · exact (h.trails c hc).next hlast
      · rw [← Option.some.inj hc, hd]
        exact MemoryStore.trails_nextCursor hlast

/-- A step of somebody else's confuses nothing. -/
theorem pass (h : e.Numbered) (hfew : e.handedOut < MemoryStore.cursorCount)
    (step : StoreStep) : (e.pass step).Numbered := by
  have hmoves := step.moves e.store e.now
  refine ⟨fun c hc => ?_, ?_, h.current, fun c hc hne => ?_⟩
  · have hwhose : c ∈ e.mine ++ e.others ∨
        step.given? e.store e.now = some c := by
      simpa [Enumeration.pass, or_assoc] using hc
    have hcount : (e.pass step).handedOut =
        e.handedOut + (step.given? e.store e.now).toList.length := by
      simp [handedOut, Enumeration.pass, Nat.add_assoc]
    rw [hcount]
    exact h.trails_moves hmoves hwhose
  · show (e.mine ++ (e.others ++ _)).Nodup
    cases hgiven : step.given? e.store e.now with
    | none =>
        rw [Option.toList_none, List.append_nil]
        exact h.distinct
    | some d =>
        rw [Option.toList_some, ← List.append_assoc, List.nodup_append]
        refine ⟨h.distinct, by simp, fun c hc d' hd' heq => ?_⟩
        rw [List.mem_singleton.mp hd'] at heq
        exact h.fresh hfew hmoves hc (heq ▸ hgiven)
  · exact hmoves.closed c (h.ne_zero hc)
      (h.fresh hfew hmoves (List.mem_append_left _ hc))
      (.inr (h.usedUp c hc hne))

/-- A page uses up the cursor that it is taken for. -/
theorem serve (h : e.Numbered) (hfew : e.handedOut < MemoryStore.cursorCount)
    {c : UInt64} (hc : e.cursor = some c) (count : Nat) :
    (e.serve pattern c count).Numbered := by
  have hmoves := (e.store.scanPage_page e.now pattern c count).moves
  generalize hr : e.store.scanPage e.now pattern c count = r at hmoves
  have hserve : e.serve pattern c count =
      { e with
        store := r.2
        cursor := ScanPage.next? r.1
        served := e.served ++ [⟨e.store, e.now, r.1⟩]
        mine := e.mine ++ (ScanPage.next? r.1).toList } := by
    rw [Enumeration.serve, hr]
  rw [hserve]
  refine ⟨fun d hd => ?_, ?_, fun d hd _ => ?_, fun d hd hne => ?_⟩
  · have hwhose : d ∈ e.mine ++ e.others ∨ ScanPage.next? r.1 = some d := by
      simp only [List.mem_append, Option.mem_toList] at hd ⊢
      exact or_right_comm.mp hd
    have htrails := h.trails_moves hmoves hwhose
    simp only [handedOut, List.length_append] at htrails ⊢
    rwa [Nat.add_right_comm] at htrails
  · cases hgiven : ScanPage.next? r.1 with
    | none =>
        simp only [Option.toList_none, List.append_nil]
        exact h.distinct
    | some d =>
        simp only [Option.toList_some, List.append_assoc, List.singleton_append]
        refine List.perm_middle.nodup_iff.mpr
          (List.nodup_cons.mpr ⟨fun hd => ?_, h.distinct⟩)
        exact h.fresh hfew hmoves hd hgiven
  · exact List.mem_append_right _ (Option.mem_toList.mpr hd)
  · rcases List.mem_append.mp hd with hmine | hgiven
    · refine hmoves.closed d (h.ne_zero hmine) hne ?_
      by_cases hcurrent : d = c
      · exact .inl (by rw [hcurrent])
      · refine .inr (h.usedUp d hmine fun heq => hcurrent ?_)
        exact Option.some.inj (heq.symm.trans hc)
    · exact absurd (Option.mem_toList.mp hgiven) hne

end Numbered

/-! ## What has been found -/

/-- What has been found so far is, in ascending order, what has been passed and
was there at every page. -/
structure Sound (pattern : String) (e : Enumeration) : Prop where
  replies : ∀ v ∈ e.served, ∃ page, v.reply = .ok page ∧
    ∀ key ∈ page.keys, key ∈ v.live.keys ∧ Glob.isMatch pattern key = true
  ascending : e.keys.Pairwise (· < ·)
  isOpen : ∀ c, e.cursor = some c → e.store.IsOpen c
  passed : ∀ c, e.cursor = some c → ∀ key ∈ e.keys, e.store.Passed c key
  found : ∀ key, Glob.isMatch pattern key = true →
    (∀ v ∈ e.served, key ∈ v.live.keys) →
    (∀ c, e.cursor = some c → e.store.Passed c key) → key ∈ e.keys

theorem sound_start (pattern : String) (s : MemoryStore) (now : Nat) :
    (start s now).Sound pattern where
  replies := nofun
  ascending := .nil
  isOpen := fun _ hc => .inl (Option.some.inj hc).symm
  passed := nofun
  found := fun _ _ _ hpassed => absurd rfl (hpassed 0 rfl).1

namespace Sound

/-- Others may do what they like, as long as the cursor stays. -/
theorem pass (h : e.Sound pattern) (step : StoreStep)
    (hkept : ∀ c ≠ 0, e.cursor = some c →
      (step.store e.store e.now).cursorKey? c = e.store.cursorKey? c) :
    (e.pass step).Sound pattern := by
  have hpassed : ∀ {c key}, e.cursor = some c →
      ((step.store e.store e.now).Passed c key ↔ e.store.Passed c key) :=
    fun hc => MemoryStore.passed_congr fun hzero => hkept _ hzero hc
  refine ⟨h.replies, h.ascending, fun c hc => ?_, fun c hc key hkey => ?_,
    fun key hmatch hlive hall => h.found key hmatch hlive fun c hc => ?_⟩
  · exact (MemoryStore.isOpen_congr fun hzero => hkept c hzero hc).mpr
      (h.isOpen c hc)
  · exact (hpassed hc).mpr (h.passed c hc key hkey)
  · exact (hpassed hc).mp (hall c hc)

section serve

variable {c : UInt64} {p : ScanPage}

/-- What a page finds is left, so it comes behind all that has been found. -/
theorem extend (h : e.Sound pattern) (hc : e.cursor = some c)
    (hkeys : ∀ key ∈ p.keys, key ∈ (e.store.left e.now c).keys ∧
      Glob.isMatch pattern key = true)
    (hsorted : p.keys.Pairwise (· < ·)) :
    (∀ v ∈ e.served ++ [⟨e.store, e.now, .ok p⟩], ∃ page,
        v.reply = .ok page ∧
        ∀ key ∈ page.keys, key ∈ v.live.keys ∧
          Glob.isMatch pattern key = true) ∧
      (e.keys ++ p.keys).Pairwise (· < ·) := by
  refine ⟨fun v hv => ?_, List.pairwise_append.mpr
    ⟨h.ascending, hsorted, fun key hkey key' hkey' => ?_⟩⟩
  · rcases List.mem_append.mp hv with hv | hv
    · exact h.replies v hv
    · cases List.mem_singleton.mp hv
      refine ⟨p, rfl, fun key hkey => ?_⟩
      obtain ⟨hleft, hmatch⟩ := hkeys key hkey
      exact ⟨((MemoryStore.mem_keys_left (h.isOpen c hc)).mp hleft).1, hmatch⟩
  · exact (h.passed c hc key hkey).lt (hkeys key' hkey').1

/-- A key that has been there at every page so far and at this one has been
found, or is left. -/
theorem found_or_left (h : e.Sound pattern) (hc : e.cursor = some c)
    {key : String} (hmatch : Glob.isMatch pattern key = true)
    (hlive : ∀ v ∈ e.served ++ [⟨e.store, e.now, .ok p⟩],
      key ∈ v.live.keys) :
    key ∈ e.keys ∨ key ∈ (e.store.left e.now c).keys := by
  by_cases hpassed : e.store.Passed c key
  · refine .inl (h.found key hmatch
      (fun v hv => hlive v (List.mem_append_left _ hv)) fun c' hc' => ?_)
    cases hc.symm.trans hc'
    exact hpassed
  · have hnow := hlive _ (List.mem_append_right _ (List.mem_singleton_self _))
    exact .inr ((MemoryStore.mem_keys_left (h.isOpen c hc)).mpr
      ⟨hnow, hpassed⟩)

/-- The next page adds what it finds behind what has been passed. -/
theorem serve (h : e.Sound pattern) (hc : e.cursor = some c) (count : Nat) :
    (e.serve pattern c count).Sound pattern := by
  have hpage := e.store.scanPage_page e.now pattern c count
  generalize hr : e.store.scanPage e.now pattern c count = r at hpage
  have hkeys : (e.serve pattern c count).keys =
      e.keys ++ Served.keys ⟨e.store, e.now, r.1⟩ := by
    rw [Enumeration.serve, hr, Enumeration.keys, List.flatMap_append,
      Enumeration.keys, List.flatMap_singleton]
  have hserved : (e.serve pattern c count).served =
      e.served ++ [⟨e.store, e.now, r.1⟩] := by rw [Enumeration.serve, hr]
  have hcursor : (e.serve pattern c count).cursor = ScanPage.next? r.1 := by
    rw [Enumeration.serve, hr]
  have hstore : (e.serve pattern c count).store = r.2 := by
    rw [Enumeration.serve, hr]
  cases hpage with
  | refused hnot => exact absurd (h.isOpen c hc) hnot
  | @last s' _ _ _ _ =>
      obtain ⟨hreplies, hsorted⟩ := h.extend hc
        (p := ⟨0, (e.store.left e.now c).keys.filter _⟩)
        (fun key hkey => List.mem_filter.mp hkey)
        ((Keyspace.keys_ascending _).filter _)
      have hend : (e.serve pattern c count).cursor = none := hcursor
      refine ⟨hserved ▸ hreplies, hkeys ▸ hsorted, by simp [hend],
        by simp [hend], fun key hmatch hlive _ => ?_⟩
      rw [hkeys, List.mem_append]
      exact (h.found_or_left hc hmatch (hserved ▸ hlive)).imp_right
        fun hleft => List.mem_filter.mpr ⟨hleft, hmatch⟩
  | @more s' found last _ _ _ hcursors hlast hfound hsorted =>
      obtain ⟨hreplies, hascending⟩ := h.extend hc
        (p := ⟨e.store.nextCursor, found⟩)
        (fun key hkey => by
          obtain ⟨hleft, hmatch, -⟩ := (hfound key).mp hkey
          exact ⟨hleft, hmatch⟩) hsorted
      have hne := e.store.nextCursor_ne_zero
      have hnext : (e.serve pattern c count).cursor =
          some e.store.nextCursor := hcursor.trans (if_neg hne)
      have hat : (e.serve pattern c count).store.cursorKey?
          e.store.nextCursor = some last := by
        rw [hstore, hcursors _ hne, if_pos rfl]
      refine ⟨hserved ▸ hreplies, hkeys ▸ hascending, fun d hd => ?_,
        fun d hd key hkey => ?_, fun key hmatch hlive hall => ?_⟩
      · cases hnext.symm.trans hd
        exact .inr ⟨last, hat⟩
      · cases hnext.symm.trans hd
        refine ⟨hne, last, hat, ?_⟩
        rw [hkeys, List.mem_append] at hkey
        rcases hkey with hkey | hkey
        · exact Std.le_of_lt ((h.passed c hc key hkey).lt hlast)
        · exact ((hfound key).mp hkey).2.2
      · obtain ⟨-, last', hat', hle⟩ := hall _ hnext
        cases hat.symm.trans hat'
        rw [hkeys, List.mem_append]
        exact (h.found_or_left hc hmatch (hserved ▸ hlive)).imp_right
          fun hleft => (hfound key).mpr ⟨hleft, hmatch, hle⟩

end serve

end Sound

/-! ## Any number of turns -/

theorem handedOut_le_take (e : Enumeration) (t : Turn) :
    e.handedOut ≤ (e.take pattern t).handedOut := by
  cases t with
  | page count =>
      rw [take]
      split
      · simp only [handedOut, Enumeration.serve, List.length_append]
        omega
      · exact Nat.le_refl _
  | other step =>
      simp only [handedOut, take, Enumeration.pass, List.length_append]
      omega

theorem handedOut_le_run (e : Enumeration) (turns : List Turn) :
    e.handedOut ≤ (e.run pattern turns).handedOut := by
  induction turns generalizing e with
  | nil => exact Nat.le_refl _
  | cons t ts ih => exact Nat.le_trans (handedOut_le_take e t) (ih _)

/-- One turn. -/
theorem take_sound {t : Turn} (hnumbered : e.Numbered)
    (hsound : e.Sound pattern) (hleaves : e.Leaves t)
    (hfew : e.handedOut < MemoryStore.cursorCount) :
    (e.take pattern t).Numbered ∧ (e.take pattern t).Sound pattern := by
  cases t with
  | page count =>
      cases hc : e.cursor with
      | none =>
          simp only [take, hc]
          exact ⟨hnumbered, hsound⟩
      | some c =>
          simp only [take, hc]
          exact ⟨hnumbered.serve hfew hc count, hsound.serve hc count⟩
  | other step =>
      have hmoves := step.moves e.store e.now
      refine ⟨hnumbered.pass hfew step, hsound.pass step fun c hzero hc => ?_⟩
      have hmine := hnumbered.current c hc hzero
      exact hmoves.kept c hzero
        (hnumbered.fresh hfew hmoves (List.mem_append_left _ hmine))
        (hleaves c hzero hc)

/-- All of them: the induction is on the turns, from the first. -/
theorem run_sound {turns : List Turn} (hnumbered : e.Numbered)
    (hsound : e.Sound pattern) (hundisturbed : e.Undisturbed pattern turns)
    (hfew : (e.run pattern turns).handedOut < MemoryStore.cursorCount) :
    (e.run pattern turns).Numbered ∧ (e.run pattern turns).Sound pattern := by
  induction turns generalizing e with
  | nil => exact ⟨hnumbered, hsound⟩
  | cons t ts ih =>
      obtain ⟨hleaves, hrest⟩ := hundisturbed
      have hnow : e.handedOut < MemoryStore.cursorCount :=
        Nat.lt_of_le_of_lt (handedOut_le_run e (t :: ts)) hfew
      obtain ⟨hnumbered', hsound'⟩ :=
        take_sound hnumbered hsound hleaves hnow
      exact ih hnumbered' hsound' hrest hfew

/-- Whatever happens to a store between the pages of an enumeration, as long as
nobody else goes on with its cursors and the numbers for cursors have not all
been used: every page is served, with keys that match and were there just then;
the keys ascend from the first page to the last, so none comes twice; when it
is over, every matching key that was there at all of its pages has been found;
a cursor of its that is used up is refused and nothing is touched; and no
cursor is given out twice. And with nothing in between, the pages make up the
list of all matching keys that are there, in their order. -/
theorem enumeration_exact (s : MemoryStore) (now : Nat) (pattern : String)
    (turns : List Turn) (hundisturbed : (start s now).Undisturbed pattern turns)
    (hfew : ((start s now).run pattern turns).handedOut <
      MemoryStore.cursorCount) :
    let e := (start s now).run pattern turns
    (∀ v ∈ e.served, ∃ page, v.reply = .ok page ∧
      ∀ key ∈ page.keys, key ∈ v.live.keys ∧
        Glob.isMatch pattern key = true) ∧
    e.keys.Pairwise (· < ·) ∧
    (e.cursor = none → ∀ key, Glob.isMatch pattern key = true →
      (∀ v ∈ e.served, key ∈ v.live.keys) → key ∈ e.keys) ∧
    (∀ c ∈ e.mine, e.cursor ≠ some c → ∀ pattern count,
      ∃ s', e.store.scanPage e.now pattern c count =
          (.error (.unknownCursor c), s') ∧
        s'.live e.now = e.store.live e.now) ∧
    (e.mine ++ e.others).Nodup ∧
    (∀ w : World, w.store = s → w.clock = now → w.outages .scanPage = none →
      ∀ count, ∃ w', Store.scan pattern count w =
          (.ok ((s.live now).keys.filter (Glob.isMatch pattern)), w') ∧
        ((s.live now).keys.filter (Glob.isMatch pattern)).Pairwise (· < ·) ∧
        w'.live = w.live) := by
  intro e
  obtain ⟨hnumbered, hsound⟩ := run_sound (numbered_start s now)
    (sound_start pattern s now) hundisturbed hfew
  refine ⟨hsound.replies, hsound.ascending, fun hover key hmatch hlive => ?_,
    fun c hc hne pattern' count => ?_, hnumbered.distinct,
    fun w hstore hclock hworks count => ?_⟩
  · refine hsound.found key hmatch hlive fun c hc => ?_
    cases hover.symm.trans hc
  · have hnot : ¬ e.store.IsOpen c := by
      rintro (hzero | ⟨last, hlast⟩)
      · exact hnumbered.ne_zero hc hzero
      · cases (hnumbered.usedUp c hc hne).symm.trans hlast
    exact ⟨_, e.store.scanPage_of_not_isOpen e.now pattern' c count hnot,
      MemoryStore.live_purge ..⟩
  · subst hstore hclock
    obtain ⟨w', hscan, hb⟩ := Store.scan_of_none hworks pattern count
    exact ⟨w', hscan, (Keyspace.keys_ascending _).filter _, hb.live⟩

/-- The first key is deleted when the enumeration has just looked at it, a key
is set behind its back, somebody goes on with a cursor that was left open, and
two more keys expire: the three keys are found all the same. -/
theorem enumeration_exact_crowded :
    let turns : List Turn := [
      .page 1, .other (.delete ["access:a:*:s1"]),
      .other (.scanPage "*" 7 2), .other (.set "access:a:*:a" "j" 100),
      .page 0, .other (.scanPage "*" 9 9), .other (.advance 25), .page 5]
    let e := (start World.crowded.store 10).run "access:*" turns
    (start World.crowded.store 10).Undisturbed "access:*" turns ∧
      e.handedOut < MemoryStore.cursorCount ∧ e.cursor = none ∧
      e.mine = [8, 10] ∧
      e.keys = ["access:a:*:s1", "access:a:*:x:s2", "access:a:bc:s3"] ∧
      (∀ key, Glob.isMatch "access:*" key = true →
        (∀ v ∈ e.served, key ∈ v.live.keys) → key ∈ e.keys) ∧
      ∃ s', e.store.scanPage e.now "*" 8 1 =
        (.error (.unknownCursor 8), s') := by
  intro turns e
  have hundisturbed :
      (start World.crowded.store 10).Undisturbed "access:*" turns := by
    refine ⟨trivial, fun _ _ _ => nofun, fun c _ hc heq => ?_,
      fun _ _ _ => nofun, trivial, fun c _ hc heq => ?_, fun _ _ _ => nofun,
      trivial, trivial⟩
    · cases Option.some.inj heq
      exact absurd hc (by decide +kernel)
    · cases Option.some.inj heq
      exact absurd hc (by decide +kernel)
  have hfew : e.handedOut < MemoryStore.cursorCount := by decide +kernel
  have hover : e.cursor = none := by decide +kernel
  have hmine : e.mine = [8, 10] := by decide +kernel
  obtain ⟨-, -, hall, hused, -⟩ :=
    enumeration_exact World.crowded.store 10 "access:*" turns hundisturbed hfew
  obtain ⟨s', hrefused, -⟩ := hused 8 (by rw [hmine]; decide)
    (by rw [hover]; exact nofun) "*" 1
  exact ⟨hundisturbed, hfew, hover, hmine, by decide +kernel, hall hover, s',
    hrefused⟩

end Enumeration

end SessionTokens
