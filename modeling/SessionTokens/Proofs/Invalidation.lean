import SessionTokens.Proofs.Identifiers
import SessionTokens.Proofs.Sweep

/-!
# Ending all sessions of a subject, to the entry

A subject may be any text, and the keys of other subjects may begin like its
own; the store may hold dead entries and cursors that someone left open. What
a sweep that meets no failure takes is still exactly the subject's session
keys, because a key that follows the pattern is put to the ownership test
before it is removed, and the test asks for a plain identifier behind the
lead. The sweep counts what it takes, so the count is the number of those
keys, and doing it again finds none.
-/

namespace SessionTokens

namespace Keyspace

variable (k : Keyspace) (sub : String)

theorem get?_withoutSessions {key : String} {e : Entry} :
    (k.withoutSessions sub).get? key = some e ↔
      k.get? key = some e ∧ ¬ ∃ ns ∈ Namespace.session, ∃ id,
        Key.IsPlain id ∧ key = Key.make ns.name sub id := by
  rw [withoutSessions, get?_filter_eq_some, ← Key.isSessionKeyOf_iff]
  simp

theorem withoutSessions_withoutSessions :
    (k.withoutSessions sub).withoutSessions sub = k.withoutSessions sub := by
  apply ext_entries
  simp only [withoutSessions, entries_filter, List.filter_filter, Bool.and_self]

/-- The keys without an entry any more are the ones that were taken away. -/
theorem length_filter_isNone (p : String × Entry → Bool) :
    (k.keys.filter fun key => ((k.filter p).get? key).isNone).length +
      (k.filter p).entries.length = k.entries.length := by
  have hgone : ∀ x ∈ k.entries,
      ((fun key => ((k.filter p).get? key).isNone) ∘ (·.1)) x = !p x := by
    intro x hx
    have hkey : k.get? x.1 = some x.2 := get?_eq_some.mpr hx
    rw [Function.comp_apply, get?_filter, hkey]
    cases hp : p (x.1, x.2) <;> simp [hp]
  rw [keys, List.filter_map, List.length_map, entries_filter,
    List.filter_congr hgone]
  have hsplit := List.length_eq_countP_add_countP p (l := k.entries)
  simp only [List.countP_eq_length_filter, Bool.not_eq_true,
    Bool.decide_eq_false] at hsplit
  omega

end Keyspace

/-- The session keys of a subject are gone, and nothing else is. -/
def World.LosesSessions (w : World) (sub : String) (w' : World) : Prop :=
  ∀ key e, w'.live.get? key = some e ↔
    w.live.get? key = some e ∧ ¬ ∃ ns ∈ Namespace.session, ∃ id,
      Key.IsPlain id ∧ key = Key.make ns.name sub id

theorem World.losesSessions_of_live {w w' : World} {sub : String}
    (h : w'.live = w.live.withoutSessions sub) : w.LosesSessions sub w' := by
  intro key e
  rw [h]
  exact Keyspace.get?_withoutSessions w.live sub

namespace Service

variable (svc : Service) (sub : String) {w : World}

theorem invalidateAll_of_sweepable (h : w.Sweepable) :
    ∃ n w', svc.invalidateAll sub w = (.ok n, w') ∧
      w.Becomes (w.live.withoutSessions sub) w' ∧
      n + w'.live.entries.length = w.live.entries.length := by
  obtain ⟨swept, w', hsweep, hw', hgood, -⟩ := svc.sweep_spec sub w
  obtain ⟨hfailure, hcount⟩ := hgood h
  have hswept : w.swept sub = w.live.withoutSessions sub := if_pos h
  rw [hswept] at hw'
  refine ⟨swept.removed, w', ?_, hw', hcount⟩
  rw [invalidateAll, Action.bind_apply, hsweep]
  simp only [hfailure]
  rfl

/-- As long as the store can enumerate and remove keys, ending all sessions of
a subject goes through. It leaves exactly the entries whose keys are not made
of a session namespace, the subject and a plain identifier, with their values
and deadlines; it gives the number of keys that are gone; and nothing is left
for another call. -/
theorem invalidateAll_exact (h : w.Sweepable) :
    ∃ n w', svc.invalidateAll sub w = (.ok n, w') ∧
      w' = { w with store := w'.store } ∧
      (∀ key e, w'.live.get? key = some e ↔
        w.live.get? key = some e ∧ ¬ ∃ ns ∈ Namespace.session, ∃ id,
          Key.IsPlain id ∧ key = Key.make ns.name sub id) ∧
      n = (w.live.keys.filter fun key => (w'.live.get? key).isNone).length ∧
      ∃ w'', svc.invalidateAll sub w' = (.ok 0, w'') ∧
        w''.live = w'.live := by
  obtain ⟨n, w', hcall, hw', hn⟩ := svc.invalidateAll_of_sweepable sub h
  obtain ⟨n', w'', hagain, hw'', hn'⟩ :=
    svc.invalidateAll_of_sweepable sub (hw'.sweepable.mpr h)
  have hlive : w''.live = w'.live := by
    rw [hw''.live, hw'.live, Keyspace.withoutSessions_withoutSessions]
  have hnone : n' = 0 := by
    rw [hlive] at hn'
    omega
  refine ⟨n, w', hcall, hw'.rest, fun key e => ?_, ?_, w'', hnone ▸ hagain,
    hlive⟩
  · rw [hw'.live]
    exact Keyspace.get?_withoutSessions w.live sub
  · have hgone := w.live.length_filter_isNone
      fun p => !Key.isSessionKeyOf sub p.1
    have hleft : w'.live = w.live.filter
        fun p => !Key.isSessionKeyOf sub p.1 := hw'.live
    rw [← hleft] at hgone
    omega

end Service

/-! ## A crowded store -/

/-- A store with the keys of a subject and of two whose names begin like its
own, one dead entry and a cursor that was left open. -/
def World.crowded : World :=
  let entries : List (String × Entry) := [
    ("access:a:*:s1", ⟨"j1", 20⟩),
    ("refresh:a:*:s1", ⟨"j2", 5⟩),
    ("family:a:*:f1", ⟨Key.familyMark, 20⟩),
    ("redeemed:a:*:d1", ⟨Key.redeemedMark, 20⟩),
    ("access:a:*:x:s2", ⟨"j3", 30⟩),
    ("access:a:bc:s3", ⟨"j4", 40⟩)]
  let space := entries.foldl (fun k p => k.insert p.1 p.2) .empty
  { World.initial 0 with
    store := ⟨space, false, [(7, "access:a:*:s1")], 7⟩
    clock := 10 }

/-- A batch size of zero will do. -/
def Service.unbatched : Service := { Service.trial with batchSize := 0 }

theorem Service.invalidateAll_exact_crowded :
    World.crowded.Sweepable ∧
      ∃ w', unbatched.invalidateAll "a:*" .crowded = (.ok 2, w') ∧
        w'.live.get? "access:a:*:s1" = none ∧
        w'.live.get? "access:a:*:x:s2" = some ⟨"j3", 30⟩ ∧
        w'.live.get? "access:a:bc:s3" = some ⟨"j4", 40⟩ ∧
        w'.live.get? "redeemed:a:*:d1" = some ⟨"redeemed", 20⟩ := by
  have hsweepable : World.crowded.Sweepable := by decide
  obtain ⟨n, w', hcall, -, hkeys, hn, -⟩ :=
    unbatched.invalidateAll_exact "a:*" hsweepable
  have hleft : w'.live = World.crowded.live.withoutSessions "a:*" := by
    refine Keyspace.ext_get? fun key => Option.ext fun e => ?_
    rw [hkeys, Keyspace.get?_withoutSessions]
  rw [hleft] at hn
  have htwo : n = 2 := hn.trans (by decide +kernel)
  refine ⟨hsweepable, w', htwo ▸ hcall, ?_⟩
  rw [hleft]
  decide +kernel

end SessionTokens
