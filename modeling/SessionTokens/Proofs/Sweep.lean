import SessionTokens.Proofs.Calls
import SessionTokens.Proofs.Glob
import SessionTokens.Token.Sweep

/-!
# What a sweep leaves

A sweep goes over four namespaces, enumerates each by a pattern, picks the
subject's own keys out of the matches and removes them in chunks. None of that
shows in what it leaves: either the store can enumerate and remove keys, and
then exactly the subject's session keys are gone, or it cannot, and then
nothing is. There is no third way, because a store that is out of order stays
so during the whole sweep, and a namespace whose removal is never called for
has no key of the subject to remove.
-/

namespace SessionTokens

/-- The entries without a subject's session keys. -/
def Keyspace.withoutSessions (k : Keyspace) (sub : String) : Keyspace :=
  k.filter fun p => !Key.isSessionKeyOf sub p.1

/-- What a sweep of a subject leaves. -/
def World.swept (w : World) (sub : String) : Keyspace :=
  if w.Sweepable then w.live.withoutSessions sub else w.live

theorem World.swept_of_sweepable {w : World} (h : w.Sweepable) (sub : String) :
    w.swept sub = w.live.withoutSessions sub := if_pos h

theorem World.Becomes.swept {w w' : World} (h : w.Becomes w.live w')
    (sub : String) :
    w'.swept sub = w.swept sub := by
  unfold World.swept
  by_cases hw : w.Sweepable
  · rw [if_pos hw, if_pos (h.sweepable.mpr hw), h.live]
  · rw [if_neg hw, if_neg fun hw' => hw (h.sweepable.mp hw'), h.live]

/-! ## Removing a list of keys -/

section chunks

variable (size : Nat) {w : World}

theorem filter_chunk (k : Keyspace) (n : Nat) (key : String)
    (keys : List String) :
    (k.filter fun p => !(key :: keys.take n).contains p.1).filter
        (fun p => !(keys.drop n).contains p.1) =
      k.filter fun p => !(key :: keys).contains p.1 := by
  apply Keyspace.ext_entries
  simp only [Keyspace.entries_filter, List.filter_filter]
  refine List.filter_congr fun p _ => ?_
  have hsplit : p.1 ∈ keys ↔ p.1 ∈ keys.take n ∨ p.1 ∈ keys.drop n := by
    rw [← List.mem_append, List.take_append_drop]
  rw [Bool.eq_iff_iff]
  simp only [Bool.and_eq_true, Bool.not_eq_true', List.contains_eq_mem,
    decide_eq_false_iff_not, List.mem_cons, hsplit, not_or]
  exact ⟨fun ⟨hd, hk, ht⟩ => ⟨hk, ht, hd⟩, fun ⟨hk, ht, hd⟩ => ⟨hd, hk, ht⟩⟩

/-- Removing keys in chunks is removing them at once. -/
theorem deleteInChunks_of_none (h : w.outages .delete = none)
    (keys : List String) :
    ∃ n w', deleteInChunks size keys w = (.ok n, w') ∧
      w.Becomes (w.live.filter fun p => !keys.contains p.1) w' ∧
      n + w'.live.entries.length = w.live.entries.length := by
  induction keys using deleteInChunks.induct size generalizing w with
  | case1 =>
      have hall : w.live.filter (fun p => !([] : List String).contains p.1) =
          w.live := Keyspace.ext_entries (List.filter_eq_self.mpr (by simp))
      rw [deleteInChunks, hall]
      exact ⟨0, w, rfl, .refl w, Nat.zero_add _⟩
  | case2 key keys ih =>
      obtain ⟨here, w₁, hdel, hw₁, hhere⟩ :=
        Store.delete_of_none h (key :: keys.take (size - 1))
      obtain ⟨there, w₂, hrest, hw₂, hthere⟩ :=
        ih (w := w₁) (by rw [hw₁.outages, h])
      rw [hw₁.live, filter_chunk] at hw₂
      refine ⟨here + there, w₂, ?_, hw₁.trans hw₂, by omega⟩
      rw [deleteInChunks, Action.bind_apply, hdel]
      dsimp only
      rw [Action.bind_apply, hrest]
      rfl

theorem deleteInChunks_of_some {how : Outage} (h : w.outages .delete = some how)
    {keys : List String} (hkeys : keys ≠ []) :
    deleteInChunks size keys w = (.error (.storeFailed .delete how), w) := by
  cases keys with
  | nil => exact absurd rfl hkeys
  | cons key keys =>
      rw [deleteInChunks, Action.bind_apply, Store.delete, Store.call_of_some h]

end chunks

namespace Service

variable (svc : Service) (sub : String) {w : World}

/-! ## One namespace -/

/-- The entries without a subject's keys of some namespaces. -/
def without (sub : String) (nss : List Namespace) (k : Keyspace) : Keyspace :=
  k.filter fun p => !nss.any fun ns => Key.belongsTo p.1 ns.name sub

theorem without_nil (k : Keyspace) : without sub [] k = k :=
  Keyspace.ext_entries (List.filter_eq_self.mpr (by simp))

theorem without_cons (ns : Namespace) (nss : List Namespace) (k : Keyspace) :
    without sub nss (without sub [ns] k) = without sub (ns :: nss) k := by
  apply Keyspace.ext_entries
  simp only [without, Keyspace.entries_filter, List.filter_filter]
  refine List.filter_congr fun p _ => ?_
  simp [Bool.and_comm]

theorem without_session (k : Keyspace) :
    without sub Namespace.session k = k.withoutSessions sub := rfl

/-- The keys that a sweep of a namespace collects are the subject's. -/
theorem without_found (k : Keyspace) (ns : Namespace) :
    (k.filter fun p =>
        !((k.keys.filter (Glob.isMatch (Key.subjectPattern ns.name sub))).filter
          fun key => Key.belongsTo key ns.name sub).contains p.1) =
      without sub [ns] k := by
  apply Keyspace.ext_entries
  simp only [without, Keyspace.entries_filter]
  refine List.filter_congr fun p hp => ?_
  have hkey : p.1 ∈ k.keys := List.mem_map.mpr ⟨p, hp, rfl⟩
  rw [Bool.eq_iff_iff]
  simp only [Bool.not_eq_true', List.contains_eq_mem, decide_eq_false_iff_not,
    List.mem_filter, hkey, true_and, List.any_cons, List.any_nil, Bool.or_false]
  constructor
  · intro h
    rw [Bool.eq_false_iff]
    exact fun hown => h ⟨Glob.isMatch_of_belongsTo hown, hown⟩
  · rintro h ⟨-, hown⟩
    rw [h] at hown
    cases hown

theorem sweepNamespace_of_sweepable (h : w.Sweepable) (ns : Namespace) :
    ∃ n w', svc.sweepNamespace sub ns w = (.ok n, w') ∧
      w.Becomes (without sub [ns] w.live) w' ∧
      n + w'.live.entries.length = w.live.entries.length := by
  obtain ⟨hscan, hdelete⟩ := h
  obtain ⟨w₁, hfound, hw₁⟩ := Store.scan_of_none hscan
    (Key.subjectPattern ns.name sub) svc.batch
  obtain ⟨n, w₂, hdel, hw₂, hn⟩ := deleteInChunks_of_none svc.batch
    (w := w₁) (by rw [hw₁.outages, hdelete])
    ((w.live.keys.filter (Glob.isMatch (Key.subjectPattern ns.name sub))).filter
      fun key => Key.belongsTo key ns.name sub)
  rw [hw₁.live] at hw₂ hn
  rw [without_found] at hw₂
  refine ⟨n, w₂, ?_, hw₁.trans hw₂, hn⟩
  rw [sweepNamespace, Action.bind_apply, hfound]
  exact hdel

/-- A namespace that cannot be swept keeps its keys. It goes unnoticed only if
there are none of the subject's. -/
theorem sweepNamespace_of_not_sweepable (h : ¬ w.Sweepable) (ns : Namespace) :
    ∃ w', w.Becomes w.live w' ∧
      ((∃ e, svc.sweepNamespace sub ns w = (.error e, w')) ∨
        (svc.sweepNamespace sub ns w = (.ok 0, w') ∧
          without sub [ns] w.live = w.live)) := by
  cases hscan : w.outages .scanPage with
  | some how =>
      refine ⟨w, .refl w, .inl ⟨.storeFailed .scanPage how, ?_⟩⟩
      rw [sweepNamespace, Action.bind_apply, Store.scan_of_some hscan]
  | none =>
      cases hdelete : w.outages .delete with
      | none => exact absurd ⟨hscan, hdelete⟩ h
      | some how =>
          obtain ⟨w₁, hfound, hw₁⟩ := Store.scan_of_none hscan
            (Key.subjectPattern ns.name sub) svc.batch
          refine ⟨w₁, hw₁, ?_⟩
          rw [sweepNamespace, Action.bind_apply, hfound]
          dsimp only
          rw [← without_found]
          generalize ((w.live.keys.filter _).filter _) = keys
          cases keys with
          | nil =>
              refine .inr ⟨by rw [deleteInChunks]; rfl, ?_⟩
              exact Keyspace.ext_entries (List.filter_eq_self.mpr (by simp))
          | cons key keys =>
              exact .inl ⟨_, deleteInChunks_of_some _
                (by rw [hw₁.outages, hdelete]) (List.cons_ne_nil _ _)⟩

/-! ## All of them -/

theorem sweepFrom_of_sweepable {ε : Type} (nss : List Namespace) {w : World}
    (h : w.Sweepable) (sofar : Swept) :
    ∃ n w', (svc.sweepFrom sub sofar nss : Action ε Swept) w =
        (.ok ⟨sofar.removed + n, sofar.failure⟩, w') ∧
      w.Becomes (without sub nss w.live) w' ∧
      n + w'.live.entries.length = w.live.entries.length := by
  induction nss generalizing w sofar with
  | nil =>
      rw [without_nil]
      exact ⟨0, w, rfl, .refl w, Nat.zero_add _⟩
  | cons ns nss ih =>
      obtain ⟨here, w₁, hns, hw₁, hhere⟩ :=
        svc.sweepNamespace_of_sweepable sub h ns
      have h₁ : w₁.Sweepable := by
        rw [World.Sweepable, hw₁.outages]
        exact h
      obtain ⟨there, w₂, hrest, hw₂, hthere⟩ := ih h₁ (sofar.add (.ok here))
      rw [hw₁.live, without_cons] at hw₂
      refine ⟨here + there, w₂, ?_, hw₁.trans hw₂, by omega⟩
      rw [sweepFrom, Action.bind_apply, Action.attempt, hns]
      dsimp only
      rw [hrest, Swept.add, Nat.add_assoc]

theorem sweepFrom_of_not_sweepable {ε : Type} (nss : List Namespace) {w : World}
    (h : ¬ w.Sweepable) (sofar : Swept) :
    ∃ swept w',
      (svc.sweepFrom sub sofar nss : Action ε Swept) w = (.ok swept, w') ∧
      w.Becomes w.live w' ∧
      (swept.failure = none →
        sofar.failure = none ∧ without sub nss w.live = w.live) := by
  induction nss generalizing w sofar with
  | nil =>
      rw [without_nil]
      exact ⟨sofar, w, rfl, .refl w, fun hnone => ⟨hnone, rfl⟩⟩
  | cons ns nss ih =>
      obtain ⟨w₁, hw₁, hns⟩ := svc.sweepNamespace_of_not_sweepable sub h ns
      have h₁ : ¬ w₁.Sweepable := by
        rw [World.Sweepable, hw₁.outages]
        exact h
      rw [sweepFrom, Action.bind_apply, Action.attempt]
      rcases hns with ⟨e, hns⟩ | ⟨hns, hempty⟩
      · obtain ⟨swept, w₂, hrest, hw₂, hnone⟩ := ih h₁ (sofar.add (.error e))
        rw [hw₁.live] at hw₂
        refine ⟨swept, w₂, by rw [hns]; exact hrest, hw₁.trans hw₂,
          fun hs => ?_⟩
        have hadd := (hnone hs).1
        simp only [Swept.add] at hadd
        cases hf : sofar.failure <;> simp [hf] at hadd
      · obtain ⟨swept, w₂, hrest, hw₂, hnone⟩ := ih h₁ (sofar.add (.ok 0))
        rw [hw₁.live] at hw₂ hnone
        refine ⟨swept, w₂, by rw [hns]; exact hrest, hw₁.trans hw₂,
          fun hs => ?_⟩
        obtain ⟨hsofar, hkeys⟩ := hnone hs
        rw [← without_cons, hempty]
        exact ⟨hsofar, hkeys⟩

/-- A sweep comes to an end in every world. What it leaves is all or nothing,
and without a failure it is all. -/
theorem sweep_spec {ε : Type} (w : World) :
    ∃ swept w', (svc.sweep sub : Action ε Swept) w = (.ok swept, w') ∧
      w.Becomes (w.swept sub) w' ∧
      (w.Sweepable → swept.failure = none ∧
        swept.removed + w'.live.entries.length = w.live.entries.length) ∧
      (swept.failure = none → w.swept sub = w.live.withoutSessions sub) := by
  by_cases h : w.Sweepable
  · obtain ⟨n, w', hsweep, hw', hn⟩ :=
      svc.sweepFrom_of_sweepable (ε := ε) sub Namespace.session h ⟨0, none⟩
    rw [without_session, ← World.swept_of_sweepable h] at hw'
    exact ⟨_, w', hsweep, hw', fun _ => ⟨rfl, by rw [Nat.zero_add]; exact hn⟩,
      fun _ => World.swept_of_sweepable h sub⟩
  · obtain ⟨swept, w', hsweep, hw', hnone⟩ :=
      svc.sweepFrom_of_not_sweepable (ε := ε) sub Namespace.session h ⟨0, none⟩
    have hswept : w.swept sub = w.live := if_neg h
    refine ⟨swept, w', hsweep, ?_, fun hs => absurd hs h, fun hs => ?_⟩
    · rw [hswept]
      exact hw'
    · rw [hswept, ← without_session, (hnone hs).2]

/-- Ending all sessions either takes all of the subject's keys away, or fails
and takes none. -/
theorem invalidateAll_spec (w : World) :
    ∃ w', (∃ n, svc.invalidateAll sub w = (.ok n, w') ∧
        w.Becomes (w.live.withoutSessions sub) w' ∧
        w.swept sub = w.live.withoutSessions sub) ∨
      (∃ e, svc.invalidateAll sub w = (.error e, w') ∧ w.Becomes w.live w' ∧
        ¬ w.Sweepable) := by
  obtain ⟨swept, w', hsweep, hw', hgood, hall⟩ := svc.sweep_spec sub w
  refine ⟨w', ?_⟩
  rw [invalidateAll, Action.bind_apply, hsweep]
  dsimp only
  cases hf : swept.failure with
  | none =>
      rw [hall hf] at hw'
      exact .inl ⟨_, rfl, hw', hall hf⟩
  | some e =>
      have hns : ¬ w.Sweepable := fun hs => by
        rw [(hgood hs).1] at hf
        cases hf
      refine .inr ⟨e, rfl, ?_, hns⟩
      have hswept : w.swept sub = w.live := if_neg hns
      rwa [hswept] at hw'

theorem invalidateBestEffort_spec {ε : Type} (w : World) :
    ∃ n w', (svc.invalidateBestEffort sub : Action ε Nat) w = (.ok n, w') ∧
      w.Becomes (w.swept sub) w' := by
  obtain ⟨swept, w', hsweep, hw', -⟩ := svc.sweep_spec (ε := ε) sub w
  refine ⟨swept.removed, w', ?_, hw'⟩
  rw [invalidateBestEffort, Action.bind_apply, hsweep]
  rfl

/-- Turning a token down sweeps its subject; the answer does not depend on what
comes of that. -/
theorem sweepAndReject_spec {α : Type} (why : Rejection) {w w₁ : World}
    (h : w.Becomes w.live w₁) :
    ∃ w', (svc.sweepAndReject sub why : Action TokenError α) w₁ =
        (.error (.rejected why), w') ∧
      w.Becomes (w.swept sub) w' := by
  obtain ⟨n, w', hsweep, hw'⟩ :=
    svc.invalidateBestEffort_spec (ε := TokenError) sub w₁
  rw [h.swept] at hw'
  refine ⟨w', ?_, h.trans hw'⟩
  rw [sweepAndReject, Action.bind_apply, hsweep]
  rfl

end Service

end SessionTokens
