import SessionTokens.Proofs.Effects
import SessionTokens.Proofs.Text

/-!
# What issuing and rotation come to

Issuing mints its identifiers first and writes last, so when it fails the
identifiers are gone but the store is as it was. A refresh token takes two
writes. Both have the same lifetime and go through the same call, so there is
no store in which only one of them succeeds.

Using a token up is decided in the order in which the checks are made: the
claims, the family, the fence, the identifier. `Retirement` lists the answers
in that order. All but the first that concern the token sweep its subject, and
only a failing store keeps everything as it is.
-/

namespace SessionTokens

/-- The claims are those of this refresh token. -/
structure Claims.IsOf (c : Claims) (t : Retired) : Prop where
  sub : c.sub = some t.sub
  mode : c.mode = some .refresh
  jti : c.jti = some t.jti
  session : c.sessionId = some t.session
  family : c.family = some t.family

theorem Claims.IsOf.unique {c : Claims} {t t' : Retired} (h : c.IsOf t)
    (h' : c.IsOf t') : t = t' := by
  rcases t with ⟨sub, jti, session, family⟩
  rcases t' with ⟨sub', jti', session', family'⟩
  cases h.sub.symm.trans h'.sub
  cases h.jti.symm.trans h'.jti
  cases h.session.symm.trans h'.session
  cases h.family.symm.trans h'.family
  rfl

/-- The entries without a refresh token that has been used up, and with its
fence. -/
def World.retiring (w : World) (svc : Service) (t : Retired) : Keyspace :=
  ((w.live.insert (Key.used t.sub t.jti)
    ⟨Key.usedMark, w.clock + svc.fenceSeconds * 1000⟩).live w.clock).erase
      (Key.refresh t.sub t.session)

/-- The answers of using up a token: each with its reason, and with the entries
that are there afterwards. -/
inductive Retirement (svc : Service) (w : World) (c : Claims) :
    Outcome TokenError Retired → Keyspace → Prop
  | anonymous : c.sub = none →
      Retirement svc w c (.error (.rejected .structureInvalid)) w.live
  | incomplete {sub : String} : c.sub = some sub → (∀ t, ¬ c.IsOf t) →
      Retirement svc w c (.error (.rejected .structureInvalid)) (w.swept sub)
  | failed {t : Retired} {e : ServiceError} : c.IsOf t → e.source = none →
      (w.outages .exists ≠ none ∨ ¬ w.RunsScripts) →
      Retirement svc w c (.error (.internal e)) w.live
  | orphaned {t : Retired} : c.IsOf t → w.outages .exists = none →
      w.live.get? (Key.family t.sub t.family) = none →
      Retirement svc w c (.error (.rejected .familyInvalidated)) (w.swept t.sub)
  | reused {t : Retired} {f e : Entry} : c.IsOf t → w.outages .exists = none →
      w.live.get? (Key.family t.sub t.family) = some f →
      w.live.get? (Key.used t.sub t.jti) = some e →
      Retirement svc w c (.error (.rejected .reuseDetected)) (w.swept t.sub)
  | stale {t : Retired} {f : Entry} : c.IsOf t → w.outages .exists = none →
      w.live.get? (Key.family t.sub t.family) = some f →
      w.live.get? (Key.used t.sub t.jti) = none →
      (w.live.get? (Key.refresh t.sub t.session)).map Entry.value ≠ some t.jti →
      Retirement svc w c (.error (.rejected .livenessMismatch)) (w.swept t.sub)
  | endless {t : Retired} : c.IsOf t →
      w.live.get? (Key.used t.sub t.jti) = none →
      (w.live.get? (Key.refresh t.sub t.session)).map Entry.value = some t.jti →
      ¬ MemoryStore.IsStorable w.clock (svc.fenceSeconds * 1000) →
      Retirement svc w c .outOfRange w.live
  | done {t : Retired} {f : Entry} : c.IsOf t → w.outages .exists = none →
      w.live.get? (Key.family t.sub t.family) = some f →
      w.live.get? (Key.used t.sub t.jti) = none →
      (w.live.get? (Key.refresh t.sub t.session)).map Entry.value = some t.jti →
      MemoryStore.IsStorable w.clock (svc.fenceSeconds * 1000) →
      Retirement svc w c (.ok t) (w.retiring svc t)

namespace Service

variable (svc : Service)

theorem store_apply {α : Type} (call : Action ServiceError α) (w : World) :
    store call w = ((call w).1.mapError .internal, (call w).2) := rfl

/-! ## Issuing -/

/-- A write fails with the store, has no deadline that can be told, or is
done. -/
theorem store_set_spec (key value : String) (ttl : Nat) (w : World) :
    (w.outages .set ≠ none ∧ ∃ e, e.source = none ∧
      store (Store.set key value ttl) w = (.error (.internal e), w)) ∨
    (w.outages .set = none ∧ ¬ MemoryStore.IsStorable w.clock ttl ∧
      store (Store.set key value ttl) w = (.outOfRange, w)) ∨
    (w.outages .set = none ∧ MemoryStore.IsStorable w.clock ttl ∧
      ∃ w', store (Store.set key value ttl) w = (.ok (), w') ∧
        w.Becomes ((w.live.insert key ⟨value, w.clock + ttl⟩).live w.clock)
          w') := by
  rw [store_apply]
  cases hset : w.outages .set with
  | some how =>
      refine .inl ⟨Option.some_ne_none how, .storeFailed .set how, rfl, ?_⟩
      rw [Store.set, Store.call_of_some hset]
      rfl
  | none =>
      by_cases httl : MemoryStore.IsStorable w.clock ttl
      · obtain ⟨w', hw', hb⟩ := Store.set_of_none hset httl key value
        rw [hw']
        exact .inr (.inr ⟨rfl, httl, w', rfl, hb⟩)
      · rw [Store.set_of_not_isStorable hset httl]
        exact .inr (.inl ⟨rfl, httl, rfl⟩)

/-- The identifier that is taken when `n` have been minted, and how many have
been then. -/
def choose (n : Nat) : Option String → String × Nat
  | some id => (id, n)
  | none => (svc.ids (n + 1), n + 1)

theorem le_choose (n : Nat) (o : Option String) : n ≤ (svc.choose n o).2 := by
  cases o
  · exact Nat.le_succ n
  · exact Nat.le_refl n

theorem orMintId_apply {ε : Type} (o : Option String) (w : World) :
    (svc.orMintId o : Action ε String) w =
      (.ok (svc.choose w.minted o).1,
        { w with minted := (svc.choose w.minted o).2 }) := by
  cases o <;> rfl

theorem mintId_apply {ε : Type} (w : World) :
    (svc.mintId : Action ε String) w =
      (.ok (svc.ids (w.minted + 1)), { w with minted := w.minted + 1 }) := rfl

theorem expiryOf_apply {ε : Type} (ttl : UInt64) (w : World) :
    (expiryOf ttl : Action ε Int64) w = (.ok (expiry w.seconds ttl), w) := rfl

/-- Every payload has a mode, so it can be signed. -/
theorem sign_spec (p : Payload) (w : World) :
    ∃ token, svc.codec.encode p.toClaims = .ok token ∧
      svc.sign p w = (.ok ⟨token, p⟩, w) := by
  cases p <;> exact ⟨_, rfl, rfl⟩

theorem issueAccess_spec (sub : String) (session : Option String) (w : World) :
    let s := svc.choose w.minted session
    let w₁ := { w with minted := s.2 + 1 }
    let p := Payload.access sub (expiry w.seconds svc.lifetimes.access)
      (svc.ids (s.2 + 1)) s.1
    ∃ token, svc.codec.encode p.toClaims = .ok token ∧
      ((w.outages .set ≠ none ∧
          ∃ e, e.source = none ∧
            svc.issueAccess sub session w = (.error (.internal e), w₁)) ∨
        (w.outages .set = none ∧
          ¬ MemoryStore.IsStorable w.clock (toMillis svc.lifetimes.access) ∧
          svc.issueAccess sub session w = (.outOfRange, w₁)) ∨
        (w.outages .set = none ∧
          MemoryStore.IsStorable w.clock (toMillis svc.lifetimes.access) ∧
          ∃ w', svc.issueAccess sub session w = (.ok ⟨token, p⟩, w') ∧
            w₁.Becomes ((w.live.insert (Key.access sub s.1)
              ⟨svc.ids (s.2 + 1), w.clock + toMillis svc.lifetimes.access⟩).live
                w.clock) w')) := by
  intro s w₁ p
  obtain ⟨token, hencode, hsign⟩ := svc.sign_spec p w₁
  refine ⟨token, hencode, ?_⟩
  have hissue : svc.issueAccess sub session w = (do
      store (Store.set (Key.access sub s.1) (svc.ids (s.2 + 1))
        (toMillis svc.lifetimes.access))
      return ⟨token, p⟩ : Action TokenError Issued) w₁ := by
    unfold issueAccess
    rw [Action.bind_of_ok (svc.orMintId_apply session w),
      Action.bind_of_ok (svc.mintId_apply _),
      Action.bind_of_ok (expiryOf_apply _ _)]
    exact Action.bind_of_ok hsign
  rw [hissue]
  obtain ⟨hset, e, hsource, hw₁⟩ | ⟨hset, httl, hw₁⟩ |
      ⟨hset, httl, w', hw', hb⟩ :=
    store_set_spec (Key.access sub s.1) (svc.ids (s.2 + 1))
      (toMillis svc.lifetimes.access) w₁
  · exact .inl ⟨hset, e, hsource, Action.bind_of_error hw₁⟩
  · exact .inr (.inl ⟨hset, httl, Action.bind_of_outOfRange hw₁⟩)
  · exact .inr (.inr ⟨hset, httl, w', Action.bind_of_ok hw', hb⟩)

/-- What a refresh token is issued with when identifiers are minted as needed:
its session, its family, and how many identifiers have been minted then. -/
def chosen (n : Nat) (session family : Option String) : String × String × Nat :=
  let s := svc.choose n session
  let f := svc.choose s.2 family
  (s.1, f.1, f.2 + 1)

theorem lt_chosen (n : Nat) (session family : Option String) :
    n < (svc.chosen n session family).2.2 := by
  have hs := svc.le_choose n session
  have hf := svc.le_choose (svc.choose n session).2 family
  rw [chosen]
  dsimp only
  omega

/-- Issuing a refresh token writes both of its entries or neither. -/
theorem issueRefresh_spec (sub : String) (session family : Option String)
    (w : World) :
    let c := svc.chosen w.minted session family
    let w₁ := { w with minted := c.2.2 }
    let p := Payload.refresh sub (expiry w.seconds svc.lifetimes.refresh)
      (svc.ids c.2.2) c.1 c.2.1
    ∃ token, svc.codec.encode p.toClaims = .ok token ∧
      ((w.outages .set ≠ none ∧
          ∃ e, e.source = none ∧
            svc.issueRefresh sub session family w =
              (.error (.internal e), w₁)) ∨
        (w.outages .set = none ∧
          ¬ MemoryStore.IsStorable w.clock (toMillis svc.lifetimes.refresh) ∧
          svc.issueRefresh sub session family w = (.outOfRange, w₁)) ∨
        (w.outages .set = none ∧
          MemoryStore.IsStorable w.clock (toMillis svc.lifetimes.refresh) ∧
          ∃ w', svc.issueRefresh sub session family w = (.ok ⟨token, p⟩, w') ∧
            w₁.Becomes ((((w.live.insert (Key.refresh sub c.1)
              ⟨svc.ids c.2.2, w.clock + toMillis svc.lifetimes.refresh⟩).live
                w.clock).insert (Key.family sub c.2.1)
              ⟨Key.familyMark, w.clock + toMillis svc.lifetimes.refresh⟩).live
                w.clock) w')) := by
  intro c w₁ p
  obtain ⟨token, hencode, hsign⟩ := svc.sign_spec p w₁
  refine ⟨token, hencode, ?_⟩
  have hissue : svc.issueRefresh sub session family w = (do
      store (Store.set (Key.refresh sub c.1) (svc.ids c.2.2)
        (toMillis svc.lifetimes.refresh))
      store (Store.set (Key.family sub c.2.1) Key.familyMark
        (toMillis svc.lifetimes.refresh))
      return ⟨token, p⟩ : Action TokenError Issued) w₁ := by
    unfold issueRefresh
    rw [Action.bind_of_ok (svc.orMintId_apply session w),
      Action.bind_of_ok (svc.orMintId_apply family _),
      Action.bind_of_ok (svc.mintId_apply _),
      Action.bind_of_ok (expiryOf_apply _ _)]
    exact Action.bind_of_ok hsign
  rw [hissue]
  obtain ⟨hset, e, hsource, hw₁⟩ | ⟨hset, httl, hw₁⟩ |
      ⟨hset, httl, w₂, hw₂, hb₂⟩ :=
    store_set_spec (Key.refresh sub c.1) (svc.ids c.2.2)
      (toMillis svc.lifetimes.refresh) w₁
  · exact .inl ⟨hset, e, hsource, Action.bind_of_error hw₁⟩
  · exact .inr (.inl ⟨hset, httl, Action.bind_of_outOfRange hw₁⟩)
  · -- The second write meets the same store and has the same lifetime.
    have hset₂ : w₂.outages .set = none := by rw [hb₂.outages]; exact hset
    rw [Action.bind_of_ok hw₂]
    obtain ⟨hset₃, -⟩ | ⟨-, hnot, -⟩ | ⟨-, -, w₃, hw₃, hb₃⟩ :=
      store_set_spec (Key.family sub c.2.1) Key.familyMark
        (toMillis svc.lifetimes.refresh) w₂
    · exact absurd hset₂ hset₃
    · rw [hb₂.clock] at hnot
      exact absurd httl hnot
    · rw [hb₂.live, hb₂.clock] at hb₃
      exact .inr (.inr
        ⟨hset, httl, w₃, Action.bind_of_ok hw₃, hb₂.trans hb₃⟩)

/-! ## The script -/

theorem fenceText_spec : Decimal.word? svc.fenceText = some svc.fenceSeconds :=
  Decimal.word?_toString (UInt64.toNat_lt_size _)

section useUp

variable {w : World} (sub jti session : String)

/-- When the script can be run, its answer is what the store says. -/
theorem useUp_of_runsScripts (h : w.RunsScripts)
    (hforced : w.forcedReply = none) :
    ∃ w₁, w.Becomes w.live w₁ ∧ ∀ r s,
      w₁.store.rotate w₁.clock (Key.refresh sub session) (Key.used sub jti) jti
        svc.fenceSeconds = (r, s) →
      svc.useUp sub jti session w =
        ((r.mapError .internal).bind fun reply =>
            (Outcome.ofExcept (Rotated.ofReply reply)).mapError .internal,
          { w₁ with store := s }) := by
  obtain ⟨w₁, hw₁, hrun⟩ := Store.runScript_of_runsScripts
    (Key.refresh sub session) (Key.used sub jti)
    jti h hforced svc.fenceText_spec
  refine ⟨w₁, hw₁, fun r s hrotate => ?_⟩
  rw [useUp, Action.bind_apply, store_apply, hrun, hrotate]
  cases r <;> rfl

theorem useUp_of_not_runsScripts (h : ¬ w.RunsScripts)
    (hforced : w.forcedReply = none) :
    ∃ e w', svc.useUp sub jti session w = (.error (.internal e), w') ∧
      e.source = none ∧ w.Becomes w.live w' := by
  obtain ⟨e, w', hrun, hsource, hw'⟩ :=
    Store.runScript_of_not_runsScripts h hforced
    [Key.refresh sub session, Key.used sub jti] [jti, svc.fenceText]
  refine ⟨e, w', ?_, hsource, hw'⟩
  rw [useUp, Action.bind_apply, store_apply, hrun]
  rfl

theorem useUp_of_used (h : w.RunsScripts) (hforced : w.forcedReply = none)
    {e : Entry} (hused : w.live.get? (Key.used sub jti) = some e) :
    ∃ w', svc.useUp sub jti session w = (.ok .reused, w') ∧
      w.Becomes w.live w' := by
  obtain ⟨w₁, hw₁, hrun⟩ := svc.useUp_of_runsScripts sub jti session h hforced
  rw [← hw₁.live] at hused
  exact ⟨_, hrun _ _ (MemoryStore.rotate_of_used _ _ hused), hw₁.touch _⟩

theorem useUp_of_stale (h : w.RunsScripts) (hforced : w.forcedReply = none)
    (hused : w.live.get? (Key.used sub jti) = none)
    (hrefresh : (w.live.get? (Key.refresh sub session)).map Entry.value ≠
      some jti) :
    ∃ w', svc.useUp sub jti session w = (.ok .invalid, w') ∧
      w.Becomes w.live w' := by
  obtain ⟨w₁, hw₁, hrun⟩ := svc.useUp_of_runsScripts sub jti session h hforced
  rw [← hw₁.live] at hused hrefresh
  exact ⟨_, hrun _ _ (MemoryStore.rotate_of_stale _ _ hused hrefresh),
    (hw₁.touch _).touch _⟩

theorem useUp_of_not_isStorable (h : w.RunsScripts)
    (hforced : w.forcedReply = none)
    (hused : w.live.get? (Key.used sub jti) = none)
    (hrefresh : (w.live.get? (Key.refresh sub session)).map Entry.value =
      some jti)
    (hfence : ¬ MemoryStore.IsStorable w.clock (svc.fenceSeconds * 1000)) :
    ∃ w', svc.useUp sub jti session w = (.outOfRange, w') ∧
      w.Becomes w.live w' := by
  obtain ⟨w₁, hw₁, hrun⟩ := svc.useUp_of_runsScripts sub jti session h hforced
  rw [← hw₁.live] at hused hrefresh
  rw [← hw₁.clock] at hfence
  exact ⟨_, hrun _ _ (MemoryStore.rotate_of_fresh_of_not_isStorable _ _ hused
    hrefresh hfence), (hw₁.touch _).touch _⟩

theorem useUp_of_fresh (h : w.RunsScripts) (hforced : w.forcedReply = none)
    (hused : w.live.get? (Key.used sub jti) = none)
    (hrefresh : (w.live.get? (Key.refresh sub session)).map Entry.value =
      some jti)
    (hfence : MemoryStore.IsStorable w.clock (svc.fenceSeconds * 1000))
    (family : String) :
    ∃ w', svc.useUp sub jti session w = (.ok .done, w') ∧
      w.Becomes (w.retiring svc ⟨sub, jti, session, family⟩) w' := by
  obtain ⟨w₁, hw₁, hrun⟩ := svc.useUp_of_runsScripts sub jti session h hforced
  rw [← hw₁.live] at hused hrefresh
  rw [← hw₁.clock] at hfence
  refine ⟨_, hrun _ _ (MemoryStore.rotate_of_fresh _ _ hused hrefresh hfence),
    hw₁.trans (.of_store ?_ fun hs => ?_)⟩
  · have hlive : w₁.store.live w₁.clock = w.live := hw₁.live
    rw [MemoryStore.live_remove, MemoryStore.live_put, MemoryStore.live_touch,
      MemoryStore.live_touch, hlive, hw₁.clock]
    rfl
  · show ((w₁.store.touch ..).touch ..).scriptLoaded = true
    rwa [MemoryStore.scriptLoaded_touch, MemoryStore.scriptLoaded_touch]

end useUp

/-! ## Using a token up -/

theorem retire_of_not_isOf {c : Claims} {sub : String} (hsub : c.sub = some sub)
    (h : ∀ t, ¬ c.IsOf t) :
    svc.retire c = svc.sweepAndReject sub .structureInvalid := by
  unfold retire
  rw [hsub]
  dsimp only
  split
  · next jti session family hjti hsession hfamily =>
      have hmode : c.mode ≠ some .refresh := fun hm =>
        h ⟨sub, jti, session, family⟩ ⟨hsub, hm, hjti, hsession, hfamily⟩
      rw [if_pos hmode]
  · rfl

theorem retire_of_isOf {c : Claims} {t : Retired} (h : c.IsOf t) :
    svc.retire c = (do
      if ← store (Store.contains (Key.family t.sub t.family)) then
        match ← svc.useUp t.sub t.jti t.session with
        | .done => return t
        | .reused => svc.sweepAndReject t.sub .reuseDetected
        | .invalid => svc.sweepAndReject t.sub .livenessMismatch
      else svc.sweepAndReject t.sub .familyInvalidated) := by
  have hmode : ¬ c.mode ≠ some .refresh := absurd h.mode
  unfold retire
  rw [h.sub, h.jti, h.session, h.family]
  exact if_neg hmode

/-- What follows once the family is known to be in order. -/
theorem retirement_of_family {c : Claims} {t : Retired} {w w₁ : World}
    {f : Entry} (hforced : w.forcedReply = none) (ht : c.IsOf t)
    (hexists : w.outages .exists = none)
    (hf : w.live.get? (Key.family t.sub t.family) = some f)
    (hw₁ : w.Becomes w.live w₁) {r : Outcome TokenError Retired × World}
    (hr : r = (do
      match ← svc.useUp t.sub t.jti t.session with
        | .done => return t
        | .reused => svc.sweepAndReject t.sub .reuseDetected
        | .invalid => svc.sweepAndReject t.sub .livenessMismatch :
      Action TokenError Retired) w₁) :
    ∃ k, Retirement svc w c r.1 k ∧ w.Becomes k r.2 := by
  subst hr
  have hforced₁ : w₁.forcedReply = none := by rw [hw₁.forcedReply, hforced]
  rw [Action.bind_apply]
  by_cases hruns : w₁.RunsScripts
  · cases hused : w.live.get? (Key.used t.sub t.jti) with
    | some e =>
        obtain ⟨w₂, huse, hw₂⟩ := svc.useUp_of_used t.sub t.jti t.session
          (e := e) hruns hforced₁ (by rw [hw₁.live]; exact hused)
        rw [hw₁.live] at hw₂
        obtain ⟨w₃, hsweep, hw₃⟩ := svc.sweepAndReject_spec (α := Retired)
          t.sub .reuseDetected (hw₁.trans hw₂)
        rw [huse]
        dsimp only
        rw [hsweep]
        exact ⟨_, .reused ht hexists hf hused, hw₃⟩
    | none =>
        have hused₁ : w₁.live.get? (Key.used t.sub t.jti) = none := by
          rw [hw₁.live, hused]
        by_cases hrefresh :
            (w.live.get? (Key.refresh t.sub t.session)).map Entry.value =
              some t.jti
        · have hrefresh₁ : (w₁.live.get? (Key.refresh t.sub t.session)).map
              Entry.value = some t.jti := by rw [hw₁.live, hrefresh]
          by_cases hfence :
              MemoryStore.IsStorable w.clock (svc.fenceSeconds * 1000)
          · obtain ⟨w₂, huse, hw₂⟩ := svc.useUp_of_fresh t.sub t.jti t.session
              hruns hforced₁ hused₁ hrefresh₁ (by rw [hw₁.clock]; exact hfence)
              t.family
            have hretiring : w₁.retiring svc t = w.retiring svc t := by
              rw [World.retiring, hw₁.live, hw₁.clock, World.retiring]
            rw [huse]
            exact ⟨_, .done ht hexists hf hused hrefresh hfence,
              hretiring ▸ hw₁.trans hw₂⟩
          · obtain ⟨w₂, huse, hw₂⟩ := svc.useUp_of_not_isStorable t.sub t.jti
              t.session hruns hforced₁ hused₁ hrefresh₁
              (by rw [hw₁.clock]; exact hfence)
            rw [hw₁.live] at hw₂
            rw [huse]
            exact ⟨_, .endless ht hused hrefresh hfence, hw₁.trans hw₂⟩
        · obtain ⟨w₂, huse, hw₂⟩ := svc.useUp_of_stale t.sub t.jti t.session
            hruns hforced₁ hused₁ (by rw [hw₁.live]; exact hrefresh)
          rw [hw₁.live] at hw₂
          obtain ⟨w₃, hsweep, hw₃⟩ := svc.sweepAndReject_spec (α := Retired)
            t.sub .livenessMismatch (hw₁.trans hw₂)
          rw [huse]
          dsimp only
          rw [hsweep]
          exact ⟨_, .stale ht hexists hf hused hrefresh, hw₃⟩
  · obtain ⟨e, w₂, huse, hsource, hw₂⟩ :=
      svc.useUp_of_not_runsScripts t.sub t.jti t.session hruns hforced₁
    rw [hw₁.live] at hw₂
    rw [huse]
    exact ⟨_, .failed ht hsource (.inr fun h => hruns (hw₁.runsScripts h)),
      hw₁.trans hw₂⟩

theorem retire_spec (c : Claims) {w : World} (hforced : w.forcedReply = none) :
    ∃ k, Retirement svc w c (svc.retire c w).1 k ∧
      w.Becomes k (svc.retire c w).2 := by
  by_cases hof : ∃ t, c.IsOf t
  · obtain ⟨t, ht⟩ := hof
    rw [svc.retire_of_isOf ht, Action.bind_apply, store_apply]
    cases hexists : w.outages .exists with
    | some how =>
        rw [Store.contains, Store.call_of_some hexists]
        exact ⟨_, .failed ht rfl (.inl (by simp [hexists])), .refl w⟩
    | none =>
        obtain ⟨w₁, hfamily, hw₁⟩ :=
          Store.contains_of_none hexists (Key.family t.sub t.family)
        rw [hfamily]
        dsimp only [Outcome.mapError]
        cases hf : w.live.get? (Key.family t.sub t.family) with
        | none =>
            obtain ⟨w₂, hsweep, hw₂⟩ := svc.sweepAndReject_spec (α := Retired)
              t.sub .familyInvalidated hw₁
            rw [if_neg (by simp), hsweep]
            exact ⟨_, .orphaned ht hexists hf, hw₂⟩
        | some f =>
            rw [if_pos (by simp)]
            exact svc.retirement_of_family hforced ht hexists hf hw₁ rfl
  · have hnot : ∀ t, ¬ c.IsOf t := fun t ht => hof ⟨t, ht⟩
    cases hsub : c.sub with
    | none =>
        have hretire : svc.retire c w =
            (.error (.rejected .structureInvalid), w) := by
          unfold retire
          rw [hsub]
          rfl
        rw [hretire]
        exact ⟨_, .anonymous hsub, .refl w⟩
    | some sub =>
        obtain ⟨w₁, hsweep, hw₁⟩ :=
          svc.sweepAndReject_spec (α := Retired) sub .structureInvalid
            (.refl w)
        rw [svc.retire_of_not_isOf hsub hnot, hsweep]
        exact ⟨_, .incomplete hsub hnot, hw₁⟩

end Service

/-! ## What is issued -/

namespace Service

variable {svc : Service} {w w' : World}

/-- An access token that is issued says what it was issued for, and has been
written. -/
theorem issueAccess_eq_ok {sub : String} {session : Option String}
    {issued : Issued} (h : svc.issueAccess sub session w = (.ok issued, w')) :
    let s := svc.choose w.minted session
    let p := Payload.access sub (expiry w.seconds svc.lifetimes.access)
      (svc.ids (s.2 + 1)) s.1
    issued.payload = p ∧ svc.codec.encode p.toClaims = .ok issued.token ∧
      MemoryStore.IsStorable w.clock (toMillis svc.lifetimes.access) ∧
      Change svc (.access sub s.1 (svc.ids (s.2 + 1))) w w' ∧
      w'.minted = s.2 + 1 := by
  have hle := svc.le_choose w.minted session
  obtain ⟨token, hencode, ⟨-, e, -, h'⟩ | ⟨-, -, h'⟩ | ⟨-, httl, w₁, h', hb⟩⟩ :=
    svc.issueAccess_spec sub session w
  · rw [h'] at h
    cases h
  · rw [h'] at h
    cases h
  · rw [h'] at h
    cases h
    exact ⟨rfl, hencode, httl, .access_of_becomes (Nat.lt_succ_of_le hle) hb,
      hb.minted⟩

/-- A refresh token that is issued says what it was issued for, and has been
written. -/
theorem issueRefresh_eq_ok {sub : String} {session family : Option String}
    {issued : Issued}
    (h : svc.issueRefresh sub session family w = (.ok issued, w')) :
    let c := svc.chosen w.minted session family
    let p := Payload.refresh sub (expiry w.seconds svc.lifetimes.refresh)
      (svc.ids c.2.2) c.1 c.2.1
    issued.payload = p ∧ svc.codec.encode p.toClaims = .ok issued.token ∧
      MemoryStore.IsStorable w.clock (toMillis svc.lifetimes.refresh) ∧
      Change svc (.refresh sub c.1 (svc.ids c.2.2) c.2.1) w w' ∧
      w'.minted = c.2.2 := by
  have hlt := svc.lt_chosen w.minted session family
  obtain ⟨token, hencode, ⟨-, e, -, h'⟩ | ⟨-, -, h'⟩ | ⟨-, httl, w₁, h', hb⟩⟩ :=
    svc.issueRefresh_spec sub session family w
  · rw [h'] at h
    cases h
  · rw [h'] at h
    cases h
  · rw [h'] at h
    cases h
    exact ⟨rfl, hencode, httl, .refresh_of_becomes hlt hb, hb.minted⟩

/-- A rotation that goes through ends with writing the successor. -/
theorem rotate_eq_ok {c : Claims} {issued : Issued}
    (h : svc.rotate c w = (.ok issued, w')) :
    ∃ t w₁ w₂, svc.retire c w = (.ok t, w₁) ∧
      w₂ = { w₁ with minted := w₁.minted + 1 } ∧
      svc.issueRefresh t.sub (some (svc.ids (w₁.minted + 1)))
        (some t.family) w₂ =
        (.ok issued, w') := by
  obtain ⟨t, w₁, hretire, h⟩ := Action.bind_eq_ok h
  obtain ⟨fresh, w₂, hmint, h⟩ := Action.bind_eq_ok h
  cases hmint
  exact ⟨t, w₁, _, hretire, rfl, h⟩

end Service

end SessionTokens
