import SessionTokens.Proofs.Codec
import SessionTokens.Proofs.Lifetimes
import SessionTokens.Proofs.Marks

/-!
# What comes of a replayed token

A token that is used up leaves a fence, and while the fence stands, presenting
the token again is noticed: verification looks for the fence before anything
else, and rotation does as soon as the family is in order, which the successor
has seen to. The fence stands up to its deadline unless the subject is swept.
The answer comes with a sweep, and after a sweep nothing that was issued to the
subject before is ever good again.
-/

namespace SessionTokens

/-! ## Right after the exchange -/

namespace Service

variable {svc : Service} {w : World} {r : Request} {t : Retired}

/-- A token that is used up leaves its fence. -/
theorem next_keeps_fence (hforced : w.forcedReply = none)
    (h : svc.retired? w r = some t) :
    (svc.next w (.request r)).Keeps (Key.used t.sub t.jti)
      (w.clock + svc.fenceSeconds * 1000) := by
  obtain ⟨w₁, w₂, hb, hretire, hwrites⟩ := retired?_eq_some hforced h
  have hw₂ :
      w₂.Keeps (Key.used t.sub t.jti) (w.clock + svc.fenceSeconds * 1000) := by
    refine hretire.keeps_of_written (e := ⟨Key.usedMark, _⟩) ?_ (Nat.le_refl _)
    rw [← hb.clock]
    simp [Effect.writes]
  exact hwrites.keeps rfl nofun hw₂

/-- The successor of a token that is used up has the family's mark renewed. -/
theorem next_keeps_family (hforced : w.forcedReply = none)
    (h : svc.retired? w r = some t)
    (hnew : (svc.exchanged? w r).isSome = true) :
    (svc.next w (.request r)).Keeps (Key.family t.sub t.family)
      (w.clock + toMillis svc.lifetimes.refresh) := by
  obtain ⟨issued, hissued⟩ := Option.isSome_iff_exists.mp hnew
  obtain ⟨t', s, j, w₁, w₂, ht, hclock, hc, hwrites⟩ :=
    exchanged?_eq_some hforced hissued
  cases h.symm.trans ht
  have hne : Key.refresh t.sub s ≠ Key.family t.sub t.family :=
    Key.make_ne_of_ns_ne (by decide)
  have hw₂ : w₂.Keeps (Key.family t.sub t.family)
      (w.clock + toMillis svc.lifetimes.refresh) := by
    refine hc.keeps_of_written (e := ⟨Key.familyMark, _⟩) ?_ (Nat.le_refl _)
    rw [← hclock]
    simp [Effect.writes, hne]
  refine hwrites.keeps rfl (fun _ => Nat.le_of_eq ?_) hw₂
  rw [hc.clock, hclock]

/-- The fence stands up to its deadline, if the sessions of the subject are not
taken away. -/
theorem fence_of_spares {later : List Event} (hids : svc.Distinguishes)
    (hforced : w.forcedReply = none) (htidy : w.Tidy svc)
    (h : svc.retired? w r = some t)
    (hlater : svc.Throughout (svc.Spares .used t.sub)
      (svc.next w (.request r)) later)
    (hlt : (svc.after (svc.next w (.request r)) later).clock <
      w.clock + svc.fenceSeconds * 1000) :
    ∃ e, (svc.after (svc.next w (.request r)) later).live.get?
      (Key.used t.sub t.jti) = some e := by
  have hplain : Key.IsPlain t.jti := by
    obtain ⟨w₁, w₂, hb, hretire, -⟩ := retired?_eq_some hforced h
    have htidy₁ := (Change.pass_of_becomes hb).tidy hids.injective htidy
    obtain ⟨n, -, hn⟩ := htidy₁.minted hretire.records_of_retire
    rw [hn]
    exact hids.plain n
  have hkept := after_keeps .used (forcedReply_next _ hforced) rfl
    (.inr hplain) nofun hlater (next_keeps_fence hforced h)
  obtain ⟨e, he, -⟩ := hkept hlt
  exact ⟨e, he⟩

/-- So does the mark of the family, which is renewed with the successor. -/
theorem family_of_exchanged {later : List Event}
    (hforced : w.forcedReply = none) (h : svc.retired? w r = some t)
    (hnew : (svc.exchanged? w r).isSome = true) (hplain : Key.IsPlain t.family)
    (hlater : svc.Throughout (svc.Spares .family t.sub)
      (svc.next w (.request r)) later)
    (hlt : (svc.after (svc.next w (.request r)) later).clock <
      w.clock + toMillis svc.lifetimes.refresh) :
    ∃ f, (svc.after (svc.next w (.request r)) later).live.get?
      (Key.family t.sub t.family) = some f := by
  have hkept := after_keeps .family (forcedReply_next _ hforced) rfl
    (.inr hplain) (fun _ => Nat.add_le_add_right (clock_next _ _ hforced) _)
    hlater (next_keeps_family hforced h hnew)
  obtain ⟨f, hf, -⟩ := hkept hlt
  exact ⟨f, hf⟩

/-! ## The answers -/

/-- While its fence stands, verification reports a used token. -/
theorem verify_of_fence {bearer : String} {c : Claims} {e : Entry}
    (hdecode :
      svc.codec.decode w.seconds .session (Bearer.token bearer) = .ok c)
    (ht : c.IsOf t) (hexists : w.outages .exists = none)
    (hfence : w.live.get? (Key.used t.sub t.jti) = some e) :
    (svc.verify bearer w).1 = .error (.rejected .reuseDetected) ∧
      w.Becomes (w.swept t.sub) (svc.verify bearer w).2 :=
  verify_of_lineage hdecode ht hexists
    (World.lineage_eq_reuseDetected.mpr ⟨e, hfence⟩)

/-- While its fence stands and its family is in order, rotation reports a used
token. -/
theorem rotate_of_fence {c : Claims} {e f : Entry} (ht : c.IsOf t)
    (hexists : w.outages .exists = none) (hruns : w.RunsScripts)
    (hforced : w.forcedReply = none)
    (hfence : w.live.get? (Key.used t.sub t.jti) = some e)
    (hfamily : w.live.get? (Key.family t.sub t.family) = some f) :
    (svc.rotate c w).1 = .error (.rejected .reuseDetected) ∧
      w.Becomes (w.swept t.sub) (svc.rotate c w).2 := by
  obtain ⟨k, hretirement, hb⟩ := svc.retire_spec c hforced
  have hretire : (svc.retire c w).1 = .error (.rejected .reuseDetected) ∧
      w.Becomes (w.swept t.sub) (svc.retire c w).2 := by
    generalize hr : (svc.retire c w).1 = r at hretirement
    cases hretirement with
    | anonymous hsub => rw [ht.sub] at hsub; cases hsub
    | incomplete _ hnot => exact absurd ht (hnot t)
    | failed _ _ hout =>
        rcases hout with hout | hout
        · exact absurd hexists hout
        · exact absurd hruns hout
    | orphaned ht' _ hnone =>
        cases ht.unique ht'
        rw [hfamily] at hnone
        cases hnone
    | reused ht' _ _ _ => cases ht.unique ht'; exact ⟨rfl, hb⟩
    | stale ht' _ _ hnone _ =>
        cases ht.unique ht'
        rw [hfence] at hnone
        cases hnone
    | endless ht' hnone _ _ =>
        cases ht.unique ht'
        rw [hfence] at hnone
        cases hnone
    | done ht' _ _ hnone _ _ =>
        cases ht.unique ht'
        rw [hfence] at hnone
        cases hnone
  have hrotate : svc.rotate c w =
      (.error (.rejected .reuseDetected), (svc.retire c w).2) :=
    Action.bind_of_error (Prod.ext hretire.1 rfl)
  rw [hrotate]
  exact ⟨rfl, hretire.2⟩

end Service

/-! ## After a sweep -/

/-- No identifier among the first so many is on record at one of the subject's
session keys. -/
structure World.Severed (svc : Service) (sub : String) (m : Nat) (w : World) :
    Prop where
  minted : m ≤ w.minted
  fresh : ∀ {key jti}, Key.isSessionKeyOf sub key = true → w.Records key jti →
    ∃ n, m < n ∧ jti = svc.ids n

section

variable {svc : Service} {sub : String} {m : Nat} {ef : Effect} {w w₁ : World}

theorem Change.severed (h : Change svc ef w w₁) (hw : w.Severed svc sub m) :
    w₁.Severed svc sub m := by
  refine ⟨Nat.le_trans hw.minted h.minted, fun hkey hr => ?_⟩
  rcases h.records hr with ⟨hold, -⟩ | ⟨-, n, hlt, -, hjti⟩
  · exact hw.fresh hkey hold
  · exact ⟨n, Nat.lt_of_le_of_lt hw.minted hlt, hjti⟩

theorem Passes.severed (h : Passes w w₁) (hw : w.Severed svc sub m) :
    w₁.Severed svc sub m :=
  ⟨by rw [h.minted]; exact hw.minted,
    fun hkey hr => hw.fresh hkey (h.records hr)⟩

theorem Service.after_severed (hforced : w.forcedReply = none)
    (hw : w.Severed svc sub m) (es : List Event) :
    (svc.after w es).Severed svc sub m :=
  (after_invariant Passes.severed Change.severed hforced hw es).1

end

/-- The sessions of the subject are gone, and what has been issued to it so far
is good for nothing any more. -/
structure Service.TornDown (svc : Service) (sub : String) (w : World) :
    Prop where
  keys : ∀ key, Key.isSessionKeyOf sub key = true → w.live.get? key = none
  tokens : ∀ {es : List Event} {r : Request} {c : Claims} {session : String}
    {n : Nat},
    svc.presented? r = some c → c.sub = some sub → c.sessionId = some session →
    Key.IsPlain session → c.jti = some (svc.ids n) → n ≤ w.minted →
    ¬ svc.Accepts (svc.after w es) (svc.ids n) r

theorem Service.tornDown_of_becomes {svc : Service} {sub : String}
    {w w₁ : World} (hids : ∀ {n m}, svc.ids n = svc.ids m → n = m)
    (hforced : w.forcedReply = none)
    (h : w.Becomes (w.live.withoutSessions sub) w₁) : svc.TornDown sub w₁ := by
  have hkeys : ∀ key, Key.isSessionKeyOf sub key = true →
      w₁.live.get? key = none :=
    fun key hkey => Change.get?_of_swept h hkey
  have hsevered : w₁.Severed svc sub w₁.minted := by
    refine ⟨Nat.le_refl _, fun {key jti} hkey hr => ?_⟩
    have hvalue := hr.value
    rw [hkeys key hkey] at hvalue
    cases hvalue
  refine ⟨hkeys, fun {es r c session n} hpresented hsub hsession hplain hjti hn
    haccepts => ?_⟩
  have hforced₁ : (svc.after w₁ es).forcedReply = none :=
    forcedReply_after es (by rw [h.forcedReply, hforced])
  obtain ⟨c', ns, sub', session', hpresented', -, hsub', hsession', hrecord⟩ :=
    haccepts.records hforced₁
  cases hpresented.symm.trans hpresented'
  cases hsub.symm.trans hsub'
  cases hsession.symm.trans hsession'
  have hkey : Key.isSessionKeyOf sub (Key.make ns.name sub session) = true := by
    obtain ⟨ns', sub', session', hns', heq⟩ := hrecord.liveness
    cases Key.ns_eq_of_make_eq heq
    exact Key.isSessionKeyOf_of_isLiveness hns' hplain
  obtain ⟨k, hlt, heq⟩ := (after_severed (by rw [h.forcedReply, hforced])
    hsevered es).fresh hkey hrecord
  have hnk : n = k := hids heq
  omega

/-! ## Histories -/

namespace Service

variable {tokens : TokenSettings} {batch : Nat}
  {policy : Password.Policy} {hasher : Hasher} {ids : Nat → String}
  {svc : Service} {w₀ w₁ w : World} {first : Request} {t : Retired}

/-- A replayed token is noticed and tears everything down. In every history, as
long as the fence of a used refresh token stands and its subject has not been
swept since, verifying the token answers that it has been used, and so does
rotating it once it has a successor. The answer needs no more of the store than
that it can look; if keys can be removed too, nothing of the subject is left. -/
theorem replay_detected
    (hsvc : assemble tokens batch policy hasher ids = .ok svc)
    (hids : svc.Distinguishes) (hnew : w₀.IsNew) (past : List Event)
    (hw₁ : w₁ = svc.after w₀ past) (hretired : svc.retired? w₁ first = some t)
    (later : List Event)
    (hw : w = svc.after (svc.next w₁ (.request first)) later)
    (hquiet : svc.Throughout (fun w e => ¬ svc.Sweeps w t.sub e)
      (svc.next w₁ (.request first)) later)
    (hclock : w.clock < w₁.clock + toMillis svc.lifetimes.usedRefresh)
    (hexists : w.outages .exists = none) :
    (∀ bearer c,
      svc.codec.decode w.seconds .session (Bearer.token bearer) = .ok c →
      c.IsOf t →
      (svc.verify bearer w).1 = .error (.rejected .reuseDetected) ∧
        (w.Sweepable → svc.TornDown t.sub (svc.verify bearer w).2)) ∧
    ((svc.exchanged? w₁ first).isSome = true → (∃ n, t.family = svc.ids n) →
      w.RunsScripts → ∀ c, c.IsOf t →
      (svc.rotate c w).1 = .error (.rejected .reuseDetected) ∧
        (w.Sweepable → svc.TornDown t.sub (svc.rotate c w).2)) := by
  subst hw₁
  have hpos := (lives_of_assemble hsvc).usedRefresh
  have hle := usedRefresh_le_of_assemble hsvc
  obtain ⟨htidy, hforced₁⟩ :=
    after_tidy hids.injective hnew.forcedReply hnew.tidy past
  have hforced : w.forcedReply = none := by
    rw [hw]
    exact forcedReply_after later (forcedReply_next _ hforced₁)
  have hspares : ∀ ns, svc.Throughout (svc.Spares ns t.sub)
      (svc.next (svc.after w₀ past) (.request first)) later :=
    fun ns => hquiet.imp fun h => .inr h
  obtain ⟨e, hfence⟩ :
      ∃ e, w.live.get? (Key.used t.sub t.jti) = some e := by
    have hseconds : toMillis svc.lifetimes.usedRefresh =
        svc.fenceSeconds * 1000 := by
      rw [fenceSeconds_eq hpos]
      rfl
    rw [hw, hseconds] at hclock
    rw [hw]
    exact fence_of_spares hids hforced₁ htidy hretired (hspares .used) hclock
  have htorn : ∀ {w' : World}, w.Becomes (w.swept t.sub) w' → w.Sweepable →
      svc.TornDown t.sub w' := by
    intro w' hb hsweepable
    have hswept : w.swept t.sub = w.live.withoutSessions t.sub :=
      if_pos hsweepable
    exact tornDown_of_becomes hids.injective hforced (hswept ▸ hb)
  constructor
  · intro bearer c hdecode ht
    obtain ⟨hanswer, hb⟩ := verify_of_fence hdecode ht hexists hfence
    exact ⟨hanswer, htorn hb⟩
  · rintro hexchanged ⟨n, hn⟩ hruns c ht
    obtain ⟨f, hfamily⟩ :
        ∃ f, w.live.get? (Key.family t.sub t.family) = some f := by
      -- No fence outlasts the mark.
      have hmillis : toMillis svc.lifetimes.usedRefresh ≤
          toMillis svc.lifetimes.refresh :=
        Nat.mul_le_mul_right 1000 hle
      have hlt : w.clock < (svc.after w₀ past).clock +
          toMillis svc.lifetimes.refresh :=
        Nat.lt_of_lt_of_le hclock (Nat.add_le_add_left hmillis _)
      rw [hw] at hlt ⊢
      exact family_of_exchanged hforced₁ hretired hexchanged
        (hn ▸ hids.plain n) (hspares .family) hlt
    obtain ⟨hanswer, hb⟩ :=
      rotate_of_fence ht hexists hruns hforced hfence hfamily
    exact ⟨hanswer, htorn hb⟩

/-- The token of a first session is exchanged, and replayed a millisecond before
its fence expires. -/
theorem trial_replay_detected :
    let claims := (Payload.refresh "u" 3600 (Action.idText 3) (Action.idText 1)
      (Action.idText 2)).toClaims
    let token := Codec.asciiText (trial.codec.tokenBytes .session claims)
    let w := trial.after (.initial 0)
      [.request (.issueRefresh "u" none none), .request (.rotate claims),
        .advance 599999]
    (trial.verify token w).1 = .error (.rejected .reuseDetected) ∧
      (trial.rotate claims w).1 = .error (.rejected .reuseDetected) ∧
      trial.TornDown "u" (trial.verify token w).2 := by
  intro claims token w
  have hread := trial.codec.read?_of_encode (m := .refresh)
    (show claims.mode = some .refresh from rfl) (show 0 ≤ claims.exp by decide)
    (show trial.codec.encode claims = .ok token from rfl)
  have hdecode : trial.codec.decode w.seconds .session (Bearer.token token) =
      .ok claims := Codec.decode_of_read? hread (by decide +kernel)
  have hnew : (World.initial 0).IsNew := ⟨rfl, rfl⟩
  have hretired : trial.retired?
      (trial.after (.initial 0) [.request (.issueRefresh "u" none none)])
      (.rotate claims) =
        some ⟨"u", Action.idText 3, Action.idText 1, Action.idText 2⟩ := by
    decide +kernel
  have hw : w = trial.after (trial.next
      (trial.after (.initial 0) [.request (.issueRefresh "u" none none)])
      (.request (.rotate claims))) [.advance 599999] :=
    (after_append _ [.request (.issueRefresh "u" none none)] _).trans
      (after_cons ..)
  have hclock : w.clock < (trial.after (.initial 0)
      [.request (.issueRefresh "u" none none)]).clock +
        toMillis trial.lifetimes.usedRefresh := by
    decide +kernel
  have hexists : w.outages .exists = none := by decide +kernel
  obtain ⟨hverify, hrotate⟩ :=
    replay_detected assemble_trial trial_distinguishes hnew
    [.request (.issueRefresh "u" none none)] rfl hretired [.advance 599999] hw
    ⟨id, trivial⟩ hclock hexists
  have ht : claims.IsOf
      ⟨"u", Action.idText 3, Action.idText 1, Action.idText 2⟩ :=
    ⟨rfl, rfl, rfl, rfl, rfl⟩
  have hworks : w.RunsScripts ∧ w.Sweepable :=
    ⟨⟨by decide +kernel, .inr (by decide +kernel)⟩, by decide +kernel⟩
  obtain ⟨hanswer, htorn⟩ := hverify token claims hdecode ht
  obtain ⟨hanswer', -⟩ :=
    hrotate (by decide +kernel) ⟨2, rfl⟩ hworks.1 claims ht
  exact ⟨hanswer, hanswer', htorn hworks.2⟩

end Service

end SessionTokens
