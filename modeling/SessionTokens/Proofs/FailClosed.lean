import SessionTokens.Proofs.Alarms
import SessionTokens.Proofs.Openings

/-!
# A failing store accepts nothing

Any of the store's calls may be out of order while a token is verified, each in
a way of its own. A call that fails before its look-up is made gives no value
that could be mistaken for one, so what is accepted has been found in a store
that answered, and a store that answers more would have been asked the same
questions. The report of a compromised token rests on the look-ups that come
first and on nothing else: whether the sweep that goes with it gets anywhere
does not change the answer. When even those look-ups fail there is no report
and no sweep, and an outage ends no session.
-/

namespace SessionTokens

namespace Service

variable {svc : Service} {w : World} {bearer : String}

/-! ## What is accepted -/

theorem verify_healed {p : Payload} (h : (svc.verify bearer w).1 = .ok p) :
    (svc.verify bearer w.healed).1 = .ok p :=
  verify_of_upheld (w := w)
    ⟨rfl, fun _ _ => rfl, fun _ _ => id, fun _ _ => id⟩ h

theorem verifyMode_of_verify {mode : Mode} {p : Payload}
    (h : (svc.verify bearer w).1 = .ok p) (hmode : p.mode = mode) :
    (svc.verifyMode bearer mode w).1 = .ok p := by
  rw [verifyMode, Action.bind_of_ok (Action.eq_of_fst_eq h), if_pos hmode]
  rfl

theorem verifyMode_healed {mode : Mode} {p : Payload}
    (h : (svc.verifyMode bearer mode w).1 = .ok p) :
    (svc.verifyMode bearer mode w.healed).1 = .ok p := by
  obtain ⟨hverify, hmode⟩ := verifyMode_eq_ok (Action.eq_of_fst_eq h)
  exact verifyMode_of_verify (verify_healed (congrArg Prod.fst hverify)) hmode

/-- A client is known as the account that its access token names, if that one
is there and active. -/
theorem authenticate_eq_ok_iff {u : User} :
    (svc.authenticate bearer w).1 = .ok u ↔
      ∃ p, (svc.verifyMode bearer .access w).1 = .ok p ∧
        w.directoryOutage ≠ some .find ∧ w.users.find? p.sub = some u ∧
        u.isActive = true := by
  have hsame : ∀ {p w₁}, svc.verifyMode bearer .access w = (.ok p, w₁) →
      w₁.users = w.users ∧ w₁.directoryOutage = w.directoryOutage := by
    intro p w₁ h
    obtain ⟨-, hb⟩ := verify_eq_ok (verifyMode_eq_ok h).1
    rw [hb.rest]
    exact ⟨rfl, rfl⟩
  constructor
  · intro h
    obtain ⟨p, w₁, hmode, h₁⟩ := Action.bind_eq_ok (Action.eq_of_fst_eq h)
    replace hmode := Action.mapError_eq_ok hmode
    obtain ⟨v, w₂, huser, h₂⟩ := Action.bind_eq_ok h₁
    obtain ⟨husers, hout⟩ := hsame hmode
    have hfind := (Action.requireUser_eq_ok huser).2
    have hworks : w.directoryOutage ≠ some .find := by
      intro hdown
      rw [Action.requireUser_apply, hout, if_pos hdown] at huser
      cases huser
    split at h₂
    · next hactive =>
        cases h₂
        exact ⟨p, congrArg Prod.fst hmode, hworks, husers ▸ hfind, hactive⟩
    · cases h₂
  · rintro ⟨p, hmode, hout, hfind, hactive⟩
    have hverify : outside (svc.verifyMode bearer .access) w =
        (.ok p, (svc.verifyMode bearer .access w).2) :=
      outside_of_ok (Prod.ext hmode rfl)
    obtain ⟨husers, hout'⟩ := hsame (Action.mapError_eq_ok hverify)
    rw [authenticate, Action.bind_of_ok hverify, Action.bind_apply,
      Action.requireUser_apply, husers, hout', if_neg hout, hfind]
    dsimp only [Outcome.ofOption]
    rw [if_pos hactive]
    rfl

/-! ## What is reported, and what is left -/

/-- Asking for a mode changes nothing. -/
theorem verifyMode_snd (mode : Mode) :
    (svc.verifyMode bearer mode w).2 = (svc.verify bearer w).2 := by
  rw [verifyMode, Action.bind_apply]
  rcases svc.verify bearer w with ⟨p | e | _, w₁⟩
  · dsimp only
    split <;> rfl
  · rfl
  · rfl

/-- Nor does looking for the account. -/
theorem authenticate_snd :
    (svc.authenticate bearer w).2 = (svc.verify bearer w).2 := by
  rw [← verifyMode_snd .access, authenticate, Action.bind_apply, outside,
    Action.mapError]
  rcases svc.verifyMode bearer .access w with ⟨p | e | _, w₁⟩
  · dsimp only [Outcome.mapError]
    rw [Action.bind_apply, Action.requireUser_apply]
    split
    · next u w₂ heq =>
        cases (Prod.mk.inj heq).2
        split <;> rfl
    · next e w₂ heq => exact (Prod.mk.inj heq).2.symm
    · next w₂ heq => exact (Prod.mk.inj heq).2.symm
  · rfl
  · rfl

/-- Without the look-ups that would tell, nothing is swept. -/
theorem live_of_blind (h : w.outages .exists ≠ none) :
    (svc.verify bearer w).2.live = w.live := by
  have hnot : ¬ svc.Suspects w bearer := fun hsuspects => by
    obtain ⟨-, -, -, -, -, hexists, -⟩ := compromised_of_suspects hsuspects
    exact h hexists
  exact (becomes_of_not_suspects hnot).live

/-- Whatever calls of the store fail, and however they do: what is accepted is
accepted with nothing failing too; no failure is passed on as such; the look-ups
for the fence and the family decide on a refresh token as long as they can be
made, whether or not anything else can; and if they cannot, every entry
stays. -/
theorem verify_fails_closed (svc : Service) (w : World) (bearer : String) :
    (∀ p, (svc.verify bearer w).1 = .ok p →
      (svc.verify bearer w.healed).1 = .ok p) ∧
    (∀ mode p, (svc.verifyMode bearer mode w).1 = .ok p →
      (svc.verifyMode bearer mode w.healed).1 = .ok p) ∧
    (∀ p, (outside (svc.verifyMode bearer .access) w).1 = .ok p →
      (outside (svc.verifyMode bearer .access) w.healed).1 = .ok p) ∧
    (∀ u, (svc.authenticate bearer w).1 = .ok u →
      (svc.authenticate bearer w.healed).1 = .ok u) ∧
    (∀ cause, (svc.verify bearer w).1 ≠ .error (.internal cause)) ∧
    (∀ c s, svc.codec.decode w.seconds .session (Bearer.token bearer) = .ok c →
      c.session? = some s → s.mode = .refresh → w.outages .exists = none →
      (∀ e, w.live.get? (Key.used s.sub s.jti) = some e →
        (svc.verify bearer w).1 = .error (.rejected .reuseDetected)) ∧
      (w.live.get? (Key.used s.sub s.jti) = none →
        (∀ f, c.family = some f →
          w.live.get? (Key.family s.sub f) = none) →
        (svc.verify bearer w).1 = .error (.rejected .familyInvalidated))) ∧
    (w.outages .exists ≠ none →
      (svc.verify bearer w).2.live = w.live ∧
      (∀ mode, (svc.verifyMode bearer mode w).2.live = w.live) ∧
      (svc.authenticate bearer w).2.live = w.live) := by
  refine ⟨fun p => verify_healed, fun mode p => verifyMode_healed,
    fun p hstage => ?_, fun u hu => ?_, fun cause hcause => ?_,
    fun c s hdecode hs hmode hexists =>
      ⟨fun e he => ?_, fun hunused hgone => ?_⟩,
    fun hblind => ?_⟩
  · have hmode := Action.mapError_eq_ok (Action.eq_of_fst_eq hstage)
    rw [outside, Action.mapError,
      verifyMode_healed (congrArg Prod.fst hmode)]
    rfl
  · obtain ⟨p, hmode, hworks, hfind, hactive⟩ := authenticate_eq_ok_iff.mp hu
    exact authenticate_eq_ok_iff.mpr
      ⟨p, verifyMode_healed hmode, hworks, hfind, hactive⟩
  · obtain ⟨why, hwhy⟩ := verify_eq_error (Action.eq_of_fst_eq hcause)
    cases hwhy
  · exact (verify_of_broken hdecode hs hmode hexists
      (World.lineage_eq_reuseDetected.mpr ⟨e, he⟩)).1
  · exact (verify_of_broken hdecode hs hmode hexists
      (World.lineage_eq_familyInvalidated.mpr ⟨hunused, hgone⟩)).1
  · refine ⟨live_of_blind hblind, fun mode => ?_, ?_⟩
    · rw [verifyMode_snd, live_of_blind hblind]
    · rw [authenticate_snd, live_of_blind hblind]

/-- A used refresh token is reported though nothing but the look-ups for marks
works; with nothing working at all the entries stay. A fresh one that gets
through with removals failing gets through anyway. -/
theorem trial_verify_fails_closed :
    let fresh := trial.after (.initial 1700000000000)
      [.request (.issueRefresh "u" none none)]
    let used := trial.after fresh [.request (.rotate trialRefresh.toClaims)]
    let limping := { fresh with
      outages := fun call => if call = .delete then some .timeout else none }
    let failing := { used with
      outages := fun call =>
        if call = .exists then none else some .unavailable }
    let dark := { used with outages := fun _ => some .scriptMissing }
    (trial.verify trialRefreshToken limping).1 = .ok trialRefresh ∧
      (trial.verify trialRefreshToken limping.healed).1 = .ok trialRefresh ∧
      (trial.verify trialRefreshToken failing).1 =
        .error (.rejected .reuseDetected) ∧
      (trial.verify trialRefreshToken dark).2.live = used.live := by
  intro fresh used limping failing dark
  have hvalid : ∀ w : World, w.wall = 1700000000000 →
      trial.codec.decode w.seconds .session (Bearer.token trialRefreshToken) =
        .ok trialRefresh.toClaims := by
    intro w hwall
    refine Codec.decode_of_read? read?_trialRefreshToken ?_
    rw [World.seconds, hwall]
    decide +kernel
  have hdecode := hvalid limping (by decide +kernel)
  have hlimping : (trial.verify trialRefreshToken limping).1 =
      .ok trialRefresh :=
    Finds.verify (s := ⟨"u", .refresh, Action.idText 3, Action.idText 1⟩)
      ⟨hdecode, rfl, rfl, fun _ => ⟨rfl, by decide +kernel⟩, rfl,
        by decide +kernel, rfl⟩
  have hfence : failing.live.get? (Key.used "u" (Action.idText 3)) =
      some ⟨Key.usedMark, 600000⟩ := by decide +kernel
  refine ⟨hlimping,
    (trial.verify_fails_closed limping trialRefreshToken).1 _ hlimping, ?_, ?_⟩
  · obtain ⟨-, -, -, -, -, hreport, -⟩ :=
      trial.verify_fails_closed failing trialRefreshToken
    exact (hreport _ ⟨"u", .refresh, Action.idText 3, Action.idText 1⟩
      (hvalid failing (by decide +kernel)) rfl rfl rfl).1 _ hfence
  · obtain ⟨-, -, -, -, -, -, hblind⟩ :=
      trial.verify_fails_closed dark trialRefreshToken
    exact (hblind (Option.some_ne_none _)).1

end Service

end SessionTokens
