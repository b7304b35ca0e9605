import SessionTokens.Proofs.Exchanges
import SessionTokens.Proofs.FreshResets

/-!
# Every rejection looks the same

Every flow that is given a token verifies it before it does anything else, and
hands the error of verification on as it is told to the outside. That the
outside is told one thing only is then a fact about verification: all of its
errors are rejections. A failure of the store would be told as what it is, but
verification does not let one through; it turns the token down instead. The one
rejection that comes later, of a reset token that has been redeemed, is told in
the same words.
-/

namespace SessionTokens

namespace Service

variable {svc : Service} {w w' : World} {r : Request} {bearer token : String}
  {mode : Mode} {m : Action TokenError Payload} {e : TokenError}

/-! ## What verification answers -/

theorem verifyMode_eq_error (h : (svc.verifyMode bearer mode w).1 = .error e) :
    ∃ why, e = .rejected why := by
  rcases hverify : svc.verify bearer w with ⟨p | e' | _, w₁⟩
  · rw [verifyMode, Action.bind_of_ok hverify] at h
    split at h <;> cases h
    exact ⟨_, rfl⟩
  · rw [verifyMode, Action.bind_of_error hverify] at h
    cases h
    exact verify_eq_error hverify
  · rw [verifyMode, Action.bind_of_outOfRange hverify] at h
    cases h

theorem verifyPurpose_eq_error
    (h : (svc.verifyPurpose token mode w).1 = .error e) :
    ∃ why, e = .rejected why := by
  unfold verifyPurpose at h
  split at h
  · cases h
    exact ⟨_, rfl⟩
  rw [Action.bind_apply, decode_apply] at h
  cases hdecode : svc.codec.decode w.seconds mode.purpose
      (Bearer.token token) with
  | error why =>
      rw [hdecode] at h
      cases h
      exact ⟨why, rfl⟩
  | outOfRange =>
      rw [hdecode] at h
      cases h
  | ok c =>
      rw [hdecode] at h
      dsimp only [Outcome.mapError] at h
      split at h
      · cases hp : Payload.ofClaims? c with
        | none =>
            rw [hp] at h
            cases h
            exact ⟨_, rfl⟩
        | some p =>
            rw [hp] at h
            cases h
      · cases h
        exact ⟨_, rfl⟩

/-! ## What the flows make of it -/

theorem verification?_eq_error (hr : svc.verification? r = some m)
    (h : (m w).1 = .error e) : ∃ why, e = .rejected why := by
  cases r with
  | refresh b => cases hr; exact verifyMode_eq_error h
  | logout b => cases hr; exact verifyMode_eq_error h
  | authenticate b => cases hr; exact verifyMode_eq_error h
  | verifyEmail t => cases hr; exact verifyPurpose_eq_error h
  | confirmPasswordReset t new => cases hr; exact verifyPurpose_eq_error h
  | _ => cases hr

/-- The token of a request is turned down: verification does not pass it, for
whatever reason, or it is a reset token whose mark is there. -/
inductive TurnsDown (svc : Service) (w : World) : Request → Prop
  | unverified {r : Request} {m : Action TokenError Payload} {e : TokenError} :
      svc.verification? r = some m → (m w).1 = .error e → TurnsDown svc w r
  | redeemed {token new : String} {p : Payload} :
      (svc.verifyPurpose token .resetPassword w).1 = .ok p →
      svc.policy.validate new = .ok () →
      w.outages .setIfAbsent = none →
      (w.live.get? (markOf p token)).isSome = true →
      TurnsDown svc w (.confirmPasswordReset token new)

/-- A store that cannot be asked about a refresh token turns it down. -/
theorem turnsDown_of_blind {c : Claims} {s : SessionClaims}
    (hdecode :
      svc.codec.decode w.seconds .session (Bearer.token bearer) = .ok c)
    (hs : c.session? = some s) (hmode : s.mode = .refresh)
    (hexists : w.outages .exists ≠ none) :
    svc.TurnsDown w (.refresh bearer) := by
  obtain ⟨hverify, -⟩ :=
    svc.verify_of_verdict hdecode (.blind hs hmode hexists)
  exact .unverified rfl
    (congrArg Prod.fst (verifyMode_of_error (Prod.ext hverify rfl) .refresh))

/-- A reset token that has just been redeemed is turned down. -/
theorem turnsDown_of_redeemed {new new' : String}
    (hlives : 0 < svc.lifetimes.resetPassword.toNat)
    (h : svc.confirmPasswordReset token new w = (.ok (), w'))
    (hpolicy : svc.policy.validate new' = .ok ()) :
    svc.TurnsDown w' (.confirmPasswordReset token new') := by
  obtain ⟨v, p, hresets, hset, hmark⟩ := resets_of_redeemed hlives h
  exact .redeemed (congrArg Prod.fst hresets.verifyPurpose) hpolicy hset hmark

/-- The answer is a rejection then, never a failure. -/
theorem TurnsDown.rejected (h : svc.TurnsDown w r) :
    ∃ why, (svc.perform r w).1 = .error (.rejected why) := by
  cases h with
  | unverified hr he =>
      obtain ⟨why, rfl⟩ := verification?_eq_error hr he
      exact ⟨why, congrArg Prod.fst
        (perform_of_verification?_error hr (Prod.ext he rfl))⟩
  | redeemed hp hnew hset hmark =>
      exact ⟨_, svc.confirmPasswordReset_of_redeemed w hp hnew hset hmark⟩

/-- **Rejections cannot be told apart from outside.** Take any two flows, each
with a token that is turned down, at any times, in any states of the store and
with any of its calls failing: both answer with an error of the same category
and in the same words. -/
theorem rejections_look_alike {svc₁ svc₂ : Service} {w₁ w₂ : World}
    {r₁ r₂ : Request} (h₁ : svc₁.TurnsDown w₁ r₁) (h₂ : svc₂.TurnsDown w₂ r₂) :
    ∃ e₁ e₂, (svc₁.perform r₁ w₁).1 = .error e₁ ∧
      (svc₂.perform r₂ w₂).1 = .error e₂ ∧
      e₁.kind = e₂.kind ∧ e₁.message = e₂.message ∧
      e₁.kind.label = "AUTHENTICATION" ∧
      e₁.message = "Authentication failed" := by
  obtain ⟨why₁, hanswer₁⟩ := h₁.rejected
  obtain ⟨why₂, hanswer₂⟩ := h₂.rejected
  exact ⟨.rejected why₁, .rejected why₂, hanswer₁, hanswer₂, rfl, rfl, rfl, rfl⟩

/-- A refresh token that is good, but is presented while the store is too slow,
and a reset token that has just been redeemed. -/
theorem trial_rejections_look_alike :
    let slow := { trialIssued with outages := fun _ => some .timeout }
    let refresh := Request.refresh trialRefreshToken
    let again :=
      Request.confirmPasswordReset trialToken Password.trialPhrase
    ∃ redeemed, trial.confirmPasswordReset trialToken Password.trialPhrase
        (trialWorld 0) = (.ok (), redeemed) ∧
      trial.TurnsDown slow refresh ∧ trial.TurnsDown redeemed again ∧
      ∃ e₁ e₂, (trial.perform refresh slow).1 = .error e₁ ∧
        (trial.perform again redeemed).1 = .error e₂ ∧
        e₁.kind = e₂.kind ∧ e₁.message = e₂.message := by
  intro slow refresh again
  have hdecode : trial.codec.decode slow.seconds .session
      (Bearer.token trialRefreshToken) = .ok trialRefresh.toClaims :=
    Codec.decode_of_read? read?_trialRefreshToken (by decide +kernel)
  have hslow : trial.TurnsDown slow refresh := turnsDown_of_blind hdecode
    (s := ⟨"u", .refresh, Action.idText 3, Action.idText 1⟩) rfl rfl nofun
  obtain ⟨redeemed, hfirst⟩ : ∃ w', trial.confirmPasswordReset trialToken
      Password.trialPhrase (trialWorld 0) = (.ok (), w') :=
    ⟨_, Prod.ext (confirmPasswordReset_of_redeems
      (redeems_trial (Nat.zero_le 605000)) ⟨rfl, rfl⟩) rfl⟩
  have hagain : trial.TurnsDown redeemed again :=
    turnsDown_of_redeemed (by decide) hfirst Password.validate_trialPhrase
  obtain ⟨e₁, e₂, hanswer₁, hanswer₂, hkind, hmessage, -⟩ :=
    rejections_look_alike hslow hagain
  exact ⟨redeemed, hfirst, hslow, hagain, e₁, e₂, hanswer₁, hanswer₂, hkind,
    hmessage⟩

end Service

end SessionTokens
