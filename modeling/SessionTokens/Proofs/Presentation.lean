import Mathlib.Data.List.Forall2
import SessionTokens.Proofs.Redemption

/-!
# Operations look at the token and not at its spelling

Nothing looks at what is presented but for its token: what is verified is the
token, and a reset token is remembered by the digest of the token. So an
operation is one and the same for all spellings, in every world. That is carried
by `perform` from one request to the next, and a history can be respelled all
over without leaving another world.
-/

namespace SessionTokens

/-- Both values are spellings of one token, a text with no white space in it. -/
def Bearer.SameToken (s s' : String) : Prop :=
  ∃ t, t ≠ "" ∧ IsSolid t ∧ Presents t s ∧ Presents t s'

theorem Bearer.SameToken.token_eq {s s' : String} (h : SameToken s s') :
    token s = token s' := by
  obtain ⟨t, hne, hsolid, hs, hs'⟩ := h
  rw [token_of_presents hne hsolid hs, token_of_presents hne hsolid hs']

/-- The requests ask for the same. If they present a token, they may do so in
different spellings. -/
inductive Request.Respells : Request → Request → Prop
  | same (r : Request) : Respells r r
  | refresh {s s' : String} : Bearer.SameToken s s' →
      Respells (.refresh s) (.refresh s')
  | logout {s s' : String} : Bearer.SameToken s s' →
      Respells (.logout s) (.logout s')
  | authenticate {s s' : String} : Bearer.SameToken s s' →
      Respells (.authenticate s) (.authenticate s')
  | verifyEmail {s s' : String} : Bearer.SameToken s s' →
      Respells (.verifyEmail s) (.verifyEmail s')
  | confirmPasswordReset {s s' : String} (new : String) :
      Bearer.SameToken s s' →
      Respells (.confirmPasswordReset s new) (.confirmPasswordReset s' new)
  | verify {s s' : String} : Bearer.SameToken s s' →
      Respells (.verify s) (.verify s')
  | verifyMode {s s' : String} (mode : Mode) : Bearer.SameToken s s' →
      Respells (.verifyMode s mode) (.verifyMode s' mode)
  | verifyPurpose {s s' : String} (mode : Mode) : Bearer.SameToken s s' →
      Respells (.verifyPurpose s mode) (.verifyPurpose s' mode)

/-- The same happens, but for the spelling of a token that is presented. -/
inductive Event.Respells : Event → Event → Prop
  | same (e : Event) : Respells e e
  | request {r r' : Request} : r.Respells r' →
      Respells (.request r) (.request r')

/-- A reset token is remembered alike in all spellings. -/
theorem resetDigest_of_token_eq {s s' : String}
    (h : Bearer.token s = Bearer.token s') :
    resetDigest s = resetDigest s' := by
  rw [resetDigest, resetDigest, h]

namespace Service

variable (svc : Service) {s s' : String}

/-! ## Operations on a token -/

theorem verify_of_token_eq (h : Bearer.token s = Bearer.token s') :
    svc.verify s = svc.verify s' := by
  rw [verify, verify, h]

theorem verifyMode_of_token_eq (h : Bearer.token s = Bearer.token s')
    (mode : Mode) : svc.verifyMode s mode = svc.verifyMode s' mode := by
  rw [verifyMode, verifyMode, svc.verify_of_token_eq h]

theorem verifyPurpose_of_token_eq (h : Bearer.token s = Bearer.token s')
    (mode : Mode) : svc.verifyPurpose s mode = svc.verifyPurpose s' mode := by
  rw [verifyPurpose, verifyPurpose, h]

theorem refresh_of_token_eq (h : Bearer.token s = Bearer.token s') :
    svc.refresh s = svc.refresh s' := by
  rw [refresh, refresh, refreshable, refreshable,
    svc.verifyMode_of_token_eq h]

theorem confirmPasswordReset_of_token_eq
    (h : Bearer.token s = Bearer.token s') (new : String) :
    svc.confirmPasswordReset s new = svc.confirmPasswordReset s' new := by
  rw [confirmPasswordReset, confirmPasswordReset,
    svc.verifyPurpose_of_token_eq h, resetDigest_of_token_eq h]

/-- A respelled request has the same answer and leaves the same world. -/
theorem perform_respelled {r r' : Request} (h : r.Respells r') :
    svc.perform r = svc.perform r' := by
  cases h with
  | same => rfl
  | refresh h => rw [perform, perform, svc.refresh_of_token_eq h.token_eq]
  | logout h =>
      rw [perform, perform, logout, logout,
        svc.verifyMode_of_token_eq h.token_eq]
  | authenticate h =>
      rw [perform, perform, authenticate, authenticate,
        svc.verifyMode_of_token_eq h.token_eq]
  | verifyEmail h =>
      rw [perform, perform, verifyEmail, verifyEmail,
        svc.verifyPurpose_of_token_eq h.token_eq]
  | confirmPasswordReset new h =>
      rw [perform, perform,
        svc.confirmPasswordReset_of_token_eq h.token_eq new]
  | verify h => rw [perform, perform, svc.verify_of_token_eq h.token_eq]
  | verifyMode mode h =>
      rw [perform, perform, svc.verifyMode_of_token_eq h.token_eq mode]
  | verifyPurpose mode h =>
      rw [perform, perform, svc.verifyPurpose_of_token_eq h.token_eq mode]

/-! ## Histories -/

theorem next_respelled {e e' : Event} (h : e.Respells e') (w : World) :
    svc.next w e = svc.next w e' := by
  cases h with
  | same => rfl
  | request h => rw [next, next, svc.perform_respelled h]

/-- A history leaves the same world, however its tokens are spelled. -/
theorem after_respelled {es es' : List Event}
    (h : List.Forall₂ Event.Respells es es') (w : World) :
    svc.after w es = svc.after w es' := by
  induction h generalizing w with
  | nil => rfl
  | cons he _ ih => rw [after_cons, after_cons, svc.next_respelled he, ih]

/-- **A token is the same in every spelling.** Whatever is presented can be cut
in bytes, and its token is what is left of it without the white space and the
scheme in front, trimmed. White space around a token and in front of it, the
scheme and its capitals make no difference to which token is found, nor to how
it is verified, for a session or for a purpose, and remembered when it has been
redeemed; so neither to any request nor to a whole history. -/
theorem same_token_in_every_spelling :
    (∀ raw : String, Bearer.cut? raw = some (Bearer.token raw) ∧
      Bearer.Presents (Bearer.token raw) raw ∧
      Text.IsTrimmed (Bearer.token raw).toList) ∧
    (∀ t u v w b : String, t ≠ "" → Bearer.IsSolid t → Bearer.IsBlank u →
      Bearer.IsBlank v → Bearer.IsBlank w → b.toLower = "bearer" →
      Bearer.token (u ++ b ++ " " ++ w ++ t ++ v) = t ∧
        Bearer.token (u ++ t ++ v) = t) ∧
    ∀ svc : Service,
      (∀ s s' : String, Bearer.SameToken s s' →
        svc.verify s = svc.verify s' ∧
        (∀ mode, svc.verifyMode s mode = svc.verifyMode s' mode) ∧
        (∀ mode, svc.verifyPurpose s mode = svc.verifyPurpose s' mode) ∧
        ∀ sub, Key.redeemed sub (resetDigest s) =
          Key.redeemed sub (resetDigest s')) ∧
      (∀ r r' : Request, r.Respells r' → svc.perform r = svc.perform r') ∧
      ∀ es es' : List Event, List.Forall₂ Event.Respells es es' →
        ∀ w, svc.after w es = svc.after w es' := by
  refine ⟨fun raw => ⟨Bearer.cut?_eq_token raw, Bearer.presents_token raw,
      Bearer.isTrimmed_token raw⟩,
    fun t u v w b hne hsolid hu hv hw hb => ⟨?_, ?_⟩,
    fun svc => ⟨fun s s' hsame => ?_, fun r r' => svc.perform_respelled,
      fun es es' => svc.after_respelled⟩⟩
  · exact Bearer.token_of_presents hne hsolid (.scheme u b w v hu hb hw hv rfl)
  · exact Bearer.token_of_presents hne hsolid (.bare u v hu hv rfl)
  · have htoken := hsame.token_eq
    exact ⟨svc.verify_of_token_eq htoken, svc.verifyMode_of_token_eq htoken,
      svc.verifyPurpose_of_token_eq htoken,
      fun sub => congrArg (Key.redeemed sub) (resetDigest_of_token_eq htoken)⟩

/-- A reset token is presented with a scheme in mixed capitals and wide white
space, and then as it is. The last text is as long as the scheme up to the
middle of its last character. -/
theorem same_token_in_odd_spelling :
    let odd :=
      "\u3000" ++ "bEaReR" ++ " " ++ "\t\u2003" ++ trialToken ++ "\u0085\n"
    let first := Request.confirmPasswordReset odd Password.trialPhrase
    let plain := Request.confirmPasswordReset trialToken Password.trialPhrase
    trialToken ≠ "" ∧ Bearer.IsSolid trialToken ∧
      Bearer.SameToken odd trialToken ∧ Bearer.token odd = trialToken ∧
      trial.verifyPurpose odd .resetPassword (trialWorld 0) =
        (.ok trialReset, trialWorld 0) ∧
      Key.redeemed "u" (resetDigest odd) =
        Key.redeemed "u" (resetDigest trialToken) ∧
      first.Respells plain ∧ trial.perform first = trial.perform plain ∧
      trial.after (trialWorld 0) [.request first, .request plain] =
        trial.after (trialWorld 0) [.request plain, .request first] ∧
      Bearer.cut? "Beareré" = some "Beareré" := by
  intro odd first plain
  obtain ⟨hcut, hspell, hservice⟩ := same_token_in_every_spelling
  obtain ⟨hverify, hperform, hafter⟩ := hservice trial
  have hne : trialToken ≠ "" := trial.codec.asciiText_ne_empty _ _
  have hsolid : Bearer.IsSolid trialToken := trial.codec.isSolid_asciiText _ _
  have hu : Bearer.IsBlank "\u3000" := by decide +kernel
  have hw : Bearer.IsBlank "\t\u2003" := by decide +kernel
  have hv : Bearer.IsBlank "\u0085\n" := by decide +kernel
  have hb : "bEaReR".toLower = "bearer" := by decide +kernel
  have hodd : Bearer.Presents trialToken odd :=
    .scheme _ _ _ _ hu hb hw hv rfl
  have hempty : Bearer.IsBlank "" := by decide +kernel
  have hplain : Bearer.Presents trialToken trialToken :=
    .bare "" "" hempty hempty (by simp)
  have hsame : Bearer.SameToken odd trialToken :=
    ⟨trialToken, hne, hsolid, hodd, hplain⟩
  obtain ⟨-, -, hpurpose, hmark⟩ := hverify odd trialToken hsame
  have hrespells : first.Respells plain := .confirmPasswordReset _ hsame
  have hback : plain.Respells first :=
    .confirmPasswordReset _ ⟨trialToken, hne, hsolid, hplain, hodd⟩
  refine ⟨hne, hsolid, hsame,
    (hspell _ _ _ _ _ hne hsolid hu hv hw hb).1, ?_, hmark "u", hrespells,
    hperform _ _ hrespells, ?_, ?_⟩
  · rw [hpurpose]
    exact (redeems_trial (Nat.zero_le 605000)).resets.verifyPurpose
  · exact hafter _ _ (.cons (.request hrespells)
      (.cons (.request hback) .nil)) (trialWorld 0)
  · rw [(hcut "Beareré").1]
    decide +kernel

end Service

end SessionTokens
