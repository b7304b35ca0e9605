import SessionTokens.Proofs.Lifetimes
import SessionTokens.Proofs.Marks

/-!
# What comes of presenting a token

Whichever request a session token comes with, it is verified first, and if that
fails the request fails in the same way and does nothing more. An alarm is
raised there or not at all: a token that has been verified is in order, and the
rotation that follows finds it in order too. So unless verification raises an
alarm, a request takes nothing out of the store but the session of its own
token.
-/

namespace SessionTokens

/-! ## Blame -/

namespace Action

variable {α β : Type} {w : World}

/-- The operation ends with a report that a token has been in the wrong
hands. -/
def Blames (m : Action ServiceError α) (w : World) : Prop :=
  ∃ why, (m w).1 = .error (.rejected why) ∧ why.isCompromise = true

theorem blames_bind {m : Action ServiceError α} {f : α → Action ServiceError β}
    (h : (m >>= f).Blames w) :
    m.Blames w ∨ ∃ a w', m w = (.ok a, w') ∧ (f a).Blames w' := by
  obtain ⟨why, hanswer, hwhy⟩ := h
  rw [bind_apply] at hanswer
  rcases hm : m w with ⟨a | e | _, w'⟩
  · rw [hm] at hanswer
    exact .inr ⟨a, w', rfl, why, hanswer, hwhy⟩
  · rw [hm] at hanswer
    cases hanswer
    exact .inl ⟨why, by rw [hm], hwhy⟩
  · rw [hm] at hanswer
    cases hanswer

theorem not_blames_of_ok {m : Action ServiceError α} {a : α}
    (h : (m w).1 = .ok a) :
    ¬ m.Blames w := by
  rintro ⟨why, hanswer, -⟩
  rw [h] at hanswer
  cases hanswer

/-- An error with nothing behind it, or nothing that is grave, blames nobody. -/
theorem not_blames_of_error {m : Action ServiceError α} {e : ServiceError}
    (h : (m w).1 = .error e)
    (he : e.source.any Rejection.isCompromise = false) :
    ¬ m.Blames w := by
  rintro ⟨why, hanswer, hwhy⟩
  rw [h] at hanswer
  cases hanswer
  have hsame : why.isCompromise = false := he
  rw [hwhy] at hsame
  cases hsame

theorem not_blames_callDirectory (call : DirectoryCall)
    (f : Directory → α × Directory) : ¬ (callDirectory call f).Blames w := by
  unfold callDirectory
  rintro ⟨why, hanswer, -⟩
  dsimp only at hanswer
  split at hanswer <;> cases hanswer

theorem not_blames_requireUser {id : String} {missing : ServiceError}
    (h : missing.source = none) :
    ¬ (Service.requireUser id missing).Blames w := by
  intro hblames
  rcases blames_bind hblames with hfind | ⟨u, w', -, hrest⟩
  · exact not_blames_callDirectory _ _ hfind
  · cases u with
    | some u => exact not_blames_of_ok (a := u) rfl hrest
    | none =>
        exact not_blames_of_error (e := missing) rfl (by rw [h]; rfl) hrest

end Action

/-- The payload of a refresh token has the claims that identify it. -/
theorem Payload.isOf_of_ofClaims? {c : Claims} {p : Payload}
    (h : ofClaims? c = some p) (hmode : p.mode = .refresh) :
    ∃ t, c.IsOf t ∧ p.toClaims.IsOf t := by
  cases readFrom_of_ofClaims? h with
  | refresh =>
      exact ⟨⟨_, _, _, _⟩, ⟨rfl, rfl, rfl, rfl, rfl⟩, ⟨rfl, rfl, rfl, rfl, rfl⟩⟩
  | _ => cases hmode

/-- A refresh token that is in order for both verification and rotation. -/
structure World.InOrder (w : World) (t : Retired) : Prop where
  looks : w.outages .exists = none
  unused : w.live.get? (Key.used t.sub t.jti) = none
  family : (w.live.get? (Key.family t.sub t.family)).isSome = true
  current : (w.live.get? (Key.refresh t.sub t.session)).map Entry.value =
    some t.jti

theorem World.InOrder.of_becomes {w w₁ : World} {t : Retired} (h : w.InOrder t)
    (hb : w.Becomes w.live w₁) : w₁.InOrder t := by
  obtain ⟨hlooks, hunused, hfamily, hcurrent⟩ := h
  rw [← hb.live] at hunused hfamily hcurrent
  exact ⟨by rw [hb.outages, hlooks], hunused, hfamily, hcurrent⟩

namespace Service

variable {svc : Service} {w w' : World} {r : Request} {bearer : String}

/-! ## Verification and what follows it -/

/-- Verification fails with a rejection. -/
theorem verify_eq_error {e : TokenError}
    (h : svc.verify bearer w = (.error e, w')) :
    ∃ why, e = .rejected why := by
  obtain ⟨r, k, w₁, hverify, hverification, -⟩ := svc.verify_spec bearer w
  cases hverify.symm.trans h
  cases hverification with
  | unreadable _ => exact ⟨_, rfl⟩
  | judged _ hverdict => cases hverdict <;> exact ⟨_, rfl⟩

/-- A refresh token that is verified is in order. -/
theorem inOrder_of_verify {p : Payload} (h : svc.verify bearer w = (.ok p, w'))
    (hmode : p.mode = .refresh) :
    ∃ c v t, svc.codec.read? .session (Bearer.token bearer) = some (c, v) ∧
      c.IsOf t ∧ p.toClaims.IsOf t ∧ w.InOrder t ∧ w.Becomes w.live w' := by
  obtain ⟨⟨c, s, ns, hdecode, hs, hns, hdesc, -, hvalue, hp⟩, hb⟩ :=
    verify_eq_ok h
  obtain ⟨v, hread, -⟩ := Codec.read?_of_decode hdecode
  obtain ⟨t, hc, ht⟩ := Payload.isOf_of_ofClaims? hp hmode
  obtain ⟨hsub, hm, hjti, hsession⟩ := Claims.session?_eq_some.mp hs
  obtain ⟨hexists, hline⟩ := hdesc (Option.some.inj (hm.symm.trans hc.mode))
  obtain ⟨hunused, f, hf, hfamily⟩ := World.lineage_eq_none.mp hline
  rcases s with ⟨sub, mode, jti, session⟩
  cases hsub.symm.trans hc.sub
  cases hm.symm.trans hc.mode
  cases hjti.symm.trans hc.jti
  cases hsession.symm.trans hc.session
  cases hf.symm.trans hc.family
  cases hns
  exact ⟨c, v, t, hread, hc, ht, ⟨hexists, hunused, hfamily, hvalue⟩, hb⟩

/-- Using up a token that is in order fails only if the store does. -/
theorem retire_of_inOrder {c : Claims} {t : Retired} {e : TokenError}
    (hforced : w.forcedReply = none) (ht : c.IsOf t) (h : w.InOrder t)
    (he : (svc.retire c w).1 = .error e) :
    ∃ cause, e = .internal cause ∧ cause.source = none := by
  obtain ⟨k, hretirement, -⟩ := svc.retire_spec c hforced
  rw [he] at hretirement
  cases hretirement with
  | anonymous hsub => rw [ht.sub] at hsub; cases hsub
  | incomplete _ hnot => exact absurd ht (hnot t)
  | failed _ hsource _ => exact ⟨_, rfl, hsource⟩
  | orphaned ht' _ hnone =>
      cases ht.unique ht'
      have hfamily := h.family
      rw [hnone] at hfamily
      cases hfamily
  | reused ht' _ _ hsome =>
      cases ht.unique ht'
      cases h.unused.symm.trans hsome
  | stale ht' _ _ _ hne =>
      cases ht.unique ht'
      exact absurd h.current hne

theorem issueAccess_eq_error {sub : String} {session : Option String}
    {e : TokenError} (h : (svc.issueAccess sub session w).1 = .error e) :
    ∃ cause, e = .internal cause ∧ cause.source = none := by
  obtain ⟨token, -, ⟨-, cause, hsource, h'⟩ | ⟨-, -, h'⟩ | ⟨-, -, w', h', -⟩⟩ :=
    svc.issueAccess_spec sub session w
  · rw [h'] at h
    cases h
    exact ⟨cause, rfl, hsource⟩
  · rw [h'] at h
    cases h
  · rw [h'] at h
    cases h

theorem issueRefresh_eq_error {sub : String} {session family : Option String}
    {e : TokenError}
    (h : (svc.issueRefresh sub session family w).1 = .error e) :
    ∃ cause, e = .internal cause ∧ cause.source = none := by
  obtain ⟨token, -, ⟨-, cause, hsource, h'⟩ | ⟨-, -, h'⟩ | ⟨-, -, w', h', -⟩⟩ :=
    svc.issueRefresh_spec sub session family w
  · rw [h'] at h
    cases h
    exact ⟨cause, rfl, hsource⟩
  · rw [h'] at h
    cases h
  · rw [h'] at h
    cases h

/-- So does exchanging it. -/
theorem rotate_of_inOrder {c : Claims} {t : Retired} {e : TokenError}
    (hforced : w.forcedReply = none) (ht : c.IsOf t) (h : w.InOrder t)
    (he : (svc.rotate c w).1 = .error e) :
    ∃ cause, e = .internal cause ∧ cause.source = none := by
  rcases hretire : svc.retire c w with ⟨t' | e' | _, w₁⟩
  · rw [rotate, Action.bind_of_ok hretire,
      Action.bind_of_ok (svc.mintId_apply w₁)] at he
    exact issueRefresh_eq_error he
  · rw [rotate, Action.bind_of_error hretire] at he
    cases he
    exact retire_of_inOrder hforced ht h (congrArg Prod.fst hretire)
  · rw [rotate, Action.bind_of_outOfRange hretire] at he
    cases he

/-! ## Alarms -/

/-- Verification finds that the token has been in the wrong hands. -/
def Suspects (svc : Service) (w : World) (bearer : String) : Prop :=
  ∃ why, (svc.verify bearer w).1 = .error (.rejected why) ∧
    why.isCompromise = true

/-- A token is suspected for its lineage, and its subject is swept. -/
theorem compromised_of_suspects (h : svc.Suspects w bearer) :
    ∃ c s why,
      svc.codec.decode w.seconds .session (Bearer.token bearer) = .ok c ∧
      c.session? = some s ∧ w.outages .exists = none ∧
      w.lineage s.sub s.jti c.family = some why ∧
      w.Becomes (w.swept s.sub) (svc.verify bearer w).2 := by
  obtain ⟨why, hanswer, hwhy⟩ := h
  obtain ⟨r, k, w', hverify, hverification, hb⟩ := svc.verify_spec bearer w
  rw [hverify] at hanswer ⊢
  cases hanswer
  cases hverification with
  | unreadable hdecode =>
      rw [Codec.not_isCompromise_of_decode hdecode] at hwhy
      cases hwhy
  | judged hdecode hverdict =>
      cases hverdict with
      | compromised hs _ hexists hline =>
          exact ⟨_, _, _, hdecode, hs, hexists, hline, hb⟩
      | _ => cases hwhy

/-- Verification without a suspicion leaves the entries as they are. -/
theorem becomes_of_not_suspects (h : ¬ svc.Suspects w bearer) :
    w.Becomes w.live (svc.verify bearer w).2 := by
  obtain ⟨r, k, w', hverify, hverification, hb⟩ := svc.verify_spec bearer w
  rw [Suspects, hverify] at h
  rw [hverify]
  cases hverification with
  | unreadable _ => exact hb
  | untimely _ => exact hb
  | judged _ hverdict =>
      cases hverdict with
      | compromised _ _ _ hline =>
          exact absurd ⟨_, rfl, World.isCompromise_of_lineage hline⟩ h
      | _ => exact hb

theorem not_blames_outside {α : Type} {m : Action TokenError α}
    (h : ∀ e, (m w).1 = .error e →
      ∃ cause, e = .internal cause ∧ cause.source = none) :
    ¬ (outside m).Blames w := by
  rintro ⟨why, hanswer, hwhy⟩
  rw [outside, Action.mapError] at hanswer
  cases hm : (m w).1 with
  | ok a => rw [hm] at hanswer; cases hanswer
  | outOfRange => rw [hm] at hanswer; cases hanswer
  | error e =>
      obtain ⟨cause, rfl, hsource⟩ := h e hm
      rw [hm] at hanswer
      cases hanswer
      cases hsource

theorem suspects_of_verify (h : (outside (svc.verify bearer)).Blames w) :
    svc.Suspects w bearer := by
  obtain ⟨why, hanswer, hwhy⟩ := h
  rw [outside, Action.mapError] at hanswer
  rcases hverify : svc.verify bearer w with ⟨p | e | _, w'⟩
  · rw [hverify] at hanswer; cases hanswer
  · obtain ⟨why', rfl⟩ := verify_eq_error hverify
    rw [hverify] at hanswer
    cases hanswer
    exact ⟨why, by rw [hverify], hwhy⟩
  · rw [hverify] at hanswer; cases hanswer

theorem suspects_of_verifyMode {mode : Mode}
    (h : (outside (svc.verifyMode bearer mode)).Blames w) :
    svc.Suspects w bearer := by
  rcases hverify : svc.verify bearer w with ⟨p | e | _, w'⟩
  · obtain ⟨why, hanswer, hwhy⟩ := h
    rw [outside, Action.mapError, verifyMode,
      Action.bind_of_ok hverify] at hanswer
    split at hanswer
    · cases hanswer
    · cases hanswer
      cases hwhy
  · refine suspects_of_verify ?_
    obtain ⟨why, hanswer, hwhy⟩ := h
    refine ⟨why, ?_, hwhy⟩
    rw [outside, Action.mapError, verifyMode,
      Action.bind_of_error hverify] at hanswer
    rw [outside, Action.mapError, hverify]
    exact hanswer
  · obtain ⟨why, hanswer, -⟩ := h
    rw [outside, Action.mapError, verifyMode,
      Action.bind_of_outOfRange hverify] at hanswer
    cases hanswer

theorem not_blames_pairFor {sub : String} {refresh : Issued} :
    ¬ (svc.pairFor sub refresh).Blames w := by
  unfold pairFor
  intro hblames
  cases hsession : refresh.payload.sessionId with
  | none =>
      rw [hsession] at hblames
      exact Action.not_blames_of_error rfl rfl hblames
  | some session =>
      rw [hsession] at hblames
      rcases Action.blames_bind hblames with hissue | ⟨access, w₁, -, hrest⟩
      · exact not_blames_outside (fun e he => issueAccess_eq_error he) hissue
      · exact Action.not_blames_of_ok rfl hrest

theorem not_blames_invalidateSession {sub session : String} :
    ¬ (invalidateSession sub session).Blames w := by
  unfold invalidateSession
  cases hout : w.outages .delete with
  | none =>
      obtain ⟨n, w₁, hdelete, -, -⟩ := Store.delete_of_none hout
        [Key.access sub session, Key.refresh sub session]
      exact Action.not_blames_of_ok (congrArg Prod.fst hdelete)
  | some how =>
      exact Action.not_blames_of_error
        (congrArg Prod.fst (Store.call_of_some hout _)) rfl

/-- What refreshing checks before it rotates blames a token only if verification
does. -/
theorem suspects_of_refreshable (h : (svc.refreshable bearer).Blames w) :
    svc.Suspects w bearer := by
  rcases Action.blames_bind h with hmode | ⟨p, w₁, -, h⟩
  · exact suspects_of_verifyMode hmode
  rcases Action.blames_bind h with huser | ⟨u, w₂, -, h⟩
  · exact absurd huser (Action.not_blames_requireUser rfl)
  rcases Action.blames_bind h with hensure | ⟨_, w₃, -, h⟩
  · have hstatus : ¬ (Action.ensure u.checkStatus).Blames w₂ := by
      unfold User.checkStatus
      split
      · exact Action.not_blames_of_error rfl rfl
      · split
        · exact Action.not_blames_of_error rfl rfl
        · exact Action.not_blames_of_ok rfl
    exact absurd hensure hstatus
  · exact absurd h (Action.not_blames_of_ok rfl)

/-- An alarm is raised by verification or not at all. -/
theorem suspects_of_alarms (hforced : w.forcedReply = none)
    (hr : r.bearer? = some bearer) (h : svc.Alarms w r) :
    svc.Suspects w bearer := by
  have hignore : ∀ {α : Type} {m : Action ServiceError α}, m.ignore.Blames w →
      m.Blames w := by
    intro α m hm
    rcases Action.blames_bind hm with hm | ⟨a, w₁, -, hrest⟩
    · exact hm
    · exact absurd hrest (Action.not_blames_of_ok rfl)
  cases r with
  | verify b =>
      cases hr
      exact suspects_of_verify (hignore h)
  | verifyMode b mode =>
      cases hr
      exact suspects_of_verifyMode (hignore h)
  | logout b =>
      cases hr
      rcases Action.blames_bind h with hmode | ⟨p, w₁, -, hrest⟩
      · exact suspects_of_verifyMode hmode
      · cases hsession : p.sessionId with
        | none =>
            rw [hsession] at hrest
            exact absurd hrest (Action.not_blames_of_error rfl rfl)
        | some session =>
            rw [hsession] at hrest
            rcases Action.blames_bind hrest with hdelete | ⟨n, w₂, -, hrest⟩
            · exact absurd hdelete not_blames_invalidateSession
            · exact absurd hrest (Action.not_blames_of_ok rfl)
  | authenticate b =>
      cases hr
      rcases Action.blames_bind (hignore h) with hmode | ⟨p, w₁, -, hrest⟩
      · exact suspects_of_verifyMode hmode
      rcases Action.blames_bind hrest with huser | ⟨u, w₂, -, hrest⟩
      · exact absurd huser (Action.not_blames_requireUser rfl)
      · split at hrest
        · exact absurd hrest (Action.not_blames_of_ok rfl)
        · exact absurd hrest (Action.not_blames_of_error rfl rfl)
  | refresh b =>
      cases hr
      rcases Action.blames_bind (hignore h) with
        hrefreshable | ⟨⟨p, u⟩, w₁, hok, hrest⟩
      · exact suspects_of_refreshable hrefreshable
      · obtain ⟨hverify, hmode, -⟩ := refreshable_eq_ok hok
        obtain ⟨c, v, t, -, -, ht, horder, hb⟩ :=
          inOrder_of_verify hverify hmode
        have horder₁ := horder.of_becomes hb
        have hforced₁ : w₁.forcedReply = none := by rw [hb.forcedReply, hforced]
        rcases Action.blames_bind hrest with hrotate | ⟨issued, w₂, -, hrest⟩
        · exact absurd hrotate
            (not_blames_outside fun e he =>
              rotate_of_inOrder hforced₁ ht horder₁ he)
        · exact absurd hrest not_blames_pairFor
  | _ => cases hr

/-- How a flow verifies the token that it is given. -/
def verification? (svc : Service) : Request → Option (Action TokenError Payload)
  | .refresh bearer => some (svc.verifyMode bearer .refresh)
  | .logout bearer | .authenticate bearer =>
    some (svc.verifyMode bearer .access)
  | .verifyEmail token => some (svc.verifyPurpose token .verification)
  | .confirmPasswordReset token _ =>
    some (svc.verifyPurpose token .resetPassword)
  | _ => none

/-- Nothing comes before the verification, and nothing comes after it if the
token is turned down. -/
theorem perform_of_verification?_error {e : TokenError}
    {m : Action TokenError Payload} (hr : svc.verification? r = some m)
    (h : m w = (.error e, w')) :
    svc.perform r w = (.error e.toServiceError, w') := by
  have hm := outside_of_error h
  cases r with
  | refresh b =>
      cases hr
      have hrefreshable : svc.refreshable b w = (.error e.toServiceError, w') :=
        Action.bind_of_error hm
      exact Action.bind_of_error (Action.bind_of_error hrefreshable)
  | logout b => cases hr; exact Action.bind_of_error hm
  | authenticate b =>
      cases hr
      exact Action.bind_of_error (Action.bind_of_error hm)
  | verifyEmail t =>
      cases hr
      exact Action.bind_of_error (Action.bind_of_error hm)
  | confirmPasswordReset t new => cases hr; exact Action.bind_of_error hm
  | _ => cases hr

theorem verifyMode_of_error {e : TokenError}
    (h : svc.verify bearer w = (.error e, w')) (mode : Mode) :
    svc.verifyMode bearer mode w = (.error e, w') := Action.bind_of_error h

/-- A request whose token is not verified is answered as verification is, and
does nothing else. -/
theorem perform_of_verify_error {e : TokenError} (hr : r.bearer? = some bearer)
    (h : svc.verify bearer w = (.error e, w')) :
    svc.perform r w = (.error e.toServiceError, w') := by
  have hmode := verifyMode_of_error h
  cases r with
  | verify b => cases hr; exact Action.bind_of_error (outside_of_error h)
  | verifyMode b mode =>
      cases hr
      exact Action.bind_of_error (outside_of_error (hmode mode))
  | refresh b =>
      cases hr
      exact perform_of_verification?_error rfl (hmode .refresh)
  | logout b =>
      cases hr
      exact perform_of_verification?_error rfl (hmode .access)
  | authenticate b =>
      cases hr
      exact perform_of_verification?_error rfl (hmode .access)
  | _ => cases hr

/-! ## What a request takes away -/

section

variable {c : Claims} {v : Codec.Validity} {t t' : Retired}

theorem compromised?_of_not_suspects (h : ¬ svc.Suspects w bearer) :
    svc.compromised? w bearer = none := by
  refine if_neg fun hany => h ?_
  rcases hanswer : (svc.verify bearer w).1 with p | (why | cause) | _
  · rw [hanswer] at hany
    cases hany
  · rw [hanswer] at hany
    exact ⟨why, hanswer, hany⟩
  · rw [hanswer] at hany
    cases hany
  · rw [hanswer] at hany
    cases hany

/-- A request whose token is not suspected sweeps nobody. -/
theorem swept?_of_not_suspects (hforced : w.forcedReply = none)
    (hr : r.bearer? = some bearer) (h : ¬ svc.Suspects w bearer) :
    svc.swept? w r = none := by
  have hnone := compromised?_of_not_suspects h
  cases r with
  | verify b => cases hr; exact hnone
  | verifyMode b mode => cases hr; exact hnone
  | logout b => cases hr; exact hnone
  | authenticate b => cases hr; exact hnone
  | refresh b =>
      cases hr
      rw [swept?]
      split
      · next p u w₁ hok =>
          obtain ⟨hverify, hmode, -⟩ := refreshable_eq_ok hok
          obtain ⟨c, v, t, -, -, ht, horder, hb⟩ :=
            inOrder_of_verify hverify hmode
          have hforced₁ : w₁.forcedReply = none := by
            rw [hb.forcedReply, hforced]
          refine if_neg fun hrejected => ?_
          rcases hretire : (svc.retire p.toClaims w₁).1 with t' | e | _
          · rw [hretire] at hrejected
            cases hrejected
          · obtain ⟨cause, rfl, -⟩ :=
              retire_of_inOrder hforced₁ ht (horder.of_becomes hb) hretire
            rw [hretire] at hrejected
            cases hrejected
          · rw [hretire] at hrejected
            cases hrejected
      · exact hnone
  | _ => cases hr

/-- The token that is used up is the one that is presented. -/
theorem presented?_of_retired? {t : Retired} (hforced : w.forcedReply = none)
    (h : svc.retired? w r = some t) :
    ∃ c, svc.presented? r = some c ∧ c.IsOf t := by
  have hretire : ∀ {c : Claims} {w₁ : World}, w₁.forcedReply = none →
      (svc.retire c w₁).1.value? = some t → c.IsOf t := by
    intro c w₁ hforced₁ hvalue
    obtain ⟨w₂, hr⟩ := eq_ok_of_value? hvalue
    exact (retire_eq_ok hforced₁ hr).1
  cases r with
  | rotate claims => exact ⟨claims, rfl, hretire hforced h⟩
  | refresh b =>
      rw [retired?] at h
      split at h
      · next p u w₁ hok =>
          obtain ⟨hverify, hmode, -⟩ := refreshable_eq_ok hok
          obtain ⟨c, v, t₀, hread, hc, ht₀, -, hb⟩ :=
            inOrder_of_verify hverify hmode
          have ht := hretire (by rw [hb.forcedReply, hforced]) h
          cases ht.unique ht₀
          exact ⟨c, by rw [presented?, hread]; rfl, hc⟩
      · cases h
  | _ => cases h

/-- It uses up no token but its own. -/
theorem eq_of_retired? (hforced : w.forcedReply = none)
    (hr : r.bearer? = some bearer)
    (hread : svc.codec.read? .session (Bearer.token bearer) = some (c, v))
    (ht : c.IsOf t) (h : svc.retired? w r = some t') : t' = t := by
  obtain ⟨c', hpresented, hc'⟩ := presented?_of_retired? hforced h
  cases r with
  | refresh b =>
      cases hr
      rw [presented?, hread] at hpresented
      cases hpresented
      exact hc'.unique ht
  | rotate claims => cases hr
  | _ => cases h

/-- And a refresh token ends no session. -/
theorem ended?_of_refresh (hr : r.bearer? = some bearer)
    (hread : svc.codec.read? .session (Bearer.token bearer) = some (c, v))
    (ht : c.IsOf t) : svc.ended? w r = none := by
  cases r with
  | logout b =>
      cases hr
      rw [ended?]
      rcases hok : svc.verifyMode bearer .access w with ⟨p | e | _, w₁⟩
      · obtain ⟨hverify, hmode⟩ := verifyMode_eq_ok hok
        obtain ⟨⟨c', s, ns, hfinds⟩, -⟩ := verify_eq_ok hverify
        cases hfinds.eq_of_read? hread
        have hm := (Payload.of_ofClaims? hfinds.payload).2.1
        rw [ht.mode, hmode] at hm
        cases hm
      · rfl
      · rfl
  | invalidateSession sub session => cases hr
  | _ => rfl

/-- Where no lifetime is zero, whatever is written is there at first. -/
theorem Lives.lt_deadline (h : svc.Lives) {ef : Effect} {key : String}
    {e : Entry} {now : Nat} (he : (key, e) ∈ ef.writes svc now) :
    now < e.deadline := by
  have hlater : ∀ {ttl : UInt64}, 0 < ttl.toNat → now < now + toMillis ttl := by
    intro ttl hpos
    rw [toMillis]
    omega
  cases ef with
  | access sub session jti =>
      cases List.mem_singleton.mp he
      exact hlater h.access
  | refresh sub session jti family =>
      rcases List.mem_cons.mp he with heq | hrest
      · cases heq
        exact hlater h.refresh
      · cases List.mem_singleton.mp hrest
        exact hlater h.refresh
  | retire t =>
      cases List.mem_singleton.mp he
      rw [fenceSeconds_eq h.usedRefresh]
      exact hlater h.usedRefresh
  | redeem sub digest =>
      cases List.mem_singleton.mp he
      exact hlater h.resetPassword
  | pass => cases he
  | sweep sub => cases he
  | endSession sub session => cases he

/-- Unless its token is suspected, a request takes nothing out of the store but
the session of the token. -/
theorem perform_keeps (hforced : w.forcedReply = none) (hlives : svc.Lives)
    (hr : r.bearer? = some bearer)
    (hread : svc.codec.read? .session (Bearer.token bearer) = some (c, v))
    (ht : c.IsOf t) (hquiet : ¬ svc.Suspects w bearer) {key : String}
    (hkey : key ≠ Key.refresh t.sub t.session)
    (hlive : (w.live.get? key).isSome = true) :
    ((svc.perform r w).2.live.get? key).isSome = true := by
  have hswept := swept?_of_not_suspects hforced hr hquiet
  have hended := ended?_of_refresh (w := w) hr hread ht
  let I : World → Prop := fun w' =>
    w'.clock = w.clock ∧ w'.Keeps key (w.clock + 1)
  have hstart : I w := by
    refine ⟨rfl, fun _ => ?_⟩
    obtain ⟨e, he⟩ := Option.isSome_iff_exists.mp hlive
    exact ⟨e, he, World.lt_deadline he⟩
  have hend : I (svc.perform r w).2 := by
    refine (Changes.perform r hforced).induct
      (fun {ef w₁ w₂} hallows hc hI => ?_) hstart
    refine ⟨hc.clock.trans hI.1, hc.keeps ?_ (fun e he => .inr ?_) hI.2⟩
    · cases ef with
      | retire t' =>
          have hown : t' = t :=
            eq_of_retired? hforced hr hread ht (hallows nofun)
          rw [hown]
          exact decide_eq_false hkey
      | sweep sub =>
          have hsub : svc.swept? w r = some sub := (hallows nofun).2
          rw [hswept] at hsub
          cases hsub
      | endSession sub session =>
          have hsession : svc.ended? w r = some (sub, session) := hallows nofun
          rw [hended] at hsession
          cases hsession
      | pass => rfl
      | access sub session jti => rfl
      | refresh sub session jti family => rfl
      | redeem sub digest => rfl
    · rw [← hI.1]
      exact hlives.lt_deadline he
  obtain ⟨hclock, hkeeps⟩ := hend
  obtain ⟨e, he, -⟩ := hkeeps (by omega)
  rw [he]
  rfl

end

end Service

end SessionTokens
