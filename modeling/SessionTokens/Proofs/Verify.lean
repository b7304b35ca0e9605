import SessionTokens.Proofs.Sweep
import SessionTokens.Token.Verify

/-!
# What verification decides

Once the signature has vouched for the claims, the answer is a matter of four
look-ups: the fence of the token, the mark of its family, and the identifier
in its session, of which an access token needs only the last. `Verdict` lists
the answers with what each is given for and with what it leaves in the store.
Only the two verdicts on a refresh token's lineage change anything, and what
they do is a sweep.
-/

namespace SessionTokens

/-- What is wrong with the lineage of a refresh token. A fence counts before
the family does. -/
def World.lineage (w : World) (sub jti : String) (family : Option String) :
    Option Rejection :=
  if (w.live.get? (Key.used sub jti)).isSome then some .reuseDetected
  else if family.any fun f => (w.live.get? (Key.family sub f)).isSome then none
  else some .familyInvalidated

namespace World

variable {w : World} {sub jti : String} {family : Option String}

theorem isCompromise_of_lineage {why : Rejection}
    (h : w.lineage sub jti family = some why) : why.isCompromise = true := by
  unfold lineage at h
  split at h
  · cases h; rfl
  · split at h
    · cases h
    · cases h; rfl

theorem lineage_eq_reuseDetected :
    w.lineage sub jti family = some .reuseDetected ↔
      ∃ e, w.live.get? (Key.used sub jti) = some e := by
  unfold lineage
  rw [← Option.isSome_iff_exists]
  split
  · next h => exact ⟨fun _ => h, fun _ => rfl⟩
  · next h =>
      refine ⟨fun heq => ?_, fun hs => absurd hs h⟩
      split at heq <;> cases heq

theorem lineage_eq_familyInvalidated :
    w.lineage sub jti family = some .familyInvalidated ↔
      w.live.get? (Key.used sub jti) = none ∧
        ∀ f, family = some f → w.live.get? (Key.family sub f) = none := by
  unfold lineage
  cases hused : w.live.get? (Key.used sub jti) with
  | some e => simp
  | none =>
      cases family with
      | none => simp
      | some f => cases hf : w.live.get? (Key.family sub f) <;> simp [hf]

theorem lineage_eq_none :
    w.lineage sub jti family = none ↔
      w.live.get? (Key.used sub jti) = none ∧
        ∃ f, family = some f ∧
          (w.live.get? (Key.family sub f)).isSome = true := by
  unfold lineage
  cases hused : w.live.get? (Key.used sub jti) with
  | some e => simp
  | none =>
      cases family with
      | none => simp
      | some f => cases hf : w.live.get? (Key.family sub f) <;> simp [hf]

end World

/-- The lineage of a token that has one is in order, as far as the store
tells. -/
def SessionClaims.Descends (s : SessionClaims) (w : World)
    (family : Option String) :
    Prop :=
  s.mode = .refresh →
    w.outages .exists = none ∧ w.lineage s.sub s.jti family = none

/-- The answers of verification to claims: each with its reason, and with the
entries that are there afterwards. -/
inductive Verdict (w : World) (claims : Claims) :
    Outcome TokenError Payload → Keyspace → Prop
  | incomplete :
      (∀ s ns, claims.session? = some s → s.mode.liveness? ≠ some ns) →
      Verdict w claims (.error (.rejected .structureInvalid)) w.live
  | compromised {s : SessionClaims} {why : Rejection} :
      claims.session? = some s → s.mode = .refresh → w.outages .exists = none →
      w.lineage s.sub s.jti claims.family = some why →
      Verdict w claims (.error (.rejected why)) (w.swept s.sub)
  | blind {s : SessionClaims} :
      claims.session? = some s → s.mode = .refresh → w.outages .exists ≠ none →
      Verdict w claims (.error (.rejected .livenessMismatch)) w.live
  | stale {s : SessionClaims} {ns : Namespace} :
      claims.session? = some s → s.mode.liveness? = some ns →
      s.Descends w claims.family →
      (w.outages .get ≠ none ∨
        (w.live.get? (Key.make ns.name s.sub s.sessionId)).map Entry.value ≠
          some s.jti) →
      Verdict w claims (.error (.rejected .livenessMismatch)) w.live
  | good {s : SessionClaims} {ns : Namespace} {p : Payload} :
      claims.session? = some s → s.mode.liveness? = some ns →
      s.Descends w claims.family → w.outages .get = none →
      (w.live.get? (Key.make ns.name s.sub s.sessionId)).map Entry.value =
        some s.jti →
      Payload.ofClaims? claims = some p →
      Verdict w claims (.ok p) w.live

theorem Claims.session?_eq_some {c : Claims} {s : SessionClaims} :
    c.session? = some s ↔
      c.sub = some s.sub ∧ c.mode = some s.mode ∧ c.jti = some s.jti ∧
        c.sessionId = some s.sessionId := by
  rcases c with ⟨_ | sub, exp, _ | mode, _ | jti, _ | session, family,
    email⟩ <;>
    simp [session?]
  · constructor
    · rintro rfl
      exact ⟨rfl, rfl, rfl, rfl⟩
    · rintro ⟨rfl, rfl, rfl, rfl⟩
      rfl

/-- Session claims of a mode that has a liveness key make a payload, if the
lineage is in order. -/
theorem Payload.exists_of_descends {c : Claims} {s : SessionClaims}
    {ns : Namespace}
    {w : World} (hs : c.session? = some s) (hns : s.mode.liveness? = some ns)
    (hd : s.Descends w c.family) : ∃ p, Payload.ofClaims? c = some p := by
  obtain ⟨hsub, hmode, hjti, hsession⟩ := Claims.session?_eq_some.mp hs
  cases hm : s.mode with
  | access =>
      refine ⟨.access s.sub c.exp s.jti s.sessionId, ?_⟩
      simp only [ofClaims?, hsub, hmode, hm, hjti, hsession]
  | refresh =>
      obtain ⟨-, f, hfamily, -⟩ := World.lineage_eq_none.mp (hd hm).2
      refine ⟨.refresh s.sub c.exp s.jti s.sessionId f, ?_⟩
      simp only [ofClaims?, hsub, hmode, hm, hjti, hsession, hfamily]
  | verification => rw [hm] at hns; cases hns
  | resetPassword => rw [hm] at hns; cases hns

/-- What verification of a bearer text comes to, with the entries that are there
afterwards: only what has been read is judged. -/
inductive Verification (svc : Service) (w : World) (bearer : String) :
    Outcome TokenError Payload → Keyspace → Prop
  | unreadable {why : Rejection} :
      svc.codec.decode w.seconds .session (Bearer.token bearer) = .error why →
      Verification svc w bearer (.error (.rejected why)) w.live
  | untimely :
      svc.codec.decode w.seconds .session (Bearer.token bearer) = .outOfRange →
      Verification svc w bearer .outOfRange w.live
  | judged {c : Claims} {r : Outcome TokenError Payload} {k : Keyspace} :
      svc.codec.decode w.seconds .session (Bearer.token bearer) = .ok c →
      Verdict w c r k → Verification svc w bearer r k

/-- A world gives claims one answer. -/
theorem Verdict.unique {w : World} {c : Claims}
    {r r' : Outcome TokenError Payload} {k k' : Keyspace}
    (h : Verdict w c r k) (h' : Verdict w c r' k') : r = r' ∧ k = k' := by
  have hrefresh : ∀ {s : SessionClaims}, s.mode = .refresh →
      s.mode.liveness? = some .refresh := fun hmode => by rw [hmode]; rfl
  cases h with
  | incomplete hnot =>
      cases h' with
      | incomplete _ => exact ⟨rfl, rfl⟩
      | compromised hs hmode _ _ => exact absurd (hrefresh hmode) (hnot _ _ hs)
      | blind hs hmode _ => exact absurd (hrefresh hmode) (hnot _ _ hs)
      | stale hs hns _ _ => exact absurd hns (hnot _ _ hs)
      | good hs hns _ _ _ _ => exact absurd hns (hnot _ _ hs)
  | compromised hs hmode hexists hline =>
      cases h' with
      | incomplete hnot => exact absurd (hrefresh hmode) (hnot _ _ hs)
      | compromised hs' _ _ hline' =>
          cases hs.symm.trans hs'
          cases hline.symm.trans hline'
          exact ⟨rfl, rfl⟩
      | blind _ _ hout => exact absurd hexists hout
      | stale hs' _ hd _ =>
          cases hs.symm.trans hs'
          cases hline.symm.trans (hd hmode).2
      | good hs' _ hd _ _ _ =>
          cases hs.symm.trans hs'
          cases hline.symm.trans (hd hmode).2
  | blind hs hmode hout =>
      cases h' with
      | incomplete hnot => exact absurd (hrefresh hmode) (hnot _ _ hs)
      | compromised _ _ hexists _ => exact absurd hexists hout
      | blind _ _ _ => exact ⟨rfl, rfl⟩
      | stale _ _ _ _ => exact ⟨rfl, rfl⟩
      | good hs' _ hd _ _ _ =>
          cases hs.symm.trans hs'
          exact absurd (hd hmode).1 hout
  | stale hs hns hd hbad =>
      cases h' with
      | incomplete hnot => exact absurd hns (hnot _ _ hs)
      | compromised hs' hmode _ hline =>
          cases hs.symm.trans hs'
          cases hline.symm.trans (hd hmode).2
      | blind _ _ _ => exact ⟨rfl, rfl⟩
      | stale _ _ _ _ => exact ⟨rfl, rfl⟩
      | good hs' hns' _ hget hvalue _ =>
          cases hs.symm.trans hs'
          cases hns.symm.trans hns'
          rcases hbad with hout | hne
          · exact absurd hget hout
          · exact absurd hvalue hne
  | good hs hns hd hget hvalue hp =>
      cases h' with
      | incomplete hnot => exact absurd hns (hnot _ _ hs)
      | compromised hs' hmode _ hline =>
          cases hs.symm.trans hs'
          cases hline.symm.trans (hd hmode).2
      | blind hs' hmode hout =>
          cases hs.symm.trans hs'
          exact absurd (hd hmode).1 hout
      | stale hs' hns' _ hbad =>
          cases hs.symm.trans hs'
          cases hns.symm.trans hns'
          rcases hbad with hout | hne
          · exact absurd hget hout
          · exact absurd hvalue hne
      | good _ _ _ _ _ hp' =>
          cases hp.symm.trans hp'
          exact ⟨rfl, rfl⟩

/-- Of each mode, the claims that it asks for make a payload, whatever the
others say. -/
inductive Payload.ReadFrom : Claims → Payload → Prop
  | access (sub : String) (exp : Int64) (jti session : String)
      (family email : Option String) :
      ReadFrom ⟨some sub, exp, some .access, some jti, some session, family,
        email⟩ (.access sub exp jti session)
  | refresh (sub : String) (exp : Int64) (jti session family : String)
      (email : Option String) :
      ReadFrom ⟨some sub, exp, some .refresh, some jti, some session,
        some family, email⟩ (.refresh sub exp jti session family)
  | verification (sub : String) (exp : Int64)
      (jti session family email : Option String) :
      ReadFrom ⟨some sub, exp, some .verification, jti, session, family, email⟩
        (.verification sub exp email)
  | resetPassword (sub : String) (exp : Int64)
      (jti session family email : Option String) :
      ReadFrom ⟨some sub, exp, some .resetPassword, jti, session, family, email⟩
        (.resetPassword sub exp email)

theorem Payload.readFrom_of_ofClaims? {c : Claims} {p : Payload}
    (h : ofClaims? c = some p) : ReadFrom c p := by
  rcases c with ⟨_ | sub, exp, _ | mode, jti, session, family, email⟩ <;>
    simp only [ofClaims?, reduceCtorEq] at h
  cases mode with
  | access => cases jti <;> cases session <;> cases h; exact .access ..
  | refresh =>
      cases jti <;> cases session <;> cases family <;> cases h
      exact .refresh ..
  | verification => cases h; exact .verification ..
  | resetPassword => cases h; exact .resetPassword ..

/-- A payload says what its claims say. -/
theorem Payload.of_ofClaims? {c : Claims} {p : Payload}
    (h : ofClaims? c = some p) :
    c.sub = some p.sub ∧ c.mode = some p.mode ∧ c.exp = p.exp ∧
      (p.mode.isSessionBound = true →
        c.jti = p.jti ∧ c.sessionId = p.sessionId) := by
  cases readFrom_of_ofClaims? h with
  | access => exact ⟨rfl, rfl, rfl, fun _ => ⟨rfl, rfl⟩⟩
  | refresh => exact ⟨rfl, rfl, rfl, fun _ => ⟨rfl, rfl⟩⟩
  | verification => exact ⟨rfl, rfl, rfl, nofun⟩
  | resetPassword => exact ⟨rfl, rfl, rfl, nofun⟩

namespace Service

variable (svc : Service)

theorem failClosed_apply {α : Type} (call : Action ServiceError α) (w : World) :
    failClosed call w =
      ((call w).1.mapError (fun _ => .rejected .livenessMismatch),
        (call w).2) := rfl

/-! ## The lineage -/

theorem familyLive_of_none {w : World} (h : w.outages .exists = none)
    (sub : String) (family : Option String) :
    ∃ w', familyLive sub family w =
        (.ok (family.any fun f =>
          (w.live.get? (Key.family sub f)).isSome), w') ∧
      w.Becomes w.live w' := by
  cases family with
  | none => exact ⟨w, rfl, .refl w⟩
  | some f =>
      obtain ⟨w', hw', hb⟩ := Store.contains_of_none h (Key.family sub f)
      exact ⟨w', by rw [familyLive, failClosed_apply, hw']; rfl, hb⟩

/-- A lineage that is in order passes; for any other the subject is swept. -/
theorem checkLineage_of_none {w : World} (h : w.outages .exists = none)
    (sub jti : String) (family : Option String) :
    ∃ w', (w.lineage sub jti family = none ∧
        svc.checkLineage sub jti family w = (.ok (), w') ∧
          w.Becomes w.live w') ∨
      (∃ why, w.lineage sub jti family = some why ∧
        svc.checkLineage sub jti family w = (.error (.rejected why), w') ∧
        w.Becomes (w.swept sub) w') := by
  obtain ⟨w₁, hused, hw₁⟩ := Store.contains_of_none h (Key.used sub jti)
  have h₁ : w₁.outages .exists = none := by rw [hw₁.outages, h]
  rw [checkLineage, Action.bind_apply, failClosed_apply, hused]
  dsimp only [Outcome.mapError]
  unfold World.lineage
  by_cases hfence : (w.live.get? (Key.used sub jti)).isSome = true
  · obtain ⟨w₂, hsweep, hw₂⟩ :=
      svc.sweepAndReject_spec (α := Unit) sub .reuseDetected hw₁
    rw [if_pos hfence, if_pos hfence, hsweep]
    exact ⟨w₂, .inr ⟨_, rfl, rfl, hw₂⟩⟩
  · obtain ⟨w₂, hfamily, hw₂⟩ := familyLive_of_none h₁ sub family
    rw [hw₁.live] at hfamily hw₂
    rw [if_neg hfence, if_neg hfence, Action.bind_apply, hfamily]
    dsimp only
    replace hw₂ := hw₁.trans hw₂
    by_cases hlive :
      (family.any fun f => (w.live.get? (Key.family sub f)).isSome) = true
    · rw [if_pos hlive, if_pos hlive]
      exact ⟨w₂, .inl ⟨rfl, rfl, hw₂⟩⟩
    · obtain ⟨w₃, hsweep, hw₃⟩ :=
        svc.sweepAndReject_spec (α := Unit) sub .familyInvalidated hw₂
      rw [if_neg hlive, if_neg hlive, hsweep]
      exact ⟨w₃, .inr ⟨_, rfl, rfl, hw₃⟩⟩

theorem checkLineage_of_some {w : World} (h : w.outages .exists ≠ none)
    (sub jti : String) (family : Option String) :
    svc.checkLineage sub jti family w =
      (.error (.rejected .livenessMismatch), w) := by
  obtain ⟨how, hout⟩ := Option.ne_none_iff_exists'.mp h
  rw [checkLineage, Action.bind_apply, failClosed_apply, Store.contains,
    Store.call_of_some hout]
  rfl

/-! ## The verdict -/

/-- The last look-up, for the identifier in the session. -/
theorem verdict_of_descends {w w₁ : World} {claims : Claims} {s : SessionClaims}
    {ns : Namespace} (hs : claims.session? = some s)
    (hns : s.mode.liveness? = some ns) (hd : s.Descends w claims.family)
    (hw₁ : w.Becomes w.live w₁) {r : Outcome TokenError Payload × World}
    (hr : r = (do
      let stored ← failClosed (Store.get (Key.make ns.name s.sub s.sessionId))
      if stored = some s.jti then
        Action.lift
          (.ofOption (.rejected .structureInvalid) (Payload.ofClaims? claims))
      else Action.fail (.rejected .livenessMismatch) :
        Action TokenError Payload) w₁) :
    ∃ k, Verdict w claims r.1 k ∧ w.Becomes k r.2 := by
  subst hr
  rw [Action.bind_apply, failClosed_apply]
  cases hget : w.outages .get with
  | some how =>
      rw [Store.get, Store.call_of_some (by rw [hw₁.outages, hget])]
      exact ⟨_, .stale hs hns hd (.inl (by simp [hget])), hw₁⟩
  | none =>
      obtain ⟨w₂, hw₂, hb⟩ := Store.get_of_none (w := w₁)
        (by rw [hw₁.outages, hget]) (Key.make ns.name s.sub s.sessionId)
      rw [hw₁.live] at hw₂ hb
      rw [hw₂]
      dsimp only [Outcome.mapError]
      split
      · next hjti =>
          obtain ⟨p, hp⟩ := Payload.exists_of_descends hs hns hd
          rw [hp]
          exact ⟨_, .good hs hns hd hget hjti hp, hw₁.trans hb⟩
      · next hjti => exact ⟨_, .stale hs hns hd (.inr hjti), hw₁.trans hb⟩

theorem verifyClaims_spec (claims : Claims) (w : World) :
    ∃ k, Verdict w claims (svc.verifyClaims claims w).1 k ∧
      w.Becomes k (svc.verifyClaims claims w).2 := by
  unfold verifyClaims
  cases hs : claims.session? with
  | none => exact ⟨_, .incomplete (by simp [hs]), .refl w⟩
  | some s =>
      dsimp only
      cases hns : s.mode.liveness? with
      | none =>
          refine ⟨_, .incomplete fun s' ns heq => ?_, .refl w⟩
          cases hs.symm.trans heq
          simp [hns]
      | some ns =>
          dsimp only
          by_cases hmode : s.mode = .refresh
          · rw [if_pos hmode, Action.bind_apply]
            cases hexists : w.outages .exists with
            | some how =>
                have hout : w.outages .exists ≠ none := by simp [hexists]
                rw [svc.checkLineage_of_some hout]
                exact ⟨_, .blind hs hmode hout, .refl w⟩
            | none =>
                obtain ⟨w₁, ⟨hline, hcheck, hw₁⟩ | ⟨why, hline, hcheck, hw₁⟩⟩ :=
                  svc.checkLineage_of_none hexists s.sub s.jti claims.family
                · rw [hcheck]
                  exact verdict_of_descends hs hns
                    (fun _ => ⟨hexists, hline⟩) hw₁ rfl
                · rw [hcheck]
                  exact ⟨_, .compromised hs hmode hexists hline, hw₁⟩
          · rw [if_neg hmode]
            exact verdict_of_descends hs hns (fun h => absurd h hmode)
              (.refl w) rfl

theorem decode_apply (p : Purpose) (token : String) (w : World) :
    svc.decode p token w =
      ((svc.codec.decode w.seconds p token).mapError .rejected, w) := rfl

theorem verify_of_decode {bearer : String} {w : World} {claims : Claims}
    (h : svc.codec.decode w.seconds .session (Bearer.token bearer) =
      .ok claims) :
    svc.verify bearer w = svc.verifyClaims claims w := by
  rw [verify, Action.bind_apply, decode_apply, h]
  rfl

/-- A token that cannot be read is turned down for that, and nothing else
happens. -/
theorem verify_of_decode_error {bearer : String} {w : World} {why : Rejection}
    (h : svc.codec.decode w.seconds .session (Bearer.token bearer) =
      .error why) :
    svc.verify bearer w = (.error (.rejected why), w) := by
  rw [verify, Action.bind_apply, decode_apply, h]
  rfl

/-- A verdict that is due is the one that verification gives. -/
theorem verify_of_verdict {bearer : String} {w : World} {claims : Claims}
    {r : Outcome TokenError Payload} {k : Keyspace}
    (hdecode : svc.codec.decode w.seconds .session (Bearer.token bearer) =
      .ok claims)
    (h : Verdict w claims r k) :
    (svc.verify bearer w).1 = r ∧ w.Becomes k (svc.verify bearer w).2 := by
  obtain ⟨k', hverdict, hb⟩ := svc.verifyClaims_spec claims w
  rw [svc.verify_of_decode hdecode]
  obtain ⟨hr, hk⟩ := hverdict.unique h
  exact ⟨hr, hk ▸ hb⟩

theorem verify_of_decode_outOfRange {bearer : String} {w : World}
    (h : svc.codec.decode w.seconds .session (Bearer.token bearer) =
      .outOfRange) :
    svc.verify bearer w = (.outOfRange, w) := by
  rw [verify, Action.bind_apply, decode_apply, h]
  rfl

theorem verify_spec (bearer : String) (w : World) :
    ∃ r k w', svc.verify bearer w = (r, w') ∧ Verification svc w bearer r k ∧
      w.Becomes k w' := by
  cases hdecode : svc.codec.decode w.seconds .session (Bearer.token bearer) with
  | error why =>
      exact ⟨_, _, _, svc.verify_of_decode_error hdecode, .unreadable hdecode,
        .refl w⟩
  | outOfRange =>
      exact ⟨_, _, _, svc.verify_of_decode_outOfRange hdecode,
        .untimely hdecode, .refl w⟩
  | ok c =>
      obtain ⟨k, hverdict, hb⟩ := svc.verifyClaims_spec c w
      exact ⟨_, k, _, svc.verify_of_decode hdecode, .judged hdecode hverdict, hb⟩

end Service

/-- A token is good up to the last second of the leeway after its expiry. -/
theorem Codec.checkValidity_eq_ok {codec : Codec} {now : Nat} {v : Codec.Validity} :
    codec.checkValidity now v = .ok () ↔
      codec.leeway.toNat ≤ now ∧ now ≤ v.exp + codec.leeway.toNat ∧
        v.hasAudience = false := by
  unfold checkValidity
  split
  · next hearly => exact ⟨nofun, fun h => absurd h.1 (Nat.not_le_of_lt hearly)⟩
  · next hlate =>
      split
      · next hexpired =>
          refine ⟨nofun, fun h => ?_⟩
          have hgood := h.2.1
          omega
      · next hgood =>
          split
          · next haud =>
              refine ⟨nofun, fun h => ?_⟩
              rw [h.2.2] at haud
              cases haud
          · next haud =>
              refine ⟨fun _ => ⟨by omega, by omega, ?_⟩, fun _ => rfl⟩
              exact Bool.eq_false_iff.mpr haud

/-- Reading comes to an answer once the leeway is behind the clock. -/
theorem Codec.decode_ne_outOfRange {c : Codec} {now : Nat} {p : Purpose}
    {token : String} (h : c.leeway.toNat ≤ now) :
    c.decode now p token ≠ .outOfRange := by
  unfold decode
  split
  · exact nofun
  · next claims v _ =>
      have hcheck : c.checkValidity now v ≠ .outOfRange := by
        unfold checkValidity
        rw [if_neg (Nat.not_lt.mpr h)]
        split
        · exact nofun
        · split <;> exact nofun
      cases hv : c.checkValidity now v with
      | ok u => exact nofun
      | error e => exact nofun
      | outOfRange => exact absurd hv hcheck

/-- What the codec gives back is what it read. -/
theorem Codec.read?_of_decode {c : Codec} {now : Nat} {p : Purpose}
    {token : String} {claims : Claims} (h : c.decode now p token = .ok claims) :
    ∃ v, c.read? p token = some (claims, v) ∧
      c.checkValidity now v = .ok () := by
  unfold decode at h
  split at h
  · cases h
  · next claims' v hread =>
      cases hv : c.checkValidity now v with
      | ok u =>
          rw [hv] at h
          cases h
          exact ⟨v, hread, hv⟩
      | error e => rw [hv] at h; cases h
      | outOfRange => rw [hv] at h; cases h

theorem Codec.decode_of_read? {c : Codec} {now : Nat} {p : Purpose}
    {token : String} {claims : Claims} {v : Codec.Validity}
    (h : c.read? p token = some (claims, v))
    (hv : c.checkValidity now v = .ok ()) :
    c.decode now p token = .ok claims := by
  simp only [decode, h, hv]
  rfl

/-- No token is turned down as compromised when it is read. -/
theorem Codec.not_isCompromise_of_decode {c : Codec} {now : Nat} {p : Purpose}
    {token : String} {why : Rejection}
    (h : c.decode now p token = .error why) : why.isCompromise = false := by
  unfold decode at h
  split at h
  · cases h; rfl
  · next claims v _ =>
      cases hv : c.checkValidity now v with
      | ok u => rw [hv] at h; cases h
      | outOfRange => rw [hv] at h; cases h
      | error e =>
          rw [hv] at h
          cases h
          unfold checkValidity at hv
          split at hv
          · cases hv
          · split at hv
            · cases hv; rfl
            · split at hv
              · cases hv; rfl
              · cases hv

end SessionTokens
