import SessionTokens.Proofs.Issuance

/-!
# A session that has been ended stays ended

Sessions are ended in two ways, by taking the two keys of one session away or
by taking every session key of a subject, and either way the key where the
identifier of a token was kept is empty afterwards. That is all that matters:
what is written to the key later is an identifier that has just been minted,
and verification asks for the token's own. Nothing is asked of what happens
after the sessions were ended, and of what happened before only that sessions
have identifiers without colons, so that a sweep finds them.
-/

namespace SessionTokens

namespace Service

variable {svc : Service} {w w' : World} {r : Request} {sub session : String}

/-! ## Requests that end sessions -/

theorem invalidateSession_eq_ok {n : Nat}
    (h : invalidateSession sub session w = (.ok n, w')) :
    Change svc (.endSession sub session) w w' := by
  unfold invalidateSession at h
  cases hdelete : w.outages .delete with
  | some how =>
      rw [Store.delete, Store.call_of_some hdelete] at h
      cases h
  | none =>
      obtain ⟨n', w₁, hok, hb, -⟩ := Store.delete_of_none hdelete
        [Key.access sub session, Key.refresh sub session]
      rw [hok] at h
      cases h
      exact .endSession_of_becomes hb

/-- A logout ends the session of the token that is presented. -/
theorem logout_eq_ok {bearer : String}
    (h : svc.logout bearer w = (.ok (), w')) :
    ∃ c sub session w₁, svc.claims? bearer = some c ∧ c.sub = some sub ∧
      c.sessionId = some session ∧
      Change svc (.endSession sub session) w₁ w' := by
  obtain ⟨p, w₁, hmode, h₁⟩ := Action.bind_eq_ok h
  obtain ⟨hverify, haccess⟩ := verifyMode_eq_ok (Action.mapError_eq_ok hmode)
  obtain ⟨⟨c, s, ns, hfinds⟩, -⟩ := verify_eq_ok hverify
  obtain ⟨hsub, -, -, hbound⟩ := Payload.of_ofClaims? hfinds.payload
  obtain ⟨-, hsession⟩ := hbound (by rw [haccess]; rfl)
  cases hid : p.sessionId with
  | none =>
      rw [hid] at h₁
      cases h₁
  | some session =>
      rw [hid] at h₁
      obtain ⟨n, w₂, hended, h₂⟩ := Action.bind_eq_ok h₁
      cases h₂
      exact ⟨c, p.sub, session, w₁, hfinds.claims?, hsub, hsession.trans hid,
        invalidateSession_eq_ok hended⟩

theorem becomes_of_replacePassword {id new : String}
    (h : svc.replacePassword id new w = (.ok (), w')) :
    ∃ w₁ : World, w₁.Becomes (w₁.live.withoutSessions id) w' := by
  obtain ⟨w₂, ⟨hok, w₁, -, hb, -⟩ | ⟨e, herror, -⟩⟩ :=
    svc.replacePassword_spec id new w
  · rw [hok] at h
    cases h
    exact ⟨w₁, hb⟩
  · rw [herror] at h
    cases h

theorem changePassword_eq_ok {id current new : String}
    (h : svc.changePassword id current new w = (.ok (), w')) :
    ∃ user, w.users.find? id = some user ∧
      svc.replacePassword user.id new w = (.ok (), w') := by
  obtain ⟨u, hu, hchange⟩ | ⟨-, e, herror⟩ :=
    changePassword_cases svc w id current new
  · exact ⟨u, hu.found, hchange.symm.trans h⟩
  · cases herror.symm.trans h

theorem invalidateAll_eq_ok {n : Nat}
    (h : svc.invalidateAll sub w = (.ok n, w')) :
    w.Becomes (w.live.withoutSessions sub) w' := by
  obtain ⟨w₁, ⟨n', hok, hb, -⟩ | ⟨e, herror, -⟩⟩ := svc.invalidateAll_spec sub w
  · rw [hok] at h
    cases h
    exact hb
  · rw [herror] at h
    cases h

theorem get?_of_endSession {ns : Namespace} (hns : ns.isLiveness = true)
    (h : Change svc (.endSession sub session) w w') :
    w'.live.get? (Key.make ns.name sub session) = none := by
  have hremoves : (Effect.endSession sub session).removes
      (Key.make ns.name sub session) = true := by
    cases ns with
    | access => simp [Effect.removes, Key.access]
    | refresh => simp [Effect.removes, Key.refresh]
    | _ => cases hns
  rw [h.get?_of_not_written fun _ => List.not_mem_nil, hremoves]
  rfl

/-- Whatever ends a session leaves the keys of its tokens empty. -/
theorem get?_of_ends (h : svc.Ends w sub session r)
    (hplain : Key.IsPlain session) {ns : Namespace}
    (hns : ns.isLiveness = true) :
    (svc.next w (.request r)).live.get? (Key.make ns.name sub session) =
      none := by
  have hswept : ∀ {w₁ w₂ : World},
      w₁.Becomes (w₁.live.withoutSessions sub) w₂ →
      w₂.live.get? (Key.make ns.name sub session) = none := fun hb =>
    Change.get?_of_swept hb (Key.isSessionKeyOf_of_isLiveness hns hplain)
  have hall : ((svc.invalidateAll sub).ignore w).1 = .ok () →
      ((svc.invalidateAll sub).ignore w).2.live.get?
        (Key.make ns.name sub session) = none := by
    intro hok
    obtain ⟨n, w₁, hn⟩ := ignore_eq_ok hok
    have hafter : ((svc.invalidateAll sub).ignore w).2 = w₁ :=
      congrArg Prod.snd (Action.bind_of_ok hn)
    rw [hafter]
    exact hswept (invalidateAll_eq_ok hn)
  obtain ⟨hok, hr⟩ := h
  have hperform : svc.perform r w = (.ok (), svc.next w (.request r)) :=
    Prod.ext hok rfl
  cases r with
  | logout bearer =>
      obtain ⟨c, hc, hsub, hsession⟩ := hr
      obtain ⟨c', sub', session', w₁, hc', hsub', hsession', hchange⟩ :=
        logout_eq_ok hperform
      cases hc.symm.trans hc'
      cases hsub.symm.trans hsub'
      cases hsession.symm.trans hsession'
      exact get?_of_endSession hns hchange
  | invalidateSession sub' session' =>
      obtain ⟨rfl, rfl⟩ := hr
      obtain ⟨n, w₁, hn⟩ := ignore_eq_ok hok
      have hafter : svc.next w (.request (.invalidateSession sub' session')) =
          w₁ := congrArg Prod.snd (Action.bind_of_ok hn)
      rw [hafter]
      have hchange : Change svc (.endSession sub' session') w w₁ :=
        invalidateSession_eq_ok hn
      exact get?_of_endSession hns hchange
  | logoutEverywhere id =>
      cases hr
      exact hall hok
  | invalidateAll id =>
      cases hr
      exact hall hok
  | changePassword id current new =>
      obtain ⟨user, hfind, hreplace⟩ := changePassword_eq_ok hperform
      have hid : (w.users.find? id).map User.id = some sub := hr
      rw [hfind] at hid
      cases hid
      obtain ⟨w₂, hb⟩ := becomes_of_replacePassword hreplace
      exact hswept hb
  | confirmPasswordReset token new =>
      obtain ⟨c, v, hread, hsub⟩ := hr
      rcases svc.confirmPasswordReset_spec w token new with
        ⟨-, p, w₁, w₂, hp, -, -, hb, hsweep⟩ | ⟨hne, -⟩
      · obtain ⟨c', v', hread', -, -, hclaims⟩ := svc.verifyPurpose_eq_ok w hp
        cases hread.symm.trans hread'
        cases hsub.symm.trans (Payload.of_ofClaims? hclaims).1
        exact hswept (hsweep ▸ hb)
      · exact absurd hok hne
  | _ => cases hr

/-! ## Verification -/

/-- Verification comes to an answer once the leeway is behind the clock. -/
theorem verify_ne_outOfRange {bearer : String}
    (h : svc.codec.leeway.toNat ≤ w.seconds) :
    (svc.verify bearer w).1 ≠ .outOfRange := by
  intro hanswer
  obtain ⟨r, k, w', hverify, hverification, -⟩ := svc.verify_spec bearer w
  cases hverify.symm.trans (Action.eq_of_fst_eq hanswer)
  cases hverification with
  | untimely hdecode => exact Codec.decode_ne_outOfRange h hdecode
  | judged _ hverdict => cases hverdict

/-- Where a token's identifier is on record at neither of the session's keys,
the token is not good. -/
theorem not_verifies_of_withdrawn {bearer jti : String} {c : Claims}
    (hc : svc.claims? bearer = some c) (hsub : c.sub = some sub)
    (hsession : c.sessionId = some session) (hjti : c.jti = some jti)
    (hgone : ∀ ns : Namespace, ns.isLiveness = true →
      ¬ w.Records (Key.make ns.name sub session) jti) (p : Payload) :
    (svc.verify bearer w).1 ≠ .ok p := by
  intro hok
  obtain ⟨ns, sub', session', hsub', hsession', hrecord⟩ :=
    records_of_claims? hc hjti hok
  cases hsub.symm.trans hsub'
  cases hsession.symm.trans hsession'
  obtain ⟨ns', sub', session', hns, heq⟩ := hrecord.liveness
  cases Key.ns_eq_of_make_eq heq
  exact hgone ns hns hrecord

/-! ## Histories -/

/-- Ending sessions is for good. A session token that has been given is not
accepted any more, however it is presented, from the moment when a request
that ends its session goes through: neither then nor after anything that
happens later. It is turned down, as soon as the leeway is behind the clock. -/
theorem rejected_of_ended {w₀ : World} (hids : svc.Distinguishes)
    (hnew : w₀.IsNew) (past : List Event)
    (hnames : ∀ e ∈ past, ∀ s ∈ e.names, Key.IsPlain s) {token : String}
    (hgiven : token ∈ svc.givenIn w₀ past) {c : Claims}
    (hc : svc.claims? token = some c) (hsub : c.sub = some sub)
    (hsession : c.sessionId = some session)
    (hends : svc.Ends (svc.after w₀ past) sub session r) (later : List Event)
    (hw : w = svc.after w₀ (past ++ .request r :: later)) {bearer : String}
    (hbearer : Bearer.token bearer = Bearer.token token) :
    (∀ p, (svc.verify bearer w).1 ≠ .ok p) ∧
      (svc.codec.leeway.toNat ≤ w.seconds →
        ∃ why, (svc.verify bearer w).1 = .error (.rejected why)) := by
  have hforced : (svc.after w₀ past).forcedReply = none :=
    forcedReply_after past hnew.forcedReply
  obtain ⟨hjti, hplain⟩ :=
    claims_of_givenIn hids hnew.forcedReply hnames hgiven hc
  have hc' : svc.claims? bearer = some c :=
    (claims?_eq_of_token hbearer).trans hc
  have hnot : ∀ p, (svc.verify bearer w).1 ≠ .ok p := by
    intro p hok
    obtain ⟨jti, n, hjti, hn, hid⟩ := hjti
    refine not_verifies_of_withdrawn hc' hsub hsession hjti
      (fun ns hns hrecord => ?_) p hok
    have hgone : (svc.next (svc.after w₀ past) (.request r)).Withdrawn svc
        (Key.make ns.name sub session) jti := by
      refine ⟨⟨n, Nat.le_trans hn (minted_next _ _ hforced), hid⟩,
        fun hr => ?_⟩
      have hvalue := hr.value
      rw [get?_of_ends hends (hplain _ hsession) hns] at hvalue
      cases hvalue
    have hstays := after_withdrawn hids.injective
      (forcedReply_next _ hforced) hgone later
    rw [hw, after_append, after_cons] at hrecord
    exact hstays.gone hrecord
  refine ⟨hnot, fun hleeway => ?_⟩
  rcases hanswer : svc.verify bearer w with ⟨p | e | _, w'⟩
  · exact absurd (congrArg Prod.fst hanswer) (hnot p)
  · obtain ⟨why, rfl⟩ := verify_eq_error hanswer
    exact ⟨why, rfl⟩
  · exact absurd (congrArg Prod.fst hanswer) (verify_ne_outOfRange hleeway)

/-- The account of a first login is logged out everywhere and logs in again;
its first refresh token stays rejected. -/
theorem trial_rejected_of_ended :
    let start := World.initial 1700000000000
    let past := trialAccount ++ [.request (.login "u" "secret")]
    let w := trial.after start (past ++ .request (.logoutEverywhere "u") ::
      [.request (.login "u" "secret"), .advance 1000])
    trialRefreshToken ∈ trial.givenIn start past ∧
      trial.Ends (trial.after start past) "u" (Action.idText 1)
        (.logoutEverywhere "u") ∧
      ∃ why, (trial.verify trialRefreshToken w).1 =
        .error (.rejected why) := by
  intro start past w
  have hnew : start.IsNew := ⟨rfl, rfl⟩
  have hnames : ∀ e ∈ past, ∀ s ∈ e.names, Key.IsPlain s := by
    intro e he s hs
    rcases List.mem_append.mp he with he | he <;>
      cases List.mem_singleton.mp he <;> cases hs
  have hgiven : trialRefreshToken ∈ trial.givenIn start past := by
    obtain ⟨pair, hopened, htoken⟩ := opened?_trial
    rw [givenIn_append]
    exact List.mem_append_right _ (List.mem_append_left _
      (mem_gives_of_opened? hopened (by simp [TokenPair.tokens, htoken])))
  obtain ⟨hok, hleeway⟩ :
      (trial.perform (.logoutEverywhere "u") (trial.after start past)).1 =
        .ok () ∧ trial.codec.leeway.toNat ≤ w.seconds := by decide +kernel
  have hends : trial.Ends (trial.after start past) "u" (Action.idText 1)
      (.logoutEverywhere "u") := ⟨hok, rfl⟩
  obtain ⟨-, hrejected⟩ := rejected_of_ended trial_distinguishes hnew past
    hnames hgiven claims?_trialRefreshToken rfl rfl hends
    [.request (.login "u" "secret"), .advance 1000] rfl
    (rfl : Bearer.token trialRefreshToken = _)
  exact ⟨hgiven, hends, hrejected hleeway⟩

end Service

end SessionTokens
