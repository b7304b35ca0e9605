import SessionTokens.Proofs.Invalidation
import SessionTokens.Proofs.Openings

/-!
# Verification decides by the claims and the store alone

`World.judge` is the answer to signed claims as a table: which of them are
there, what the store holds at the four keys they name, and in which order that
counts. With a store in order, verification gives this answer and no other, so
the order of its look-ups is fixed: a fence outweighs a family that is gone,
either outweighs an identifier that is no longer the live one, and what the
last conversion asks for has always been asked before. The verdicts that
`Verdict` lists are matched with the lines of the table one by one; only the
two that speak of compromise come with a sweep, and with the store in order it
takes exactly the subject's session keys.
-/

namespace SessionTokens

namespace World

/-- The answer to the claims of a session token, from what the store holds. -/
def judge (w : World) (c : Claims) : Except Rejection Payload :=
  match c.sub, c.mode, c.jti, c.sessionId with
  | some sub, some .access, some jti, some session =>
    if (w.live.get? (Key.access sub session)).map Entry.value = some jti then
      .ok (.access sub c.exp jti session)
    else .error .livenessMismatch
  | some sub, some .refresh, some jti, some session =>
    if (w.live.get? (Key.used sub jti)).isSome then .error .reuseDetected
    else match c.family with
      | none => .error .familyInvalidated
      | some family =>
        if (w.live.get? (Key.family sub family)).isNone then
          .error .familyInvalidated
        else if (w.live.get? (Key.refresh sub session)).map Entry.value =
            some jti then
          .ok (.refresh sub c.exp jti session family)
        else .error .livenessMismatch
  | _, _, _, _ => .error .structureInvalid

variable {w : World} {c : Claims} {s : SessionClaims} {ns : Namespace}

theorem judge_of_incomplete
    (h : ∀ s ns, c.session? = some s → s.mode.liveness? ≠ some ns) :
    w.judge c = .error .structureInvalid := by
  unfold judge
  split
  · next sub jti session hsub hmode hjti hsession =>
      exact absurd rfl (h ⟨sub, .access, jti, session⟩ .access
        (Claims.session?_eq_some.mpr ⟨hsub, hmode, hjti, hsession⟩))
  · next sub jti session hsub hmode hjti hsession =>
      exact absurd rfl (h ⟨sub, .refresh, jti, session⟩ .refresh
        (Claims.session?_eq_some.mpr ⟨hsub, hmode, hjti, hsession⟩))
  · rfl

/-- For a refresh token the lineage comes first. -/
theorem judge_of_lineage {why : Rejection} (hs : c.session? = some s)
    (hmode : s.mode = .refresh)
    (h : w.lineage s.sub s.jti c.family = some why) :
    w.judge c = .error why := by
  obtain ⟨hsub, hm, hjti, hsession⟩ := Claims.session?_eq_some.mp hs
  have hcompromise := isCompromise_of_lineage h
  cases why with
  | reuseDetected =>
      obtain ⟨e, he⟩ := lineage_eq_reuseDetected.mp h
      simp only [judge, hsub, hm, hmode, hjti, hsession, he]
      rfl
  | familyInvalidated =>
      obtain ⟨hfence, hgone⟩ := lineage_eq_familyInvalidated.mp h
      simp only [judge, hsub, hm, hmode, hjti, hsession, hfence]
      cases hfamily : c.family with
      | none => rfl
      | some f => simp only [hgone f hfamily]; rfl
  | _ => cases hcompromise

/-- The identifier in the session has the last word. -/
theorem judge_of_descends {p : Payload} (hs : c.session? = some s)
    (hns : s.mode.liveness? = some ns) (hd : s.Descends w c.family)
    (hp : Payload.ofClaims? c = some p) :
    w.judge c =
      if (w.live.get? (Key.make ns.name s.sub s.sessionId)).map Entry.value =
        some s.jti then .ok p else .error .livenessMismatch := by
  obtain ⟨hsub, hm, hjti, hsession⟩ := Claims.session?_eq_some.mp hs
  cases hmode : s.mode with
  | access =>
      simp only [Payload.ofClaims?, hsub, hm, hmode, hjti, hsession,
        Option.some.injEq] at hp
      rw [hmode] at hns
      cases hns
      subst hp
      simp only [judge, hsub, hm, hmode, hjti, hsession]
      rfl
  | refresh =>
      obtain ⟨hfence, f, hfamily, hlive⟩ := lineage_eq_none.mp (hd hmode).2
      simp only [Payload.ofClaims?, hsub, hm, hmode, hjti, hsession, hfamily,
        Option.some.injEq] at hp
      rw [hmode] at hns
      cases hns
      subst hp
      obtain ⟨e, he⟩ := Option.isSome_iff_exists.mp hlive
      simp only [judge, hsub, hm, hmode, hjti, hsession, hfamily, hfence, he]
      rfl
  | verification => rw [hmode] at hns; cases hns
  | resetPassword => rw [hmode] at hns; cases hns

end World

/-- With a store in order every verdict is a line of the table, and what it
leaves is everything, or all but the subject's session keys. -/
theorem Verdict.judged {w : World} {c : Claims} {k : Keyspace}
    {r : Outcome TokenError Payload} (hhealthy : ∀ call, w.outages call = none)
    (h : Verdict w c r k) :
    r = (Outcome.ofExcept (w.judge c)).mapError .rejected ∧
      ((∃ why sub, w.judge c = .error why ∧ why.isCompromise = true ∧
          c.sub = some sub ∧ k = w.live.withoutSessions sub) ∨
        ((∀ why, w.judge c = .error why → why.isCompromise = false) ∧
          k = w.live)) := by
  have hsweepable : w.Sweepable := ⟨hhealthy _, hhealthy _⟩
  cases h with
  | incomplete hnot =>
      rw [World.judge_of_incomplete hnot]
      exact ⟨rfl, .inr ⟨fun _ heq => by cases heq; rfl, rfl⟩⟩
  | compromised hs hmode _ hline =>
      have hjudge := World.judge_of_lineage hs hmode hline
      refine ⟨by rw [hjudge]; rfl,
        .inl ⟨_, _, hjudge, ?_, ?_, World.swept_of_sweepable hsweepable _⟩⟩
      · exact World.isCompromise_of_lineage hline
      · exact (Claims.session?_eq_some.mp hs).1
  | blind _ _ hout => exact absurd (hhealthy _) hout
  | stale hs hns hd hout =>
      obtain ⟨p, hp⟩ := Payload.exists_of_descends hs hns hd
      rw [World.judge_of_descends hs hns hd hp]
      rcases hout with hout | hvalue
      · exact absurd (hhealthy _) hout
      · rw [if_neg hvalue]
        exact ⟨rfl, .inr ⟨fun _ heq => by cases heq; rfl, rfl⟩⟩
  | good hs hns hd _ hvalue hp =>
      rw [World.judge_of_descends hs hns hd hp, if_pos hvalue]
      exact ⟨rfl, .inr ⟨nofun, rfl⟩⟩

namespace Service

variable (svc : Service) {w : World}

/-- As long as no store call fails, verification of any text whatever gives
what reading the token gives if that fails, and the answer of the table if it
does not. Nothing but the store can differ afterwards: for the two answers that
speak of compromise it has lost exactly the subject's session keys, and for any
other it holds the same values up to the same deadlines. -/
theorem verify_decides (hhealthy : ∀ call, w.outages call = none)
    (hleeway : svc.codec.leeway.toNat ≤ w.seconds) (bearer : String) :
    ∃ (d : Except Rejection Claims) (w' : World),
      svc.codec.decode w.seconds .session (Bearer.token bearer) =
        .ofExcept d ∧
      svc.verify bearer w =
        ((Outcome.ofExcept (d.bind w.judge)).mapError .rejected, w') ∧
      w' = { w with store := w'.store } ∧
      (∀ c why, d = .ok c → w.judge c = .error why →
        why.isCompromise = true →
        ∃ sub, c.sub = some sub ∧ ∀ key e, w'.live.get? key = some e ↔
          w.live.get? key = some e ∧ ¬ ∃ ns ∈ Namespace.session, ∃ id,
            Key.IsPlain id ∧ key = Key.make ns.name sub id) ∧
      ((∀ c why, d = .ok c → w.judge c = .error why →
          why.isCompromise = false) →
        w'.live = w.live) := by
  cases hdecode : svc.codec.decode w.seconds .session (Bearer.token bearer) with
  | outOfRange => exact absurd hdecode (Codec.decode_ne_outOfRange hleeway)
  | error why =>
      refine ⟨.error why, w, rfl, svc.verify_of_decode_error hdecode, rfl, ?_,
        fun _ => rfl⟩
      intro _ _ hok
      cases hok
  | ok c =>
      obtain ⟨k, hverdict, hb⟩ := svc.verifyClaims_spec c w
      obtain ⟨hanswer, hleft⟩ := hverdict.judged hhealthy
      refine ⟨.ok c, (svc.verifyClaims c w).2, rfl, ?_, hb.rest, ?_, ?_⟩
      · rw [svc.verify_of_decode hdecode]
        exact Prod.ext hanswer rfl
      · intro c' why hc hwhy hcompromise
        cases hc
        rcases hleft with ⟨_, sub, -, -, hsub, hk⟩ | ⟨hnot, -⟩
        · refine ⟨sub, hsub, fun key e => ?_⟩
          rw [hb.live, hk]
          exact Keyspace.get?_withoutSessions w.live sub
        · rw [hnot why hwhy] at hcompromise
          cases hcompromise
      · intro hnone
        rw [hb.live]
        rcases hleft with ⟨why, _, hwhy, hcompromise, -⟩ | ⟨-, hk⟩
        · rw [hnone c why rfl hwhy] at hcompromise
          cases hcompromise
        · exact hk

/-- A used refresh token is presented: its subject loses every session, and
one whose name goes on where that subject's ends loses nothing. -/
theorem trial_verify_decides :
    let w := trial.after (.initial 1700000000000)
      [.request (.issueRefresh "u" none none),
        .request (.issueRefresh "u:x" none none),
        .request (.rotate trialRefresh.toClaims)]
    (∀ call, w.outages call = none) ∧ trial.codec.leeway.toNat ≤ w.seconds ∧
      ∃ w', trial.verify trialRefreshToken w =
          (.error (.rejected .reuseDetected), w') ∧
        w.live.keys = ["family:u:" ++ Action.idText 2,
          "family:u:x:" ++ Action.idText 5, "refresh:u:" ++ Action.idText 7,
          "refresh:u:x:" ++ Action.idText 4, "used:u:" ++ Action.idText 3] ∧
        (∀ id, Key.IsPlain id → w'.live.get? (Key.refresh "u" id) = none) ∧
        w'.live.get? (Key.refresh "u:x" (Action.idText 4)) =
          w.live.get? (Key.refresh "u:x" (Action.idText 4)) := by
  intro w
  have hhealthy : ∀ call, w.outages call = none :=
    congrFun (outages_after_requests [.issueRefresh "u" none none,
      .issueRefresh "u:x" none none, .rotate trialRefresh.toClaims] rfl)
  obtain ⟨hseconds, hline, hentries⟩ : w.seconds = 1700000000 ∧
      w.lineage "u" (Action.idText 3) (some (Action.idText 2)) =
        some .reuseDetected ∧
      w.live.keys = ["family:u:" ++ Action.idText 2,
        "family:u:x:" ++ Action.idText 5, "refresh:u:" ++ Action.idText 7,
        "refresh:u:x:" ++ Action.idText 4, "used:u:" ++ Action.idText 3] := by
    decide +kernel
  have hleeway : trial.codec.leeway.toNat ≤ w.seconds := by
    rw [hseconds]
    decide
  have hdecode :
      trial.codec.decode w.seconds .session (Bearer.token trialRefreshToken) =
        .ok trialRefresh.toClaims := by
    rw [hseconds]
    exact Codec.decode_of_read? read?_trialRefreshToken rfl
  have hjudge : w.judge trialRefresh.toClaims = .error .reuseDetected :=
    World.judge_of_lineage
      (s := ⟨"u", .refresh, Action.idText 3, Action.idText 1⟩) rfl rfl hline
  clear_value w
  obtain ⟨d, w', hd, hverify, -, hloss, -⟩ :=
    trial.verify_decides hhealthy hleeway trialRefreshToken
  rw [hdecode] at hd
  cases d with
  | error why => cases hd
  | ok c =>
      cases hd
      obtain ⟨sub, hsub, hkeys⟩ := hloss _ _ rfl hjudge rfl
      cases hsub
      refine ⟨hhealthy, hleeway, w', ?_, hentries, ?_, ?_⟩
      · rw [hverify]
        simp only [Except.bind, hjudge]
        rfl
      · intro id hplain
        refine Option.eq_none_iff_forall_ne_some.mpr fun e he => ?_
        exact ((hkeys _ _).mp he).2 ⟨.refresh, by decide, id, hplain, rfl⟩
      · refine Option.ext fun e => ?_
        rw [hkeys]
        refine and_iff_left ?_
        rw [← Key.isSessionKeyOf_iff]
        decide +kernel

end Service

end SessionTokens
