import SessionTokens.Proofs.Records
import SessionTokens.Session.Circulation

/-!
# What an answer tells about the store

A request that goes through has looked something up and found it. A token that
is accepted was the live one of its session when the request came, whichever
request it was: verification holds its identifier against the store, and so
does the script that uses it up. And a request that uses a token up does so at
one point: what comes before leaves the entries alone, and what comes after
only writes.
-/

namespace SessionTokens

theorem Mode.isLiveness_of_liveness? {m : Mode} {ns : Namespace}
    (h : m.liveness? = some ns) : ns.isLiveness = true := by
  cases m <;> cases h <;> rfl

theorem Payload.jti_toClaims (p : Payload) : p.toClaims.jti = p.jti := by
  cases p <;> rfl

theorem Payload.ofClaims?_toClaims (p : Payload) :
    ofClaims? p.toClaims = some p := by
  cases p <;> rfl

theorem Payload.toClaims_injective {p q : Payload}
    (h : p.toClaims = q.toClaims) : p = q := by
  have hback := congrArg ofClaims? h
  rw [ofClaims?_toClaims, ofClaims?_toClaims] at hback
  exact Option.some.inj hback

/-- In the second world everything is there that makes a token good in the
first: what can be looked up, the entries, and no fence that is new. -/
structure World.UpheldBy (w w' : World) : Prop where
  seconds : w'.seconds = w.seconds
  looks : ∀ call, w.outages call = none → w'.outages call = none
  unfenced : ∀ sub jti, w.live.get? (Key.used sub jti) = none →
    w'.live.get? (Key.used sub jti) = none
  keeps : ∀ key e, w.live.get? key = some e → w'.live.get? key = some e

namespace Service

variable {svc : Service} {w w' : World} {jti : String}

/-- What is found about a token that is good: it is read, its lineage is in
order, and its identifier is on record. -/
structure Finds (svc : Service) (w : World) (bearer : String) (c : Claims)
    (s : SessionClaims) (ns : Namespace) (p : Payload) : Prop where
  decoded : svc.codec.decode w.seconds .session (Bearer.token bearer) = .ok c
  session : c.session? = some s
  liveness : s.mode.liveness? = some ns
  descends : s.Descends w c.family
  looks : w.outages .get = none
  current : (w.live.get? (Key.make ns.name s.sub s.sessionId)).map Entry.value =
    some s.jti
  payload : Payload.ofClaims? c = some p

section verify

variable {bearer : String} {c : Claims} {s : SessionClaims} {ns : Namespace}
  {p : Payload}

theorem Finds.eq_of_read? (h : svc.Finds w bearer c s ns p) {c' : Claims}
    {v : Codec.Validity}
    (hread : svc.codec.read? .session (Bearer.token bearer) = some (c', v)) :
    c' = c := by
  obtain ⟨v', hread', -⟩ := Codec.read?_of_decode h.decoded
  cases hread.symm.trans hread'
  rfl

theorem claims?_of_decode
    (h : svc.codec.decode w.seconds .session (Bearer.token bearer) = .ok c) :
    svc.claims? bearer = some c := by
  obtain ⟨v, hread, -⟩ := Codec.read?_of_decode h
  rw [Service.claims?, hread]
  rfl

theorem Finds.claims? (h : svc.Finds w bearer c s ns p) :
    svc.claims? bearer = some c := claims?_of_decode h.decoded

/-- A token whose lineage is in order and whose identifier is on record is
good, as long as it can be read. -/
theorem Finds.verify (h : svc.Finds w bearer c s ns p) :
    (svc.verify bearer w).1 = .ok p :=
  (svc.verify_of_verdict h.decoded (.good h.session h.liveness h.descends
    h.looks h.current h.payload)).1

/-- A token that is verified was found to be good, and the entries are left as
they are. -/
theorem verify_eq_ok (h : svc.verify bearer w = (.ok p, w')) :
    (∃ c s ns, svc.Finds w bearer c s ns p) ∧ w.Becomes w.live w' := by
  obtain ⟨r, k, w₁, hverify, hverification, hb⟩ := svc.verify_spec bearer w
  cases hverify.symm.trans h
  cases hverification with
  | judged hdecode hverdict =>
      cases hverdict with
      | good hs hns hdesc hget hvalue hp =>
          exact ⟨⟨_, _, _, hdecode, hs, hns, hdesc, hget, hvalue, hp⟩, hb⟩

theorem Finds.of_upheld (h : svc.Finds w bearer c s ns p)
    (hw : w.UpheldBy w') : svc.Finds w' bearer c s ns p where
  decoded := hw.seconds ▸ h.decoded
  session := h.session
  liveness := h.liveness
  descends hmode := by
    obtain ⟨hexists, hline⟩ := h.descends hmode
    obtain ⟨hunused, f, hf, hfamily⟩ := World.lineage_eq_none.mp hline
    obtain ⟨e, he⟩ := Option.isSome_iff_exists.mp hfamily
    refine ⟨hw.looks _ hexists,
      World.lineage_eq_none.mpr ⟨hw.unfenced _ _ hunused, f, hf, ?_⟩⟩
    rw [hw.keeps _ _ he]
    rfl
  looks := hw.looks _ h.looks
  current := by
    obtain ⟨e, he, hjti⟩ := Option.map_eq_some_iff.mp h.current
    rw [hw.keeps _ _ he]
    exact congrArg some hjti
  payload := h.payload

/-- A token that is good stays good in a world that upholds this one. -/
theorem verify_of_upheld (hw : w.UpheldBy w')
    (h : (svc.verify bearer w).1 = .ok p) : (svc.verify bearer w').1 = .ok p := by
  obtain ⟨⟨c, s, ns, hfinds⟩, -⟩ := verify_eq_ok (Action.eq_of_fst_eq h)
  exact (hfinds.of_upheld hw).verify

end verify

theorem verifyMode_eq_ok {bearer : String} {mode : Mode} {p : Payload}
    (h : svc.verifyMode bearer mode w = (.ok p, w')) :
    svc.verify bearer w = (.ok p, w') ∧ p.mode = mode := by
  obtain ⟨q, w₁, hverify, hmode⟩ := Action.bind_eq_ok h
  split at hmode
  · next heq =>
      cases hmode
      exact ⟨hverify, heq⟩
  · cases hmode

/-- A refresh token whose lineage is not in order is turned down for that, and
its subject is swept. -/
theorem verify_of_broken {bearer : String} {c : Claims} {s : SessionClaims}
    {why : Rejection}
    (hdecode :
      svc.codec.decode w.seconds .session (Bearer.token bearer) = .ok c)
    (hs : c.session? = some s) (hmode : s.mode = .refresh)
    (hexists : w.outages .exists = none)
    (hline : w.lineage s.sub s.jti c.family = some why) :
    (svc.verify bearer w).1 = .error (.rejected why) ∧
      w.Becomes (w.swept s.sub) (svc.verify bearer w).2 :=
  svc.verify_of_verdict hdecode (.compromised hs hmode hexists hline)

theorem verify_of_lineage {bearer : String} {c : Claims} {t : Retired}
    {why : Rejection}
    (hdecode :
      svc.codec.decode w.seconds .session (Bearer.token bearer) = .ok c)
    (ht : c.IsOf t) (hexists : w.outages .exists = none)
    (hline : w.lineage t.sub t.jti (some t.family) = some why) :
    (svc.verify bearer w).1 = .error (.rejected why) ∧
      w.Becomes (w.swept t.sub) (svc.verify bearer w).2 := by
  have hs : c.session? = some ⟨t.sub, .refresh, t.jti, t.session⟩ :=
    Claims.session?_eq_some.mpr ⟨ht.sub, ht.mode, ht.jti, ht.session⟩
  rw [← ht.family] at hline
  exact verify_of_broken (s := ⟨t.sub, .refresh, t.jti, t.session⟩) hdecode hs
    rfl hexists hline

/-- Refreshing starts from a refresh token that has been verified. -/
theorem refreshable_eq_ok {bearer : String} {p : Payload} {u : User}
    (h : svc.refreshable bearer w = (.ok (p, u), w')) :
    svc.verify bearer w = (.ok p, w') ∧ p.mode = .refresh ∧
      u.checkStatus = .ok () ∧ w.users.find? p.sub = some u := by
  unfold refreshable at h
  obtain ⟨p', w₁, hmode, h₁⟩ := Action.bind_eq_ok h
  obtain ⟨u', w₂, huser, h₂⟩ := Action.bind_eq_ok h₁
  obtain ⟨a, w₃, hensure, h₃⟩ := Action.bind_eq_ok h₂
  obtain ⟨rfl, hfind⟩ := Action.requireUser_eq_ok huser
  rw [Action.pure_apply] at h₃
  cases h₃
  obtain ⟨hverify, hrefresh⟩ := verifyMode_eq_ok (Action.mapError_eq_ok hmode)
  have hstatus : u.checkStatus = .ok () ∧ w' = w₂ := by
    rw [Action.ensure, Action.lift] at hensure
    cases hs : u.checkStatus with
    | ok _ => rw [hs] at hensure; cases hensure; exact ⟨rfl, rfl⟩
    | error e => rw [hs] at hensure; cases hensure
  obtain ⟨hstatus, rfl⟩ := hstatus
  obtain ⟨-, hb⟩ := verify_eq_ok hverify
  rw [hb.users] at hfind
  exact ⟨hverify, hrefresh, hstatus, hfind⟩

/-- A token that is used up was the live one of its session. -/
theorem retire_eq_ok {c : Claims} {t : Retired} (hforced : w.forcedReply = none)
    (h : svc.retire c w = (.ok t, w')) :
    c.IsOf t ∧ w.Becomes (w.retiring svc t) w' ∧
      Change svc (.retire t) w w' := by
  obtain ⟨k, hretirement, hb⟩ := svc.retire_spec c hforced
  rw [h] at hretirement hb
  cases hretirement with
  | done ht _ hfamily hused hrefresh _ =>
      exact ⟨ht, hb,
        .retire_of_becomes hb ⟨hused, hrefresh, by rw [hfamily]; rfl⟩⟩

/-- A token that is verified is on record at the key that its claims say. -/
theorem records_of_verify {bearer jti : String} {claims : Claims}
    {v : Codec.Validity} {p : Payload}
    (hread : svc.codec.read? .session (Bearer.token bearer) = some (claims, v))
    (hjti : claims.jti = some jti) (h : svc.verify bearer w = (.ok p, w')) :
    ∃ (ns : Namespace) (sub session : String), claims.sub = some sub ∧
      claims.sessionId = some session ∧
      w.Records (Key.make ns.name sub session) jti := by
  obtain ⟨⟨c, s, ns, hfinds⟩, -⟩ := verify_eq_ok h
  cases hfinds.eq_of_read? hread
  obtain ⟨hsub, -, hsjti, hsession⟩ := Claims.session?_eq_some.mp hfinds.session
  cases hjti.symm.trans hsjti
  exact ⟨ns, s.sub, s.sessionId, hsub, hsession,
    ⟨ns, s.sub, s.sessionId, Mode.isLiveness_of_liveness? hfinds.liveness, rfl⟩,
    hfinds.current⟩

/-- The payload of a session token that is verified has the token's own
identifier. -/
theorem jti_of_verify {bearer jti : String} {claims : Claims}
    {v : Codec.Validity} {p : Payload}
    (hread : svc.codec.read? .session (Bearer.token bearer) = some (claims, v))
    (hjti : claims.jti = some jti) (h : svc.verify bearer w = (.ok p, w'))
    (hmode : p.mode.isSessionBound = true) : p.toClaims.jti = some jti := by
  obtain ⟨⟨c, s, ns, hfinds⟩, -⟩ := verify_eq_ok h
  cases hfinds.eq_of_read? hread
  rw [p.jti_toClaims,
    ← ((Payload.of_ofClaims? hfinds.payload).2.2.2 hmode).1, hjti]

/-! ## Requests that go through -/

/-- What is done for its effect goes through when it gives something. -/
theorem ignore_eq_ok {ε α : Type} {m : Action ε α}
    (h : (m.ignore w).1 = .ok ()) :
    ∃ a w', m w = (.ok a, w') := by
  rcases hm : m w with ⟨a | e | _, w'⟩
  · exact ⟨a, w', rfl⟩
  · rw [Action.ignore, Action.bind_of_error hm] at h
    cases h
  · rw [Action.ignore, Action.bind_of_outOfRange hm] at h
    cases h

theorem eq_ok_of_value? {ε α : Type} {m : Action ε α} {a : α}
    (h : (m w).1.value? = some a) : ∃ w', m w = (.ok a, w') := by
  rcases hm : m w with ⟨b | e | _, w'⟩ <;> rw [hm] at h <;> cases h
  exact ⟨w', rfl⟩

theorem refresh_eq_ok {bearer : String} {w' : World} {pair : TokenPair}
    (h : svc.refresh bearer w = (.ok pair, w')) :
    ∃ payload user w₁ t w₂,
      svc.refreshable bearer w = (.ok (payload, user), w₁) ∧
      svc.retire payload.toClaims w₁ = (.ok t, w₂) := by
  obtain ⟨⟨payload, user⟩, w₁, hrefreshable, h₁⟩ := Action.bind_eq_ok h
  obtain ⟨issued, w₂, hrotate, -⟩ := Action.bind_eq_ok h₁
  obtain ⟨t, w₃, -, hretire, -⟩ := rotate_eq_ok (Action.mapError_eq_ok hrotate)
  exact ⟨payload, user, w₁, t, w₃, hrefreshable, hretire⟩

/-- A request that goes through has found the token that it presents on record,
at the key that its claims say. -/
theorem Accepts.records {r : Request} (hforced : w.forcedReply = none)
    (h : svc.Accepts w jti r) :
    ∃ c, ∃ (ns : Namespace) (sub session : String), svc.presented? r = some c ∧
      c.jti = some jti ∧ c.sub = some sub ∧ c.sessionId = some session ∧
      w.Records (Key.make ns.name sub session) jti := by
  obtain ⟨hok, c, hpresented, hjti⟩ := h
  refine ⟨c, ?_⟩
  have hverified : ∀ {bearer : String} {p : Payload} {w' : World},
      (svc.codec.read? .session (Bearer.token bearer)).map (·.1) = some c →
      svc.verify bearer w = (.ok p, w') →
      ∃ (ns : Namespace) (sub session : String), svc.presented? r = some c ∧
        c.jti = some jti ∧
        c.sub = some sub ∧ c.sessionId = some session ∧
        w.Records (Key.make ns.name sub session) jti := by
    intro bearer p w' hread hverify
    obtain ⟨⟨c', v⟩, hread', rfl⟩ := Option.map_eq_some_iff.mp hread
    obtain ⟨ns, sub, session, hsub, hsession, hrecord⟩ :=
      records_of_verify hread' hjti hverify
    exact ⟨ns, sub, session, hpresented, hjti, hsub, hsession, hrecord⟩
  cases r with
  | verify bearer =>
      obtain ⟨p, w', hp⟩ := ignore_eq_ok hok
      exact hverified hpresented (Action.mapError_eq_ok hp)
  | verifyMode bearer mode =>
      obtain ⟨p, w', hp⟩ := ignore_eq_ok hok
      exact hverified hpresented (verifyMode_eq_ok (Action.mapError_eq_ok hp)).1
  | refresh bearer =>
      obtain ⟨pair, w', hpair⟩ := ignore_eq_ok hok
      obtain ⟨payload, user, w₁, -, -, hrefreshable, -⟩ := refresh_eq_ok hpair
      exact hverified hpresented (refreshable_eq_ok hrefreshable).1
  | logout bearer =>
      obtain ⟨p, w₁, hp, -⟩ := Action.bind_eq_ok (Action.eq_of_fst_eq hok)
      exact hverified hpresented (verifyMode_eq_ok (Action.mapError_eq_ok hp)).1
  | authenticate bearer =>
      obtain ⟨user, w', huser⟩ := ignore_eq_ok hok
      obtain ⟨p, w₁, hp, -⟩ := Action.bind_eq_ok huser
      exact hverified hpresented (verifyMode_eq_ok (Action.mapError_eq_ok hp)).1
  | rotate claims =>
      cases hpresented
      obtain ⟨issued, w', hissued⟩ := ignore_eq_ok hok
      obtain ⟨t, w₁, -, hretire, -⟩ :=
        rotate_eq_ok (Action.mapError_eq_ok hissued)
      obtain ⟨hsub, -, ht, hsession, -⟩ := (retire_eq_ok hforced hretire).1
      cases hjti.symm.trans ht
      exact ⟨.refresh, t.sub, t.session, rfl, hjti, hsub, hsession,
        (retire_eq_ok hforced hretire).2.2.records_of_retire⟩
  | _ => cases hpresented

/-- An exchange that goes through has used up the token that it presents. -/
theorem Accepts.retired {r : Request} (hforced : w.forcedReply = none)
    (h : svc.Accepts w jti r) (hr : r.isExchange = true) :
    ∃ t, svc.retired? w r = some t ∧ t.jti = jti := by
  obtain ⟨hok, c, hpresented, hjti⟩ := h
  cases r with
  | refresh bearer =>
      obtain ⟨pair, w', hpair⟩ := ignore_eq_ok hok
      obtain ⟨payload, user, w₁, t, w₂, hrefreshable, hretire⟩ :=
        refresh_eq_ok hpair
      obtain ⟨hverify, hmode, -⟩ := refreshable_eq_ok hrefreshable
      obtain ⟨⟨c', v⟩, hread, rfl⟩ := Option.map_eq_some_iff.mp hpresented
      have hpayload := jti_of_verify hread hjti hverify (by rw [hmode]; rfl)
      obtain ⟨-, hb⟩ := verify_eq_ok hverify
      have ht := (retire_eq_ok (by rw [hb.forcedReply, hforced]) hretire).1.jti
      rw [hpayload] at ht
      refine ⟨t, ?_, (Option.some.inj ht).symm⟩
      rw [retired?, hrefreshable]
      show (svc.retire payload.toClaims w₁).1.value? = some t
      rw [hretire]
      rfl
  | rotate claims =>
      cases hpresented
      obtain ⟨issued, w', hissued⟩ := ignore_eq_ok hok
      obtain ⟨t, w₁, -, hretire, -⟩ :=
        rotate_eq_ok (Action.mapError_eq_ok hissued)
      refine ⟨t, by rw [retired?, hretire]; rfl, ?_⟩
      have ht := (retire_eq_ok hforced hretire).1.jti
      rw [hjti] at ht
      cases ht
      rfl
  | _ => cases hr

/-! ## Requests that use a token up -/

/-- The effects that only write. -/
def Writes (ef : Effect) : Prop := ∀ key, ef.removes key = false

/-- A request that uses a token up leaves the entries alone before, and only
writes after. -/
theorem retired?_eq_some {r : Request} {t : Retired}
    (hforced : w.forcedReply = none) (h : svc.retired? w r = some t) :
    ∃ w₁ w₂, w.Becomes w.live w₁ ∧ Change svc (.retire t) w₁ w₂ ∧
      Changes svc Writes w₂ (svc.next w (.request r)) := by
  have hrotate : ∀ {c : Claims} {w₁ w₂ : World}, svc.retire c w₁ = (.ok t, w₂) →
      Changes svc Writes w₂ (svc.rotate c w₁).2 := by
    intro c w₁ w₂ hr
    rw [rotate, Action.bind_of_ok hr]
    refine .bind (.of_minted (Nat.le_succ _)) fun fresh w₃ _ => ?_
    exact .issueRefresh _ _ _ fun _ _ => rfl
  cases r with
  | rotate c =>
      obtain ⟨w₂, hr⟩ := eq_ok_of_value? h
      exact ⟨w, w₂, .refl w, (retire_eq_ok hforced hr).2.2,
        .ignore (.mapError _ (hrotate hr))⟩
  | refresh bearer =>
      rw [retired?] at h
      split at h
      · next payload user w₁ hok =>
          obtain ⟨w₂, hr⟩ := eq_ok_of_value? h
          obtain ⟨hverify, -⟩ := refreshable_eq_ok hok
          obtain ⟨-, hb⟩ := verify_eq_ok hverify
          have hforced₁ : w₁.forcedReply = none := by
            rw [hb.forcedReply, hforced]
          refine ⟨w₁, w₂, hb, (retire_eq_ok hforced₁ hr).2.2, .ignore ?_⟩
          rw [Service.refresh, Action.bind_of_ok hok]
          exact .bind (.mapError _ (hrotate hr)) fun _ _ _ =>
            .pairFor _ _ fun _ _ _ _ => rfl
      · cases h
  | _ => cases h

/-- An exchange is written for the family of the token that it uses up. -/
theorem exchanged?_eq_some {r : Request} {issued : Issued}
    (hforced : w.forcedReply = none) (h : svc.exchanged? w r = some issued) :
    ∃ t s j w₁ w₂, svc.retired? w r = some t ∧ w₁.clock = w.clock ∧
      Change svc (.refresh t.sub s j t.family) w₁ w₂ ∧
      Changes svc Writes w₂ (svc.next w (.request r)) := by
  have hrotate : ∀ {c : Claims} {w₁ : World}, w₁.forcedReply = none →
      (svc.rotate c w₁).1.value? = some issued →
      ∃ t s j w₂, (svc.retire c w₁).1.value? = some t ∧ w₂.clock = w₁.clock ∧
        svc.rotate c w₁ = (.ok issued, (svc.rotate c w₁).2) ∧
        Change svc (.refresh t.sub s j t.family) w₂ (svc.rotate c w₁).2 := by
    intro c w₁ hforced₁ hv
    obtain ⟨w₂, hr⟩ := eq_ok_of_value? hv
    rw [hr]
    obtain ⟨t, w₃, w₄, hretire, rfl, hissue⟩ := rotate_eq_ok hr
    obtain ⟨-, -, -, hc, -⟩ := issueRefresh_eq_ok hissue
    have hclock := (retire_eq_ok hforced₁ hretire).2.1.clock
    exact ⟨t, _, _, { w₃ with minted := w₃.minted + 1 }, by rw [hretire]; rfl,
      hclock, rfl, hc⟩
  cases r with
  | rotate c =>
      obtain ⟨t, s, j, w₂, ht, hclock, -, hc⟩ := hrotate hforced h
      exact ⟨t, s, j, w₂, _, ht, hclock, hc, .ignore (.mapError _ (.done _))⟩
  | refresh bearer =>
      rw [exchanged?] at h
      split at h
      · next payload user w₁ hok =>
          obtain ⟨hverify, -⟩ := refreshable_eq_ok hok
          obtain ⟨-, hb⟩ := verify_eq_ok hverify
          obtain ⟨t, s, j, w₂, ht, hclock, hrotated, hc⟩ :=
            hrotate (by rw [hb.forcedReply, hforced]) h
          refine ⟨t, s, j, w₂, _, ?_, hclock.trans hb.clock, hc, .ignore ?_⟩
          · rw [retired?, hok]
            exact ht
          · have houtside : outside (svc.rotate payload.toClaims) w₁ =
                (.ok issued, (svc.rotate payload.toClaims w₁).2) :=
              outside_of_ok hrotated
            rw [Service.refresh, Action.bind_of_ok hok]
            refine .bind (by rw [houtside]; exact .done _) fun _ w₃ hw₃ => ?_
            exact .pairFor _ _ fun _ _ _ _ => rfl
      · cases h
  | _ => cases h

end Service

end SessionTokens
