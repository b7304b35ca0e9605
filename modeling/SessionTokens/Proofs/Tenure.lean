import SessionTokens.Proofs.Expiry
import SessionTokens.Proofs.Issuance

/-!
# How long a token is good

The identifier of a token is written with the whole lifetime, and nothing but
the events that are meant to end a token early take it away: its session is
not entered a second time, and the keys of other sessions are other keys. So
up to the deadline, to the millisecond, the key holds the identifier, and then
it is empty. The expiry that the token says itself is a second count, which is
late by up to a second and then by the leeway, so it never comes first, and
the deadline of the key alone decides. For a refresh token the mark of its
family is written with the same lifetime or renewed, and a fence is put up
only when the token is used.
-/

namespace SessionTokens

theorem Payload.of_session? {p : Payload} {s : SessionClaims}
    (h : p.toClaims.session? = some s) :
    p.sub = s.sub ∧ p.mode = s.mode ∧ p.jti = some s.jti ∧
      p.sessionId = some s.sessionId := by
  cases p <;> cases h <;> exact ⟨rfl, rfl, rfl, rfl⟩

/-- Up to this deadline, and not longer, the key holds this identifier. -/
def World.Holds (w : World) (key jti : String) (d : Nat) : Prop :=
  w.live.get? key = if w.clock < d then some ⟨jti, d⟩ else none

section

variable {svc : Service} {ef : Effect} {w w₁ : World} {key jti : String}
    {d : Nat}

theorem World.Holds.eq_of_get? (h : w.Holds key jti d) {e : Entry}
    (he : w.live.get? key = some e) : e = ⟨jti, d⟩ := by
  rw [h] at he
  split at he
  · exact (Option.some.inj he).symm
  · cases he

theorem Passes.holds (h : Passes w w₁) (hw : w.Holds key jti d) :
    w₁.Holds key jti d := by
  have hle := h.clock
  unfold World.Holds at hw ⊢
  rw [h.live, Keyspace.get?_live, hw]
  by_cases hlt : w₁.clock < d
  · rw [if_pos hlt, if_pos (Nat.lt_of_le_of_lt hle hlt)]
    simp [Option.filter_some, Entry.isLive, hlt]
  · rw [if_neg hlt]
    split
    · simp [Option.filter_some, Entry.isLive, hlt]
    · rfl

theorem Change.holds (h : Change svc ef w w₁)
    (hwrites : ∀ e, (key, e) ∉ ef.writes svc w.clock)
    (hremoves : ef.removes key = false) (hw : w.Holds key jti d) :
    w₁.Holds key jti d := by
  unfold World.Holds at hw ⊢
  rw [h.get?_of_not_written hwrites, hremoves, h.clock]
  exact hw

theorem Change.holds_of_written (h : Change svc ef w w₁)
    (he : (ef.writes svc w.clock).find? (·.1 = key) = some (key, ⟨jti, d⟩)) :
    w₁.Holds key jti d := by
  unfold World.Holds
  rw [h.look, Effect.look, he, h.clock]

theorem Effect.of_writes_liveness {ns : Namespace} (hns : ns.isLiveness = true)
    {sub session : String} {e : Entry} {now : Nat}
    (he : (Key.make ns.name sub session, e) ∈ ef.writes svc now) :
    ∃ sub' session' jti,
      (ef = .access sub' session' jti ∨
        ∃ family, ef = .refresh sub' session' jti family) ∧
      Key.make ns.name sub session = Key.make ns.name sub' session' := by
  have hmem := mem_namespaces_of_writes svc now ns he
  cases ef with
  | access sub' session' jti =>
      cases List.mem_singleton.mp hmem
      have hkey := (Prod.mk.inj (List.mem_singleton.mp he)).1
      exact ⟨sub', session', jti, .inl rfl, hkey⟩
  | refresh sub' session' jti family =>
      rcases List.mem_cons.mp hmem with rfl | hmark
      · rcases List.mem_cons.mp he with heq | hrest
        · exact ⟨sub', session', jti, .inr ⟨family, rfl⟩,
            (Prod.mk.inj heq).1⟩
        · have hkey := (Prod.mk.inj (List.mem_singleton.mp hrest)).1
          exact absurd hkey (Key.make_ne_of_ns_ne (by decide))
      · cases List.mem_singleton.mp hmark
        cases hns
  | retire t => cases List.mem_singleton.mp hmem; cases hns
  | redeem sub' digest => cases List.mem_singleton.mp hmem; cases hns
  | pass => cases he
  | sweep sub' => cases he
  | endSession sub' session' => cases he

end

/-! ## Sessions that are left alone -/

namespace Service

variable {svc : Service} {w w₁ w₂ : World} {ef : Effect} {r : Request}
    {ns : Namespace} {sub session jti : String} {d : Nat}

/-- The event enters no session by name, and does to this session and to the
identifier of its token nothing that would end it. -/
structure Tolerates (svc : Service) (ns : Namespace) (sub session jti : String)
    (w : World) (e : Event) : Prop where
  names : e.names = []
  /-- What sessions it ends have proper identifiers. -/
  plain : ∀ sub' session', svc.Closes w sub' session' e →
    Key.IsPlain session'
  sweeps : ¬ svc.Sweeps w sub e
  closes : ¬ svc.Closes w sub session e
  reserves : ns = .refresh → svc.Reserves jti w e

theorem not_writes_of_allows (hids : svc.Distinguishes)
    (hns : ns.isLiveness = true) (hnames : r.names = [])
    (hallows : ef ≠ .pass → svc.Allows w r ef)
    (hsession : ∃ m, m ≤ w.minted ∧ session = svc.ids m) (now : Nat)
    (e : Entry) : (Key.make ns.name sub session, e) ∉ ef.writes svc now := by
  intro he
  obtain ⟨sub', session', jti, hef, hkey⟩ := Effect.of_writes_liveness hns he
  have henters : svc.Enters w r session' := by
    rcases hef with rfl | ⟨family, rfl⟩
    · exact hallows nofun
    · exact (hallows nofun).1
  obtain ⟨m, hm, rfl⟩ := hsession
  rcases henters with hnamed | ⟨n, hlt, rfl⟩
  · rw [hnames] at hnamed
    cases hnamed
  · -- What is minted now is none of the sessions that were minted before.
    have hsame : sub = sub' ∧ svc.ids m = svc.ids n :=
      Key.make_injective (hids.plain m) (hids.plain n) hkey
    have hmn : m = n := hids.injective hsame.2
    omega

theorem not_removes_of_tolerates (hns : ns.isLiveness = true)
    (hplain : Key.IsPlain session)
    (hallows : ef ≠ .pass → svc.Allows w r ef)
    (he : svc.Tolerates ns sub session jti w (.request r))
    (h : Change svc ef w₁ w₂)
    (hw : w₁.Holds (Key.make ns.name sub session) jti d) :
    ef.removes (Key.make ns.name sub session) = false := by
  rw [Bool.eq_false_iff]
  intro hremoves
  have hallowed : svc.Allows w r ef :=
    hallows (by rintro rfl; cases hremoves)
  cases ef with
  | retire t =>
      have hkey : Key.make ns.name sub session =
          Key.refresh t.sub t.session := by
        simpa [Effect.removes] using hremoves
      cases Key.ns_eq_of_make_eq hkey
      -- Only the token on record can be used up, and that is this one.
      obtain ⟨e, hentry, hjti⟩ := Option.map_eq_some_iff.mp h.guard.2.1
      rw [← hkey] at hentry
      rw [hw.eq_of_get? hentry] at hjti
      exact he.reserves rfl t hallowed hjti.symm
  | sweep sub' =>
      by_cases hsub : sub' = sub
      · subst hsub
        exact he.sweeps hallowed
      · rw [Effect.removes, Key.isSessionKeyOf_make_of_ne hplain hsub]
          at hremoves
        cases hremoves
  | endSession sub' session' =>
      have hcloses : svc.Closes w sub' session' (.request r) := hallowed
      have hkey : Key.make ns.name sub session =
          Key.make ns.name sub' session' := by
        have hmem : Key.make ns.name sub session = Key.access sub' session' ∨
            Key.make ns.name sub session = Key.refresh sub' session' := by
          simpa [Effect.removes] using hremoves
        rcases hmem with heq | heq <;> cases Key.ns_eq_of_make_eq heq <;>
          exact heq
      obtain ⟨rfl, rfl⟩ := Key.make_injective hplain
        (he.plain sub' session' hcloses) hkey
      exact he.closes hcloses
  | pass => cases hremoves
  | access sub' session' jti' => cases hremoves
  | refresh sub' session' jti' family => cases hremoves
  | redeem sub' digest => cases hremoves

theorem next_holds {e : Event} (hids : svc.Distinguishes)
    (hforced : w.forcedReply = none) (hns : ns.isLiveness = true)
    (hsession : ∃ m, m ≤ w.minted ∧ session = svc.ids m)
    (he : svc.Tolerates ns sub session jti w e)
    (hw : w.Holds (Key.make ns.name sub session) jti d) :
    (svc.next w e).Holds (Key.make ns.name sub session) jti d := by
  refine next_preserves
    (I := fun w' => w'.Holds (Key.make ns.name sub session) jti d)
    Passes.holds (fun {r ef w₁ w₂} hr hallows _ hc hI => ?_) hforced hw
  subst hr
  have hplain : Key.IsPlain session := by
    obtain ⟨m, -, rfl⟩ := hsession
    exact hids.plain m
  exact hc.holds
    (not_writes_of_allows hids hns he.names hallows hsession w₁.clock)
    (not_removes_of_tolerates hns hplain hallows he hc hI) hI

theorem after_holds {es : List Event} (hids : svc.Distinguishes)
    (hforced : w.forcedReply = none) (hns : ns.isLiveness = true)
    (hsession : ∃ m, m ≤ w.minted ∧ session = svc.ids m)
    (hes : svc.Throughout (svc.Tolerates ns sub session jti) w es)
    (hw : w.Holds (Key.make ns.name sub session) jti d) :
    (svc.after w es).Holds (Key.make ns.name sub session) jti d := by
  -- A step needs to know that the session has been minted.
  let I : World → Prop := fun w' =>
    (∃ m, m ≤ w'.minted ∧ session = svc.ids m) ∧
      w'.Holds (Key.make ns.name sub session) jti d
  have hboth : I (svc.after w es) := by
    refine (after_preserves (I := I) (fun {w' e} hf he hI => ?_) hes hforced
      ⟨hsession, hw⟩).1
    obtain ⟨⟨m, hm, hid⟩, hholds⟩ := hI
    exact ⟨⟨m, Nat.le_trans hm (minted_next w' e hf), hid⟩,
      next_holds hids hf hns ⟨m, hm, hid⟩ he hholds⟩
  exact hboth.2

/-- A token that is given is on record for its lifetime. -/
theorem Gives.holds {token : String} {p : Payload} {s : SessionClaims}
    (h : svc.Gives w r token p) (hs : p.toClaims.session? = some s)
    (hns : s.mode.liveness? = some ns) :
    (svc.next w (.request r)).Holds (Key.make ns.name s.sub s.sessionId) s.jti
      (w.clock + toMillis (svc.lifetimes.of p.mode)) := by
  obtain ⟨w₁, w₂, hclock, hwritten, hafter⟩ := h.issued
  rw [← hclock]
  -- Behind a refresh token comes at most the access token of its pair.
  have hkept : ∀ {key : String},
      (∀ sub session, p.mode = .refresh → key ≠ Key.access sub session) →
      w₂.Holds key s.jti (w₁.clock + toMillis (svc.lifetimes.of p.mode)) →
      (svc.next w (.request r)).Holds key s.jti
        (w₁.clock + toMillis (svc.lifetimes.of p.mode)) := by
    intro key hkey hw₂
    refine hafter.induct (I := fun w' => w'.Holds key s.jti
      (w₁.clock + toMillis (svc.lifetimes.of p.mode)))
      (fun {ef w' w''} hP hc hI => ?_) hw₂
    by_cases hpass : ef = .pass
    · subst hpass
      exact hc.holds (fun _ => List.not_mem_nil) rfl hI
    · obtain ⟨hmode, sub, session, jti, rfl⟩ := hP hpass
      refine hc.holds (fun e he => ?_) rfl hI
      exact hkey sub session hmode (Prod.mk.inj (List.mem_singleton.mp he)).1
  cases p with
  | access sub exp jti session =>
      cases hs
      cases hns
      refine hkept (fun _ _ hmode => by cases hmode)
        (hwritten.holds_of_written ?_)
      simp [Payload.effect, Effect.writes, Key.access, Lifetimes.of,
        Payload.mode]
  | refresh sub exp jti session family =>
      cases hs
      cases hns
      refine hkept (fun _ _ _ => Key.make_ne_of_ns_ne (by decide))
        (hwritten.holds_of_written ?_)
      simp [Payload.effect, Effect.writes, Key.refresh, Lifetimes.of,
        Payload.mode]
  | verification sub exp email => exact absurd h.bound Bool.false_ne_true
  | resetPassword sub exp email => exact absurd h.bound Bool.false_ne_true

/-! ## What verification makes of it -/

variable {bearer : String} {p : Payload} {s : SessionClaims}

theorem eq_of_verify {q : Payload} {v : Codec.Validity}
    (hread : svc.codec.read? .session (Bearer.token bearer) =
      some (p.toClaims, v)) (h : (svc.verify bearer w).1 = .ok q) : q = p := by
  obtain ⟨⟨c, s, ns, hfinds⟩, -⟩ := verify_eq_ok (Action.eq_of_fst_eq h)
  cases hfinds.eq_of_read? hread
  exact Option.some.inj (hfinds.payload.symm.trans p.ofClaims?_toClaims)

/-- A token whose identifier is on record up to a deadline is good up to it, if
it can be read and its lineage is in order for as long. -/
theorem verify_eq_ok_iff {v : Codec.Validity}
    (hread : svc.codec.read? .session (Bearer.token bearer) =
      some (p.toClaims, v))
    (hs : p.toClaims.session? = some s) (hns : s.mode.liveness? = some ns)
    (hholds : w.Holds (Key.make ns.name s.sub s.sessionId) s.jti d)
    (hget : w.outages .get = none)
    (hvalid : w.clock < d → svc.codec.checkValidity w.seconds v = .ok ())
    (hdesc : w.clock < d → s.Descends w p.toClaims.family) :
    ((svc.verify bearer w).1 = .ok p ↔ w.clock < d) ∧
      ∀ q, (svc.verify bearer w).1 = .ok q → q = p := by
  refine ⟨⟨fun hok => ?_, fun hlt => ?_⟩, fun q => eq_of_verify hread⟩
  · obtain ⟨⟨c, s', ns', hfinds⟩, -⟩ := verify_eq_ok (Action.eq_of_fst_eq hok)
    cases hfinds.eq_of_read? hread
    cases hs.symm.trans hfinds.session
    cases hns.symm.trans hfinds.liveness
    obtain ⟨e, he, -⟩ := Option.map_eq_some_iff.mp hfinds.current
    have hdeadline := World.lt_deadline he
    rw [hholds.eq_of_get? he] at hdeadline
    exact hdeadline
  · refine Finds.verify ⟨Codec.decode_of_read? hread (hvalid hlt), hs, hns,
      hdesc hlt, hget, ?_, p.ofClaims?_toClaims⟩
    rw [hholds, if_pos hlt]
    rfl

/-! ## Histories -/

theorem claims_of_logout (h : svc.ended? w (.logout bearer) =
    some (sub, session)) :
    ∃ c, svc.claims? bearer = some c ∧ c.sessionId = some session := by
  rw [ended?] at h
  rcases hok : svc.verifyMode bearer .access w with ⟨q | e | _, w'⟩
  · rw [hok] at h
    obtain ⟨hverify, hmode⟩ := verifyMode_eq_ok hok
    obtain ⟨⟨c, s, ns, hfinds⟩, -⟩ := verify_eq_ok hverify
    obtain ⟨-, -, -, hbound⟩ := Payload.of_ofClaims? hfinds.payload
    obtain ⟨session', hsession, heq⟩ := Option.map_eq_some_iff.mp h
    cases heq
    refine ⟨c, hfinds.claims?, ?_⟩
    rw [(hbound (by rw [hmode]; rfl)).2, hsession]
  · rw [hok] at h
    cases h
  · rw [hok] at h
    cases h

/-- Where nothing is named and only given tokens are presented, every session
that is ended has a proper identifier. -/
theorem plain_of_authentic {past later : List Event} (hids : svc.Distinguishes)
    (hforced : w.forcedReply = none)
    (hnames : ∀ e ∈ past ++ later, e.names = [])
    (hauthentic : svc.Authentic w (past ++ later)) :
    svc.Throughout (fun w e => e.names = [] ∧
      ∀ sub session, svc.Closes w sub session e → Key.IsPlain session)
      (svc.after w past) later := by
  refine throughout_of_split fun between e rest heq => ?_
  have hsplit : past ++ later = (past ++ between) ++ e :: rest := by
    rw [heq, List.append_assoc]
  have hname : e.names = [] := hnames e (by rw [hsplit]; simp)
  refine ⟨hname, fun sub session hcloses => ?_⟩
  rw [← after_append] at hcloses
  -- Without names, only a logout ends a session, that of a given token.
  cases e with
  | request r =>
      cases r with
      | logout bearer =>
          obtain ⟨c, hc, hsession⟩ := claims_of_logout hcloses
          obtain ⟨token, hmem, htoken⟩ :=
            hauthentic (past ++ between) (.logout bearer) rest hsplit c hc
          refine (claims_of_givenIn hids hforced (fun e he s hs => ?_) hmem
            htoken).2 session hsession
          have hmem' : e ∈ past ++ later := by
            rw [hsplit]
            exact List.mem_append_left _ he
          rw [hnames e hmem'] at hs
          cases hs
      | invalidateSession sub' session' => cases hname
      | _ => cases hcloses
  | _ => cases hcloses

/-- The two clocks go on together, so a token can be read for as long as its
identifier is on record. -/
theorem checkValidity_of_lt {exp ttl : Nat} {w₁ : World}
    (hwall : w.wall + w₁.clock = w₁.wall + w.clock)
    (hexp : exp = w₁.seconds + ttl)
    (hleeway : svc.codec.leeway.toNat ≤ w.seconds)
    (hlt : w.clock < w₁.clock + ttl * 1000) :
    svc.codec.checkValidity w.seconds ⟨exp, false⟩ = .ok () := by
  refine Codec.checkValidity_eq_ok.mpr ⟨hleeway, ?_, rfl⟩
  have hseconds : w.seconds ≤ exp := by
    rw [hexp, World.seconds, World.seconds]
    omega
  exact Nat.le_trans hseconds (Nat.le_add_right _ _)

theorem Gives.eq_payload {pair : TokenPair} {t : Retired}
    (h : svc.Gives w r pair.refreshToken p) (hopens : svc.Opens w r pair t) :
    p = t.payload svc w.seconds := by
  have hread := h.read.symm.trans hopens.read
  exact Payload.toClaims_injective (Prod.mk.inj (Option.some.inj hread)).1

/-- A refresh token of a pair has its lineage in order for its lifetime, if
nothing cuts it short. -/
theorem descends_of_opens {pair : TokenPair} {t : Retired} {later : List Event}
    (hids : svc.Distinguishes) (hforced : w₁.forcedReply = none)
    (htidy : w₁.Tidy svc) (hfenced : w₁.Fenced svc)
    (hopens : svc.Opens w₁ r pair t) (hplain : Key.IsPlain t.family)
    (hlater : svc.Throughout
      (fun w e => ¬ svc.CutsShort w (t.payload svc w₁.seconds) e)
      (svc.next w₁ (.request r)) later)
    (hw : w = svc.after (svc.next w₁ (.request r)) later)
    (hlt : w.clock < w₁.clock + toMillis svc.lifetimes.refresh) :
    w.lineage t.sub t.jti (some t.family) = none := by
  subst hw
  refine World.lineage_eq_none.mpr ⟨?_, t.family, rfl, ?_⟩
  · exact unfenced_of_reserves hids hforced htidy hfenced hopens
      (hlater.imp fun h t' ht' hjti =>
        h (.inr (.inr ⟨t', ht', rfl, congrArg some hjti.symm⟩)))
  · exact family_of_spares hforced hopens hplain
      (hlater.imp fun h => .inr fun hsweeps => h (.inl hsweeps)) hlt

/-- A token that nothing cuts short has its session left alone. -/
theorem tolerates_of_not_cutsShort {es : List Event}
    (hs : p.toClaims.session? = some s) (hns : s.mode.liveness? = some ns)
    (hplain : svc.Throughout (fun w e => e.names = [] ∧
      ∀ sub session, svc.Closes w sub session e → Key.IsPlain session) w es)
    (hquiet : svc.Throughout (fun w e => ¬ svc.CutsShort w p e) w es) :
    svc.Throughout (svc.Tolerates ns s.sub s.sessionId s.jti) w es := by
  obtain ⟨hsub, hmode, hjti, hsession⟩ := Payload.of_session? hs
  refine (hplain.and hquiet).imp fun {w e} ⟨⟨hname, hplain⟩, hquiet⟩ => {
    names := hname
    plain := hplain
    sweeps := fun h => hquiet (.inl (hsub ▸ h))
    closes := fun h => hquiet (.inr (.inl ⟨_, hsession, hsub ▸ h⟩))
    reserves := ?_ }
  rintro rfl t ht heq
  refine hquiet (.inr (.inr ⟨t, ht, ?_, heq ▸ hjti⟩))
  rw [hmode]
  cases hm : s.mode <;> rw [hm] at hns <;> cases hns

/-- A token whose session is left alone, and whose lineage is in order as long
as it has one, is good for exactly its lifetime. -/
theorem Gives.verify_iff {token : String} {later : List Event}
    (h : svc.Gives w₁ r token p) (hids : svc.Distinguishes)
    (hforced : w₁.forcedReply = none) (hr : r.names = [])
    (hs : p.toClaims.session? = some s) (hns : s.mode.liveness? = some ns)
    (hlater : svc.Throughout (svc.Tolerates ns s.sub s.sessionId s.jti)
      (svc.next w₁ (.request r)) later)
    (hw : w = svc.after (svc.next w₁ (.request r)) later)
    (hsteady : ∀ e ∈ later, e.isSteady = true)
    (hfits :
      w₁.seconds + (svc.lifetimes.of p.mode).toNat ≤ Word.greatest)
    (hleeway : svc.codec.leeway.toNat ≤ w.seconds)
    (hget : w.outages .get = none)
    (hdesc : w.clock < w₁.clock + toMillis (svc.lifetimes.of p.mode) →
      s.Descends w p.toClaims.family)
    (hbearer : Bearer.token bearer = Bearer.token token) :
    ((svc.verify bearer w).1 = .ok p ↔
      w.clock < w₁.clock + toMillis (svc.lifetimes.of p.mode)) ∧
    ∀ q, (svc.verify bearer w).1 = .ok q → q = p := by
  have hforced₁ : (svc.next w₁ (.request r)).forcedReply = none :=
    forcedReply_next _ hforced
  have hnext : Changes svc (svc.Allows w₁ r) w₁ (svc.next w₁ (.request r)) :=
    .perform r hforced
  obtain ⟨-, -, -, hsession⟩ := Payload.of_session? hs
  have hminted : ∃ m, m ≤ (svc.next w₁ (.request r)).minted ∧
      s.sessionId = svc.ids m := by
    rcases h.session _ hsession with hnamed | hminted
    · rw [hr] at hnamed
      cases hnamed
    · exact hminted.le (Nat.le_refl _)
  have hholds : w.Holds (Key.make ns.name s.sub s.sessionId) s.jti
      (w₁.clock + toMillis (svc.lifetimes.of p.mode)) := by
    rw [hw]
    exact after_holds hids hforced₁ (Mode.isLiveness_of_liveness? hns) hminted
      hlater (h.holds hs hns)
  have hwall : w.wall + w₁.clock = w₁.wall + w.clock := by
    have hstep : (svc.after (svc.next w₁ (.request r)) later).wall +
        (svc.next w₁ (.request r)).clock =
          (svc.next w₁ (.request r)).wall +
            (svc.after (svc.next w₁ (.request r)) later).clock :=
      wall_after hsteady hforced₁
    rw [hnext.wall, hnext.clock, ← hw] at hstep
    exact hstep
  have hexp : p.exp.toInt.toNat =
      w₁.seconds + (svc.lifetimes.of p.mode).toNat := by
    rw [h.exp, toInt_expiry h.storable.le_greatest]
    omega
  exact verify_eq_ok_iff (by rw [hbearer]; exact h.read) hs hns hholds hget
    (checkValidity_of_lt hwall hexp hleeway) hdesc

/-- Both tokens of a pair are good for exactly their lifetime. In a history
that names no identifiers and presents given tokens only, with both clocks
going on together, each of them is verified with just the content that it was
issued with as long as its lifetime in milliseconds is not over, and not at
all from then on, provided that nothing cuts it short on purpose. -/
theorem verifies_for_lifetime {w₀ : World} {first : Request} {pair : TokenPair}
    (hids : svc.Distinguishes) (hnew : w₀.IsNew) (past : List Event)
    (hw₁ : w₁ = svc.after w₀ past)
    (hopened : svc.opened? w₁ first = some pair) {m : Mode} {token : String}
    {exp : Int64} (htoken : pair.part? m = some (token, exp))
    (hfits : w₁.seconds + (svc.lifetimes.of m).toNat ≤ Word.greatest)
    (later : List Event)
    (hw : w = svc.after (svc.next w₁ (.request first)) later)
    (hnames : ∀ e ∈ past ++ .request first :: later, e.names = [])
    (hauthentic : svc.Authentic w₀ (past ++ .request first :: later))
    (hsteady : ∀ e ∈ later, e.isSteady = true)
    (hleeway : svc.codec.leeway.toNat ≤ w.seconds)
    (hget : w.outages .get = none) (hexists : w.outages .exists = none) :
    ∃ p, svc.codec.encode p.toClaims = .ok token ∧ p.mode = m ∧ p.exp = exp ∧
      p.sessionId = some pair.sessionId ∧
      (svc.Throughout (fun w e => ¬ svc.CutsShort w p e)
          (svc.next w₁ (.request first)) later →
        ∀ bearer, Bearer.token bearer = Bearer.token token →
        ((svc.verify bearer w).1 = .ok p ↔
          w.clock < w₁.clock + toMillis (svc.lifetimes.of m)) ∧
        ∀ q, (svc.verify bearer w).1 = .ok q → q = p) := by
  have hsplit : past ++ .request first :: later =
      (past ++ [.request first]) ++ later := by simp
  have hfirst : first.names = [] := hnames (.request first) (by simp)
  obtain ⟨htidy, hforced⟩ :=
    after_tidy hids.injective hnew.forcedReply hnew.tidy past
  have hfenced : (svc.after w₀ past).Fenced svc :=
    after_fenced hids hnew.forcedReply hnew.tidy hnew.fenced past
  rw [← hw₁] at htidy hforced hfenced
  have hplain : svc.Throughout (fun w e => e.names = [] ∧
      ∀ sub session, svc.Closes w sub session e → Key.IsPlain session)
      (svc.next w₁ (.request first)) later := by
    have hlater := plain_of_authentic hids hnew.forcedReply (hsplit ▸ hnames)
      (hsplit ▸ hauthentic)
    rw [after_append, ← hw₁] at hlater
    exact hlater
  obtain ⟨⟨p, hp, hpmode, hpsession, hpexp⟩, q, hq, hqmode, hqsession, hqexp⟩ :=
    gives_of_opened? hforced hopened
  cases m with
  | access =>
      -- An access token has no lineage to be looked after.
      cases htoken
      refine ⟨p, hp.encode, hpmode, hpexp, hpsession,
        fun hquiet bearer hbearer => ?_⟩
      cases p with
      | access sub exp jti session =>
          exact hp.verify_iff hids hforced hfirst rfl rfl
            (tolerates_of_not_cutsShort rfl rfl hplain hquiet) hw hsteady
            hfits hleeway hget (fun _ => nofun) hbearer
      | _ => cases hpmode
  | refresh =>
      cases htoken
      refine ⟨q, hq.encode, hqmode, hqexp, hqsession,
        fun hquiet bearer hbearer => ?_⟩
      obtain ⟨t, hopens⟩ := opens_of_opened? hforced hopened
      cases hq.eq_payload hopens
      have hgiven : pair.refreshToken ∈
          svc.givenIn w₀ (past ++ [.request first]) := by
        rw [givenIn_append, ← hw₁]
        exact List.mem_append_right _ (List.mem_append_left _
          (mem_gives_of_opened? hopened (by simp [TokenPair.tokens])))
      have hfamily : Key.IsPlain t.family := by
        obtain ⟨n, -, hn⟩ := family_of_givenIn hnew.forcedReply
          (fun e he =>
            hnames e (by rw [hsplit]; exact List.mem_append_left _ he))
          (hsplit ▸ hauthentic).of_append hgiven hq.claims? rfl
        rw [hn]
        exact hids.plain n
      exact hq.verify_iff hids hforced hfirst rfl rfl
        (tolerates_of_not_cutsShort rfl rfl hplain hquiet) hw hsteady
        hfits hleeway hget
        (fun hlt _ => ⟨hexists, descends_of_opens hids hforced htidy hfenced
          hopens hfamily hquiet hw hlt⟩) hbearer
  | verification => cases htoken
  | resetPassword => cases htoken

/-- The refresh token of a first login is verified up to the last millisecond
of its hour, with another login of the subject in between. -/
theorem trial_verifies_for_lifetime :
    let w ms := trial.after (.initial 1700000000000)
      (trialAccount ++ .request (.login "u" "secret") :: trialLater ms)
    (trial.verify trialRefreshToken (w 3539999)).1 = .ok trialRefresh ∧
      ∀ p, (trial.verify trialRefreshToken (w 3540000)).1 ≠ .ok p := by
  intro w
  obtain ⟨pair, hopened, htoken⟩ := opened?_trial
  have hnew : (World.initial 1700000000000).IsNew := ⟨rfl, rfl⟩
  have hdeadline :
      (trial.after (.initial 1700000000000) trialAccount).clock +
        toMillis (trial.lifetimes.of .refresh) = 3600000 := by decide +kernel
  have hw : ∀ ms, w ms = trial.after (trial.next
      (trial.after (.initial 1700000000000) trialAccount)
      (.request (.login "u" "secret"))) (trialLater ms) :=
    fun ms => (after_append ..).trans (after_cons ..)
  have hevents : ∀ ms, ∀ e ∈
      trialAccount ++ .request (.login "u" "secret") :: trialLater ms,
      e.names = [] ∧ ∀ r, e = .request r → trial.presented? r = none := by
    intro ms e he
    simp only [trialAccount, trialLater, List.cons_append, List.nil_append,
      List.mem_cons, List.not_mem_nil, or_false] at he
    rcases he with rfl | rfl | rfl | rfl | rfl <;>
      exact ⟨rfl, fun r hr => by cases hr <;> rfl⟩
  have hauthentic : ∀ ms, trial.Authentic (.initial 1700000000000)
      (trialAccount ++ .request (.login "u" "secret") :: trialLater ms) := by
    intro ms past r rest heq c hc
    have hnone := (hevents ms (.request r) (by rw [heq]; simp)).2 r rfl
    rw [hnone] at hc
    cases hc
  have hadvance : ∀ w p ms, ¬ trial.CutsShort w p (.advance ms) := by
    rintro w p ms (h | ⟨_, -, h⟩ | ⟨_, h, -⟩) <;> exact h
  have hlogin : ∀ w p,
      ¬ trial.CutsShort w p (.request (.login "u" "secret")) := by
    rintro w p (⟨-, h⟩ | ⟨_, -, h⟩ | ⟨_, h, -⟩) <;> cases h
  have htrial : ∀ {w p}, (trial.verify trialRefreshToken w).1 = .ok p →
      p = trialRefresh := eq_of_verify read?_trialRefreshToken
  have hbefore : trial.codec.leeway.toNat ≤ (w 3539999).seconds ∧
      (w 3539999).outages .get = none ∧ (w 3539999).outages .exists = none ∧
      (w 3539999).clock < 3600000 := by decide +kernel
  have hafter : trial.codec.leeway.toNat ≤ (w 3540000).seconds ∧
      (w 3540000).outages .get = none ∧ (w 3540000).outages .exists = none ∧
      ¬ (w 3540000).clock < 3600000 := by decide +kernel
  clear_value w
  have hlife : ∀ ms, trial.codec.leeway.toNat ≤ (w ms).seconds →
      (w ms).outages .get = none → (w ms).outages .exists = none →
      ∃ p, ((trial.verify trialRefreshToken (w ms)).1 = .ok p ↔
          (w ms).clock < 3600000) ∧
        ∀ q, (trial.verify trialRefreshToken (w ms)).1 = .ok q → q = p := by
    intro ms hleeway hget hexists
    obtain ⟨p, -, -, -, -, hverify⟩ :=
      verifies_for_lifetime trial_distinguishes hnew trialAccount rfl hopened
        (m := .refresh) rfl (by decide +kernel) (trialLater ms) (hw ms)
        (fun e he => (hevents ms e he).1) (hauthentic ms)
        (by simp [trialLater, Event.isSteady]) hleeway hget hexists
    rw [hdeadline] at hverify
    exact ⟨p, hverify ⟨hadvance _ _ _, hlogin _ _, hadvance _ _ _, trivial⟩
      trialRefreshToken (congrArg Bearer.token htoken.symm)⟩
  constructor
  · obtain ⟨hleeway, hget, hexists, hlt⟩ := hbefore
    obtain ⟨p, hp, -⟩ := hlife 3539999 hleeway hget hexists
    exact htrial (hp.mpr hlt) ▸ hp.mpr hlt
  · obtain ⟨hleeway, hget, hexists, hover⟩ := hafter
    obtain ⟨p, hp, hsame⟩ := hlife 3540000 hleeway hget hexists
    intro q hq
    exact hover (hp.mp (hsame q hq ▸ hq))

end Service

end SessionTokens
