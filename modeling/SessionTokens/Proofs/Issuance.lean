import SessionTokens.Proofs.Alarms
import SessionTokens.Proofs.Openings
import SessionTokens.Session.Circulation

/-!
# What is given is on record

Five kinds of requests give session tokens, and all of them issue through two
operations. `Gives` says once what a token that is given has to do with the
request: its identifier is new; its session and its family are new too, unless
the request names them or the family is that of a token which is used up; and
it is put on record at one point, after which nothing is written but the access
token that goes with it.

Every token of a history is read back as what it was issued as. So what a token
in circulation says comes from the request that gave it, and if only such
tokens are presented then every family goes back to an identifier that was
minted.
-/

namespace SessionTokens

namespace Payload

/-- The family of a refresh token. -/
def family : Payload → Option String
  | .refresh _ _ _ _ family => some family
  | _ => none

/-- The effect that puts a session token on record. -/
def effect : Payload → Effect
  | .access sub _ jti session => .access sub session jti
  | .refresh sub _ jti session family => .refresh sub session jti family
  | _ => .pass

end Payload

/-- The lifetime of the tokens of a mode. -/
def Lifetimes.of (l : Lifetimes) : Mode → UInt64
  | .access => l.access
  | .refresh => l.refresh
  | .verification => l.verification
  | .resetPassword => l.resetPassword

namespace Service

variable {svc : Service} {w w₁ w₂ : World} {r : Request} {token : String}
    {p : Payload}

/-- The identifier is minted while the request is carried out. -/
def Mints (svc : Service) (w : World) (r : Request) (id : String) : Prop :=
  ∃ n, w.minted < n ∧ n ≤ (svc.next w (.request r)).minted ∧ id = svc.ids n

/-- The request gives a session token with this content. -/
structure Gives (svc : Service) (w : World) (r : Request) (token : String)
    (p : Payload) : Prop where
  bound : p.mode.isSessionBound = true
  encode : svc.codec.encode p.toClaims = .ok token
  exp : p.exp = expiry w.seconds (svc.lifetimes.of p.mode)
  storable : MemoryStore.IsStorable w.clock (toMillis (svc.lifetimes.of p.mode))
  jti : ∃ jti, p.jti = some jti ∧ svc.Mints w r jti
  session : ∀ s, p.sessionId = some s → s ∈ r.names ∨ svc.Mints w r s
  family : ∀ f, p.family = some f → f ∈ r.names ∨ svc.Mints w r f ∨
    ∃ t, svc.retired? w r = some t ∧ t.family = f
  issued : ∃ w₁ w₂, w₁.clock = w.clock ∧ Change svc p.effect w₁ w₂ ∧
    Changes svc (fun ef => p.mode = .refresh ∧ ef.IsAccess) w₂
      (svc.next w (.request r))

/-! ## Single requests -/

theorem gives_of_issueAccess {P : Effect → Prop} {sub : String}
    {session : Option String} {issued : Issued} (hbefore : Changes svc P w w₁)
    (hissue : svc.issueAccess sub session w₁ =
      (.ok issued, svc.next w (.request r)))
    (hsession : ∀ s, session = some s → s ∈ r.names ∨ svc.Mints w r s) :
    svc.Gives w r issued.token issued.payload := by
  obtain ⟨hpayload, hencode, hstorable, hwritten, hminted⟩ :=
    issueAccess_eq_ok hissue
  have hle := svc.le_choose w₁.minted session
  have hle₁ := hbefore.minted
  rw [hpayload]
  refine {
    bound := rfl
    encode := hencode
    exp := by rw [← hbefore.seconds]; rfl
    storable := hbefore.clock ▸ hstorable
    jti := ⟨_, rfl, _, by omega, Nat.le_of_eq hminted.symm, rfl⟩
    session := fun s hs => ?_
    family := fun f hf => by cases hf
    issued := ⟨w₁, _, hbefore.clock, hwritten, .done _⟩ }
  · cases hs
    cases session with
    | some s => exact hsession s rfl
    | none =>
        refine .inr ⟨w₁.minted + 1, by omega, ?_, rfl⟩
        rw [hminted]
        exact Nat.le_succ _

theorem gives_of_issueRefresh {P : Effect → Prop} {sub : String}
    {session family : Option String} {issued : Issued}
    (hbefore : Changes svc P w w₁)
    (hissue : svc.issueRefresh sub session family w₁ = (.ok issued, w₂))
    (hafter : Changes svc Effect.IsAccess w₂ (svc.next w (.request r)))
    (hsession : ∀ s, session = some s → s ∈ r.names ∨ svc.Mints w r s)
    (hfamily : ∀ f, family = some f → f ∈ r.names ∨
      ∃ t, svc.retired? w r = some t ∧ t.family = f) :
    svc.Gives w r issued.token issued.payload ∧
      issued.payload.mode = .refresh := by
  obtain ⟨hpayload, hencode, hstorable, hwritten, hminted⟩ :=
    issueRefresh_eq_ok hissue
  have hs := svc.le_choose w₁.minted session
  have hf := svc.le_choose (svc.choose w₁.minted session).2 family
  have hle₁ := hbefore.minted
  have hle₂ := hafter.minted
  have hlast : w₂.minted =
      (svc.choose (svc.choose w₁.minted session).2 family).2 + 1 := hminted
  rw [hpayload]
  refine ⟨{
    bound := rfl
    encode := hencode
    exp := by rw [← hbefore.seconds]; rfl
    storable := hbefore.clock ▸ hstorable
    jti := ⟨_, rfl, _, by rw [← hminted]; omega,
      by rw [← hminted]; exact hle₂, rfl⟩
    session := fun s hs => ?_
    family := fun f hf => ?_
    issued := ⟨w₁, _, hbefore.clock, hwritten,
      hafter.mono fun _ h => ⟨rfl, h⟩⟩ }, rfl⟩
  · cases hs
    cases session with
    | some s => exact hsession s rfl
    | none =>
        have hone : (svc.choose w₁.minted none).2 = w₁.minted + 1 := rfl
        exact .inr ⟨w₁.minted + 1, by omega, by omega, rfl⟩
  · cases hf
    cases family with
    | some f => exact (hfamily f rfl).imp_right .inr
    | none =>
        refine .inr (.inl ⟨(svc.choose w₁.minted session).2 + 1, by omega, ?_,
          rfl⟩)
        have hone : (svc.choose (svc.choose w₁.minted session).2 none).2 =
          (svc.choose w₁.minted session).2 + 1 := rfl
        omega

/-- Both tokens of a pair are given in its session. -/
theorem gives_of_opened? {pair : TokenPair} (hforced : w.forcedReply = none)
    (h : svc.opened? w r = some pair) :
    (∃ p, svc.Gives w r pair.accessToken p ∧ p.mode = .access ∧
      p.sessionId = some pair.sessionId ∧ p.exp = pair.accessExp) ∧
    (∃ p, svc.Gives w r pair.refreshToken p ∧ p.mode = .refresh ∧
      p.sessionId = some pair.sessionId ∧ p.exp = pair.refreshExp) := by
  obtain ⟨sub, owner, session, family, issued, w₁, w₂, hissue, hpair, hbefore,
    hwhence⟩ := issued_of_opened? hforced h
  obtain ⟨-, hafter⟩ := pairFor_eq_ok hpair
  obtain ⟨s, access, hs, haccess, rfl⟩ := access_of_pairFor hpair
  obtain ⟨hrefresh, hmode⟩ := gives_of_issueRefresh hbefore hissue hafter
    (fun s hsession => by
      rcases hwhence with ⟨hnone, -⟩ | ⟨t, n, -, hlt, hle, -, hsome, -⟩
      · rw [hnone] at hsession
        cases hsession
      · cases hsome.symm.trans hsession
        have hle₁ : w₁.minted ≤ w₂.minted := by
          have hc := (issueRefresh_eq_ok hissue).2.2.2.1
          exact hc.minted
        exact .inr ⟨n, hlt, Nat.le_trans hle
          (Nat.le_trans hle₁ hafter.minted), rfl⟩)
    (fun f hfamily => by
      rcases hwhence with ⟨-, hnone⟩ | ⟨t, n, hretired, -, -, -, -, hsome⟩
      · rw [hnone] at hfamily
        cases hfamily
      · cases hsome.symm.trans hfamily
        exact .inr ⟨t, hretired, rfl⟩)
  have hissued : Changes svc (fun _ => True) w₁ w₂ :=
    .single trivial (issueRefresh_eq_ok hissue).2.2.2.1
  have haccess' := gives_of_issueAccess (hbefore.trans hissued) haccess
    (fun s' hs' => by
      cases hs'
      exact hrefresh.session s hs)
  obtain ⟨hpayload, -⟩ := issueAccess_eq_ok haccess
  refine ⟨⟨_, haccess', ?_, ?_, rfl⟩, ⟨_, hrefresh, hmode, hs, rfl⟩⟩
  · rw [hpayload]
    rfl
  · rw [hpayload]
    rfl

theorem mem_gives_of_opened? {pair : TokenPair}
    (h : svc.opened? w r = some pair) (htoken : token ∈ pair.tokens) :
    token ∈ svc.gives w r := by
  have hgives : svc.gives w r = pair.tokens := by
    cases r with
    | login id password => rw [gives, h]; rfl
    | refresh bearer => rw [gives, h]; rfl
    | _ => cases h
  rw [hgives]
  exact htoken

/-- What is done for its effect leaves the world that it would leave anyway. -/
theorem ignore_outside_snd {α : Type} (m : Action TokenError α) (w : World) :
    ((outside m).ignore w).2 = (m w).2 := by
  rcases h : m w with ⟨a | e | _, w'⟩ <;>
    simp [Action.ignore, outside, Action.mapError, Action.bind_apply, h,
      Outcome.mapError, Action.pure_apply]

theorem gives_of_mem (hforced : w.forcedReply = none)
    (h : token ∈ svc.gives w r) : ∃ p, svc.Gives w r token p := by
  have hpair : ∀ {pair : Option TokenPair}, svc.opened? w r = pair →
      token ∈ (pair.map TokenPair.tokens).getD [] →
      ∃ p, svc.Gives w r token p := by
    intro pair hopened hmem
    cases pair with
    | none => cases hmem
    | some pair =>
        obtain ⟨⟨p, hp, -⟩, ⟨q, hq, -⟩⟩ := gives_of_opened? hforced hopened
        rcases List.mem_cons.mp hmem with rfl | hmem
        · exact ⟨p, hp⟩
        · cases List.mem_singleton.mp hmem
          exact ⟨q, hq⟩
  have hissued : ∀ {m : Action TokenError Issued},
      token ∈ ((m w).1.value?.map Issued.token).toList →
      ∃ issued, m w = (.ok issued, ((outside m).ignore w).2) ∧
        issued.token = token := by
    intro m hmem
    obtain ⟨issued, hissued, htoken⟩ :=
      Option.map_eq_some_iff.mp (Option.mem_toList.mp hmem)
    obtain ⟨w', hm⟩ := eq_ok_of_value? hissued
    exact ⟨issued, by rw [ignore_outside_snd, hm], htoken⟩
  cases r with
  | login id password => exact hpair rfl h
  | refresh bearer => exact hpair rfl h
  | issueAccess sub session =>
      obtain ⟨issued, hissue, rfl⟩ := hissued h
      exact ⟨_, gives_of_issueAccess (P := fun _ => True) (.done w) hissue
        fun s hs => .inl (Option.mem_toList.mpr hs)⟩
  | issueRefresh sub session family =>
      obtain ⟨issued, hissue, rfl⟩ := hissued h
      exact ⟨_, (gives_of_issueRefresh (P := fun _ => True) (.done w) hissue
        (.done _)
        (fun s hs => .inl (List.mem_append_left _ (Option.mem_toList.mpr hs)))
        fun f hf =>
          .inl (List.mem_append_right _ (Option.mem_toList.mpr hf))).1⟩
  | rotate claims =>
      obtain ⟨issued, hrotate, rfl⟩ := hissued h
      obtain ⟨t, w₁, w₂, hretire, hw₂, hissue⟩ := rotate_eq_ok hrotate
      obtain ⟨-, hb, hc⟩ := retire_eq_ok hforced hretire
      have hbefore : Changes svc (fun _ => True) w w₂ := by
        rw [hw₂]
        exact (Changes.single trivial hc).trans (.of_minted (Nat.le_succ _))
      refine ⟨_, (gives_of_issueRefresh hbefore hissue (.done _)
        (fun s hs => ?_) fun f hf => ?_).1⟩
      · cases hs
        refine .inr ⟨w₁.minted + 1, ?_, ?_, rfl⟩
        · rw [hb.minted]
          exact Nat.lt_succ_self _
        · have hle := (issueRefresh_eq_ok hissue).2.2.2.1.minted
          rw [hw₂] at hle
          exact hle
      · cases hf
        refine .inr ⟨t, ?_, rfl⟩
        rw [retired?, hretire]
        rfl
  | _ => cases h

/-- What an exchange gives is the token of its payload. -/
theorem encode_of_rotate {c : Claims} {issued : Issued}
    (h : (svc.rotate c w).1.value? = some issued) :
    svc.codec.encode issued.payload.toClaims = .ok issued.token := by
  obtain ⟨w', hok⟩ := eq_ok_of_value? h
  obtain ⟨t, w₁, w₂, -, -, hrefresh⟩ := rotate_eq_ok hok
  obtain ⟨hpayload, hencode, -⟩ := issueRefresh_eq_ok hrefresh
  rw [hpayload]
  exact hencode

/-- A token that is given is read as what it was issued as. -/
theorem Gives.read (h : svc.Gives w r token p) :
    svc.codec.read? .session (Bearer.token token) =
      some (p.toClaims, ⟨p.exp.toInt.toNat, false⟩) := by
  have hexp : 0 ≤ p.exp := by
    have hgreatest : Word.greatest = 2 ^ 63 - 1 := rfl
    rw [h.exp, Int64.le_iff_toInt_le, toInt_expiry h.storable.le_greatest]
    show (0 : Int) ≤ _
    omega
  cases p with
  | access sub exp jti session =>
      exact svc.codec.read?_of_encode (m := .access) rfl hexp h.encode
  | refresh sub exp jti session family =>
      exact svc.codec.read?_of_encode (m := .refresh) rfl hexp h.encode
  | verification sub exp email => exact absurd h.bound Bool.false_ne_true
  | resetPassword sub exp email => exact absurd h.bound Bool.false_ne_true

theorem Gives.claims? (h : svc.Gives w r token p) :
    svc.claims? token = some p.toClaims := by
  rw [Service.claims?, h.read]
  rfl

/-- How a token is presented does not matter. -/
theorem claims?_eq_of_token {bearer : String}
    (h : Bearer.token bearer = Bearer.token token) :
    svc.claims? bearer = svc.claims? token := by
  rw [Service.claims?, h, Service.claims?]

/-- A token that is good has its identifier on record at its own key. -/
theorem records_of_claims? {bearer jti : String} {c : Claims}
    (hc : svc.claims? bearer = some c) (hjti : c.jti = some jti)
    (hok : (svc.verify bearer w).1 = .ok p) :
    ∃ (ns : Namespace) (sub session : String), c.sub = some sub ∧
      c.sessionId = some session ∧
      w.Records (Key.make ns.name sub session) jti := by
  obtain ⟨⟨c', v⟩, hread, rfl⟩ := Option.map_eq_some_iff.mp hc
  exact records_of_verify hread hjti (Action.eq_of_fst_eq hok)

/-! ## Histories -/

variable {es es' : List Event}

theorem givenIn_append (w : World) (es es' : List Event) :
    svc.givenIn w (es ++ es') =
      svc.givenIn w es ++ svc.givenIn (svc.after w es) es' := by
  induction es generalizing w with
  | nil => rfl
  | cons e es ih =>
      cases e with
      | request r =>
          rw [List.cons_append, givenIn, givenIn, ih, after_cons,
            List.append_assoc]
      | _ => exact ih _

/-- What a history gives comes from one of its requests. -/
theorem gives_of_givenIn (hforced : w.forcedReply = none)
    (h : token ∈ svc.givenIn w es) :
    ∃ past r rest p, es = past ++ .request r :: rest ∧
      svc.Gives (svc.after w past) r token p ∧
      (svc.next (svc.after w past) (.request r)).minted ≤
        (svc.after w es).minted := by
  have hwhere : ∃ past r rest, es = past ++ .request r :: rest ∧
      token ∈ svc.gives (svc.after w past) r := by
    clear hforced
    induction es generalizing w with
    | nil => cases h
    | cons e es ih =>
        have hlater : token ∈ svc.givenIn (svc.next w e) es →
            ∃ past r rest, e :: es = past ++ .request r :: rest ∧
              token ∈ svc.gives (svc.after w past) r := by
          intro hmem
          obtain ⟨past, r, rest, rfl, hgives⟩ := ih hmem
          exact ⟨e :: past, r, rest, rfl, hgives⟩
        cases e with
        | request r =>
            rcases List.mem_append.mp h with hnow | hmem
            · exact ⟨[], r, es, rfl, hnow⟩
            · exact hlater hmem
        | _ => exact hlater h
  obtain ⟨past, r, rest, rfl, hmem⟩ := hwhere
  have hforced₁ : (svc.after w past).forcedReply = none :=
    forcedReply_after past hforced
  obtain ⟨p, hp⟩ := gives_of_mem hforced₁ hmem
  refine ⟨past, r, rest, p, rfl, hp, ?_⟩
  rw [after_append, after_cons]
  exact minted_after rest (forcedReply_next _ hforced₁)

theorem Mints.le {id : String} {m : Nat} (h : svc.Mints w r id)
    (hm : (svc.next w (.request r)).minted ≤ m) :
    ∃ n, n ≤ m ∧ id = svc.ids n := by
  obtain ⟨n, -, hn, hid⟩ := h
  exact ⟨n, Nat.le_trans hn hm, hid⟩

/-- Every token of a history that names plain identifiers only has one of its
own that has been minted, and a plain session. -/
theorem claims_of_givenIn (hids : svc.Distinguishes)
    (hforced : w.forcedReply = none)
    (hnames : ∀ e ∈ es, ∀ s ∈ e.names, Key.IsPlain s)
    (h : token ∈ svc.givenIn w es) {c : Claims}
    (hc : svc.claims? token = some c) :
    (∃ jti n, c.jti = some jti ∧ n ≤ (svc.after w es).minted ∧
      jti = svc.ids n) ∧
    (∀ s, c.sessionId = some s → Key.IsPlain s) := by
  obtain ⟨past, r, rest, p, rfl, hp, hle⟩ := gives_of_givenIn hforced h
  cases hp.claims?.symm.trans hc
  constructor
  · obtain ⟨jti, hjti, hminted⟩ := hp.jti
    obtain ⟨n, hn, hid⟩ := hminted.le hle
    exact ⟨jti, n, p.jti_toClaims.trans hjti, hn, hid⟩
  · intro s hs
    have hsession : p.sessionId = some s := by
      cases p <;> exact hs
    rcases hp.session s hsession with hnamed | ⟨n, -, -, rfl⟩
    · exact hnames (.request r) (by simp) s hnamed
    · exact hids.plain n

theorem Authentic.of_append (h : svc.Authentic w (es ++ es')) :
    svc.Authentic w es := by
  intro past r rest heq
  exact h past r (rest ++ es') (by rw [heq]; simp)

/-- Where nothing is named and only given tokens are presented, the family of
every token has been minted. -/
theorem family_of_givenIn (hforced : w.forcedReply = none)
    (hnames : ∀ e ∈ es, e.names = []) (hauthentic : svc.Authentic w es)
    (h : token ∈ svc.givenIn w es) {c : Claims} {f : String}
    (hc : svc.claims? token = some c) (hf : c.family = some f) :
    ∃ n, n ≤ (svc.after w es).minted ∧ f = svc.ids n := by
  induction hlen : es.length using Nat.strongRecOn
    generalizing es token c with
  | _ len ih =>
      obtain ⟨past, r, rest, p, rfl, hp, hle⟩ := gives_of_givenIn hforced h
      have hfamily : p.family = some f := by
        cases hp.claims?.symm.trans hc
        cases p <;> exact hf
      have hr : r.names = [] := hnames (.request r) (by simp)
      rcases hp.family f hfamily with hnamed | hminted | ⟨t, hretired, rfl⟩
      · rw [hr] at hnamed
        cases hnamed
      · exact hminted.le hle
      · -- The family is that of an older token, which was given before.
        obtain ⟨c', hpresented, ht⟩ :=
          presented?_of_retired? (forcedReply_after past hforced) hretired
        obtain ⟨token', hmem, hc'⟩ := hauthentic past r rest rfl c' hpresented
        obtain ⟨n, hn, heq⟩ := ih past.length (by rw [← hlen]; simp)
          (fun e he => hnames e (List.mem_append_left _ he))
          hauthentic.of_append hmem hc' ht.family rfl
        refine ⟨n, Nat.le_trans hn (Nat.le_trans ?_ hle), heq⟩
        exact minted_next _ _ (forcedReply_after past hforced)

theorem claims?_trialRefreshToken :
    trial.claims? trialRefreshToken = some trialRefresh.toClaims := by
  rw [Service.claims?, read?_trialRefreshToken]
  rfl

end Service

end SessionTokens
