import SessionTokens.Proofs.Answers
import SessionTokens.Proofs.Codec

/-!
# What a client is given

A pair of tokens comes from a login or from a refresh, and in both its refresh
token is issued at one point: before that the clocks stand still, and after it
nothing is written but the access token that goes with it. So the text that the
client has and the two entries that the store has belong together, and they say
when each of them ends.
-/

namespace SessionTokens

/-- What can be stored at all is no longer than the clock has numbers for. -/
theorem MemoryStore.IsStorable.le_greatest {now : Nat} {ttl : UInt64}
    (h : IsStorable now (toMillis ttl)) :
    (ttl.toNat : Int) ≤ Word.greatest := by
  have hgreatest : Word.greatest = 2 ^ 63 - 1 := rfl
  have hdiv : (now + ttl.toNat * 1000) / 1000 ≤ 0x7FFFFFFFFFFFFFFF := h
  omega

/-- A lifetime ends at a time that a token can say, or at the last one that it
can. -/
theorem toInt_expiry {ttl : UInt64} (h : (ttl.toNat : Int) ≤ Word.greatest)
    (now : Nat) :
    (expiry now ttl).toInt = min (now + ttl.toNat : Int) Word.greatest := by
  have hleast : Word.least = -2 ^ 63 := rfl
  have hgreatest : Word.greatest = 2 ^ 63 - 1 := rfl
  have httl : ttl.toInt64.toInt = ttl.toNat := by
    show ttl.toBitVec.toInt = _
    rw [BitVec.toInt_eq_toNat_cond]
    have hnat : ttl.toBitVec.toNat = ttl.toNat := rfl
    rw [hnat, if_pos (by omega)]
  rw [expiry, clampInt64, httl, Int64.toInt_ofInt_of_le (by omega) (by omega)]
  omega

theorem expiry_nonneg {ttl : UInt64} (h : (ttl.toNat : Int) ≤ Word.greatest)
    (now : Nat) : 0 ≤ expiry now ttl := by
  have hgreatest : Word.greatest = 2 ^ 63 - 1 := rfl
  rw [Int64.le_iff_toInt_le, toInt_expiry h]
  show (0 : Int) ≤ _
  omega

/-- The second of an expiry is the last one of the lifetime, if a token can say
that. -/
theorem toNat_expiry {ttl : UInt64} (h : (ttl.toNat : Int) ≤ Word.greatest)
    (now : Nat) :
    ((expiry now ttl).toInt.toNat : Int) =
      min (now + ttl.toNat : Int) Word.greatest := by
  have hgreatest : Word.greatest = 2 ^ 63 - 1 := rfl
  rw [toInt_expiry h]
  omega

/-- An effect that issues an access token. -/
def Effect.IsAccess (ef : Effect) : Prop :=
  ∃ sub session jti, ef = .access sub session jti

/-- What the refresh token of a pair says when it is issued in this second. -/
def Retired.payload (svc : Service) (t : Retired) (seconds : Nat) : Payload :=
  .refresh t.sub (expiry seconds svc.lifetimes.refresh) t.jti t.session t.family

namespace Service

variable {svc : Service} {w w' : World} {r : Request} {pair : TokenPair}
    {t : Retired}

/-- The request gives a pair whose refresh token is this one. It is issued at
one point, and what comes after is an access token at most. -/
structure Opens (svc : Service) (w : World) (r : Request) (pair : TokenPair)
    (t : Retired) : Prop where
  token : svc.codec.encode (t.payload svc w.seconds).toClaims =
    .ok pair.refreshToken
  storable : MemoryStore.IsStorable w.clock (toMillis svc.lifetimes.refresh)
  fresh : ∃ n, w.minted < n ∧ t.jti = svc.ids n
  /-- Unless the family is that of an older token, it has been minted. -/
  family : r.isExchange = true ∨
    ∃ n, n ≤ (svc.next w (.request r)).minted ∧ t.family = svc.ids n
  issued : ∃ w₁ w₂, w₁.clock = w.clock ∧
    Change svc (.refresh t.sub t.session t.jti t.family) w₁ w₂ ∧
    Changes svc Effect.IsAccess w₂ (svc.next w (.request r))

/-- The access token of a pair is issued in the session of its refresh token. -/
theorem access_of_pairFor {owner : String} {issued : Issued}
    (h : svc.pairFor owner issued w = (.ok pair, w')) :
    ∃ session access, issued.payload.sessionId = some session ∧
      svc.issueAccess owner (some session) w = (.ok access, w') ∧
      pair = {
        accessToken := access.token
        refreshToken := issued.token
        sessionId := session
        accessExp := access.payload.exp
        refreshExp := issued.payload.exp } := by
  unfold pairFor at h
  cases hsession : issued.payload.sessionId with
  | none => rw [hsession] at h; cases h
  | some session =>
      rw [hsession] at h
      obtain ⟨access, w₁, haccess, h⟩ := Action.bind_eq_ok h
      cases h
      exact ⟨session, access, rfl, Action.mapError_eq_ok haccess, rfl⟩

theorem pairFor_eq_ok {sub : String} {issued : Issued}
    (h : svc.pairFor sub issued w = (.ok pair, w')) :
    pair.refreshToken = issued.token ∧ Changes svc Effect.IsAccess w w' := by
  have hchanges : Changes svc Effect.IsAccess w (svc.pairFor sub issued w).2 :=
    .pairFor _ _ fun s j _ => ⟨_, s, j, rfl⟩
  rw [h] at hchanges
  obtain ⟨session, access, -, -, rfl⟩ := access_of_pairFor h
  exact ⟨rfl, hchanges⟩

/-- A pair comes from issuing a refresh token and then an access token. -/
theorem opens_of_issued {sub sub' : String} {session family : Option String}
    {issued : Issued} {w₁ w₂ : World} (hclock : w₁.clock = w.clock)
    (hseconds : w₁.seconds = w.seconds) (hminted : w.minted ≤ w₁.minted)
    (hfamily : r.isExchange = true ∨ family = none)
    (hissue : svc.issueRefresh sub session family w₁ = (.ok issued, w₂))
    (hpair : svc.pairFor sub' issued w₂ = (.ok pair, w'))
    (hr : svc.next w (.request r) = w') : ∃ t, svc.Opens w r pair t := by
  subst hr
  obtain ⟨hpayload, hencode, hstorable, hwritten, hw₂⟩ :=
    issueRefresh_eq_ok hissue
  obtain ⟨htoken, hafter⟩ := pairFor_eq_ok hpair
  have hlt := svc.lt_chosen w₁.minted session family
  refine ⟨⟨sub, _, _, _⟩, ?_, hclock ▸ hstorable,
    ⟨_, Nat.lt_of_le_of_lt hminted hlt, rfl⟩,
    hfamily.imp_right fun hnone => ?_, w₁, w₂, hclock, hwritten, hafter⟩
  · rw [htoken, ← hencode, hseconds]
    rfl
  · subst hnone
    refine ⟨(svc.choose w₁.minted session).2 + 1, ?_, rfl⟩
    have hle := hafter.minted
    rw [hw₂] at hle
    exact Nat.le_of_succ_le hle

/-- Before a pair is given a refresh token is issued, and after it an access
token. Session and family are new, unless the pair is given in exchange: then
the family is that of the token that is used up. -/
theorem issued_of_opened? (hforced : w.forcedReply = none)
    (h : svc.opened? w r = some pair) :
    ∃ sub owner session family issued w₁ w₂,
      svc.issueRefresh sub session family w₁ = (.ok issued, w₂) ∧
      svc.pairFor owner issued w₂ = (.ok pair, svc.next w (.request r)) ∧
      Changes svc (fun _ => True) w w₁ ∧
      ((session = none ∧ family = none) ∨
        ∃ t n, svc.retired? w r = some t ∧ w.minted < n ∧ n ≤ w₁.minted ∧
          sub = t.sub ∧ session = some (svc.ids n) ∧
          family = some t.family) := by
  cases r with
  | login id password =>
      obtain ⟨w', hlogin⟩ := eq_ok_of_value? h
      have hnext : svc.next w (.request (.login id password)) = w' :=
        congrArg Prod.snd (Action.bind_of_ok hlogin)
      obtain ⟨u, w₁, huser, h₁⟩ := Action.bind_eq_ok hlogin
      obtain ⟨rfl, -⟩ := Action.requireUser_eq_ok huser
      obtain ⟨good, w₂, hgood, h₂⟩ := Action.bind_eq_ok h₁
      have hsame : w₂ = w₁ := by
        rw [← Action.verifyPassword_snd svc.hasher password u.passwordHash w₁,
          hgood]
      subst hsame
      split at h₂
      · obtain ⟨_, w₃, hensure, h₃⟩ := Action.bind_eq_ok h₂
        have hsame : w₃ = w₂ := (congrArg Prod.snd hensure).symm
        subst hsame
        obtain ⟨issued, w₄, hissue, hpair⟩ := Action.bind_eq_ok h₃
        rw [hnext]
        exact ⟨u.id, u.id, none, none, issued, w₃, w₄,
          Action.mapError_eq_ok hissue, hpair, .done w₃, .inl ⟨rfl, rfl⟩⟩
      · cases h₂
  | refresh bearer =>
      obtain ⟨w', hrefresh⟩ := eq_ok_of_value? h
      have hnext : svc.next w (.request (.refresh bearer)) = w' :=
        congrArg Prod.snd (Action.bind_of_ok hrefresh)
      obtain ⟨⟨p, u⟩, w₁, hrefreshable, h₁⟩ := Action.bind_eq_ok hrefresh
      obtain ⟨hverify, -⟩ := refreshable_eq_ok hrefreshable
      obtain ⟨-, hb⟩ := verify_eq_ok hverify
      obtain ⟨issued, w₂, hrotate, hpair⟩ := Action.bind_eq_ok h₁
      obtain ⟨t, w₃, w₄, hretire, hw₄, hissue⟩ :=
        rotate_eq_ok (Action.mapError_eq_ok hrotate)
      have hforced₁ : w₁.forcedReply = none := by rw [hb.forcedReply, hforced]
      obtain ⟨-, hb', hc⟩ := retire_eq_ok hforced₁ hretire
      have hretired : svc.retired? w (.refresh bearer) = some t := by
        rw [retired?, hrefreshable]
        show (svc.retire p.toClaims w₁).1.value? = some t
        rw [hretire]
        rfl
      have hminted : w₃.minted = w.minted := by rw [hb'.minted, hb.minted]
      rw [hnext]
      refine ⟨t.sub, u.id, _, _, issued, w₄, w₂, hissue, hpair, ?_,
        .inr ⟨t, w₃.minted + 1, hretired, ?_, ?_, rfl, rfl, rfl⟩⟩
      · rw [hw₄]
        exact (Changes.of_becomes hb).trans
          (.trans (.single trivial hc) (.of_minted (Nat.le_succ _)))
      · omega
      · exact Nat.le_of_eq (congrArg World.minted hw₄).symm
  | _ => cases h

theorem opens_of_opened? (hforced : w.forcedReply = none)
    (h : svc.opened? w r = some pair) : ∃ t, svc.Opens w r pair t := by
  obtain ⟨sub, owner, session, family, issued, w₁, w₂, hissue, hpair, hbefore,
    hwhence⟩ := issued_of_opened? hforced h
  have hfamily : r.isExchange = true ∨ family = none := by
    rcases hwhence with ⟨-, hnone⟩ | ⟨t, n, hretired, -⟩
    · exact .inr hnone
    · refine .inl ?_
      cases r <;> first | rfl | cases hretired
  exact opens_of_issued hbefore.clock hbefore.seconds hbefore.minted hfamily
    hissue hpair rfl

theorem Opens.exp (h : svc.Opens w r pair t) :
    ((expiry w.seconds svc.lifetimes.refresh).toInt.toNat : Int) =
      min (w.seconds + svc.lifetimes.refresh.toNat : Int) Word.greatest :=
  toNat_expiry h.storable.le_greatest w.seconds

/-- The token of the pair is read as what it was issued as. -/
theorem Opens.read (h : svc.Opens w r pair t) :
    svc.codec.read? .session (Bearer.token pair.refreshToken) =
      some ((t.payload svc w.seconds).toClaims,
        ⟨(expiry w.seconds svc.lifetimes.refresh).toInt.toNat, false⟩) :=
  svc.codec.read?_of_encode (m := .refresh) rfl
    (expiry_nonneg h.storable.le_greatest w.seconds) h.token

/-! ## A first login -/

/-- What the first refresh token says that is given for a login in second
1700000000. -/
def trialRefresh : Payload :=
  .refresh "u" 1700003600 (Action.idText 3) (Action.idText 1) (Action.idText 2)

/-- The token itself. -/
def trialRefreshToken : String :=
  Codec.asciiText (trial.codec.tokenBytes .session trialRefresh.toClaims)

/-- There is one account, with a password. -/
def trialAccount : List Event :=
  [.setUser "u" (some ⟨"u", "u@example.com", "plain:secret", true, true⟩)]

theorem opened?_trial :
    ∃ pair, trial.opened? (trial.after (.initial 1700000000000) trialAccount)
        (.login "u" "secret") = some pair ∧
          pair.refreshToken = trialRefreshToken :=
  ⟨_, rfl, rfl⟩

theorem read?_trialRefreshToken :
    trial.codec.read? .session (Bearer.token trialRefreshToken) =
      some (trialRefresh.toClaims, ⟨1700003600, false⟩) :=
  trial.codec.read?_of_encode (m := .refresh) rfl
    (show 0 ≤ trialRefresh.exp by decide)
    (show trial.codec.encode trialRefresh.toClaims = .ok trialRefreshToken
      from rfl)

theorem isOf_trialRefresh : trialRefresh.toClaims.IsOf
    ⟨"u", Action.idText 3, Action.idText 1, Action.idText 2⟩ :=
  ⟨rfl, rfl, rfl, rfl, rfl⟩

end Service

end SessionTokens
