import SessionTokens.Proofs.Exchanges
import SessionTokens.Proofs.FailClosed

/-!
# A refresh goes through or costs nothing

A refresh verifies the token, looks for its account, exchanges the token and
issues an access token to go with the new one, in this order. What can be wrong
with the token or the account is found before anything is used up, so a refusal
leaves the token as good as it was, but for one that verification reports as
compromised. Once the token has been verified the exchange finds it in order
too, and after that only writing can fail. So there is one way to lose a token
without getting another: the store uses it up and then takes no new entries.
-/

namespace SessionTokens

/-- What is read of a token expires at a time that a number of 64 bits can say,
so no clock runs away from it by more than the leeway. -/
theorem Codec.seconds_le_of_decode {c : Codec} {now : Nat} {p : Purpose}
    {token : String} {claims : Claims} (h : c.decode now p token = .ok claims) :
    c.leeway.toNat ≤ now ∧ (now : Int) ≤ Word.greatest + c.leeway.toNat := by
  obtain ⟨v, hread, hvalid⟩ := read?_of_decode h
  obtain ⟨hleeway, hexp, -⟩ := checkValidity_eq_ok.mp hvalid
  refine ⟨hleeway, ?_⟩
  have hv : v.exp = claims.exp.toInt.toNat := by
    obtain ⟨json, -, hrest⟩ := Option.bind_eq_some_iff.mp hread
    obtain ⟨claims', -, hrest⟩ := Option.bind_eq_some_iff.mp hrest
    obtain ⟨v', hvalidity, hrest⟩ := Option.bind_eq_some_iff.mp hrest
    cases hrest
    unfold validity? at hvalidity
    split at hvalidity
    · split at hvalidity
      · cases hvalidity
      · dsimp only at hvalidity
        split at hvalidity
        · cases hvalidity
          rfl
        · cases hvalidity
    · cases hvalidity
  have hlt := claims.exp.toInt_lt
  have hgreatest : Word.greatest = 2 ^ 63 - 1 := rfl
  omega

namespace Service

variable {svc : Service} {w w' : World} {bearer : String}

/-! ## A token that has just been issued -/

/-- A session token that was issued in this second can be read, unless the clock
is out of the range of what a token can say. -/
theorem decode_of_encode {p : Payload} {m : Mode} {ttl : UInt64}
    {token : String} (hmode : p.toClaims.mode = some m)
    (hpurpose : m.purpose = .session)
    (hencode : svc.codec.encode p.toClaims = .ok token)
    (hexp : p.toClaims.exp = expiry w.seconds ttl)
    (hends : (ttl.toNat : Int) ≤ Word.greatest)
    (hleeway : svc.codec.leeway.toNat ≤ w.seconds)
    (hlate : (w.seconds : Int) ≤ Word.greatest + svc.codec.leeway.toNat) :
    svc.codec.decode w.seconds .session (Bearer.token token) =
      .ok p.toClaims := by
  have hread := svc.codec.read?_of_encode hmode
    (by rw [hexp]; exact expiry_nonneg hends _) hencode
  rw [hpurpose] at hread
  refine Codec.decode_of_read? hread
    (Codec.checkValidity_eq_ok.mpr ⟨hleeway, ?_, rfl⟩)
  have hend := toNat_expiry hends w.seconds
  rw [hexp]
  dsimp only
  omega

/-- A token is as good in a world with the same entries, clocks and outages. -/
theorem verify_of_live_eq {p : Payload} (hlive : w'.live = w.live)
    (hwall : w'.wall = w.wall) (houtages : w'.outages = w.outages)
    (h : (svc.verify bearer w).1 = .ok p) :
    (svc.verify bearer w').1 = .ok p := by
  refine verify_of_upheld ⟨?_, fun _ => ?_, fun _ _ => ?_, fun _ _ => ?_⟩ h
  · rw [World.seconds, hwall, World.seconds]
  · rw [houtages]
    exact id
  · rw [hlive]
    exact id
  · rw [hlive]
    exact id

/-! ## What is asked before anything is used up -/

/-- The refresh token is verified, and its account may hold a session. -/
structure Admits (svc : Service) (w : World) (bearer : String) (p : Payload)
    (u : User) : Prop where
  verified : (svc.verifyMode bearer .refresh w).1 = .ok p
  reached : w.directoryOutage ≠ some .find
  found : w.users.find? p.sub = some u
  isVerified : u.isVerified = true
  isActive : u.isActive = true

theorem checkStatus_eq_ok {u : User} :
    u.checkStatus = .ok () ↔ u.isVerified = true ∧ u.isActive = true := by
  unfold User.checkStatus
  cases u.isVerified <;> cases u.isActive <;> simp

/-- A verified token is good for what its account is good for. -/
theorem refreshable_of_verified {p : Payload}
    (h : (svc.verifyMode bearer .refresh w).1 = .ok p) :
    svc.refreshable bearer w =
      (if w.directoryOutage = some .find then .error .directoryUnavailable
        else (Outcome.ofOption .unknownTokenUser (w.users.find? p.sub)).bind
          fun u => (Outcome.ofExcept u.checkStatus).bind fun _ => .ok (p, u),
        (svc.verify bearer w).2) := by
  have hmode : svc.verifyMode bearer .refresh w =
      (.ok p, (svc.verify bearer w).2) := Prod.ext h (verifyMode_snd .refresh)
  obtain ⟨-, hb⟩ := verify_eq_ok (verifyMode_eq_ok hmode).1
  have hdirectory : (svc.verify bearer w).2.directoryOutage =
      w.directoryOutage := by rw [hb.rest]
  have hverified : outside (svc.verifyMode bearer .refresh) w =
      (.ok p, (svc.verify bearer w).2) := outside_of_ok hmode
  rw [refreshable, Action.bind_of_ok hverified, Action.bind_apply,
    Action.requireUser_apply, hb.users, hdirectory]
  by_cases hdown : w.directoryOutage = some .find
  · rw [if_pos hdown, if_pos hdown]
  · rw [if_neg hdown, if_neg hdown]
    cases w.users.find? p.sub with
    | none => rfl
    | some u =>
        dsimp only [Outcome.ofOption, Outcome.bind]
        rw [Action.bind_apply, Action.ensure, Action.lift]
        cases u.checkStatus <;> rfl

theorem refreshable_of_admits {p : Payload} {u : User}
    (h : svc.Admits w bearer p u) :
    svc.refreshable bearer w = (.ok (p, u), (svc.verify bearer w).2) := by
  rw [refreshable_of_verified h.verified, if_neg h.reached, h.found]
  dsimp only [Outcome.ofOption, Outcome.bind]
  rw [checkStatus_eq_ok.mpr ⟨h.isVerified, h.isActive⟩]
  rfl

theorem admits_of_refreshable {p : Payload} {u : User} {w₁ : World}
    (h : svc.refreshable bearer w = (.ok (p, u), w₁)) :
    svc.Admits w bearer p u := by
  obtain ⟨hverify, hmode, hstatus, hfound⟩ := refreshable_eq_ok h
  have hverified : (svc.verifyMode bearer .refresh w).1 = .ok p :=
    verifyMode_of_verify (congrArg Prod.fst hverify) hmode
  obtain ⟨hisVerified, hisActive⟩ := checkStatus_eq_ok.mp hstatus
  refine ⟨hverified, fun hdown => ?_, hfound, hisVerified, hisActive⟩
  rw [refreshable_of_verified hverified, if_pos hdown] at h
  cases h

/-- A directory that does not answer, or an account that may not hold a session,
turns the token down. -/
theorem refreshable_of_barred {p : Payload}
    (h : (svc.verifyMode bearer .refresh w).1 = .ok p)
    (hbarred : w.directoryOutage = some .find ∨ w.users.find? p.sub = none ∨
      ∃ u, w.users.find? p.sub = some u ∧
        (u.isVerified = false ∨ u.isActive = false)) :
    ∃ e, svc.refreshable bearer w = (.error e, (svc.verify bearer w).2) := by
  rw [refreshable_of_verified h]
  by_cases hdown : w.directoryOutage = some .find
  · exact ⟨_, by rw [if_pos hdown]⟩
  rw [if_neg hdown]
  rcases hbarred with hdown' | hnone | ⟨u, hfound, hstatus⟩
  · exact absurd hdown' hdown
  · rw [hnone]
    exact ⟨_, rfl⟩
  · rw [hfound]
    dsimp only [Outcome.ofOption, Outcome.bind]
    cases hcheck : u.checkStatus with
    | error e => exact ⟨e, rfl⟩
    | ok _ =>
        obtain ⟨hisVerified, hisActive⟩ := checkStatus_eq_ok.mp hcheck
        simp [hisVerified, hisActive] at hstatus

/-- Looking for the account changes nothing. -/
theorem refreshable_snd :
    (svc.refreshable bearer w).2 = (svc.verify bearer w).2 := by
  rcases hmode : svc.verifyMode bearer .refresh w with ⟨p | e | _, w₁⟩
  · rw [refreshable_of_verified (congrArg Prod.fst hmode)]
  all_goals
    rw [← verifyMode_snd .refresh, refreshable, Action.bind_apply, outside,
      Action.mapError, hmode]
    rfl

/-! ## What can fail after that -/

variable {c : Claims} {t : Retired}

/-- A token in order that cannot be exchanged is as good as before, or else it
is used up and its successor could not be written. -/
theorem rotate_spares {e : TokenError} (hlives : svc.Lives)
    (hforced : w.forcedReply = none) (ht : c.IsOf t) (horder : w.InOrder t)
    (he : (svc.rotate c w).1 = .error e) :
    (svc.rotate c w).2.live = w.live ∨
      w.outages .set ≠ none ∧
        ∀ key, (svc.rotate c w).2.live.get? key = w.spent svc t key := by
  rcases hretire : svc.retire c w with ⟨t' | e' | _, w₁⟩
  · obtain ⟨ht', hb, hchange⟩ := retire_eq_ok hforced hretire
    cases ht.unique ht'
    rw [rotate_eq_issueRefresh hretire] at he ⊢
    obtain ⟨token, -, ⟨hout, cause, -, hissue⟩ | ⟨-, -, hissue⟩ |
        ⟨-, -, w', hissue, -⟩⟩ :=
      svc.issueRefresh_spec t.sub (some (svc.ids (w₁.minted + 1)))
        (some t.family) { w₁ with minted := w₁.minted + 1 }
    · rw [hissue]
      exact .inr ⟨hb.outages ▸ hout, hchange.get?_retire hlives⟩
    · rw [hissue] at he
      cases he
    · rw [hissue] at he
      cases he
  · obtain ⟨cause, rfl, -⟩ :=
      retire_of_inOrder hforced ht horder (congrArg Prod.fst hretire)
    obtain ⟨k, hretirement, hb⟩ := svc.retire_spec c hforced
    rw [hretire] at hretirement hb
    rw [rotate, Action.bind_of_error hretire]
    cases hretirement with
    | failed _ _ _ => exact .inl hb.live
  · rw [rotate, Action.bind_of_outOfRange hretire] at he
    cases he

theorem outages_of_issueRefresh {sub : String} {session family : Option String}
    {issued : Issued}
    (h : svc.issueRefresh sub session family w = (.ok issued, w')) :
    w.outages .set = none := by
  obtain ⟨token, -, ⟨-, e, -, h'⟩ | ⟨-, -, h'⟩ | ⟨hset, -, -⟩⟩ :=
    svc.issueRefresh_spec sub session family w
  · rw [h'] at h
    cases h
  · rw [h'] at h
    cases h
  · exact hset

/-- When a refresh token has been written, so can an access token be. -/
theorem pairFor_of_issued {owner sub : String} {session family : Option String}
    {issued : Issued} {e : ServiceError}
    (h : svc.issueRefresh sub session family w = (.ok issued, w')) :
    (svc.pairFor owner issued w').1 ≠ .error e := by
  obtain ⟨hpayload, -, -, hchange, -⟩ := issueRefresh_eq_ok h
  have hset : w'.outages .set = none := by
    rw [hchange.outages]
    exact outages_of_issueRefresh h
  have hsession : issued.payload.sessionId =
      some (svc.chosen w.minted session family).1 := by
    rw [hpayload]
    rfl
  intro he
  unfold pairFor at he
  rw [hsession] at he
  dsimp only at he
  rw [Action.bind_apply, outside, Action.mapError] at he
  obtain ⟨token, -, ⟨hout, -⟩ | ⟨-, -, hissue⟩ | ⟨-, -, w₁, hissue, -⟩⟩ :=
    svc.issueAccess_spec owner (some (svc.chosen w.minted session family).1) w'
  · exact hout hset
  · rw [hissue] at he
    cases he
  · rw [hissue] at he
    cases he

/-! ## What a refresh that goes through has done -/

/-- The pair stands in for the refresh token that was used up. Its tokens are
good in one new session, the refresh token in the family of the old one, and
these are their identifiers. -/
structure Supersedes (svc : Service) (w : World) (t : Retired)
    (accessId refreshId : String) (pair : TokenPair) (w' : World) : Prop where
  access : (svc.verifyMode pair.accessToken .access w').1 =
    .ok (.access t.sub pair.accessExp accessId pair.sessionId)
  refresh : (svc.verifyMode pair.refreshToken .refresh w').1 =
    .ok (.refresh t.sub pair.refreshExp refreshId pair.sessionId t.family)
  session : pair.sessionId = svc.ids (w.minted + 1)
  newAccess : w.live.get? (Key.access t.sub pair.sessionId) = none
  newRefresh : w.live.get? (Key.refresh t.sub pair.sessionId) = none
  gone : w'.live.get? (Key.refresh t.sub t.session) = none
  entries : ∀ key, w'.live.get? key =
    if key = Key.access t.sub pair.sessionId then
      some ⟨accessId, w.clock + toMillis svc.lifetimes.access⟩
    else w.exchanged svc t refreshId pair.sessionId key

/-- An exchange that goes through uses the token up and writes one of the same
family, with a session and an identifier that have just been minted. -/
theorem changes_of_rotate {issued : Issued} (hforced : w.forcedReply = none)
    (h : svc.rotate c w = (.ok issued, w')) :
    ∃ t w₁,
      let p := Payload.refresh t.sub (expiry w.seconds svc.lifetimes.refresh)
        (svc.ids (w.minted + 2)) (svc.ids (w.minted + 1)) t.family
      c.IsOf t ∧ issued.payload = p ∧
      svc.codec.encode p.toClaims = .ok issued.token ∧
      MemoryStore.IsStorable w.clock (toMillis svc.lifetimes.refresh) ∧
      Change svc (.retire t) w w₁ ∧
      Change svc (.refresh t.sub (svc.ids (w.minted + 1))
        (svc.ids (w.minted + 2)) t.family)
        { w₁ with minted := w.minted + 1 } w' := by
  obtain ⟨t, w₁, w₂, hretire, rfl, hissue⟩ := rotate_eq_ok h
  obtain ⟨ht, hb, hretired⟩ := retire_eq_ok hforced hretire
  obtain ⟨hpayload, hencode, hstorable, hissued, -⟩ := issueRefresh_eq_ok hissue
  have hseconds : w₁.seconds = w.seconds := by
    rw [World.seconds, hb.wall, World.seconds]
  rw [← hb.minted, ← hseconds]
  exact ⟨t, w₁, ht, hpayload, hencode, hb.clock ▸ hstorable, hretired, hissued⟩

/-- A pair that is given has had an access token written in its session. -/
theorem changes_of_pairFor {owner session : String} {issued : Issued}
    {pair : TokenPair} (hsession : issued.payload.sessionId = some session)
    (h : svc.pairFor owner issued w = (.ok pair, w')) :
    let jti := svc.ids (w.minted + 1)
    let exp := expiry w.seconds svc.lifetimes.access
    ∃ token, pair = ⟨token, issued.token, session, exp, issued.payload.exp⟩ ∧
      svc.codec.encode (Payload.access owner exp jti session).toClaims =
        .ok token ∧
      MemoryStore.IsStorable w.clock (toMillis svc.lifetimes.access) ∧
      Change svc (.access owner session jti) w w' := by
  obtain ⟨session', access, hsession', haccess, rfl⟩ := access_of_pairFor h
  cases hsession.symm.trans hsession'
  obtain ⟨hpayload, hencode, hstorable, hchange, -⟩ := issueAccess_eq_ok haccess
  refine ⟨access.token, ?_, hencode, hstorable, hchange⟩
  rw [hpayload]
  rfl

/-- An access token is good when its identifier is on record. -/
theorem verifyMode_access {sub jti session token : String} {exp : Int64}
    (hdecode : svc.codec.decode w.seconds .session
      (Bearer.token token) = .ok (Payload.access sub exp jti session).toClaims)
    (hget : w.outages .get = none)
    (hrecord : (w.live.get? (Key.access sub session)).map Entry.value =
      some jti) :
    (svc.verifyMode token .access w).1 = .ok (.access sub exp jti session) := by
  refine verifyMode_of_verify ?_ rfl
  exact Finds.verify (s := ⟨sub, .access, jti, session⟩)
    ⟨hdecode, rfl, rfl, nofun, hget, hrecord, rfl⟩

/-- A refresh token is good when besides it has no fence, and its family is in
order. -/
theorem verifyMode_refresh {sub jti session family token : String}
    {exp : Int64}
    (hdecode : svc.codec.decode w.seconds .session (Bearer.token token) =
      .ok (Payload.refresh sub exp jti session family).toClaims)
    (hget : w.outages .get = none) (hexists : w.outages .exists = none)
    (hused : w.live.get? (Key.used sub jti) = none)
    (hfamily : (w.live.get? (Key.family sub family)).isSome = true)
    (hrecord : (w.live.get? (Key.refresh sub session)).map Entry.value =
      some jti) :
    (svc.verifyMode token .refresh w).1 =
      .ok (.refresh sub exp jti session family) := by
  refine verifyMode_of_verify ?_ rfl
  have hline : w.lineage sub jti (some family) = none :=
    World.lineage_eq_none.mpr ⟨hused, family, rfl, hfamily⟩
  exact Finds.verify (s := ⟨sub, .refresh, jti, session⟩)
    ⟨hdecode, rfl, rfl, fun _ => ⟨hexists, hline⟩, hget, hrecord, rfl⟩

/-- A token in order that is exchanged, with an access token in the session of
its successor, has been superseded. -/
theorem supersedes_of_rotate {w₁ : World} {issued : Issued} {pair : TokenPair}
    (hlives : svc.Lives) (hforced : w.forcedReply = none)
    (hnew : ∀ n, w.minted < n → w.Lacks (svc.ids n)) (ht : c.IsOf t)
    (horder : w.InOrder t) (hget : w.outages .get = none)
    (hleeway : svc.codec.leeway.toNat ≤ w.seconds)
    (hlate : (w.seconds : Int) ≤ Word.greatest + svc.codec.leeway.toNat)
    (hrotate : svc.rotate c w = (.ok issued, w₁))
    (hpair : svc.pairFor t.sub issued w₁ = (.ok pair, w')) :
    ∃ accessId refreshId, svc.Supersedes w t accessId refreshId pair w' := by
  obtain ⟨t', wr, ht', hpayload, hencode, hstorable, hretired, hissued⟩ :=
    changes_of_rotate hforced hrotate
  cases ht.unique ht'
  obtain ⟨token, rfl, hencode', hstorable', hwritten⟩ :=
    changes_of_pairFor (by rw [hpayload]; rfl) hpair
  have hold := (hretired.ne_of_lacks (hnew (w.minted + 1) (by omega))).1
  have hunused := (hretired.ne_of_lacks (hnew (w.minted + 2) (by omega))).2
  have hsession := (hnew (w.minted + 1) (by omega)).keys
  have hjti := (hnew (w.minted + 2) (by omega)).keys
  have hseconds : w₁.seconds = w.seconds := by
    rw [World.seconds, hissued.wall, hretired.wall, World.seconds]
  have hseconds' : w'.seconds = w.seconds := by
    rw [World.seconds, hwritten.wall, ← hseconds, World.seconds]
  have houtages : w'.outages = w.outages :=
    hwritten.outages.trans (hissued.outages.trans hretired.outages)
  have hlook := hretired.get?_superseded hissued hwritten hlives
  have hother : ∀ (ns : Namespace) (id : String), ns ≠ .access →
      w'.live.get? (Key.make ns.name t.sub id) =
        w.exchanged svc t (svc.ids (w.minted + 2)) (svc.ids (w.minted + 1))
          (Key.make ns.name t.sub id) := by
    intro ns id hns
    exact (hlook _).trans (if_neg (Key.make_ne_of_ns_ne hns))
  have hrefresh : ∀ id, w'.live.get? (Key.refresh t.sub id) = _ := fun id =>
    (hother .refresh id (by decide)).trans (World.exchanged_refresh id)
  have hused :
      w'.live.get? (Key.used t.sub (svc.ids (w.minted + 2))) = none := by
    refine (hother .used _ (by decide)).trans ?_
    refine (World.exchanged_used _).trans ?_
    rw [if_neg hunused]
    exact hjti .used t.sub
  have hfamily : (w'.live.get? (Key.family t.sub t.family)).isSome = true :=
    congrArg Option.isSome
      ((hother .family _ (by decide)).trans World.exchanged_family)
  refine ⟨svc.ids (w₁.minted + 1), svc.ids (w.minted + 2), {
    access := ?_
    refresh := ?_
    session := rfl
    newAccess := hsession .access t.sub
    newRefresh := hsession .refresh t.sub
    gone := ?_
    entries := hlook }⟩
  · rw [hseconds] at hencode'
    rw [hseconds]
    refine verifyMode_access ?_ (houtages ▸ hget)
      (by rw [hlook, if_pos rfl]; rfl)
    rw [hseconds']
    exact decode_of_encode rfl rfl hencode' rfl hstorable'.le_greatest hleeway
      hlate
  · rw [hpayload]
    refine verifyMode_refresh ?_ (houtages ▸ hget) (houtages ▸ horder.looks)
      hused hfamily (by rw [hrefresh, if_pos rfl]; rfl)
    rw [hseconds']
    exact decode_of_encode rfl rfl hencode rfl hstorable.le_greatest hleeway
      hlate
  · rw [hrefresh, if_neg hold.symm, if_pos rfl]

theorem Supersedes.of_becomes {accessId refreshId : String} {pair : TokenPair}
    {w₁ : World} (h : svc.Supersedes w₁ t accessId refreshId pair w')
    (hb : w.Becomes w.live w₁) :
    svc.Supersedes w t accessId refreshId pair w' := by
  obtain ⟨haccess, hrefresh, hsession, hnewAccess, hnewRefresh, hgone,
    hentries⟩ := h
  rw [hb.minted] at hsession
  rw [hb.live] at hnewAccess hnewRefresh
  refine ⟨haccess, hrefresh, hsession, hnewAccess, hnewRefresh, hgone,
    fun key => (hentries key).trans ?_⟩
  rw [hb.clock, World.exchanged, hb.live, hb.clock, World.exchanged]

/-! ## A refresh as a whole -/

section

variable {p : Payload} {u : User} {w₁ : World}

/-- A token of an account that may hold a session is in order, and reading it
has left everything as it was. -/
theorem inOrder_of_admits (h : svc.Admits w bearer p u) :
    ∃ t w₁, svc.refreshable bearer w = (.ok (p, u), w₁) ∧
      p.toClaims.IsOf t ∧ w.InOrder t ∧ w.outages .get = none ∧
      svc.codec.leeway.toNat ≤ w.seconds ∧
      (w.seconds : Int) ≤ Word.greatest + svc.codec.leeway.toNat ∧
      w.Becomes w.live w₁ := by
  have hrefreshable := refreshable_of_admits h
  obtain ⟨hverify, hmode, -⟩ := refreshable_eq_ok hrefreshable
  obtain ⟨c, v, t, -, -, ht, horder, hb⟩ := inOrder_of_verify hverify hmode
  obtain ⟨⟨_, _, _, hfinds⟩, -⟩ := verify_eq_ok hverify
  obtain ⟨hleeway, hlate⟩ := Codec.seconds_le_of_decode hfinds.decoded
  exact ⟨t, _, hrefreshable, ht, horder, hfinds.looks, hleeway, hlate, hb⟩

theorem refresh_of_refreshable
    (h : svc.refreshable bearer w = (.ok (p, u), w₁)) :
    svc.refresh bearer w = (do
      let rotated ← outside (svc.rotate p.toClaims)
      svc.pairFor u.id rotated) w₁ := by
  rw [refresh, Action.bind_of_ok h]

/-- A refresh that goes through has superseded the token. -/
theorem supersedes_of_refresh {pair : TokenPair} (hlives : svc.Lives)
    (hforced : w.forcedReply = none)
    (hdirectory : ∀ id u, w.users.find? id = some u → u.id = id)
    (hnew : ∀ n, w.minted < n → w.Lacks (svc.ids n))
    (h : svc.refresh bearer w = (.ok pair, w')) :
    ∃ p u t accessId refreshId, svc.Admits w bearer p u ∧
      p.toClaims.IsOf t ∧
      svc.Supersedes w t accessId refreshId pair w' := by
  obtain ⟨⟨p, u⟩, w₁, hrefreshable, hrest⟩ := Action.bind_eq_ok h
  have hadmits := admits_of_refreshable hrefreshable
  obtain ⟨t, w₁', hrefreshable', ht, horder, hget, hleeway, hlate, hb⟩ :=
    inOrder_of_admits hadmits
  cases hrefreshable.symm.trans hrefreshable'
  obtain ⟨issued, w₂, hrotate, hpair⟩ := Action.bind_eq_ok hrest
  have howner : u.id = t.sub := by
    rw [hdirectory _ _ hadmits.found]
    exact Option.some.inj ((show p.toClaims.sub = some p.sub by
      cases p <;> rfl).symm.trans ht.sub)
  have hseconds : w₁.seconds = w.seconds := by
    rw [World.seconds, hb.wall, World.seconds]
  rw [howner] at hpair
  obtain ⟨accessId, refreshId, hsupersedes⟩ :=
    supersedes_of_rotate hlives (hb.forcedReply.trans hforced)
      (fun n hn => (hnew n (hb.minted ▸ hn)).of_live_eq hb.live) ht
      (horder.of_becomes hb) (hb.outages ▸ hget) (hseconds ▸ hleeway)
      (hseconds ▸ hlate) (Action.mapError_eq_ok hrotate) hpair
  exact ⟨p, u, t, accessId, refreshId, hadmits, ht,
    hsupersedes.of_becomes hb⟩

/-- Where an access token can be written, a pair is given. -/
theorem exists_pairFor {owner session : String} {issued : Issued}
    (hsession : issued.payload.sessionId = some session)
    (hset : w.outages .set = none)
    (haccess : MemoryStore.IsStorable w.clock (toMillis svc.lifetimes.access)) :
    ∃ pair, (svc.pairFor owner issued w).1 = .ok pair := by
  unfold pairFor
  rw [hsession]
  obtain ⟨token, -, ⟨hout, -⟩ | ⟨-, hendless, -⟩ | ⟨-, -, w', hissue, -⟩⟩ :=
    svc.issueAccess_spec owner (some session) w
  · exact absurd hset hout
  · exact absurd haccess hendless
  · exact ⟨_, congrArg Prod.fst (Action.bind_of_ok (outside_of_ok hissue))⟩

/-- With a store in order, and lifetimes that it can keep, an account that may
hold a session is given a pair. -/
theorem exists_pair_of_admits (hforced : w.forcedReply = none)
    (hhealthy : ∀ call, w.outages call = none)
    (haccess : MemoryStore.IsStorable w.clock (toMillis svc.lifetimes.access))
    (hrefresh : MemoryStore.IsStorable w.clock (toMillis svc.lifetimes.refresh))
    (hfence : MemoryStore.IsStorable w.clock (svc.fenceSeconds * 1000))
    (hadmits : svc.Admits w bearer p u) :
    ∃ pair, (svc.refresh bearer w).1 = .ok pair := by
  obtain ⟨t, w₁, hrefreshable, ht, horder, -, -, -, hb⟩ :=
    inOrder_of_admits hadmits
  rw [← hb.clock] at haccess hrefresh hfence
  have hhealthy₁ : ∀ call, w₁.outages call = none := by
    rw [hb.outages]
    exact hhealthy
  obtain ⟨k, hretirement, -⟩ :=
    svc.retire_spec p.toClaims (hb.forcedReply.trans hforced)
  have hretire : svc.retire p.toClaims w₁ =
      (.ok t, (svc.retire p.toClaims w₁).2) := by
    have hanswer := (hretirement.appraised hhealthy₁
      ⟨hhealthy₁ _, .inr (hhealthy₁ _)⟩ hfence).1
    rw [(horder.of_becomes hb).appraise ht] at hanswer
    exact Prod.ext hanswer rfl
  obtain ⟨-, hb₂, -⟩ := retire_eq_ok (hb.forcedReply.trans hforced) hretire
  obtain ⟨token, w₃, -, hrotate, -, hw₃⟩ := rotate_of_retire hretire
    (by rw [hb₂.outages]; exact hhealthy₁ _)
    (by rw [hb₂.clock]; exact hrefresh)
  have hset : w₃.outages .set = none := by
    rw [hw₃, hb₂.outages]
    exact hhealthy₁ _
  have hclock : w₃.clock = w₁.clock := by
    rw [hw₃]
    exact hb₂.clock
  rw [refresh_of_refreshable hrefreshable,
    Action.bind_of_ok (outside_of_ok hrotate)]
  exact exists_pairFor rfl hset (by rw [hclock]; exact haccess)

/-- If it fails although the account may hold a session, the token is as good as
before, or else the store has used it up and takes no new entries. -/
theorem refresh_spares {e : ServiceError} (hlives : svc.Lives)
    (hforced : w.forcedReply = none) (hadmits : svc.Admits w bearer p u)
    (he : (svc.refresh bearer w).1 = .error e) :
    (svc.refresh bearer w).2.live = w.live ∨
      w.outages .set ≠ none ∧ ∃ t, p.toClaims.IsOf t ∧
        ∀ key, (svc.refresh bearer w).2.live.get? key = w.spent svc t key := by
  obtain ⟨t, w₁, hrefreshable, ht, horder, -, -, -, hb⟩ :=
    inOrder_of_admits hadmits
  rw [refresh_of_refreshable hrefreshable, Action.bind_apply, outside,
    Action.mapError] at he ⊢
  rcases hrotate : svc.rotate p.toClaims w₁ with ⟨issued | e' | _, w₂⟩
  · rw [hrotate] at he
    obtain ⟨t', wr, w₂', -, -, hissue⟩ := rotate_eq_ok hrotate
    exact absurd he (pairFor_of_issued hissue)
  · have hspares := rotate_spares hlives (hb.forcedReply.trans hforced) ht
      (horder.of_becomes hb) (congrArg Prod.fst hrotate)
    rw [hrotate, hb.live, hb.outages] at hspares
    rcases hspares with hsame | ⟨hset, hspent⟩
    · exact .inl hsame
    · refine .inr ⟨hset, t, ht, fun key => (hspent key).trans ?_⟩
      rw [World.spent, hb.live, hb.clock, World.spent]
  · rw [hrotate] at he
    cases he

/-- A refresh of a token without such an account does what verification
does. -/
theorem refresh_of_not_admits (h : ∀ p u, ¬ svc.Admits w bearer p u) :
    (∀ pair, (svc.refresh bearer w).1 ≠ .ok pair) ∧
      (svc.refresh bearer w).2 = (svc.verify bearer w).2 := by
  have hsnd : (svc.refreshable bearer w).2 = (svc.verify bearer w).2 :=
    refreshable_snd
  rcases hrefreshable : svc.refreshable bearer w with ⟨⟨p, u⟩ | e | _, w₁⟩
  · exact absurd (admits_of_refreshable hrefreshable) (h p u)
  · rw [hrefreshable] at hsnd
    rw [refresh, Action.bind_of_error hrefreshable]
    exact ⟨fun _ hok => (by cases hok), hsnd⟩
  · rw [hrefreshable] at hsnd
    rw [refresh, Action.bind_of_outOfRange hrefreshable]
    exact ⟨fun _ hok => (by cases hok), hsnd⟩

end

section

variable {tokens : TokenSettings} {batch : Nat}
  {policy : Password.Policy} {hasher : Hasher} {ids : Nat → String}

/-- Whatever calls of the store fail meanwhile, a refresh that gives a pair was
asked with a verified refresh token of an account that may hold a session, and
has put the pair in the token's place: both of its tokens are good at once, the
old one is gone and fenced, and nothing else has changed but the mark of its
family. A refresh that fails leaves every entry as it was and the token as good
as it was, with two exceptions. If verification reports the token as compromised
and the store can be swept, its subject's session keys are gone, and nothing
else; and if the store cannot be written to, the token may have been used up,
its key replaced by its fence. An account that is missing or may not hold a
session, or a directory that does not answer, costs nothing. -/
theorem refresh_commits_or_spares
    (hbuilt : assemble tokens batch policy hasher ids = .ok svc)
    (hforced : w.forcedReply = none)
    (hdirectory : ∀ id u, w.users.find? id = some u → u.id = id)
    (hnew : ∀ n, w.minted < n → w.Lacks (svc.ids n)) (bearer : String) :
    let w' := (svc.refresh bearer w).2
    (∀ pair, (svc.refresh bearer w).1 = .ok pair →
      ∃ p u t accessId refreshId, svc.Admits w bearer p u ∧
        p.toClaims.IsOf t ∧ svc.Supersedes w t accessId refreshId pair w') ∧
    (∀ e, (svc.refresh bearer w).1 = .error e →
      (svc.Suspects w bearer → ∃ c sub,
        svc.codec.decode w.seconds .session (Bearer.token bearer) = .ok c ∧
        c.sub = some sub ∧ (w.Sweepable → w.LosesSessions sub w') ∧
        (¬ w.Sweepable → w'.live = w.live)) ∧
      (¬ svc.Suspects w bearer →
        (w'.live = w.live ∧ ∀ p, (svc.verify bearer w).1 = .ok p →
          (svc.verify bearer w').1 = .ok p) ∨
        w.outages .set ≠ none ∧ ∃ p u t, svc.Admits w bearer p u ∧
          p.toClaims.IsOf t ∧ ∀ key, w'.live.get? key = w.spent svc t key)) ∧
    ∀ p, (svc.verifyMode bearer .refresh w).1 = .ok p →
      w.directoryOutage = some .find ∨ w.users.find? p.sub = none ∨
        (∃ u, w.users.find? p.sub = some u ∧
          (u.isVerified = false ∨ u.isActive = false)) →
      (∃ e, (svc.refresh bearer w).1 = .error e) ∧ w'.live = w.live ∧
        (svc.verify bearer w').1 = .ok p := by
  have hlives := lives_of_assemble hbuilt
  have hchanges : Changes svc (svc.Allows w (.refresh bearer)) w _ :=
    .refresh bearer hforced
  intro w'
  have hgood : ∀ {p}, w'.live = w.live → (svc.verify bearer w).1 = .ok p →
      (svc.verify bearer w').1 = .ok p := fun hlive =>
    verify_of_live_eq hlive hchanges.wall hchanges.outages
  refine ⟨fun pair hok => ?_, fun e he => ⟨fun hsuspects => ?_,
    fun hnot => ?_⟩, fun p hverified hbarred => ?_⟩
  · exact supersedes_of_refresh hlives hforced hdirectory hnew
      (Action.eq_of_fst_eq hok)
  · have hnone : ∀ p u, ¬ svc.Admits w bearer p u := by
      intro p u hadmits
      obtain ⟨why, hanswer, -⟩ := hsuspects
      have hok := (refreshable_eq_ok (refreshable_of_admits hadmits)).1
      rw [hok] at hanswer
      cases hanswer
    obtain ⟨c, s, why, hdecode, hs, -, -, hb⟩ :=
      compromised_of_suspects hsuspects
    obtain ⟨hsub, -⟩ := Claims.session?_eq_some.mp hs
    rw [← (refresh_of_not_admits hnone).2] at hb
    refine ⟨c, s.sub, hdecode, hsub, fun hsweepable => ?_, fun hnot => ?_⟩
    · exact World.losesSessions_of_live
        (hb.live.trans (World.swept_of_sweepable hsweepable s.sub))
    · exact hb.live.trans (if_neg hnot)
  · by_cases hadmits : ∃ p u, svc.Admits w bearer p u
    · obtain ⟨p, u, hadmits⟩ := hadmits
      rcases refresh_spares hlives hforced hadmits he with
        hlive | ⟨hset, t, ht, hspent⟩
      · exact .inl ⟨hlive, fun _ => hgood hlive⟩
      · exact .inr ⟨hset, p, u, t, hadmits, ht, hspent⟩
    · have hb := becomes_of_not_suspects hnot
      rw [← (refresh_of_not_admits fun p u h => hadmits ⟨p, u, h⟩).2] at hb
      exact .inl ⟨hb.live, fun _ => hgood hb.live⟩
  · obtain ⟨e, hrefused⟩ := refreshable_of_barred hverified hbarred
    have hrefresh : svc.refresh bearer w =
        (.error e, (svc.verify bearer w).2) := Action.bind_of_error hrefused
    obtain ⟨hverify, -⟩ := verifyMode_eq_ok (Action.eq_of_fst_eq hverified)
    have hok : (svc.verify bearer w).1 = .ok p := congrArg Prod.fst hverify
    obtain ⟨-, hb⟩ := verify_eq_ok (Action.eq_of_fst_eq hok)
    have hlive : w'.live = w.live := by
      rw [show w' = (svc.verify bearer w).2 from congrArg Prod.snd hrefresh,
        hb.live]
    exact ⟨⟨e, congrArg Prod.fst hrefresh⟩, hlive, hgood hlive hok⟩

end

theorem id_of_find?_put {u v : User} {id : String}
    (h : (Directory.empty.put u.id (some u)).find? id = some v) :
    v.id = id := by
  by_cases hid : id = u.id
  · subst hid
    rw [Directory.find?_put_self] at h
    cases h
    rfl
  · rw [Directory.find?_put_of_ne hid] at h
    cases h

theorem verifyMode_trialIssued {w : World} (hlive : w.live = trialIssued.live)
    (hwall : w.wall = trialIssued.wall)
    (houtages : w.outages = trialIssued.outages) :
    (trial.verifyMode trialRefreshToken .refresh w).1 = .ok trialRefresh := by
  have hhealthy : ∀ call, w.outages call = none := by
    rw [houtages]
    exact healthy_trialIssued
  have hseconds : w.seconds = 1700000000 := by
    rw [World.seconds, hwall]
    decide +kernel
  refine verifyMode_refresh (Codec.decode_of_read? read?_trialRefreshToken ?_)
    (hhealthy _) (hhealthy _) ?_ ?_ ?_
  · rw [hseconds]
    decide
  · rw [hlive]
    exact inOrder_trialIssued.unused
  · rw [hlive]
    exact inOrder_trialIssued.family
  · rw [hlive]
    exact inOrder_trialIssued.current

/-- An account that may hold a session is given a pair for its refresh token;
while it is blocked it is given none, and the token stays good. -/
theorem trial_refresh_commits_or_spares :
    let account : User := ⟨"u", "u@example.com", "plain:secret", true, true⟩
    let w := { trialIssued with
      users := Directory.empty.put "u" (some account) }
    let inactive := { account with isActive := false }
    let blocked := { w with
      users := Directory.empty.put "u" (some inactive) }
    assemble .trial 2 .trial .plain Action.idText = .ok trial ∧
      w.forcedReply = none ∧
      (∀ id u, w.users.find? id = some u → u.id = id) ∧
      (∀ id u, blocked.users.find? id = some u → u.id = id) ∧
      (∀ n, w.minted < n → w.Lacks (trial.ids n)) ∧
      (∃ pair, (trial.refresh trialRefreshToken w).1 = .ok pair ∧
        pair.sessionId = Action.idText 4 ∧
        (trial.refresh trialRefreshToken w).2.live.get?
          (Key.refresh "u" (Action.idText 1)) = none) ∧
      (∃ e, (trial.refresh trialRefreshToken blocked).1 = .error e) ∧
      (trial.verify trialRefreshToken
        (trial.refresh trialRefreshToken blocked).2).1 = .ok trialRefresh := by
  intro account w inactive blocked
  have hforced : w.forcedReply = none := by decide +kernel
  have hnew : ∀ n, w.minted < n → w.Lacks (trial.ids n) := fun n hn =>
    (lacks_trialIssued hn).of_live_eq rfl
  have hdirectory : ∀ id u, w.users.find? id = some u → u.id = id :=
    fun id u => id_of_find?_put (u := account)
  have hblocked : ∀ id u, blocked.users.find? id = some u → u.id = id :=
    fun id u => id_of_find?_put (u := inactive)
  have hadmits : trial.Admits w trialRefreshToken trialRefresh account :=
    ⟨verifyMode_trialIssued rfl rfl rfl, by decide +kernel, rfl, rfl, rfl⟩
  obtain ⟨pair, hok⟩ := exists_pair_of_admits hforced healthy_trialIssued
    (by decide +kernel) (by decide +kernel) (by decide +kernel) hadmits
  obtain ⟨hcommits, -, -⟩ := trial.refresh_commits_or_spares assemble_trial
    hforced hdirectory hnew trialRefreshToken
  obtain ⟨-, -, hspares⟩ := trial.refresh_commits_or_spares (w := blocked)
    assemble_trial hforced hblocked (fun n hn => (hnew n hn).of_live_eq rfl)
    trialRefreshToken
  obtain ⟨p, u, t, accessId, refreshId, hadmits', ht, hsupersedes⟩ :=
    hcommits pair hok
  have hp : p = trialRefresh :=
    Outcome.ok.inj (hadmits'.verified.symm.trans hadmits.verified)
  subst hp
  cases ht.unique isOf_trialRefresh
  obtain ⟨hrefused, -, hgood⟩ := hspares trialRefresh
    (verifyMode_trialIssued rfl rfl rfl) (.inr (.inr ⟨_, rfl, .inr rfl⟩))
  have hminted : w.minted = 3 := by decide +kernel
  refine ⟨assemble_trial, hforced, hdirectory, hblocked, hnew,
    ⟨pair, hok, ?_, hsupersedes.gone⟩, hrefused, hgood⟩
  rw [hsupersedes.session, hminted]
  rfl

end Service

end SessionTokens
