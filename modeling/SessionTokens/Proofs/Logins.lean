import SessionTokens.Proofs.Issuance
import SessionTokens.Proofs.Refreshing

/-!
# Logins reveal nothing and leave each other alone

A login looks for the account, then at the password, then at what the account
may do, and only then does it write. So whoever does not know the password
learns nothing about the account, not even whether there is one, and a login
that is refused leaves everything as it was.

A login that goes through reads nothing from the store. It adds three entries,
at keys that are made with identifiers of its own, so it can neither replace an
entry nor put a fence in the way of a token. A token that was good before it is
good after it. The identifiers that are still to be minted are then as unused as
they were, so the next login finds the store in the same state of affairs, and
any number of them go through side by side.
-/

namespace SessionTokens

/-- The store, the directory and the hasher all answer. -/
structure World.InService (w : World) : Prop where
  store : ∀ call, w.outages call = none
  directory : w.directoryOutage = none
  hasher : w.hasherOutage = none

/-- What is found at a key when a subject has been given a session: the entries
of its two tokens and of their family besides what was there. -/
def World.withSession (w : World) (svc : Service) (sub key : String) :
    Option Entry :=
  if key = Key.access sub (svc.ids (w.minted + 1)) then
    some ⟨svc.ids (w.minted + 4), w.clock + toMillis svc.lifetimes.access⟩
  else if key = Key.family sub (svc.ids (w.minted + 2)) then
    some ⟨Key.familyMark, w.clock + toMillis svc.lifetimes.refresh⟩
  else if key = Key.refresh sub (svc.ids (w.minted + 1)) then
    some ⟨svc.ids (w.minted + 3), w.clock + toMillis svc.lifetimes.refresh⟩
  else w.live.get? key

namespace World

variable {svc : Service} {w : World} {sub key : String}

theorem withSession_of_ne
    (haccess : key ≠ Key.access sub (svc.ids (w.minted + 1)))
    (hfamily : key ≠ Key.family sub (svc.ids (w.minted + 2)))
    (hrefresh : key ≠ Key.refresh sub (svc.ids (w.minted + 1))) :
    w.withSession svc sub key = w.live.get? key := by
  rw [withSession, if_neg haccess, if_neg hfamily, if_neg hrefresh]

theorem withSession_access :
    w.withSession svc sub (Key.access sub (svc.ids (w.minted + 1))) =
      some ⟨svc.ids (w.minted + 4),
        w.clock + toMillis svc.lifetimes.access⟩ := if_pos rfl

theorem withSession_family :
    w.withSession svc sub (Key.family sub (svc.ids (w.minted + 2))) =
      some ⟨Key.familyMark, w.clock + toMillis svc.lifetimes.refresh⟩ := by
  have haccess : Key.family sub (svc.ids (w.minted + 2)) ≠
      Key.access sub (svc.ids (w.minted + 1)) :=
    Key.make_ne_of_ns_ne (by decide)
  rw [withSession, if_neg haccess, if_pos rfl]

theorem withSession_refresh :
    w.withSession svc sub (Key.refresh sub (svc.ids (w.minted + 1))) =
      some ⟨svc.ids (w.minted + 3),
        w.clock + toMillis svc.lifetimes.refresh⟩ := by
  have haccess : Key.refresh sub (svc.ids (w.minted + 1)) ≠
      Key.access sub (svc.ids (w.minted + 1)) :=
    Key.make_ne_of_ns_ne (by decide)
  have hfamily : Key.refresh sub (svc.ids (w.minted + 1)) ≠
      Key.family sub (svc.ids (w.minted + 2)) :=
    Key.make_ne_of_ns_ne (by decide)
  rw [withSession, if_neg haccess, if_neg hfamily, if_pos rfl]

end World

namespace Service

/-- No key is made with an identifier that is still to be minted. -/
def MintsNew (svc : Service) (w : World) : Prop :=
  ∀ n, w.minted < n → ∀ (ns : Namespace) (sub : String),
    w.live.get? (Key.make ns.name sub (svc.ids n)) = none

/-- The password is that of the account, which may hold a session. -/
structure MayLogIn (svc : Service) (w : World) (id password : String)
    (u : User) : Prop where
  found : w.users.find? id = some u
  password : svc.hasher.verify password u.passwordHash = .ok true
  isVerified : u.isVerified = true
  isActive : u.isActive = true

/-- The pair is of a session that has just been opened for the subject. Session,
family and both tokens have identifiers of their own, and nothing else has
happened to the store. -/
structure OpensSession (svc : Service) (w : World) (sub : String)
    (pair : TokenPair) (w' : World) : Prop where
  session : pair.sessionId = svc.ids (w.minted + 1)
  accessExp : pair.accessExp = expiry w.seconds svc.lifetimes.access
  refreshExp : pair.refreshExp = expiry w.seconds svc.lifetimes.refresh
  accessToken : svc.codec.encode (Payload.access sub pair.accessExp
    (svc.ids (w.minted + 4)) pair.sessionId).toClaims = .ok pair.accessToken
  refreshToken : svc.codec.encode (Payload.refresh sub pair.refreshExp
    (svc.ids (w.minted + 3)) pair.sessionId
    (svc.ids (w.minted + 2))).toClaims = .ok pair.refreshToken
  entries : ∀ key, w'.live.get? key = w.withSession svc sub key
  minted : w.minted + 4 ≤ w'.minted
  clock : w'.clock = w.clock
  wall : w'.wall = w.wall
  outages : w'.outages = w.outages

variable {svc : Service} {w w' : World} {id password sub bearer : String}
  {pair : TokenPair}

/-! ## Opening a session -/

/-- Opens a session for a subject. -/
def openSession (svc : Service) (sub : String) :
    Action ServiceError TokenPair := do
  let refresh ← outside (svc.issueRefresh sub none none)
  svc.pairFor sub refresh

theorem opensSession_of_ok (hlives : svc.Lives)
    (h : svc.openSession sub w = (.ok pair, w')) :
    svc.OpensSession w sub pair w' := by
  obtain ⟨issued, w₁, hissue, hpair⟩ := Action.bind_eq_ok h
  obtain ⟨hpayload, hencode, -, hissued, hminted⟩ :=
    issueRefresh_eq_ok (Action.mapError_eq_ok hissue)
  obtain ⟨token, rfl, hencode', -, hwritten⟩ :=
    changes_of_pairFor (by rw [hpayload]; rfl) hpair
  have hseconds : w₁.seconds = w.seconds := by
    rw [World.seconds, hissued.wall, World.seconds]
  have hthree : w₁.minted = w.minted + 3 := hminted
  rw [hseconds, hthree] at hencode'
  rw [hthree] at hwritten
  obtain ⟨n, hlt, hle, -⟩ := hwritten.guard
  refine {
    session := rfl
    accessExp := congrArg (expiry · _) hseconds
    refreshExp := congrArg Payload.exp hpayload
    accessToken := by
      dsimp only
      rw [hseconds]
      exact hencode'
    refreshToken := by
      rw [hpayload]
      exact hencode
    entries := fun key => ?_
    minted := by omega
    clock := hwritten.clock.trans hissued.clock
    wall := hwritten.wall.trans hissued.wall
    outages := hwritten.outages.trans hissued.outages }
  rw [hwritten.get?_access hlives, hissued.get?_refresh hlives, hissued.clock]
  rfl

/-- With a store that can be written to, and lifetimes that it can keep, a
session is opened. -/
theorem exists_openSession (hset : w.outages .set = none)
    (haccess : MemoryStore.IsStorable w.clock (toMillis svc.lifetimes.access))
    (hrefresh : MemoryStore.IsStorable w.clock (toMillis svc.lifetimes.refresh))
    (sub : String) : ∃ pair w', svc.openSession sub w = (.ok pair, w') := by
  obtain ⟨token, -, ⟨hout, -⟩ | ⟨-, hendless, -⟩ | ⟨-, -, w₁, hissue, hb⟩⟩ :=
    svc.issueRefresh_spec sub none none w
  · exact absurd hset hout
  · exact absurd hrefresh hendless
  · obtain ⟨pair, hpair⟩ : ∃ pair, (svc.openSession sub w).1 = .ok pair := by
      rw [openSession, Action.bind_of_ok (outside_of_ok hissue)]
      exact exists_pairFor rfl (by rw [hb.outages]; exact hset)
        (by rw [hb.clock]; exact haccess)
    exact ⟨pair, _, Prod.ext hpair rfl⟩

/-! ## Logging in -/

/-- A login as a table: what it looks at, in this order. Only in the last line
is anything written. -/
theorem login_apply (svc : Service) (w : World) (id password : String) :
    svc.login id password w =
      if w.directoryOutage = some .find then (.error .directoryUnavailable, w)
      else
        match w.users.find? id with
        | none => (.error .incorrectLogin, w)
        | some u =>
          if w.hasherOutage = some .verify then (.error .hasherUnavailable, w)
          else
            match svc.hasher.verify password u.passwordHash with
            | .error e => (.error e, w)
            | .ok false => (.error .incorrectLogin, w)
            | .ok true =>
              match u.checkStatus with
              | .error e => (.error e, w)
              | .ok _ => svc.openSession u.id w := by
  rw [login, Action.bind_apply, Action.requireUser_apply]
  by_cases hdown : w.directoryOutage = some .find
  · rw [if_pos hdown, if_pos hdown]
  rw [if_neg hdown, if_neg hdown]
  cases w.users.find? id with
  | none => rfl
  | some u =>
      dsimp only [Outcome.ofOption]
      rw [Action.bind_apply, Action.verifyPassword]
      by_cases hout : w.hasherOutage = some .verify
      · rw [if_pos hout, if_pos hout]
      rw [if_neg hout, if_neg hout]
      rcases svc.hasher.verify password u.passwordHash with e | _ | _
      · rfl
      · rfl
      · dsimp only [Outcome.ofExcept]
        rw [if_pos rfl, Action.bind_apply, Action.ensure, Action.lift]
        cases u.checkStatus <;> rfl

/-- A login opens a session for its account, or changes nothing. -/
theorem login_cases (hlives : svc.Lives) (hset : w.outages .set = none)
    (haccess : MemoryStore.IsStorable w.clock (toMillis svc.lifetimes.access))
    (hrefresh : MemoryStore.IsStorable w.clock (toMillis svc.lifetimes.refresh))
    (id password : String) :
    (∃ u pair w', svc.MayLogIn w id password u ∧
      svc.login id password w = (.ok pair, w') ∧
      svc.OpensSession w u.id pair w') ∨
    ∃ e, svc.login id password w = (.error e, w) := by
  rw [login_apply]
  split
  · exact .inr ⟨_, rfl⟩
  cases hfound : w.users.find? id with
  | none => exact .inr ⟨_, rfl⟩
  | some u =>
      dsimp only
      split
      · exact .inr ⟨_, rfl⟩
      rcases hverify : svc.hasher.verify password u.passwordHash with
        e | _ | _
      · exact .inr ⟨_, rfl⟩
      · exact .inr ⟨_, rfl⟩
      cases hstatus : u.checkStatus with
      | error e => exact .inr ⟨_, rfl⟩
      | ok a =>
          obtain ⟨hverified, hactive⟩ := checkStatus_eq_ok.mp hstatus
          obtain ⟨pair, w', hopen⟩ :=
            exists_openSession hset haccess hrefresh u.id
          exact .inl ⟨u, pair, w', ⟨hfound, hverify, hverified, hactive⟩,
            hopen, opensSession_of_ok hlives hopen⟩

theorem login_of_mayLogIn {u : User} (hw : w.InService)
    (h : svc.MayLogIn w id password u) :
    svc.login id password w = svc.openSession u.id w := by
  have hdown : w.directoryOutage ≠ some .find := by simp [hw.directory]
  have hout : w.hasherOutage ≠ some .verify := by simp [hw.hasher]
  rw [login_apply, if_neg hdown, h.found]
  dsimp only
  rw [if_neg hout, h.password]
  dsimp only
  rw [checkStatus_eq_ok.mpr ⟨h.isVerified, h.isActive⟩]

/-- Without the password of the account, if there is one, the answer is always
the same. -/
theorem login_of_wrong (hw : w.InService)
    (h : ∀ u, w.users.find? id = some u →
      svc.hasher.verify password u.passwordHash = .ok false) :
    svc.login id password w = (.error .incorrectLogin, w) := by
  have hdown : w.directoryOutage ≠ some .find := by simp [hw.directory]
  have hout : w.hasherOutage ≠ some .verify := by simp [hw.hasher]
  rw [login_apply, if_neg hdown]
  cases hfound : w.users.find? id with
  | none => rfl
  | some u =>
      dsimp only
      rw [if_neg hout, h u hfound]

/-! ## What a login leaves -/

namespace OpensSession

variable {key : String} {e : Entry}

/-- The new keys were not there. -/
theorem keys_new (hnew : svc.MintsNew w) (sub : String) :
    w.live.get? (Key.access sub (svc.ids (w.minted + 1))) = none ∧
      w.live.get? (Key.family sub (svc.ids (w.minted + 2))) = none ∧
      w.live.get? (Key.refresh sub (svc.ids (w.minted + 1))) = none :=
  ⟨hnew _ (by omega) .access sub, hnew _ (by omega) .family sub,
    hnew _ (by omega) .refresh sub⟩

/-- Every entry that was there stays. -/
theorem keeps (h : svc.OpensSession w sub pair w') (hnew : svc.MintsNew w)
    (hkey : w.live.get? key = some e) : w'.live.get? key = some e := by
  obtain ⟨haccess, hfamily, hrefresh⟩ := keys_new hnew sub
  have hne : ∀ {key'}, w.live.get? key' = none → key ≠ key' := by
    rintro _ hnone rfl
    cases hnone.symm.trans hkey
  rw [h.entries, World.withSession_of_ne (hne haccess) (hne hfamily)
    (hne hrefresh), hkey]

/-- No token is fenced that was not. -/
theorem used (h : svc.OpensSession w sub pair w') (sub' jti : String) :
    w'.live.get? (Key.used sub' jti) = w.live.get? (Key.used sub' jti) := by
  rw [h.entries]
  exact World.withSession_of_ne (Key.make_ne_of_ns_ne (by decide))
    (Key.make_ne_of_ns_ne (by decide)) (Key.make_ne_of_ns_ne (by decide))

/-- The next identifiers are as unused as the last ones were. -/
theorem mintsNew (h : svc.OpensSession w sub pair w')
    (hids : svc.Distinguishes) (hnew : svc.MintsNew w) : svc.MintsNew w' := by
  intro n hn ns sub'
  have hminted := h.minted
  have hne : ∀ {ns' : Namespace} {m : Nat}, m ≤ w.minted + 4 →
      Key.make ns.name sub' (svc.ids n) ≠
        Key.make ns'.name sub (svc.ids m) := by
    intro ns' m hm heq
    obtain ⟨-, -, hsame⟩ :=
      Key.make_inj_of_no_colon (hids.plain n).2 (hids.plain m).2 heq
    have hnm := hids.injective hsame
    omega
  rw [h.entries, World.withSession_of_ne (hne (by omega)) (hne (by omega))
    (hne (by omega))]
  exact hnew n (by omega) ns sub'

/-- A token that was good is good afterwards. -/
theorem verify (h : svc.OpensSession w sub pair w') (hnew : svc.MintsNew w)
    {p : Payload} (hok : (svc.verify bearer w).1 = .ok p) :
    (svc.verify bearer w').1 = .ok p := by
  refine verify_of_upheld ⟨?_, fun _ => ?_, fun sub' jti => ?_,
    fun _ _ => h.keeps hnew⟩ hok
  · rw [World.seconds, h.wall, World.seconds]
  · rw [h.outages]
    exact id
  · rw [h.used sub' jti]
    exact id

/-- Both tokens of the pair are good, unless the clock is out of the range of
what a token can say. -/
theorem verifyMode (h : svc.OpensSession w sub pair w')
    (hnew : svc.MintsNew w) (hhealthy : ∀ call, w.outages call = none)
    (haccess : MemoryStore.IsStorable w.clock (toMillis svc.lifetimes.access))
    (hrefresh : MemoryStore.IsStorable w.clock (toMillis svc.lifetimes.refresh))
    (hleeway : svc.codec.leeway.toNat ≤ w.seconds)
    (hlate : (w.seconds : Int) ≤ Word.greatest + svc.codec.leeway.toNat) :
    (svc.verifyMode pair.accessToken .access w').1 = .ok (.access sub
      pair.accessExp (svc.ids (w.minted + 4)) pair.sessionId) ∧
    (svc.verifyMode pair.refreshToken .refresh w').1 = .ok (.refresh sub
      pair.refreshExp (svc.ids (w.minted + 3)) pair.sessionId
      (svc.ids (w.minted + 2))) := by
  have hseconds : w'.seconds = w.seconds := by
    rw [World.seconds, h.wall, World.seconds]
  have hlooks : ∀ call, w'.outages call = none := by
    rw [h.outages]
    exact hhealthy
  constructor
  · refine verifyMode_access ?_ (hlooks _) ?_
    · rw [hseconds]
      exact decode_of_encode rfl rfl h.accessToken h.accessExp
        haccess.le_greatest hleeway hlate
    · rw [h.entries, h.session, World.withSession_access]
      rfl
  · refine verifyMode_refresh ?_ (hlooks _) (hlooks _) ?_ ?_ ?_
    · rw [hseconds]
      exact decode_of_encode rfl rfl h.refreshToken h.refreshExp
        hrefresh.le_greatest hleeway hlate
    · exact (h.used ..).trans (hnew _ (by omega) .used sub)
    · rw [h.entries, World.withSession_family]
      rfl
    · rw [h.entries, h.session, World.withSession_refresh]
      rfl

end OpensSession

/-- Both tokens that a login gives are good. -/
theorem verifies_of_login (hlives : svc.Lives)
    (haccess : MemoryStore.IsStorable w.clock (toMillis svc.lifetimes.access))
    (hrefresh : MemoryStore.IsStorable w.clock (toMillis svc.lifetimes.refresh))
    (hhealthy : ∀ call, w.outages call = none)
    (hnew : svc.MintsNew w) (hleeway : svc.codec.leeway.toNat ≤ w.seconds)
    (hlate : (w.seconds : Int) ≤ Word.greatest + svc.codec.leeway.toNat)
    {token : String} (hgiven : token ∈ svc.gives w (.login id password)) :
    ∃ p, (svc.verify token
      (svc.next w (.request (.login id password)))).1 = .ok p := by
  rcases login_cases hlives (hhealthy .set) haccess hrefresh id password with
    ⟨u, pair, w', -, hlogin, hopens⟩ | ⟨e, hlogin⟩
  · have hnext : svc.next w (.request (.login id password)) = w' :=
      congrArg Prod.snd (Action.bind_of_ok hlogin)
    have htokens : token ∈ pair.tokens := by
      rw [gives, opened?, hlogin] at hgiven
      exact hgiven
    have hverify : ∀ {mode : Mode} {p : Payload},
        (svc.verifyMode token mode w').1 = .ok p →
          (svc.verify token w').1 = .ok p :=
      fun hok => congrArg Prod.fst (verifyMode_eq_ok (Prod.ext hok rfl)).1
    obtain ⟨hgood, hgood'⟩ :=
      hopens.verifyMode hnew hhealthy haccess hrefresh hleeway hlate
    rw [hnext]
    rcases List.mem_cons.mp htokens with rfl | htoken
    · exact ⟨_, hverify hgood⟩
    · cases List.mem_singleton.mp htoken
      exact ⟨_, hverify hgood'⟩
  · rw [gives, opened?, hlogin] at hgiven
    cases hgiven

/-! ## Any number of logins -/

/-- Logins with these identifiers and passwords, one after another. -/
def loginEvents (logins : List (String × String)) : List Event :=
  logins.map fun l => .request (.login l.1 l.2)

/-- What was there before is there afterwards, the tokens that were good are
good, and the next login finds things as the last one did. -/
structure Undisturbed (svc : Service) (w w' : World) : Prop where
  keeps : ∀ key e, w.live.get? key = some e → w'.live.get? key = some e
  verify : ∀ bearer p, (svc.verify bearer w).1 = .ok p →
    (svc.verify bearer w').1 = .ok p
  mintsNew : svc.MintsNew w'
  clock : w'.clock = w.clock
  wall : w'.wall = w.wall
  outages : w'.outages = w.outages

theorem Undisturbed.refl (hnew : svc.MintsNew w) : svc.Undisturbed w w :=
  ⟨fun _ _ => id, fun _ _ => id, hnew, rfl, rfl, rfl⟩

theorem Undisturbed.trans {w'' : World} (h : svc.Undisturbed w w')
    (h' : svc.Undisturbed w' w'') : svc.Undisturbed w w'' :=
  ⟨fun key e he => h'.keeps key e (h.keeps key e he),
    fun bearer p hp => h'.verify bearer p (h.verify bearer p hp), h'.mintsNew,
    h'.clock.trans h.clock, h'.wall.trans h.wall, h'.outages.trans h.outages⟩

theorem Undisturbed.storable {ttl : Nat} (h : svc.Undisturbed w w')
    (httl : MemoryStore.IsStorable w.clock ttl) :
    MemoryStore.IsStorable w'.clock ttl := by
  rwa [h.clock]

section

variable (hlives : svc.Lives) (hids : svc.Distinguishes)
  (haccess : MemoryStore.IsStorable w.clock (toMillis svc.lifetimes.access))
  (hrefresh : MemoryStore.IsStorable w.clock (toMillis svc.lifetimes.refresh))

include hlives hids haccess hrefresh

theorem undisturbed_of_login (hset : w.outages .set = none)
    (hnew : svc.MintsNew w) (id password : String) :
    svc.Undisturbed w (svc.next w (.request (.login id password))) := by
  rcases login_cases hlives hset haccess hrefresh id password with
    ⟨u, pair, w', -, hlogin, hopens⟩ | ⟨e, hlogin⟩
  · have hnext : svc.next w (.request (.login id password)) = w' :=
      congrArg Prod.snd (Action.bind_of_ok hlogin)
    rw [hnext]
    exact ⟨fun _ _ => hopens.keeps hnew, fun _ _ => hopens.verify hnew,
      hopens.mintsNew hids hnew, hopens.clock, hopens.wall, hopens.outages⟩
  · have hnext : svc.next w (.request (.login id password)) = w :=
      congrArg Prod.snd (Action.bind_of_error hlogin)
    rw [hnext]
    exact .refl hnew

theorem undisturbed_of_logins (logins : List (String × String))
    (hset : w.outages .set = none) (hnew : svc.MintsNew w) :
    svc.Undisturbed w (svc.after w (loginEvents logins)) := by
  induction logins generalizing w with
  | nil => exact .refl hnew
  | cons l logins ih =>
      have hstep :=
        undisturbed_of_login hlives hids haccess hrefresh hset hnew l.1 l.2
      rw [loginEvents, List.map_cons, after_cons]
      exact hstep.trans (ih (hstep.storable haccess) (hstep.storable hrefresh)
        (by rw [hstep.outages, hset]) hstep.mintsNew)

/-- A token that a login gives is good when the logins that follow have been
carried out. -/
theorem verifies_of_logins (logins : List (String × String))
    (hhealthy : ∀ call, w.outages call = none) (hnew : svc.MintsNew w)
    (hleeway : svc.codec.leeway.toNat ≤ w.seconds)
    (hlate : (w.seconds : Int) ≤ Word.greatest + svc.codec.leeway.toNat)
    {token : String} (hgiven : token ∈ svc.givenIn w (loginEvents logins)) :
    ∃ p, (svc.verify token (svc.after w (loginEvents logins))).1 = .ok p := by
  induction logins generalizing w with
  | nil => cases hgiven
  | cons l logins ih =>
      have hstep := undisturbed_of_login hlives hids haccess hrefresh
        (hhealthy .set) hnew l.1 l.2
      have hhealthy' : ∀ call, (svc.next w (.request (.login l.1
          l.2))).outages call = none := by
        rw [hstep.outages]
        exact hhealthy
      have haccess' := hstep.storable haccess
      have hrefresh' := hstep.storable hrefresh
      rw [loginEvents, List.map_cons, after_cons]
      rcases List.mem_append.mp hgiven with hnow | hlater
      · obtain ⟨p, hp⟩ := verifies_of_login hlives haccess hrefresh hhealthy
          hnew hleeway hlate hnow
        exact ⟨p, (undisturbed_of_logins hlives hids haccess' hrefresh' logins
          (hhealthy' .set) hstep.mintsNew).verify _ _ hp⟩
      · have hseconds : (svc.next w (.request (.login l.1 l.2))).seconds =
            w.seconds := by
          rw [World.seconds, hstep.wall, World.seconds]
        exact ih haccess' hrefresh' hhealthy' hstep.mintsNew
          (hseconds ▸ hleeway) (hseconds ▸ hlate) hlater

end

section

variable {tokens : TokenSettings} {batch : Nat}
  {policy : Password.Policy} {hasher : Hasher} {ids : Nat → String}

/-- While the store, the directory and the hasher answer, a login goes through
exactly if the password is that of an account that may hold a session. What it
has then done to the store is to add three entries, at keys that were not there:
those of the access token and the refresh token of a new session and of a new
family. Every other entry is as it was, and so is everything if the login is
refused. Without the right password the refusal does not depend on the
directory: there may be no such account, or one in any state. However many
logins there are, the tokens that were good before stay good, and so are those
that are given meanwhile. -/
theorem logins_stand_alone
    (hbuilt : assemble tokens batch policy hasher ids = .ok svc)
    (hids : svc.Distinguishes)
    (haccess : MemoryStore.IsStorable w.clock (toMillis svc.lifetimes.access))
    (hrefresh : MemoryStore.IsStorable w.clock (toMillis svc.lifetimes.refresh))
    (hw : w.InService) (hnew : svc.MintsNew w) (id password : String) :
    ((∃ pair, (svc.login id password w).1 = .ok pair) ↔
      ∃ u, svc.MayLogIn w id password u) ∧
    (∀ pair w', svc.login id password w = (.ok pair, w') →
      ∃ u, svc.MayLogIn w id password u ∧
        svc.OpensSession w u.id pair w' ∧
        w.live.get? (Key.access u.id (svc.ids (w.minted + 1))) = none ∧
        w.live.get? (Key.family u.id (svc.ids (w.minted + 2))) = none ∧
        w.live.get? (Key.refresh u.id (svc.ids (w.minted + 1))) = none ∧
        ∀ key e, w.live.get? key = some e → w'.live.get? key = some e) ∧
    ((∀ u, ¬ svc.MayLogIn w id password u) →
      ∃ e, svc.login id password w = (.error e, w)) ∧
    (∀ d : Directory,
      (∀ u, d.find? id = some u →
        svc.hasher.verify password u.passwordHash = .ok false) →
      svc.login id password { w with users := d } =
        (.error .incorrectLogin, { w with users := d })) ∧
    ∀ logins : List (String × String),
      svc.Undisturbed w (svc.after w (loginEvents logins)) ∧
      (svc.codec.leeway.toNat ≤ w.seconds →
        (w.seconds : Int) ≤ Word.greatest + svc.codec.leeway.toNat →
        ∀ token ∈ svc.givenIn w (loginEvents logins),
          ∃ p, (svc.verify token
            (svc.after w (loginEvents logins))).1 = .ok p) := by
  have hlives := lives_of_assemble hbuilt
  have hcases :=
    login_cases hlives (hw.store .set) haccess hrefresh id password
  refine ⟨⟨fun ⟨pair, hok⟩ => ?_, fun ⟨u, hu⟩ => ?_⟩, fun pair w' hok => ?_,
    fun hnone => ?_, fun d hwrong => ?_, fun logins => ⟨?_, ?_⟩⟩
  · rcases hcases with ⟨u, -, -, hu, -⟩ | ⟨e, hlogin⟩
    · exact ⟨u, hu⟩
    · rw [hlogin] at hok
      cases hok
  · obtain ⟨pair, w', hopen⟩ :=
      exists_openSession (hw.store .set) haccess hrefresh u.id
    exact ⟨pair, by rw [login_of_mayLogIn hw hu, hopen]⟩
  · rcases hcases with ⟨u, pair', w'', hu, hlogin, hopens⟩ | ⟨e, hlogin⟩
    · cases hlogin.symm.trans hok
      obtain ⟨hnewAccess, hnewFamily, hnewRefresh⟩ :=
        OpensSession.keys_new hnew u.id
      exact ⟨u, hu, hopens, hnewAccess, hnewFamily, hnewRefresh,
        fun _ _ => hopens.keeps hnew⟩
    · cases hlogin.symm.trans hok
  · rcases hcases with ⟨u, -, -, hu, -⟩ | ⟨e, hlogin⟩
    · exact absurd hu (hnone u)
    · exact ⟨e, hlogin⟩
  · exact login_of_wrong ⟨hw.store, hw.directory, hw.hasher⟩ hwrong
  · exact undisturbed_of_logins hlives hids haccess hrefresh logins
      (hw.store .set) hnew
  · intro hleeway hlate token hgiven
    exact verifies_of_logins hlives hids haccess hrefresh logins hw.store hnew
      hleeway hlate hgiven

end

/-- A password that is wrong says as little where nobody has an account as it
does where the account is blocked; and the refresh token of a login is good
after the next one. -/
theorem trial_logins_stand_alone :
    let w := trial.after (.initial 1700000000000) trialAccount
    let account : User := ⟨"u", "u@example.com", "plain:secret", false, true⟩
    let blocked := { w with users := Directory.empty.put "u" (some account) }
    let unknown := { w with users := .empty }
    assemble .trial 2 .trial .plain Action.idText = .ok trial ∧
      w.InService ∧ trial.MintsNew w ∧
      MemoryStore.IsStorable w.clock (toMillis trial.lifetimes.access) ∧
      MemoryStore.IsStorable w.clock (toMillis trial.lifetimes.refresh) ∧
      (∃ pair, (trial.login "u" "secret" w).1 = .ok pair) ∧
      trial.login "u" "guess" w = (.error .incorrectLogin, w) ∧
      trial.login "u" "guess" blocked = (.error .incorrectLogin, blocked) ∧
      trial.login "u" "guess" unknown = (.error .incorrectLogin, unknown) ∧
      ∃ p, (trial.verify trialRefreshToken (trial.after w
        (loginEvents [("u", "secret"), ("u", "secret")]))).1 = .ok p := by
  intro w account blocked unknown
  have hw : w.InService := ⟨fun _ => rfl, rfl, rfl⟩
  have hnew : trial.MintsNew w := fun _ _ _ _ => rfl
  have haccess : MemoryStore.IsStorable w.clock
      (toMillis trial.lifetimes.access) := by decide
  have hrefresh : MemoryStore.IsStorable w.clock
      (toMillis trial.lifetimes.refresh) := by decide
  have hgiven : trialRefreshToken ∈
      trial.givenIn w (loginEvents [("u", "secret"), ("u", "secret")]) := by
    obtain ⟨pair, hopened, hpair⟩ := opened?_trial
    refine List.mem_append_left _ (mem_gives_of_opened? hopened ?_)
    rw [← hpair]
    exact List.mem_cons_of_mem _ (List.mem_singleton.mpr rfl)
  have hwrong : ∀ (d : Directory) (u : User), d.find? "u" = some u →
      (d.find? "u").map User.passwordHash = some "plain:secret" →
        trial.hasher.verify "guess" u.passwordHash = .ok false := by
    intro d u hfound hhash
    rw [hfound] at hhash
    rw [Option.some.inj hhash]
    rfl
  obtain ⟨⟨-, hopens⟩, -, -, -, hgood⟩ :=
    trial.logins_stand_alone assemble_trial trial_distinguishes haccess hrefresh
      hw hnew "u" "secret"
  obtain ⟨-, -, -, hsame, -⟩ := trial.logins_stand_alone assemble_trial
    trial_distinguishes haccess hrefresh hw hnew "u" "guess"
  refine ⟨assemble_trial, hw, hnew, haccess, hrefresh,
    hopens ⟨_, rfl, rfl, rfl, rfl⟩,
    hsame w.users fun u hu => hwrong _ u hu rfl,
    hsame blocked.users fun u hu => hwrong _ u hu rfl,
    hsame unknown.users nofun, ?_⟩
  exact (hgood _).2 (by decide) (by decide) _ hgiven

end Service

end SessionTokens
