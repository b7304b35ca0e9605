import SessionTokens.Proofs.Codec
import SessionTokens.Proofs.Marks

/-!
# Redeeming a reset token twice

A reset token is redeemed by setting its mark, and as long as the mark stands
the token is not redeemed again. The mark stands for the lifetime of a reset
token from the moment of redemption, in whole milliseconds; nothing removes it
before. The token itself is read up to the second of its expiry and the leeway
after that. So the mark outlives the token only if the token was redeemed late
enough: one that is redeemed at once is read at the moment when its mark
expires, and then it can be redeemed a second time.
-/

namespace SessionTokens

/-! ## When a redemption goes through -/

namespace Service

variable {svc : Service} {w w' : World} {id new : String}

/-- The token passes for resetting a password, and says this. -/
structure Resets (svc : Service) (w : World) (token : String)
    (v : Codec.Validity) (p : Payload) : Prop where
  read : ∃ c,
    svc.codec.read? .resetPassword (Bearer.token token) = some (c, v) ∧
      c.mode = some .resetPassword ∧ Payload.ofClaims? c = some p
  valid : svc.codec.checkValidity w.seconds v = .ok ()

theorem Resets.verifyPurpose {token : String} {v : Codec.Validity} {p : Payload}
    (h : svc.Resets w token v p) :
    svc.verifyPurpose token .resetPassword w = (.ok p, w) := by
  obtain ⟨⟨c, hread, hmode, hp⟩, hvalid⟩ := h
  have hdecode : svc.decode .resetPassword (Bearer.token token) w =
      (.ok c, w) := by
    rw [decode_apply, Codec.decode_of_read? hread hvalid]
    rfl
  have hstart : svc.verifyPurpose token .resetPassword = (do
      let claims ← svc.decode .resetPassword (Bearer.token token)
      if claims.mode = some .resetPassword then
        Action.lift
          (.ofOption (.rejected .structureInvalid) (Payload.ofClaims? claims))
      else Action.fail (.rejected .structureInvalid)) := rfl
  rw [hstart, Action.bind_of_ok hdecode, if_pos hmode, hp]
  rfl

/-- What a redemption that goes through has found. -/
structure Redeems (svc : Service) (w : World) (token new : String)
    (v : Codec.Validity) (p : Payload) : Prop where
  resets : svc.Resets w token v p
  policy : svc.policy.validate new = .ok ()
  setIfAbsent : w.outages .setIfAbsent = none
  storable :
    MemoryStore.IsStorable w.clock (toMillis svc.lifetimes.resetPassword)
  unmarked : w.live.get? (markOf p token) = none
  stores : w.Stores svc p.sub new

theorem settle_eq_ok {token : String} {p : Payload}
    (h : svc.settle p token new w = (.ok (), w')) :
    svc.replacePassword p.sub new w = (.ok (), w') := by
  obtain ⟨r, w₁, hattempt, h⟩ := Action.bind_eq_ok h
  rcases hrep : svc.replacePassword p.sub new w with ⟨u | e | _, w₂⟩
  · rw [Action.attempt, hrep] at hattempt
    cases hattempt
    cases h
    rfl
  · rw [Action.attempt, hrep] at hattempt
    cases hattempt
    obtain ⟨_, _, -, h⟩ := Action.bind_eq_ok h
    cases h
  · rw [Action.attempt, hrep] at hattempt
    cases hattempt

theorem confirmPasswordReset_eq_ok {token : String}
    (h : svc.confirmPasswordReset token new w = (.ok (), w')) :
    ∃ v p, svc.Redeems w token new v p ∧ w.FailsLike w' ∧
      ∃ hash, svc.hasher.hash (Action.nextSalt w) new = .ok hash ∧
        w'.users = w.users.withHash p.sub hash := by
  obtain ⟨p, w₁, hverify, h₁⟩ := Action.bind_eq_ok h
  obtain ⟨u, w₂, hensure, -⟩ := Action.bind_eq_ok h₁
  have hpurpose := congrArg Prod.fst (Action.mapError_eq_ok hverify)
  obtain ⟨c, v, hread, hvalid, hmode, hp⟩ := svc.verifyPurpose_eq_ok w hpurpose
  have hpolicy : svc.policy.validate new = .ok () := by
    cases hv : svc.policy.validate new with
    | ok _ => rfl
    | error e => rw [Action.ensure, Action.lift, hv] at hensure; cases hensure
  rw [svc.confirmPasswordReset_of_ok w hpurpose hpolicy] at h
  obtain ⟨b, w₃, hset, h⟩ := Action.bind_eq_ok h
  cases b with
  | false => cases h
  | true =>
      obtain ⟨hout, hunmarked, hstorable, hb⟩ := Store.setIfAbsent_eq_true hset
      obtain ⟨hstores, hfails, hash, hhash, husers⟩ :=
        replacePassword_eq_ok (settle_eq_ok h)
      refine ⟨v, p, ⟨⟨⟨c, hread, hmode, hp⟩, hvalid⟩, hpolicy, hout, hstorable,
        hunmarked, ?_⟩, ?_, hash, ?_, ?_⟩
      · exact hb.stores.mp hstores
      · exact hb.failsLike.trans hfails
      · rw [← hb.nextSalt, hhash]
      · rw [husers, hb.users]

theorem changes_of_confirmPasswordReset {token : String}
    (h : svc.confirmPasswordReset token new w = (.ok (), w')) :
    Changes svc (svc.Allows w (.confirmPasswordReset token new)) w w' := by
  have hchanges : Changes svc (svc.Allows w (.confirmPasswordReset token new)) w
      (svc.confirmPasswordReset token new w).2 :=
    .confirmPasswordReset token new
  rwa [h] at hchanges

/-- What was found is enough. -/
theorem confirmPasswordReset_of_redeems {token : String} {v : Codec.Validity}
    {p : Payload} (h : svc.Redeems w token new v p) (hs : w.Sweepable) :
    (svc.confirmPasswordReset token new w).1 = .ok () := by
  obtain ⟨w₁, hset, hb⟩ := Store.setIfAbsent_of_none h.setIfAbsent h.unmarked
    h.storable Key.redeemedMark
  obtain ⟨w₂, hrep⟩ :=
    replacePassword_of_stores (hb.stores.mpr h.stores) (hb.sweepable.mpr hs)
  have hpurpose := congrArg Prod.fst h.resets.verifyPurpose
  rw [svc.confirmPasswordReset_of_ok w hpurpose h.policy,
    Action.bind_of_ok hset, if_pos rfl, svc.settle_of_ok hrep]

/-- Sweeps leave the marks of redeemed tokens alone. -/
theorem get?_redeemed_of_swept {sub digest sub' : String}
    (h : w.Becomes (w.swept sub') w') :
    w'.live.get? (Key.redeemed sub digest) =
      w.live.get? (Key.redeemed sub digest) := by
  rw [h.live, World.swept]
  split
  · refine (Change.get?_filter_key _ _ _).trans (if_neg ?_)
    rw [Key.isSessionKeyOf_redeemed]
    exact Bool.false_ne_true
  · rfl

/-- A redemption leaves its mark for the lifetime of a reset token, and no
longer. -/
theorem confirmPasswordReset_mark {token : String} {v : Codec.Validity}
    {p : Payload} (h : svc.confirmPasswordReset token new w = (.ok (), w'))
    (hr : svc.Resets w token v p) :
    w'.Keeps (markOf p token) (w.clock + toMillis svc.lifetimes.resetPassword) ∧
      ∀ e, w'.live.get? (markOf p token) = some e →
        e.deadline ≤ w.clock + toMillis svc.lifetimes.resetPassword := by
  rcases svc.confirmPasswordReset_spec w token new with
    ⟨-, p', w₁, w₂, hp', hredeem, hpass, hb, -⟩ | ⟨hne, -⟩
  · cases (congrArg Prod.fst hr.verifyPurpose).symm.trans hp'
    rw [h] at hb
    have hkept : w'.live.get? (markOf p token) =
        w₁.live.get? (markOf p token) := by
      rw [← hpass.live_of_pass]
      exact get?_redeemed_of_swept hb
    constructor
    · have hmark : w₁.Keeps (markOf p token)
          (w.clock + toMillis svc.lifetimes.resetPassword) :=
        hredeem.keeps_of_written (e := ⟨Key.redeemedMark, _⟩)
          (by simp [Effect.writes, markOf]) (Nat.le_refl _)
      intro hlt
      rw [hkept]
      refine hmark ?_
      rwa [← hpass.clock, ← hb.clock]
    · intro e he
      rw [hkept] at he
      rcases hredeem.of_get? he with hwritten | ⟨-, hold⟩
      · obtain ⟨-, rfl⟩ := Prod.mk.inj (List.mem_singleton.mp hwritten)
        exact Nat.le_refl _
      · have hguard : w.live.get? (markOf p token) = none := hredeem.guard
        rw [hguard] at hold
        cases hold
  · rw [h] at hne
    exact absurd rfl hne

/-! ## The second time -/

section

variable {w₁ : World} {s s' new' : String} {c : Claims} {v : Codec.Validity}

theorem Redeems.of_read {token : String} {v' : Codec.Validity} {p : Payload}
    (h : svc.Redeems w token new v' p)
    (hread :
      svc.codec.read? .resetPassword (Bearer.token token) = some (c, v)) :
    v' = v ∧ Payload.ofClaims? c = some p := by
  obtain ⟨c', hread', -, hp⟩ := h.resets.read
  cases hread'.symm.trans hread
  exact ⟨rfl, hp⟩

/-- A second redemption finds the mark gone, and the token still good then. -/
theorem early_of_redeemed_twice (hforced : w₁.forcedReply = none)
    (hread : svc.codec.read? .resetPassword (Bearer.token s) = some (c, v))
    (hfirst : svc.confirmPasswordReset s new w₁ = (.ok (), w))
    {later : List Event} (hsteady : ∀ e ∈ later, e.isSteady = true)
    (hs : Bearer.token s' = Bearer.token s)
    (hsecond :
      (svc.confirmPasswordReset s' new' (svc.after w later)).1 = .ok ()) :
    w₁.seconds + svc.lifetimes.resetPassword.toNat ≤
      v.exp + svc.codec.leeway.toNat := by
  obtain ⟨v₁, p₁, hredeems₁, -⟩ := confirmPasswordReset_eq_ok hfirst
  obtain ⟨v₂, p₂, hredeems₂, -⟩ :=
    confirmPasswordReset_eq_ok (Action.eq_of_fst_eq hsecond)
  obtain ⟨rfl, hp₁⟩ := hredeems₁.of_read hread
  obtain ⟨rfl, hp₂⟩ := hredeems₂.of_read (hs ▸ hread)
  cases hp₁.symm.trans hp₂
  let first : Event := .request (.confirmPasswordReset s new)
  have hnext : svc.next w₁ first = w := congrArg Prod.snd hfirst
  have hforced' : w.forcedReply = none := hnext ▸ forcedReply_next first hforced
  have hgone : (svc.after w later).live.get? (markOf p₁ s) = none := by
    have hunmarked := hredeems₂.unmarked
    rwa [markOf, resetDigest, hs] at hunmarked
  have hclock : w₁.clock + toMillis svc.lifetimes.resetPassword ≤
      (svc.after w later).clock := by
    obtain ⟨hkeeps, -⟩ := confirmPasswordReset_mark hfirst hredeems₁.resets
    have hspares : svc.Throughout (svc.Spares .redeemed p₁.sub) w later :=
      throughout_of (fun _ _ => .inl rfl) w later
    have hkept : (svc.after w later).Keeps (markOf p₁ s) _ :=
      after_keeps .redeemed hforced' rfl (.inl rfl) nofun hspares hkeeps
    refine Nat.le_of_not_lt fun hlt => ?_
    obtain ⟨e, he, -⟩ := hkept hlt
    rw [hgone] at he
    cases he
  have hwall : (svc.after w later).wall + w₁.clock =
      w₁.wall + (svc.after w later).clock := by
    have hboth : (svc.after w₁ (first :: later)).wall + w₁.clock =
        w₁.wall + (svc.after w₁ (first :: later)).clock :=
      wall_after (List.forall_mem_cons.mpr ⟨rfl, hsteady⟩) hforced
    rwa [after_cons, hnext] at hboth
  obtain ⟨-, hgood, -⟩ :=
    svc.codec.checkValidity_eq_ok.mp hredeems₂.resets.valid
  unfold toMillis at hclock
  unfold World.seconds at hgood ⊢
  omega

/-- As soon as the mark of a redeemed token is gone, the token is good for
another redemption, if it is still read then. -/
theorem redeemed_twice_of_early
    (hread : svc.codec.read? .resetPassword (Bearer.token s) = some (c, v))
    (hfirst : svc.confirmPasswordReset s new w₁ = (.ok (), w))
    (hearly : w₁.seconds + svc.lifetimes.resetPassword.toNat ≤
      v.exp + svc.codec.leeway.toNat)
    (hstorable : MemoryStore.IsStorable
      (w₁.clock + toMillis svc.lifetimes.resetPassword)
      (toMillis svc.lifetimes.resetPassword))
    (hsweepable : w₁.Sweepable) (hs : Bearer.token s' = Bearer.token s)
    (hpolicy : svc.policy.validate new' = .ok ())
    (hhash : ∀ salt, ∃ hash, svc.hasher.hash salt new' = .ok hash) :
    (svc.confirmPasswordReset s' new'
      (w.advance (toMillis svc.lifetimes.resetPassword))).1 = .ok () := by
  obtain ⟨v₁, p₁, hredeems, hfails, hash, -, husers⟩ :=
    confirmPasswordReset_eq_ok hfirst
  have huser : (w.users.find? p₁.sub).isSome = true := by
    rw [husers, Directory.find?_withHash, Option.isSome_map]
    exact hredeems.stores.user
  obtain ⟨rfl, hp₁⟩ := hredeems.of_read hread
  obtain ⟨-, hmark⟩ := confirmPasswordReset_mark hfirst hredeems.resets
  have hchanges := changes_of_confirmPasswordReset hfirst
  have hagain : MemoryStore.IsStorable
      (w.clock + toMillis svc.lifetimes.resetPassword)
      (toMillis svc.lifetimes.resetPassword) := by
    rw [hchanges.clock]
    exact hstorable
  refine confirmPasswordReset_of_redeems (v := v₁) (p := p₁)
    ⟨⟨hs ▸ hredeems.resets.read, ?_⟩, hpolicy,
      hfails.outages ▸ hredeems.setIfAbsent, hagain, ?_,
      ⟨hfails.hasher ▸ hredeems.stores.hasher, hhash _,
        hfails.directory ▸ hredeems.stores.directory, huser⟩⟩ ?_
  · obtain ⟨hstart, -, haud⟩ :=
      svc.codec.checkValidity_eq_ok.mp hredeems.resets.valid
    refine svc.codec.checkValidity_eq_ok.mpr ⟨?_, ?_, haud⟩
    · show _ ≤ (w.wall + toMillis _) / 1000
      unfold World.seconds at hstart
      rw [hchanges.wall]
      omega
    · show (w.wall + toMillis _) / 1000 ≤ _
      unfold World.seconds at hearly
      rw [hchanges.wall, toMillis]
      omega
  · -- What is left of the mark ends with the wait.
    refine Option.eq_none_iff_forall_ne_some.mpr fun e he => ?_
    have hpasses :
        Passes w (w.advance (toMillis svc.lifetimes.resetPassword)) :=
      ⟨(Keyspace.live_live (Nat.le_add_right ..)).symm, Nat.le_add_right ..,
        rfl, rfl⟩
    have hlt : w.clock + toMillis svc.lifetimes.resetPassword < e.deadline :=
      World.lt_deadline he
    have hmarkOf : markOf p₁ s' = markOf p₁ s := by
      rw [markOf, resetDigest, hs]
      rfl
    have hle := hmark e (hmarkOf ▸ hpasses.of_get? he)
    rw [hchanges.clock] at hlt
    omega
  · show w.Sweepable
    rw [World.Sweepable, hfails.outages]
    exact hsweepable

end

variable {w₀ w₁ : World} {s : String} {c : Claims} {v : Codec.Validity}

theorem perform_confirmPasswordReset {w : World}
    (h : (svc.confirmPasswordReset s new w).1 = .ok ()) :
    svc.confirmPasswordReset s new w =
      (.ok (), svc.next w (.request (.confirmPasswordReset s new))) :=
        Prod.ext h rfl

/-- A redemption is final unless it comes early. If the lifetime of a reset
token, counted from the second of the redemption, takes it past the leeway after
its expiry, no other redemption goes through, however the token is spelled and
whatever happens. Otherwise it is enough to wait for that lifetime, and the
token is redeemed for another password, provided that the clock of the store has
a number for the end of the next mark. -/
theorem redemption_is_final_unless_early (hnew : w₀.IsNew) (past : List Event)
    (hw₁ : w₁ = svc.after w₀ past)
    (hread : svc.codec.read? .resetPassword (Bearer.token s) = some (c, v))
    (hfirst : (svc.confirmPasswordReset s new w₁).1 = .ok ()) :
    let w := svc.next w₁ (.request (.confirmPasswordReset s new))
    (v.exp + svc.codec.leeway.toNat <
      w₁.seconds + svc.lifetimes.resetPassword.toNat →
      ∀ later : List Event, (∀ e ∈ later, e.isSteady = true) →
      ∀ s' new', Bearer.token s' = Bearer.token s →
      (svc.confirmPasswordReset s' new' (svc.after w later)).1 ≠ .ok ()) ∧
    (w₁.seconds + svc.lifetimes.resetPassword.toNat ≤
      v.exp + svc.codec.leeway.toNat →
      MemoryStore.IsStorable (w₁.clock + toMillis svc.lifetimes.resetPassword)
        (toMillis svc.lifetimes.resetPassword) →
      w₁.Sweepable →
      ∀ s' new', Bearer.token s' = Bearer.token s →
      svc.policy.validate new' = .ok () →
      (∀ salt, ∃ hash, svc.hasher.hash salt new' = .ok hash) →
      (svc.confirmPasswordReset s' new'
        (svc.after w [.advance (toMillis svc.lifetimes.resetPassword)])).1 =
          .ok ()) := by
  intro w
  have hforced : w₁.forcedReply = none :=
    hw₁ ▸ forcedReply_after past hnew.forcedReply
  have hredeemed : svc.confirmPasswordReset s new w₁ = (.ok (), w) :=
    perform_confirmPasswordReset hfirst
  constructor
  · intro hlate later hsteady s' new' hs hsecond
    have hearly :=
      early_of_redeemed_twice hforced hread hredeemed hsteady hs hsecond
    exact absurd hlate (Nat.not_lt_of_le hearly)
  · intro hearly hstorable hsweepable s' new' hs hpolicy hhash
    exact redeemed_twice_of_early hread hredeemed hearly hstorable hsweepable hs
      hpolicy hhash

/-! ## A trial -/

/-- What a reset token says that is issued in second 1700000000. -/
def trialReset : Payload := .resetPassword "u" 1700000600 (some "u@example.com")

/-- The token itself. -/
def trialToken : String :=
  Codec.asciiText (trial.codec.tokenBytes .resetPassword trialReset.toClaims)

/-- A world with one account, so long after the token has been issued. -/
def trialWorld (ms : Nat) : World :=
  { World.initial (1700000000000 + ms) with
    clock := ms
    users :=
      Directory.empty.put "u" (some ⟨"u", "u@example.com", "", true, true⟩) }

/-- The token is issued to the account, and then time passes. -/
def trialPast (ms : Nat) : List Event :=
  [.setUser "u" (some ⟨"u", "u@example.com", "", true, true⟩),
    .request (.requestPasswordReset "u"), .advance ms]

theorem requestPasswordReset_trial :
    trial.requestPasswordReset "u" (trialWorld 0) =
      (.ok trialToken, trialWorld 0) := by
  rfl

theorem after_trialPast (ms : Nat) :
    trial.after (.initial 1700000000000) (trialPast ms) = trialWorld ms := by
  have hrequest :
      trial.next (trialWorld 0) (.request (.requestPasswordReset "u")) =
      trialWorld 0 := by
    show ((trial.requestPasswordReset "u").ignore (trialWorld 0)).2 = _
    rw [Action.ignore, Action.bind_of_ok requestPasswordReset_trial]
    rfl
  have hstart : trial.next (.initial 1700000000000)
      (.setUser "u" (some ⟨"u", "u@example.com", "", true, true⟩)) =
        trialWorld 0 := rfl
  have hadvance : trial.next (trialWorld 0) (.advance ms) = trialWorld ms := by
    show World.advance _ ms = _
    rw [World.advance, trialWorld, trialWorld]
    simp [World.initial]
  rw [trialPast, after_cons, hstart, after_cons, hrequest, after_cons, hadvance]
  rfl

theorem read?_trialToken :
    trial.codec.read? .resetPassword (Bearer.token trialToken) =
      some (trialReset.toClaims, ⟨1700000600, false⟩) :=
  trial.codec.read?_of_encode (m := .resetPassword) rfl
    (show 0 ≤ trialReset.exp by decide)
    (show trial.codec.encode trialReset.toClaims = .ok trialToken from rfl)

/-- Marks of reset tokens can be set for a long time. -/
theorem storable_trial (ms : Nat) (hms : ms ≤ 10000000000) :
    MemoryStore.IsStorable ms (toMillis trial.lifetimes.resetPassword) := by
  show (ms + 600000) / 1000 ≤ 0x7FFFFFFFFFFFFFFF
  omega

/-- While it is good, the token is redeemed for a good password. -/
theorem redeems_trial {ms : Nat} (hms : ms ≤ 605000) :
    trial.Redeems (trialWorld ms) trialToken Password.trialPhrase
      ⟨1700000600, false⟩ trialReset := by
  have hseconds : (trialWorld ms).seconds = (1700000000000 + ms) / 1000 := rfl
  have hstorable := storable_trial ms (by omega)
  refine ⟨⟨⟨_, read?_trialToken, rfl, rfl⟩, ?_⟩,
    Password.validate_trialPhrase, rfl, hstorable, rfl,
    ⟨nofun, ⟨_, rfl⟩, nofun, rfl⟩⟩
  refine trial.codec.checkValidity_eq_ok.mpr ⟨?_, ?_, rfl⟩
  · show 5 ≤ _
    rw [hseconds]
    omega
  · show _ ≤ 1700000600 + 5
    rw [hseconds]
    omega

theorem confirmPasswordReset_trial {ms : Nat} (hms : ms ≤ 605000) :
    (trial.confirmPasswordReset trialToken Password.trialPhrase
      (trial.after (.initial 1700000000000) (trialPast ms))).1 = .ok () := by
  rw [after_trialPast]
  exact confirmPasswordReset_of_redeems (redeems_trial hms) ⟨rfl, rfl⟩

/-- Six seconds after it was issued a token is redeemed for good. -/
theorem trial_redemption_is_final :
    let w₁ := trial.after (.initial 1700000000000) (trialPast 6000)
    let w := trial.next w₁
      (.request (.confirmPasswordReset trialToken Password.trialPhrase))
    (trial.confirmPasswordReset trialToken Password.trialPhrase w₁).1 = .ok () ∧
      ∀ later : List Event, (∀ e ∈ later, e.isSteady = true) →
        ∀ s new, Bearer.token s = Bearer.token trialToken →
        (trial.confirmPasswordReset s new (trial.after w later)).1 ≠
          .ok () := by
  intro w₁ w
  have hfirst :
      (trial.confirmPasswordReset trialToken Password.trialPhrase w₁).1 =
      .ok () := confirmPasswordReset_trial (by decide)
  have hlate : 1700000600 + trial.codec.leeway.toNat <
      w₁.seconds + trial.lifetimes.resetPassword.toNat := by
    show _ < (trial.after (.initial 1700000000000) (trialPast 6000)).seconds + _
    rw [after_trialPast]
    decide
  have hnew : (World.initial 1700000000000).IsNew := ⟨rfl, rfl⟩
  have hw₁ : w₁ = trial.after (.initial 1700000000000) (trialPast 6000) := rfl
  clear_value w₁
  obtain ⟨hfinal, -⟩ :=
    redemption_is_final_unless_early hnew (trialPast 6000) hw₁
    read?_trialToken hfirst
  exact ⟨hfirst, hfinal hlate⟩

/-- A token that is redeemed as soon as it is issued is redeemed once more when
its lifetime is over. -/
theorem trial_token_redeemed_twice :
    let w₁ := trial.after (.initial 1700000000000) (trialPast 0)
    let w := trial.next w₁
      (.request (.confirmPasswordReset trialToken Password.trialPhrase))
    trial.requestPasswordReset "u" w₁ = (.ok trialToken, w₁) ∧
      (trial.confirmPasswordReset trialToken Password.trialPhrase w₁).1 =
        .ok () ∧
      (trial.confirmPasswordReset trialToken Password.trialPhrase
        (trial.after w [.advance 600000])).1 = .ok () := by
  intro w₁ w
  have hw₁ : w₁ = trialWorld 0 := after_trialPast 0
  have hfirst :
      (trial.confirmPasswordReset trialToken Password.trialPhrase w₁).1 =
      .ok () := confirmPasswordReset_trial (by decide)
  have hearly : w₁.seconds + trial.lifetimes.resetPassword.toNat ≤
      1700000600 + trial.codec.leeway.toNat := by
    rw [hw₁]
    decide
  have hsweepable : w₁.Sweepable := by
    rw [hw₁]
    exact ⟨rfl, rfl⟩
  have hstorable : MemoryStore.IsStorable
      (w₁.clock + toMillis trial.lifetimes.resetPassword)
      (toMillis trial.lifetimes.resetPassword) := by
    rw [hw₁]
    exact storable_trial _ (by decide)
  have hissued : trial.requestPasswordReset "u" w₁ = (.ok trialToken, w₁) := by
    rw [hw₁]
    exact requestPasswordReset_trial
  clear_value w₁
  have hsecond : (trial.confirmPasswordReset trialToken Password.trialPhrase
      (w.advance (toMillis trial.lifetimes.resetPassword))).1 = .ok () :=
    redeemed_twice_of_early read?_trialToken
      (perform_confirmPasswordReset hfirst)
      hearly hstorable hsweepable rfl Password.validate_trialPhrase
      (fun _ => ⟨_, rfl⟩)
  have hwait : ∀ w', trial.after w' [.advance 600000] =
      w'.advance (toMillis trial.lifetimes.resetPassword) := fun _ => rfl
  refine ⟨hissued, hfirst, ?_⟩
  rw [hwait]
  exact hsecond

end Service

end SessionTokens
