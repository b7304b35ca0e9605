import SessionTokens.Proofs.Openings
import SessionTokens.Proofs.Redemption
import SessionTokens.Proofs.Subjects

/-!
# What a fresh reset token is good for

A reset token says whose password may be set and in which second it expires,
and nothing that would tell it from another one. So whoever asks twice within a
second is given the same token twice, and what remembers a redeemed token
remembers it by its text. A token that has just been given is good for nothing
if the one that was given before it, in the same second, has been redeemed.

Nothing else keeps a fresh token from being redeemed. The argument is about the
mark: only a redemption that goes through leaves one, as long as the store can
take back what it has been told, and it stays for the lifetime of a token. So
the mark is there exactly if the past says so, and what a redemption needs
besides is there whenever a token is given.
-/

namespace SessionTokens

/-- Whatever the salt is, the password has a stored form and passes for it. -/
def Hasher.Accepts (h : Hasher) (password : String) : Prop :=
  ∀ salt, ∃ hash, h.hash salt password = .ok hash ∧
    h.verify password hash = .ok true

namespace Service

variable {svc : Service} {w : World} {sub digest : String} {e : Event}
  {entry : Entry}

/-! ## Redemptions in the past -/

/-- The event redeems a reset token of the subject that has this digest. -/
def RedeemsFor (svc : Service) (w : World) (sub digest : String) : Event → Prop
  | .request (.confirmPasswordReset token new) =>
    (svc.confirmPasswordReset token new w).1 = .ok () ∧
      resetDigest token = digest ∧
      ∃ p, (svc.verifyPurpose token .resetPassword w).1 = .ok p ∧ p.sub = sub
  | _ => False

/-- A reset token of the subject that has this digest has been redeemed, not
longer ago than such a token lives. -/
def RedeemedLately (svc : Service) (w : World) (past : List Event)
    (sub digest : String) : Prop :=
  ∃ before e later, past = before ++ e :: later ∧
    svc.RedeemsFor (svc.after w before) sub digest e ∧
    (svc.after w past).clock <
      (svc.after w before).clock + toMillis svc.lifetimes.resetPassword

/-- A request for a redemption leaves a mark only if it goes through, as long as
marks can be taken away. -/
theorem of_get?_confirmPasswordReset {token new : String}
    (hdelete : w.outages .delete = none) (hdigest : ':' ∉ digest.toList)
    (h : (svc.confirmPasswordReset token new w).2.live.get?
      (Key.redeemed sub digest) = some entry) :
    w.live.get? (Key.redeemed sub digest) = some entry ∨
      (svc.RedeemsFor w sub digest
        (.request (.confirmPasswordReset token new)) ∧
        entry.deadline = w.clock + toMillis svc.lifetimes.resetPassword) := by
  rcases svc.confirmPasswordReset_spec w token new with
    ⟨hok, p, w₁, w₂, hp, hredeem, hpass, hb, -⟩ | ⟨-, hpass | ⟨hne, -⟩⟩
  · rw [get?_redeemed_of_swept hb, hpass.live_of_pass] at h
    rcases hredeem.of_get? h with hwritten | ⟨-, hold⟩
    · obtain ⟨hkey, rfl⟩ := Prod.mk.inj (List.mem_singleton.mp hwritten)
      obtain ⟨-, hsub, hsame⟩ :=
        @Key.make_inj_of_no_colon .redeemed .redeemed sub p.sub digest _ hdigest
          (Confined.no_colon_resetDigest token) hkey
      exact .inr ⟨⟨hok, hsame.symm, p, hp, hsub.symm⟩, rfl⟩
    · exact .inl hold
  · rw [hpass.live_of_pass] at h
    exact .inl h
  · exact absurd hdelete hne

/-- One step: a mark that is found was there before, or the event left it. -/
theorem of_get?_next (hforced : w.forcedReply = none)
    (hdelete : w.outages .delete = none) (hdigest : ':' ∉ digest.toList)
    (h : (svc.next w e).live.get? (Key.redeemed sub digest) = some entry) :
    w.live.get? (Key.redeemed sub digest) = some entry ∨
      (svc.RedeemsFor w sub digest e ∧
        entry.deadline = w.clock + toMillis svc.lifetimes.resetPassword) := by
  rcases svc.next_spec w e hforced with ⟨r, rfl, hr⟩ | hpasses
  · by_cases hconfirm : ∃ token new, r = .confirmPasswordReset token new
    · obtain ⟨token, new, rfl⟩ := hconfirm
      exact of_get?_confirmPasswordReset hdelete hdigest h
    · refine .inl ?_
      let I : World → Prop := fun w' =>
        w'.live.get? (Key.redeemed sub digest) = some entry →
          w.live.get? (Key.redeemed sub digest) = some entry
      have hall : I (svc.next w (.request r)) := by
        refine hr.induct (fun {ef w₁ w₂} hallows hc hI hentry => ?_) id
        rcases hc.of_get? hentry with hwritten | ⟨-, hold⟩
        · have hns := Effect.mem_namespaces_of_writes svc w₁.clock .redeemed
            hwritten
          cases ef with
          | redeem sub' digest' =>
              obtain ⟨token, new, hr, -⟩ := hallows nofun
              exact absurd ⟨token, new, hr⟩ hconfirm
          | _ => exact absurd hns (by simp [Effect.namespaces])
        · exact hI hold
      exact hall h
  · exact .inl (hpasses.of_get? h)

/-- The whole past: a mark that is found was there at first, or one of the
events left it. -/
theorem of_get?_after {es : List Event}
    (hes : ∀ e ∈ es, e.sparesStore = true) (hforced : w.forcedReply = none)
    (hdelete : w.outages .delete = none) (hdigest : ':' ∉ digest.toList)
    (h : (svc.after w es).live.get? (Key.redeemed sub digest) = some entry) :
    w.live.get? (Key.redeemed sub digest) = some entry ∨
      ∃ before e later, es = before ++ e :: later ∧
        svc.RedeemsFor (svc.after w before) sub digest e ∧
        entry.deadline = (svc.after w before).clock +
          toMillis svc.lifetimes.resetPassword := by
  induction es generalizing w with
  | nil => exact .inl h
  | cons e es ih =>
      have hone : ∀ e' ∈ [e], e'.sparesStore = true := fun e' he' =>
        hes e' (List.mem_cons.mpr (.inl (List.mem_singleton.mp he')))
      have hnext : (svc.next w e).outages = w.outages :=
        outages_after hone hforced
      rcases ih (fun e' he' => hes e' (List.mem_cons_of_mem e he'))
        (forcedReply_next e hforced) (by rw [hnext, hdelete]) h with
        hfirst | ⟨before, e', later, rfl, hredeems, hdeadline⟩
      · rcases of_get?_next hforced hdelete hdigest hfirst with
          hold | ⟨hredeems, hdeadline⟩
        · exact .inl hold
        · exact .inr ⟨[], e, es, rfl, hredeems, hdeadline⟩
      · exact .inr ⟨e :: before, e', later, rfl, hredeems, hdeadline⟩

/-- A redemption that goes through leaves its mark for the lifetime of a
token. -/
theorem RedeemsFor.keeps (h : svc.RedeemsFor w sub digest e) :
    (svc.next w e).Keeps (Key.redeemed sub digest)
      (w.clock + toMillis svc.lifetimes.resetPassword) := by
  cases e with
  | request r =>
      cases r with
      | confirmPasswordReset token new =>
          obtain ⟨hok, rfl, p, hp, rfl⟩ := h
          have hredeemed := perform_confirmPasswordReset hok
          obtain ⟨v, p', hredeems, -⟩ := confirmPasswordReset_eq_ok hredeemed
          cases (congrArg Prod.fst hredeems.resets.verifyPurpose).symm.trans hp
          exact (confirmPasswordReset_mark hredeemed hredeems.resets).1
      | _ => cases h
  | _ => cases h

/-- A mark is there exactly if the past has a redemption that left it. -/
theorem isSome_get?_redeemed_iff (hnew : w.IsNew) {past : List Event}
    (hpast : ∀ e ∈ past, e.sparesStore = true)
    (hdelete : w.outages .delete = none) (hdigest : ':' ∉ digest.toList) :
    ((svc.after w past).live.get? (Key.redeemed sub digest)).isSome = true ↔
      svc.RedeemedLately w past sub digest := by
  constructor
  · intro hsome
    obtain ⟨entry, hentry⟩ := Option.isSome_iff_exists.mp hsome
    rcases of_get?_after hpast hnew.forcedReply hdelete hdigest hentry with
      hold | ⟨before, e, later, hsplit, hredeems, hdeadline⟩
    · rw [World.live, MemoryStore.live, hnew.keyspace, Keyspace.live_empty]
        at hold
      cases hold
    · exact ⟨before, e, later, hsplit, hredeems,
        hdeadline ▸ World.lt_deadline hentry⟩
  · rintro ⟨before, e, later, rfl, hredeems, hlt⟩
    have hforced : (svc.after w before).forcedReply = none :=
      forcedReply_after before hnew.forcedReply
    have hspares : svc.Throughout (svc.Spares .redeemed sub)
        (svc.next (svc.after w before) e) later :=
      throughout_of (fun _ _ => .inl rfl) _ later
    have hkept := after_keeps .redeemed (forcedReply_next e hforced) rfl
      (.inl rfl) (fun hfamily => absurd hfamily (by decide)) hspares
      hredeems.keeps
    rw [after_append, after_cons] at hlt ⊢
    obtain ⟨entry, hentry, -⟩ := hkept hlt
    exact Option.isSome_iff_exists.mpr ⟨entry, hentry⟩

/-! ## Fresh tokens -/

section

variable {id new t : String} {u : User}

/-- What a reset token says that is given to an account. -/
def freshReset (svc : Service) (w : World) (u : User) : Payload :=
  .resetPassword u.id (expiry w.seconds svc.lifetimes.resetPassword)
    (some u.email)

/-- What a reset token takes to be redeemed when it is given: the time of day is
past the leeway and not past the times that a token can say, and the clock of
the store has a number for the end of a mark that is set now. -/
structure CanReset (svc : Service) (w : World) : Prop where
  leeway : svc.codec.leeway.toNat ≤ w.seconds
  clock : (w.seconds : Int) ≤ Word.greatest + svc.codec.leeway.toNat
  storable :
    MemoryStore.IsStorable w.clock (toMillis svc.lifetimes.resetPassword)

/-- An account that is there is given a token, and nothing changes. -/
theorem requestPasswordReset_of_find (svc : Service)
    (hdirectory : w.directoryOutage ≠ some .find)
    (hfind : w.users.find? id = some u) :
    ∃ t, svc.codec.encode (svc.freshReset w u).toClaims = .ok t ∧
      svc.requestPasswordReset id w = (.ok t, w) := by
  obtain ⟨t, hencode, hsign⟩ := svc.sign_spec (svc.freshReset w u) w
  refine ⟨t, hencode, ?_⟩
  have huser : requireUser id .userNotFound w = (.ok u, w) := by
    rw [Action.requireUser_apply, if_neg hdirectory, hfind]
    rfl
  have hissue : outside (svc.issueReset u.id (some u.email)) w =
      (.ok ⟨t, svc.freshReset w u⟩, w) := by
    show ((svc.sign (svc.freshReset w u) w).1.mapError _,
      (svc.sign (svc.freshReset w u) w).2) = _
    rw [hsign]
    rfl
  rw [requestPasswordReset, Action.bind_of_ok huser, Action.bind_of_ok hissue]
  rfl

/-- The token that was asked for is the fresh one, and asking has changed
nothing. -/
theorem fresh_of_request {w' : World} (hdirectory : w.directoryOutage = none)
    (hfind : w.users.find? id = some u)
    (h : svc.requestPasswordReset id w = (.ok t, w')) :
    svc.codec.encode (svc.freshReset w u).toClaims = .ok t ∧ w' = w := by
  have hasked : w.directoryOutage ≠ some .find := by
    rw [hdirectory]
    exact nofun
  obtain ⟨t', hencode, hgiven⟩ := svc.requestPasswordReset_of_find hasked hfind
  cases hgiven.symm.trans h
  exact ⟨hencode, rfl⟩

theorem read?_fresh
    (h : MemoryStore.IsStorable w.clock (toMillis svc.lifetimes.resetPassword))
    (hencode : svc.codec.encode (svc.freshReset w u).toClaims = .ok t) :
    svc.codec.read? .resetPassword (Bearer.token t) =
      some ((svc.freshReset w u).toClaims,
        ⟨(expiry w.seconds svc.lifetimes.resetPassword).toInt.toNat,
          false⟩) :=
  svc.codec.read?_of_encode (m := .resetPassword) rfl
    (expiry_nonneg h.le_greatest w.seconds) hencode

theorem CanReset.resets (h : svc.CanReset w)
    (hencode : svc.codec.encode (svc.freshReset w u).toClaims = .ok t) :
    svc.Resets w t
      ⟨(expiry w.seconds svc.lifetimes.resetPassword).toInt.toNat, false⟩
      (svc.freshReset w u) := by
  refine ⟨⟨_, read?_fresh h.storable hencode, rfl,
    Payload.ofClaims?_toClaims _⟩, ?_⟩
  refine svc.codec.checkValidity_eq_ok.mpr ⟨h.leeway, ?_, rfl⟩
  have hexp := toNat_expiry h.storable.le_greatest w.seconds
  have hclock := h.clock
  dsimp only
  omega

/-- A fresh token that is redeemed could be, and is its account's. -/
theorem Redeems.of_fresh {v : Codec.Validity} {p : Payload}
    (h : svc.Redeems w t new v p)
    (hencode : svc.codec.encode (svc.freshReset w u).toClaims = .ok t) :
    svc.CanReset w ∧ p = svc.freshReset w u := by
  obtain ⟨rfl, hp⟩ := h.of_read (read?_fresh h.storable hencode)
  obtain ⟨hleeway, hgood, -⟩ :=
    svc.codec.checkValidity_eq_ok.mp h.resets.valid
  refine ⟨⟨hleeway, ?_, h.storable⟩,
    Option.some.inj (hp.symm.trans (Payload.ofClaims?_toClaims _))⟩
  have hexp := toNat_expiry h.storable.le_greatest w.seconds
  dsimp only at hgood
  omega

/-- A reset token whose mark is there is turned down. -/
theorem confirmPasswordReset_of_marked {v : Codec.Validity} {p : Payload}
    (h : svc.Resets w t v p)
    (hpolicy : svc.policy.validate new = .ok ())
    (hset : w.outages .setIfAbsent = none)
    (hmark : (w.live.get? (markOf p t)).isSome = true) :
    (svc.confirmPasswordReset t new w).1 =
      .error (.rejected .alreadyCompleted) :=
  svc.confirmPasswordReset_of_redeemed w (congrArg Prod.fst h.verifyPurpose)
    hpolicy hset hmark

/-- A token that has just been redeemed passes as before, but its mark is
there. -/
theorem resets_of_redeemed {w₁ : World}
    (hlives : 0 < svc.lifetimes.resetPassword.toNat)
    (h : svc.confirmPasswordReset t new w = (.ok (), w₁)) :
    ∃ v p, svc.Resets w₁ t v p ∧ w₁.outages .setIfAbsent = none ∧
      (w₁.live.get? (markOf p t)).isSome = true := by
  obtain ⟨v, p, hredeems, hfails, -⟩ := confirmPasswordReset_eq_ok h
  have hchanges := changes_of_confirmPasswordReset h
  refine ⟨v, p, ⟨hredeems.resets.read, ?_⟩,
    hfails.outages ▸ hredeems.setIfAbsent, ?_⟩
  · rw [hchanges.seconds]
    exact hredeems.resets.valid
  · obtain ⟨hkeeps, -⟩ := confirmPasswordReset_mark h hredeems.resets
    have hlt : w₁.clock < w.clock + toMillis svc.lifetimes.resetPassword := by
      rw [hchanges.clock, toMillis]
      omega
    obtain ⟨entry, hentry, -⟩ := hkeeps hlt
    exact Option.isSome_iff_exists.mpr ⟨entry, hentry⟩

/-- **A fresh reset token is redeemed exactly if the same token has not been
redeemed lately.** It sets the password then, and it is turned down otherwise,
provided that the numbers are in range. -/
theorem fresh_token_redeemed_iff {w₀ w' : World} (hnew : w₀.IsNew)
    (hstore : ∀ call, w₀.outages call = none) (past : List Event)
    (hpast : ∀ e ∈ past, e.sparesStore = true) (hw : w = svc.after w₀ past)
    (hdirectory : w.directoryOutage = none) (hhasher : w.hasherOutage = none)
    (hfind : w.users.find? id = some u) (hid : u.id = id)
    (hpolicy : svc.policy.validate new = .ok ())
    (haccepts : svc.hasher.Accepts new)
    (hrequest : svc.requestPasswordReset id w = (.ok t, w')) :
    ((svc.confirmPasswordReset t new w').1 = .ok () ↔
      svc.CanReset w ∧ ¬ svc.RedeemedLately w₀ past id (resetDigest t)) ∧
    ((svc.confirmPasswordReset t new w').1 = .ok () →
      ∃ u', (svc.confirmPasswordReset t new w').2.users.find? id = some u' ∧
        svc.hasher.verify new u'.passwordHash = .ok true) ∧
    (svc.CanReset w → svc.RedeemedLately w₀ past id (resetDigest t) →
      (svc.confirmPasswordReset t new w').1 =
        .error (.rejected .alreadyCompleted)) := by
  obtain ⟨hencode, hsame⟩ := fresh_of_request hdirectory hfind hrequest
  rw [hsame]
  subst hid
  have houtages : ∀ call, w.outages call = none := fun call => by
    rw [hw, outages_after hpast hnew.forcedReply, hstore]
  have hmark : (w.live.get? (Key.redeemed u.id (resetDigest t))).isSome =
      true ↔ svc.RedeemedLately w₀ past u.id (resetDigest t) := by
    rw [hw]
    exact isSome_get?_redeemed_iff hnew hpast (hstore .delete)
      (Confined.no_colon_resetDigest t)
  have hstores : w.Stores svc u.id new := by
    obtain ⟨hash, hhash, -⟩ := haccepts (Action.nextSalt w)
    exact ⟨by rw [hhasher]; exact nofun, ⟨hash, hhash⟩,
      by rw [hdirectory]; exact nofun, by rw [hfind]; rfl⟩
  refine ⟨⟨fun hok => ?_, fun ⟨hcan, hfresh⟩ => ?_⟩, fun hok => ?_,
    fun hcan hlately => ?_⟩
  · obtain ⟨v, p, hredeems, -⟩ :=
      confirmPasswordReset_eq_ok (perform_confirmPasswordReset hok)
    obtain ⟨hcan, rfl⟩ := hredeems.of_fresh hencode
    refine ⟨hcan, fun hlately => ?_⟩
    have hnone : w.live.get? (Key.redeemed u.id (resetDigest t)) = none :=
      hredeems.unmarked
    rw [← hmark, hnone] at hlately
    cases hlately
  · have hnone : w.live.get? (Key.redeemed u.id (resetDigest t)) = none := by
      rw [← Option.not_isSome_iff_eq_none, hmark]
      exact hfresh
    exact confirmPasswordReset_of_redeems ⟨hcan.resets hencode, hpolicy,
      houtages _, hcan.storable, hnone, hstores⟩ ⟨houtages _, houtages _⟩
  · obtain ⟨v, p, hredeems, -, hash, hhash, husers⟩ :=
      confirmPasswordReset_eq_ok (perform_confirmPasswordReset hok)
    obtain ⟨-, rfl⟩ := hredeems.of_fresh hencode
    obtain ⟨hash', hhash', hverify⟩ := haccepts (Action.nextSalt w)
    cases hhash.symm.trans hhash'
    refine ⟨{ u with passwordHash := hash }, ?_, hverify⟩
    have hstored : (svc.confirmPasswordReset t new w).2.users =
        w.users.withHash u.id hash := husers
    rw [hstored, Directory.find?_withHash, hfind]
    rfl
  · exact confirmPasswordReset_of_marked (hcan.resets hencode) hpolicy
      (houtages _) (hmark.mpr hlately)

/-- Whoever asks again in the second in which a token has been redeemed is given
that token, and it is turned down. -/
theorem same_second_token_refused {w₁ : World}
    (hlives : 0 < svc.lifetimes.resetPassword.toNat)
    (hdirectory : w.directoryOutage = none)
    (hfind : w.users.find? id = some u) (hid : u.id = id)
    (hrequest : svc.requestPasswordReset id w = (.ok t, w))
    (hredeemed : svc.confirmPasswordReset t new w = (.ok (), w₁)) :
    svc.requestPasswordReset id w₁ = (.ok t, w₁) ∧
      ∀ new', svc.policy.validate new' = .ok () →
        (svc.confirmPasswordReset t new' w₁).1 =
          .error (.rejected .alreadyCompleted) := by
  obtain ⟨hencode, -⟩ := fresh_of_request hdirectory hfind hrequest
  subst hid
  obtain ⟨v, p, hredeems, hfails, hash, -, husers⟩ :=
    confirmPasswordReset_eq_ok hredeemed
  obtain ⟨-, rfl⟩ := hredeems.of_fresh hencode
  have hchanges := changes_of_confirmPasswordReset hredeemed
  -- The password is another one now, but a token says nothing of passwords.
  have hfind₁ : w₁.users.find? u.id =
      some { u with passwordHash := hash } := by
    have hsub : (svc.freshReset w u).sub = u.id := rfl
    rw [husers, hsub, Directory.find?_withHash, hfind]
    rfl
  have hsame : svc.freshReset w₁ { u with passwordHash := hash } =
      svc.freshReset w u := by
    rw [freshReset, freshReset, hchanges.seconds]
  have hasked : w₁.directoryOutage ≠ some .find := by
    rw [hfails.directory, hdirectory]
    exact nofun
  obtain ⟨t₁, hencode₁, hgiven₁⟩ :=
    svc.requestPasswordReset_of_find hasked hfind₁
  rw [hsame, hencode] at hencode₁
  cases hencode₁
  refine ⟨hgiven₁, fun new' hpolicy => ?_⟩
  obtain ⟨v, p, hresets, hset, hmark⟩ := resets_of_redeemed hlives hredeemed
  exact confirmPasswordReset_of_marked hresets hpolicy hset hmark

end

/-! ## A trial -/

theorem accepts_trial (password : String) :
    trial.hasher.Accepts password := by
  refine fun _ => ⟨"plain:" ++ password, rfl, ?_⟩
  show Except.ok (decide ("plain:" ++ password = "plain:" ++ password)) = _
  rw [decide_eq_true rfl]

/-- A token that is asked for twice in a second, and has not been redeemed, is
redeemed. -/
theorem trial_fresh_token_redeemed :
    let w := trial.after (.initial 1700000000000) (trialPast 0)
    trial.requestPasswordReset "u" w = (.ok trialToken, w) ∧
      (trial.confirmPasswordReset trialToken Password.trialPhrase w).1 =
        .ok () ∧
      ∃ u, (trial.confirmPasswordReset trialToken Password.trialPhrase
          w).2.users.find? "u" = some u ∧
        trial.hasher.verify Password.trialPhrase u.passwordHash =
          .ok true := by
  intro w
  have hafter : w = trial.after (.initial 1700000000000) (trialPast 0) := rfl
  have hw : w = trialWorld 0 := after_trialPast 0
  clear_value w
  have hrequest : trial.requestPasswordReset "u" w = (.ok trialToken, w) := by
    rw [hw]
    exact requestPasswordReset_trial
  have hcan : trial.CanReset w := by
    rw [hw]
    exact ⟨by decide, by decide, by decide⟩
  have hnew : (World.initial 1700000000000).IsNew := ⟨rfl, rfl⟩
  have hpast : ∀ e ∈ trialPast 0, e.sparesStore = true := by
    intro e he
    simp only [trialPast, List.mem_cons, List.not_mem_nil, or_false] at he
    rcases he with rfl | rfl | rfl <;> rfl
  have hfresh : ¬ trial.RedeemedLately (.initial 1700000000000) (trialPast 0)
      "u" (resetDigest trialToken) := by
    rintro ⟨before, e, later, hsplit, hredeems, -⟩
    have he : e ∈ trialPast 0 := by
      rw [hsplit]
      exact List.mem_append_right before List.mem_cons_self
    simp only [trialPast, List.mem_cons, List.not_mem_nil, or_false] at he
    rcases he with rfl | rfl | rfl <;> exact hredeems
  have hfind : w.users.find? "u" =
      some ⟨"u", "u@example.com", "", true, true⟩ := by
    rw [hw]
    rfl
  obtain ⟨hiff, hstored, -⟩ := fresh_token_redeemed_iff hnew (fun _ => rfl)
    (trialPast 0) hpast hafter (by rw [hw]; rfl) (by rw [hw]; rfl) hfind rfl
    Password.validate_trialPhrase (accepts_trial _) hrequest
  have hok := hiff.mpr ⟨hcan, hfresh⟩
  exact ⟨hrequest, hok, hstored hok⟩

/-- A token that is asked for again after it has been redeemed, in the same
second, is given once more and turned down. -/
theorem trial_fresh_token_refused :
    let w := trial.next (trial.after (.initial 1700000000000) (trialPast 0))
      (.request (.confirmPasswordReset trialToken Password.trialPhrase))
    (∀ call, w.outages call = none) ∧ w.directoryOutage = none ∧
      w.hasherOutage = none ∧
      trial.policy.validate Password.trialPhrase = .ok () ∧
      trial.requestPasswordReset "u" w = (.ok trialToken, w) ∧
      (trial.confirmPasswordReset trialToken Password.trialPhrase w).1 =
        .error (.rejected .alreadyCompleted) := by
  intro w
  have hredeemed : trial.confirmPasswordReset trialToken Password.trialPhrase
      (trialWorld 0) = (.ok (), w) := by
    rw [← after_trialPast 0]
    exact perform_confirmPasswordReset (confirmPasswordReset_trial (by decide))
  obtain ⟨-, -, -, hfails, -⟩ := confirmPasswordReset_eq_ok hredeemed
  have hfind : (trialWorld 0).users.find? "u" =
      some ⟨"u", "u@example.com", "", true, true⟩ := rfl
  obtain ⟨hagain, hrefused⟩ := same_second_token_refused (by decide) rfl hfind
    rfl requestPasswordReset_trial hredeemed
  exact ⟨fun call => by rw [hfails.outages]; rfl, hfails.directory,
    hfails.hasher, Password.validate_trialPhrase, hagain,
    hrefused _ Password.validate_trialPhrase⟩

end Service

end SessionTokens
