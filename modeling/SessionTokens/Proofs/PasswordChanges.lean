import SessionTokens.Proofs.Invalidation
import SessionTokens.Proofs.Redemption
import SessionTokens.Proofs.Subjects

/-!
# A password is replaced whole

Whatever is out of order while a password is replaced, one question tells what
has become of the account: whether the password could be stored. If it could,
the sweep of the sessions is all that can have failed. Redeeming a reset token
asks the question between setting a mark and releasing it, and changing a
password asks it after three checks of its own.
-/

namespace SessionTokens

/-- The account has this as its stored password now, and no account differs
otherwise. -/
def World.Rehashes (w : World) (id hash : String) (w' : World) : Prop :=
  ∃ u, w.users.find? id = some u ∧ ∀ key, w'.users.find? key =
    if key = id then some { u with passwordHash := hash }
    else w.users.find? key

theorem World.rehashes_of_users {w w' : World} {id hash : String}
    (huser : (w.users.find? id).isSome = true)
    (h : w'.users = w.users.withHash id hash) : w.Rehashes id hash w' := by
  obtain ⟨u, hu⟩ := Option.isSome_iff_exists.mp huser
  refine ⟨u, hu, fun key => ?_⟩
  rw [h]
  split
  · next hkey =>
      rw [hkey, Directory.find?_withHash, hu]
      rfl
  · next hkey => exact w.users.find?_withHash_of_ne hkey hash

namespace Service

variable {svc : Service} {w w' : World} {id new token : String} {p : Payload}

/-! ## Redeeming a reset token -/

/-- Whether or not the mark can be released, the error is that of replacing the
password. -/
theorem settle_of_error (token : String) {e : ServiceError} {w₁ : World}
    (h : svc.replacePassword p.sub new w = (.error e, w₁)) :
    ∃ w₂, svc.settle p token new w = (.error e, w₂) ∧
      w₂.users = w₁.users := by
  rw [settle, Action.bind_of_ok (Action.attempt_of_error h)]
  dsimp only
  cases hout : w₁.outages .delete with
  | none =>
      obtain ⟨n, w₂, hdelete, hb, -⟩ :=
        Store.delete_of_none hout [markOf p token]
      exact ⟨w₂, Action.bind_of_ok (Action.attempt_of_ok hdelete), hb.users⟩
  | some how =>
      have hdelete : Store.delete [markOf p token] w₁ =
          (.error (.storeFailed .delete how), w₁) := Store.call_of_some hout _
      exact ⟨w₁, Action.bind_of_ok (Action.attempt_of_error hdelete), rfl⟩

/-- When the password is not replaced after the mark has been set, the accounts
are as before, or else the sweep is what failed. -/
theorem users_of_settle {e : ServiceError}
    (h : svc.settle p token new w = (.error e, w')) :
    w'.users = w.users ∨ ¬ w.Sweepable ∧ ∃ hash,
      svc.hasher.hash (Action.nextSalt w) new = .ok hash ∧
      w.Rehashes p.sub hash w' := by
  by_cases hstores : w.Stores svc p.sub new
  · obtain ⟨hash, hhash⟩ := hstores.hash
    obtain ⟨w₁, ⟨hok, -⟩ | ⟨e', herror, hb, hnot⟩⟩ :=
      replacePassword_of_hash hstores hhash
    · cases (svc.settle_of_ok hok).symm.trans h
    · obtain ⟨w₂, hsettle, husers⟩ := settle_of_error token herror
      cases hsettle.symm.trans h
      exact .inr ⟨hnot, hash, hhash,
        World.rehashes_of_users hstores.user (husers.trans hb.users)⟩
  · obtain ⟨e', w₁, herror, -, hsame⟩ := replacePassword_of_not_stores hstores
    obtain ⟨w₂, hsettle, husers⟩ := settle_of_error token herror
    cases hsettle.symm.trans h
    exact .inl (husers.trans hsame)

/-- A redemption fails with the accounts as they were, or after its mark has
been set. -/
theorem settle_of_confirmPasswordReset {e : ServiceError}
    (h : svc.confirmPasswordReset token new w = (.error e, w')) :
    w'.users = w.users ∨ ∃ p k w₁,
      (svc.verifyPurpose token .resetPassword w).1 = .ok p ∧
      w.Becomes k w₁ ∧ svc.settle p token new w₁ = (.error e, w') := by
  rcases Action.bind_eq_error h with hrefused | ⟨p, w₁, hverify, h₁⟩
  · have hsame : w' = w := by
      rw [← svc.verifyPurpose_snd w token .resetPassword]
      exact (congrArg Prod.snd hrefused).symm
    exact .inl (congrArg World.users hsame)
  have hp := Action.mapError_eq_ok hverify
  have hsame : w₁ = w := by
    rw [← svc.verifyPurpose_snd w token .resetPassword, hp]
  subst hsame
  rcases Action.bind_eq_error h₁ with hweak | ⟨_, w₂, hgood, h₂⟩
  · cases congrArg Prod.snd hweak
    exact .inl rfl
  cases congrArg Prod.snd hgood
  have husers : ∀ {r : Outcome ServiceError Bool} {w₂ : World},
      Store.setIfAbsent (markOf p token) Key.redeemedMark
        (toMillis svc.lifetimes.resetPassword) w₁ = (r, w₂) →
      w₂.users = w₁.users := fun hset =>
    (congrArg (·.2.users) hset).symm.trans (Confined.call_users ..)
  rcases Action.bind_eq_error h₂ with hset | ⟨b, w₂, hset, h₃⟩
  · exact .inl (husers hset)
  cases b with
  | false =>
      cases h₃
      exact .inl (husers hset)
  | true =>
      obtain ⟨-, -, -, hb⟩ := Store.setIfAbsent_eq_true hset
      exact .inr ⟨p, _, w₂, congrArg Prod.fst hp, hb, h₃⟩

/-- A redemption that fails has not touched the accounts, unless the sweep is
what failed. -/
theorem users_of_confirmPasswordReset {e : ServiceError}
    (h : svc.confirmPasswordReset token new w = (.error e, w')) :
    w'.users = w.users ∨ ¬ w.Sweepable ∧ ∃ p hash,
      (svc.verifyPurpose token .resetPassword w).1 = .ok p ∧
      svc.hasher.hash (Action.nextSalt w) new = .ok hash ∧
      w.Rehashes p.sub hash w' := by
  rcases settle_of_confirmPasswordReset h with
    hsame | ⟨p, k, w₁, hp, hb, hsettle⟩
  · exact .inl hsame
  rcases users_of_settle hsettle with hsame | ⟨hnot, hash, hhash, hre⟩
  · exact .inl (hsame.trans hb.users)
  · rw [World.Rehashes, hb.users] at hre
    exact .inr ⟨fun hs => hnot (hb.sweepable.mpr hs), p, hash, hp,
      hb.nextSalt ▸ hhash, hre⟩

/-- As long as keys can be removed, a redemption that fails leaves every entry
with its value and its deadline: no mark of its own, and every mark of an
earlier one. The accounts are as before too, unless it was the enumeration for
the sweep that failed: then the subject has the new password already, and
nothing else has changed. -/
theorem failed_reset_spares {e : ServiceError}
    (hdelete : w.outages .delete = none)
    (h : svc.confirmPasswordReset token new w = (.error e, w')) :
    w'.live = w.live ∧ w'.clock = w.clock ∧ w'.wall = w.wall ∧
      (w'.users = w.users ∨ w.outages .scanPage ≠ none ∧ ∃ p hash,
        (svc.verifyPurpose token .resetPassword w).1 = .ok p ∧
        svc.hasher.hash (Action.nextSalt w) new = .ok hash ∧
        w.Rehashes p.sub hash w') := by
  have hpass : Change svc .pass w w' := by
    rcases svc.confirmPasswordReset_spec w token new with
      ⟨hok, -⟩ | ⟨-, hpass | ⟨hout, -⟩⟩
    · rw [h] at hok
      cases hok
    · rw [h] at hpass
      exact hpass
    · exact absurd hdelete hout
  refine ⟨hpass.live_of_pass, hpass.clock, hpass.wall, ?_⟩
  rcases users_of_confirmPasswordReset h with hsame | ⟨hnot, hrest⟩
  · exact .inl hsame
  · exact .inr ⟨fun hscan => hnot ⟨hscan, hdelete⟩, hrest⟩

/-- The accounts cannot be written to, and a redemption leaves no mark. -/
theorem trial_failed_reset_spares :
    let w := { trialWorld 0 with directoryOutage := some .updateHash }
    ∃ e w', trial.confirmPasswordReset trialToken Password.trialPhrase w =
        (.error e, w') ∧
      w'.live.get? (markOf trialReset trialToken) = none ∧
      w'.users = w.users := by
  intro w
  have hresets : trial.Resets w trialToken ⟨1700000600, false⟩ trialReset :=
    have h := (redeems_trial (Nat.zero_le _)).resets
    ⟨h.read, h.valid⟩
  have hunmarked : w.live.get? (markOf trialReset trialToken) = none := rfl
  have hstorable := storable_trial 0 (by decide)
  obtain ⟨w₁, hset, hb⟩ :=
    Store.setIfAbsent_of_none rfl hunmarked hstorable Key.redeemedMark
  have hstores : ¬ w₁.Stores trial trialReset.sub Password.trialPhrase :=
    fun h => h.directory hb.failsLike.directory
  obtain ⟨e, w₂, herror, -⟩ := replacePassword_of_not_stores hstores
  obtain ⟨w', hsettle, -⟩ := settle_of_error trialToken herror
  have hreset :
      trial.confirmPasswordReset trialToken Password.trialPhrase w =
        (.error e, w') := by
    rw [trial.confirmPasswordReset_of_ok w
      (congrArg Prod.fst hresets.verifyPurpose)
      Password.validate_trialPhrase, Action.bind_of_ok hset]
    exact hsettle
  obtain ⟨hlive, -, -, husers⟩ := failed_reset_spares rfl hreset
  refine ⟨e, w', hreset, hlive ▸ hunmarked, ?_⟩
  rcases husers with husers | ⟨hscan, -⟩
  · exact husers
  · exact absurd rfl hscan

/-! ## Changing a password -/

/-- A change of password never succeeds halfway, whatever is out of order. An
account is looked up by one identifier and changed by its own. If the change
succeeds, every check was passed, the new password is stored, and the sessions
of the account are gone and nothing else. If it fails, every entry is as it was,
and the password is the new one exactly if it passed every check and could be
stored, so that all that failed is the sweep. -/
theorem changePassword_never_halfway (svc : Service) (w : World)
    (id current new : String) :
    ∃ w',
      (svc.changePassword id current new w = (.ok (), w') ∧ ∃ u hash,
        svc.Approves w id current new u ∧ w.Stores svc u.id new ∧
        svc.hasher.hash (Action.nextSalt w) new = .ok hash ∧
        w.Rehashes u.id hash w' ∧ w.LosesSessions u.id w') ∨
      (∃ e, svc.changePassword id current new w = (.error e, w') ∧
        w'.live = w.live ∧
        ((∃ u hash, svc.Approves w id current new u ∧ w.Stores svc u.id new ∧
            ¬ w.Sweepable ∧
            svc.hasher.hash (Action.nextSalt w) new = .ok hash ∧
            w.Rehashes u.id hash w') ∨
          ((∀ u, svc.Approves w id current new u →
              ¬ w.Stores svc u.id new) ∧
            w'.users = w.users))) := by
  obtain ⟨u, hu, hchange⟩ | ⟨hnone, e, herror⟩ :=
    changePassword_cases svc w id current new
  · rw [hchange]
    by_cases hstores : w.Stores svc u.id new
    · obtain ⟨hash, hhash⟩ := hstores.hash
      obtain ⟨w', ⟨hok, hb, -⟩ | ⟨e, herror, hb, hnot⟩⟩ :=
        replacePassword_of_hash hstores hhash
      · exact ⟨w', .inl ⟨hok, u, hash, hu, hstores, hhash,
          World.rehashes_of_users hstores.user hb.users,
          World.losesSessions_of_live hb.live⟩⟩
      · exact ⟨w', .inr ⟨e, herror, hb.live, .inl ⟨u, hash, hu, hstores, hnot,
          hhash, World.rehashes_of_users hstores.user hb.users⟩⟩⟩
    · obtain ⟨e, w', herror, hpass, husers⟩ :=
        replacePassword_of_not_stores hstores
      refine ⟨w', .inr ⟨e, herror, hpass.live_of_pass,
        .inr ⟨fun v hv => ?_, husers⟩⟩⟩
      cases hu.found.symm.trans hv.found
      exact hstores
  · exact ⟨w, .inr ⟨e, herror, rfl, .inr ⟨fun u hu => absurd hu (hnone u),
      rfl⟩⟩⟩

/-- With everything in order the right password changes it: the session goes,
and that of a subject whose name begins like this one stays. -/
theorem crowded_changePassword_never_halfway :
    let w := { World.crowded with
      users := Directory.empty.put "a:*"
        (some ⟨"a:*", "a@example.com", "plain:secret", true, true⟩) }
    ∃ w', trial.changePassword "a:*" "secret" Password.trialPhrase w =
        (.ok (), w') ∧
      w'.live.get? "access:a:*:s1" = none ∧
      w'.live.get? "access:a:*:x:s2" = some ⟨"j3", 30⟩ := by
  intro w
  have happroves : trial.Approves w "a:*" "secret" Password.trialPhrase
      ⟨"a:*", "a@example.com", "plain:secret", true, true⟩ :=
    ⟨nofun, rfl, nofun, rfl, by decide, Password.validate_trialPhrase⟩
  have hstores : w.Stores trial "a:*" Password.trialPhrase :=
    ⟨nofun, ⟨_, rfl⟩, nofun, rfl⟩
  obtain ⟨w', ⟨hok, u, hash, hu, -, -, -, hloses⟩ |
      ⟨e, -, -, ⟨_, _, -, -, hnot, -⟩ | ⟨hnone, -⟩⟩⟩ :=
    changePassword_never_halfway trial w "a:*" "secret" Password.trialPhrase
  · cases happroves.found.symm.trans hu.found
    refine ⟨w', hok, ?_, (hloses _ _).mpr ⟨by decide +kernel, ?_⟩⟩
    · refine Option.eq_none_iff_forall_ne_some.mpr fun e he => ?_
      exact ((hloses _ _).mp he).2 ⟨.access, by decide, "s1", by decide, rfl⟩
    · rw [← Key.isSessionKeyOf_iff]
      decide +kernel
  · exact absurd ⟨rfl, rfl⟩ hnot
  · exact absurd hstores (hnone _ happroves)

end Service

end SessionTokens
