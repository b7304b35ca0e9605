import SessionTokens.Proofs.Effects
import SessionTokens.Session.Flows

/-!
# What comes of asking for accounts and storing passwords

The directory and the hasher fail on their own account, not with the store, and
a call of theirs that fails changes nothing but the number of salts drawn. A
password is replaced in three steps: the new one is hashed, the hash is stored,
and the sessions of the account are swept. When one of the first two fails
nothing has happened yet. After them the sweep is all that can fail, and it
takes every session or none.
-/

namespace SessionTokens

/-! ## The directory and the hasher -/

/-- The accounts with another stored password for one of them. -/
def Directory.withHash (d : Directory) (id hash : String) : Directory :=
  (d.update id fun u => { u with passwordHash := hash }).2

theorem Directory.find?_withHash (d : Directory) (id hash : String) :
    (d.withHash id hash).find? id =
      (d.find? id).map fun u => { u with passwordHash := hash } := by
  unfold withHash update
  cases hu : d.find? id with
  | none => exact hu
  | some u => exact find?_put_self ..

theorem Directory.withHash_of_none {d : Directory} {id : String}
    (h : d.find? id = none) (hash : String) : d.withHash id hash = d := by
  rw [withHash, update, h]

theorem Directory.find?_withHash_of_ne (d : Directory) {id key : String}
    (h : key ≠ id) (hash : String) :
    (d.withHash id hash).find? key = d.find? key := by
  unfold withHash update
  cases d.find? id with
  | none => rfl
  | some u => exact find?_put_of_ne h

namespace Action

/-- Asking for an account changes nothing, and only the directory counts. -/
theorem requireUser_apply (id : String) (missing : ServiceError) (w : World) :
    Service.requireUser id missing w =
      (if w.directoryOutage = some .find then .error .directoryUnavailable
        else .ofOption missing (w.users.find? id), w) := by
  rw [Service.requireUser, bind_apply, findUser, callDirectory]
  by_cases hout : w.directoryOutage = some .find
  · rw [if_pos hout, if_pos hout]
  · rw [if_neg hout, if_neg hout]
    dsimp only
    cases w.users.find? id <;> rfl

theorem requireUser_eq_ok {id : String} {missing : ServiceError} {w w₁ : World}
    {u : User} (h : Service.requireUser id missing w = (.ok u, w₁)) :
    w₁ = w ∧ w.users.find? id = some u := by
  rw [requireUser_apply] at h
  obtain ⟨hanswer, rfl⟩ := Prod.mk.inj h
  refine ⟨rfl, ?_⟩
  split at hanswer
  · cases hanswer
  · cases hfind : w.users.find? id with
    | none => rw [hfind] at hanswer; cases hanswer
    | some v => rw [hfind] at hanswer; cases hanswer; rfl

theorem verifyPassword_snd (h : Hasher) (password hash : String) (w : World) :
    (verifyPassword h password hash w).2 = w := by
  unfold verifyPassword
  split <;> rfl

/-- The salt that is drawn next. -/
def nextSalt (w : World) : List UInt8 :=
  (List.range 16).map fun i => UInt8.ofNat (w.salts / Nat.pow 256 i)

theorem hashPassword_apply (h : Hasher) (password : String) (w : World) :
    hashPassword h password w =
      if w.hasherOutage = some .hash then (.error .hasherUnavailable, w)
      else (.ofExcept (h.hash (nextSalt w) password),
        { w with salts := w.salts + 1 }) := rfl

theorem hashPassword_eq_ok {h : Hasher} {password hash : String}
    {w w' : World} :
    hashPassword h password w = (.ok hash, w') ↔
      w.hasherOutage ≠ some .hash ∧ h.hash (nextSalt w) password = .ok hash ∧
        w' = { w with salts := w.salts + 1 } := by
  rw [hashPassword_apply]
  by_cases hout : w.hasherOutage = some .hash
  · rw [if_pos hout]
    exact iff_of_false (by simp) fun hok => hok.1 hout
  · rw [if_neg hout]
    cases h.hash (nextSalt w) password with
    | error e => exact iff_of_false (by simp [Outcome.ofExcept]) (by simp)
    | ok hash' =>
        constructor
        · intro heq
          cases heq
          exact ⟨hout, rfl, rfl⟩
        · rintro ⟨-, hhash, rfl⟩
          cases hhash
          rfl

theorem updatePasswordHash_eq_ok {id hash : String} {b : Bool} {w w' : World} :
    updatePasswordHash id hash w = (.ok b, w') ↔
      w.directoryOutage ≠ some .updateHash ∧ b = (w.users.find? id).isSome ∧
        w' = { w with users := w.users.withHash id hash } := by
  unfold updatePasswordHash callDirectory
  by_cases hout : w.directoryOutage = some .updateHash
  · rw [if_pos hout]
    exact ⟨nofun, fun hok => absurd hout hok.1⟩
  · rw [if_neg hout]
    have hfst : (w.users.update id fun u => { u with passwordHash := hash }).1 =
        (w.users.find? id).isSome := by
      unfold Directory.update
      cases w.users.find? id <;> rfl
    dsimp only
    rw [hfst]
    constructor
    · intro heq
      cases heq
      exact ⟨hout, rfl, rfl⟩
    · rintro ⟨-, rfl, rfl⟩
      rfl

end Action

/-! ## Replacing a password -/

/-- A new password of the account can be stored. -/
structure World.Stores (svc : Service) (id new : String) (w : World) :
    Prop where
  hasher : w.hasherOutage ≠ some .hash
  hash : ∃ hash, svc.hasher.hash (Action.nextSalt w) new = .ok hash
  directory : w.directoryOutage ≠ some .updateHash
  user : (w.users.find? id).isSome = true

/-- The same things are out of order in both worlds. -/
structure World.FailsLike (w w' : World) : Prop where
  outages : w'.outages = w.outages
  directory : w'.directoryOutage = w.directoryOutage
  hasher : w'.hasherOutage = w.hasherOutage

theorem World.FailsLike.trans {w w' w'' : World} (h : w.FailsLike w')
    (h' : w'.FailsLike w'') : w.FailsLike w'' :=
  ⟨h'.outages.trans h.outages, h'.directory.trans h.directory,
    h'.hasher.trans h.hasher⟩

theorem World.Becomes.failsLike {w w' : World} {k : Keyspace}
    (h : w.Becomes k w') :
    w.FailsLike w' := by
  constructor <;> rw [h.rest]

theorem World.Becomes.nextSalt {w w' : World} {k : Keyspace}
    (h : w.Becomes k w') : Action.nextSalt w' = Action.nextSalt w := by
  rw [h.rest]
  rfl

theorem World.Becomes.stores {svc : Service} {w w' : World} {k : Keyspace}
    {id new : String} (h : w.Becomes k w') :
    w'.Stores svc id new ↔ w.Stores svc id new := by
  constructor
  · rintro ⟨hhasher, hhash, hdirectory, huser⟩
    rw [h.failsLike.hasher] at hhasher
    rw [h.failsLike.directory] at hdirectory
    rw [h.users] at huser
    exact ⟨hhasher, h.nextSalt ▸ hhash, hdirectory, huser⟩
  · rintro ⟨hhasher, hhash, hdirectory, huser⟩
    rw [← h.failsLike.hasher] at hhasher
    rw [← h.failsLike.directory] at hdirectory
    rw [← h.users] at huser
    exact ⟨hhasher, h.nextSalt ▸ hhash, hdirectory, huser⟩

namespace Service

variable {svc : Service} {w w' : World} {id new hash : String}

/-- The world in which a password has been hashed and stored. -/
def storing (w : World) (id hash : String) : World :=
  { w with
    salts := w.salts + 1
    users := w.users.withHash id hash }

theorem change_storing (svc : Service) (w : World) (id hash : String) :
    Change svc .pass w (storing w id hash) :=
  .of_live rfl rfl rfl rfl rfl (Nat.le_refl _)

/-- A password that can be stored is stored, whatever comes of the sweep that
follows. -/
theorem replacePassword_of_hash (h : w.Stores svc id new)
    (hhash : svc.hasher.hash (Action.nextSalt w) new = .ok hash) :
    ∃ w', (svc.replacePassword id new w = (.ok (), w') ∧
        (storing w id hash).Becomes (w.live.withoutSessions id) w' ∧
        w.swept id = w.live.withoutSessions id) ∨
      (∃ e, svc.replacePassword id new w = (.error e, w') ∧
        (storing w id hash).Becomes w.live w' ∧ ¬ w.Sweepable) := by
  have hhashed := Action.hashPassword_eq_ok.mpr ⟨h.hasher, hhash, rfl⟩
  have hupdated :
      Action.updatePasswordHash id hash { w with salts := w.salts + 1 } =
      (.ok true, storing w id hash) :=
    Action.updatePasswordHash_eq_ok.mpr ⟨h.directory, h.user.symm, rfl⟩
  rw [replacePassword, Action.bind_of_ok hhashed, Action.bind_of_ok hupdated,
    if_pos rfl]
  obtain ⟨w₁, ⟨n, hall, hb, hswept⟩ | ⟨e, hall, hb, hnot⟩⟩ :=
    svc.invalidateAll_spec id (storing w id hash)
  · exact ⟨w₁, .inl ⟨Action.bind_of_ok hall, hb, hswept⟩⟩
  · exact ⟨w₁, .inr ⟨e, Action.bind_of_error hall, hb, hnot⟩⟩

theorem replacePassword_of_stores (h : w.Stores svc id new) (hs : w.Sweepable) :
    ∃ w', svc.replacePassword id new w = (.ok (), w') := by
  obtain ⟨hash, hhash⟩ := h.hash
  obtain ⟨w₁, ⟨hok, -⟩ | ⟨e, -, -, hnot⟩⟩ := replacePassword_of_hash h hhash
  · exact ⟨w₁, hok⟩
  · exact absurd hs hnot

/-- One that cannot be stored leaves no trace. -/
theorem replacePassword_of_not_stores (h : ¬ w.Stores svc id new) :
    ∃ e w', svc.replacePassword id new w = (.error e, w') ∧
      Change svc .pass w w' ∧ w'.users = w.users := by
  -- Drawing a salt is all that may have happened.
  have hdrawn : Change svc .pass w { w with salts := w.salts + 1 } :=
    .of_live rfl rfl rfl rfl rfl (Nat.le_refl _)
  by_cases hdown : w.hasherOutage = some .hash
  · have hhashed : Action.hashPassword svc.hasher new w =
        (.error .hasherUnavailable, w) := if_pos hdown
    exact ⟨_, w, Action.bind_of_error hhashed, .pass_of_becomes (.refl w), rfl⟩
  cases hhash : svc.hasher.hash (Action.nextSalt w) new with
  | error e =>
      have hhashed : Action.hashPassword svc.hasher new w =
          (.error e, { w with salts := w.salts + 1 }) := by
        rw [Action.hashPassword_apply, if_neg hdown, hhash]
        rfl
      exact ⟨e, _, Action.bind_of_error hhashed, hdrawn, rfl⟩
  | ok hash =>
      have hhashed := Action.hashPassword_eq_ok.mpr ⟨hdown, hhash, rfl⟩
      rw [replacePassword, Action.bind_of_ok hhashed]
      by_cases hout : w.directoryOutage = some .updateHash
      · have hupdated :
            Action.updatePasswordHash id hash
                { w with salts := w.salts + 1 } =
              (.error .directoryUnavailable, { w with salts := w.salts + 1 }) :=
          if_pos hout
        exact ⟨_, _, Action.bind_of_error hupdated, hdrawn, rfl⟩
      · cases hu : w.users.find? id with
        | some u => exact absurd ⟨hdown, ⟨hash, hhash⟩, hout, by rw [hu]; rfl⟩ h
        | none =>
            have hupdated :
                Action.updatePasswordHash id hash
                    { w with salts := w.salts + 1 } =
                  (.ok false, storing w id hash) :=
              Action.updatePasswordHash_eq_ok.mpr
                ⟨hout, (congrArg Option.isSome hu).symm, rfl⟩
            rw [Action.bind_of_ok hupdated]
            exact ⟨_, storing w id hash, rfl, change_storing svc w id hash,
              Directory.withHash_of_none hu hash⟩

theorem replacePassword_eq_ok
    (h : svc.replacePassword id new w = (.ok (), w')) :
    w.Stores svc id new ∧ w.FailsLike w' ∧
      ∃ hash, svc.hasher.hash (Action.nextSalt w) new = .ok hash ∧
        w'.users = w.users.withHash id hash := by
  by_cases hstores : w.Stores svc id new
  · obtain ⟨hash, hhash⟩ := hstores.hash
    obtain ⟨w₁, ⟨hok, hb, -⟩ | ⟨e, herror, -⟩⟩ :=
      replacePassword_of_hash hstores hhash
    · cases hok.symm.trans h
      have hfails := hb.failsLike
      exact ⟨hstores, ⟨hfails.outages, hfails.directory, hfails.hasher⟩, hash,
        hhash, hb.users⟩
    · cases herror.symm.trans h
  · obtain ⟨e, w₁, herror, -⟩ := replacePassword_of_not_stores hstores
    cases herror.symm.trans h

/-- Storing a new password ends with a sweep that takes everything, or fails
and leaves the entries as they are. -/
theorem replacePassword_spec (svc : Service) (id new : String) (w : World) :
    ∃ w₂, (svc.replacePassword id new w = (.ok (), w₂) ∧
        ∃ w₁, Change svc .pass w w₁ ∧
          w₁.Becomes (w₁.live.withoutSessions id) w₂ ∧
          w₁.swept id = w₁.live.withoutSessions id) ∨
      (∃ e, svc.replacePassword id new w = (.error e, w₂) ∧
        Change svc .pass w w₂) := by
  by_cases hstores : w.Stores svc id new
  · obtain ⟨hash, hhash⟩ := hstores.hash
    have hstored := change_storing svc w id hash
    obtain ⟨w₂, ⟨hok, hb, hswept⟩ | ⟨e, herror, hb, -⟩⟩ :=
      replacePassword_of_hash hstores hhash
    · exact ⟨w₂, .inl ⟨hok, _, hstored, hb, hswept⟩⟩
    · exact ⟨w₂, .inr ⟨e, herror, hstored.pass_trans (.pass_of_becomes hb)⟩⟩
  · obtain ⟨e, w₂, herror, hpass, -⟩ := replacePassword_of_not_stores hstores
    exact ⟨w₂, .inr ⟨e, herror, hpass⟩⟩

/-! ## Changing a password -/

/-- The account of this identifier may get the new password: it can be looked
up, the current password is its own, and the new one is another that the policy
takes. -/
structure Approves (svc : Service) (w : World) (id current new : String)
    (u : User) : Prop where
  reached : w.directoryOutage ≠ some .find
  found : w.users.find? id = some u
  checked : w.hasherOutage ≠ some .verify
  verified : svc.hasher.verify current u.passwordHash = .ok true
  changed : current ≠ new
  policy : svc.policy.validate new = .ok ()

variable {current : String} {u : User}

theorem changePassword_of_found (hreached : w.directoryOutage ≠ some .find)
    (hfound : w.users.find? id = some u) :
    svc.changePassword id current new w = (do
      if ← Action.verifyPassword svc.hasher current u.passwordHash then
        Action.ensure (Password.validateChanged current new)
        Action.ensure (svc.policy.validate new)
        svc.replacePassword u.id new
      else Action.fail .incorrectCurrentPassword :
        Action ServiceError Unit) w := by
  have huser : requireUser id .userNotFound w = (.ok u, w) := by
    rw [Action.requireUser_apply, if_neg hreached, hfound]
    rfl
  exact Action.bind_of_ok huser

theorem changePassword_of_approves (h : svc.Approves w id current new u) :
    svc.changePassword id current new w = svc.replacePassword u.id new w := by
  have hverify :
      Action.verifyPassword svc.hasher current u.passwordHash w =
        (.ok true, w) := by
    rw [Action.verifyPassword, if_neg h.checked, h.verified]
    rfl
  rw [changePassword_of_found h.reached h.found, Action.bind_of_ok hverify,
    if_pos rfl, Password.validateChanged, if_neg h.changed, h.policy]
  rfl

/-- The checks change nothing. -/
theorem changePassword_of_not_approves
    (h : ∀ u, ¬ svc.Approves w id current new u) :
    ∃ e, svc.changePassword id current new w = (.error e, w) := by
  by_cases hreached : w.directoryOutage = some .find
  · have huser : requireUser id .userNotFound w =
        (.error .directoryUnavailable, w) := by
      rw [Action.requireUser_apply, if_pos hreached]
    exact ⟨_, Action.bind_of_error huser⟩
  cases hfound : w.users.find? id with
  | none =>
      have huser : requireUser id .userNotFound w =
          (.error .userNotFound, w) := by
        rw [Action.requireUser_apply, if_neg hreached, hfound]
        rfl
      exact ⟨_, Action.bind_of_error huser⟩
  | some u =>
      rw [changePassword_of_found hreached hfound]
      by_cases hchecked : w.hasherOutage = some .verify
      · have hverify :
            Action.verifyPassword svc.hasher current u.passwordHash w =
              (.error .hasherUnavailable, w) := if_pos hchecked
        exact ⟨_, Action.bind_of_error hverify⟩
      have hverify :
          Action.verifyPassword svc.hasher current u.passwordHash w =
            (.ofExcept (svc.hasher.verify current u.passwordHash), w) :=
        if_neg hchecked
      cases hcurrent : svc.hasher.verify current u.passwordHash with
      | error e =>
          rw [hcurrent] at hverify
          exact ⟨e, Action.bind_of_error hverify⟩
      | ok good =>
          rw [hcurrent] at hverify
          rw [Action.bind_of_ok hverify]
          cases good with
          | false => exact ⟨_, rfl⟩
          | true =>
              rw [if_pos rfl, Password.validateChanged]
              by_cases hchanged : current = new
              · rw [if_pos hchanged]
                exact ⟨_, rfl⟩
              rw [if_neg hchanged]
              cases hpolicy : svc.policy.validate new with
              | error e => exact ⟨e, rfl⟩
              | ok _ =>
                  exact absurd ⟨hreached, hfound, hchecked, hcurrent, hchanged,
                    hpolicy⟩ (h u)

/-- What is asked before a password is changed has one answer that lets it be
replaced, and any other is the end of it. -/
theorem changePassword_cases (svc : Service) (w : World)
    (id current new : String) :
    (∃ u, svc.Approves w id current new u ∧
      svc.changePassword id current new w = svc.replacePassword u.id new w) ∨
    ((∀ u, ¬ svc.Approves w id current new u) ∧
      ∃ e, svc.changePassword id current new w = (.error e, w)) := by
  by_cases h : ∃ u, svc.Approves w id current new u
  · obtain ⟨u, hu⟩ := h
    exact .inl ⟨u, hu, changePassword_of_approves hu⟩
  · have hnone : ∀ u, ¬ svc.Approves w id current new u :=
      fun u hu => h ⟨u, hu⟩
    exact .inr ⟨hnone, changePassword_of_not_approves hnone⟩

end Service

end SessionTokens
