import SessionTokens.Proofs.Operations

/-!
# What a request can do

A request is an operation together with what it answers, and the answer limits
what it has done: a sweep shows in a rejection or in an operation that asked
for one, a token that was used up shows as such, and a family that is renewed
is that token's or a new one. The proof goes through the requests; each is a
chain of operations whose effects are known, and the work left is to read the
answer of the whole off the answers of the parts.
-/

namespace SessionTokens

namespace Service

variable {α : Type} {m : Action TokenError α} {w w' : World}

theorem outside_of_ok {a : α} (h : m w = (.ok a, w')) :
    outside m w = (.ok a, w') := by
  rw [outside, Action.mapError, h]
  rfl

theorem outside_of_error {e : TokenError} (h : m w = (.error e, w')) :
    outside m w = (.error e.toServiceError, w') := by
  rw [outside, Action.mapError, h]
  rfl

end Service

namespace Changes

variable {svc : Service} {P : Effect → Prop} {w : World}

/-! ## Requests about tokens -/

theorem pairFor (sub : String) (refresh : Issued)
    (hP : ∀ s j, refresh.payload.sessionId = some s → P (.access sub s j)) :
    Changes svc P w (svc.pairFor sub refresh w).2 := by
  unfold Service.pairFor
  cases hsession : refresh.payload.sessionId with
  | none => exact .done w
  | some session =>
      exact bind (issueAccess _ _ fun j => hP session j hsession)
        fun access w₁ _ => .done w₁

theorem login (id password : String) :
    Changes svc (svc.Allows w (.login id password)) w
      (svc.login id password w).2 := by
  refine bind (requireUser ..) fun user w₁ hw₁ => ?_
  obtain ⟨rfl, -⟩ := Action.requireUser_eq_ok hw₁
  refine bind (verifyPassword ..) fun good w₂ hw₂ => ?_
  have hsame : w₂ = w₁ := by
    rw [← Action.verifyPassword_snd svc.hasher password user.passwordHash w₁,
      hw₂]
  subst hsame
  split
  · refine bind (ensure _) fun _ w₃ hw₃ => ?_
    have hsame : w₃ = w₂ := (congrArg Prod.snd hw₃).symm
    subst hsame
    have hsession : svc.Enters w₃ (.login id password)
        (svc.ids (w₃.minted + 1)) := .inr ⟨_, Nat.lt_succ_self _, rfl⟩
    refine bind (issueRefresh _ _ _ fun j => ⟨hsession, ?_⟩)
      fun issued w₄ hissued => pairFor _ _ fun s j hs => ?_
    · exact .inr ⟨w₃.minted + 2, by omega, rfl⟩
    · obtain ⟨hpayload, -⟩ :=
        Service.issueRefresh_eq_ok (Action.mapError_eq_ok hissued)
      rw [hpayload] at hs
      cases hs
      exact hsession
  · exact .done w₂

/-- A compromised token is not refreshable. -/
theorem refreshable_ne_ok {bearer sub : String}
    (h : svc.compromised? w bearer = some sub) :
    ∀ a w', svc.refreshable bearer w ≠ (.ok a, w') := by
  intro a w' hok
  unfold Service.compromised? at h
  split at h
  · next hwhy =>
      cases hv : svc.verify bearer w with
      | mk r w₁ =>
        rw [hv] at hwhy
        cases r with
        | error e =>
            rw [Service.refreshable, Action.bind_apply] at hok
            have hmode : Service.outside (svc.verifyMode bearer .refresh) w =
                (.error e.toServiceError, w₁) :=
              Service.outside_of_error (Action.bind_of_error hv)
            rw [hmode] at hok
            cases hok
        | ok p => simp [Outcome.rejection?] at hwhy
        | outOfRange => simp [Outcome.rejection?] at hwhy
  · cases h

theorem refresh (bearer : String) (hforced : w.forcedReply = none) :
    Changes svc (svc.Allows w (.refresh bearer)) w
      (svc.refresh bearer w).2 := by
  have hrefreshable : Changes svc (svc.Allows w (.refresh bearer)) w
      (svc.refreshable bearer w).2 := by
    refine bind (mapError _ (verifyMode _ _ fun sub hw hsub => ⟨hw, ?_⟩))
      fun payload w₁ _ => ?_
    · rw [Service.swept?]
      split
      · next hok => exact absurd hok (refreshable_ne_ok hsub _ _)
      · exact hsub
    · refine bind (requireUser ..) fun user w₂ _ => ?_
      exact bind (ensure _) fun _ w₃ _ => .done w₃
  refine bind hrefreshable fun ⟨payload, user⟩ w₁ hok => ?_
  rw [hok] at hrefreshable
  have hretired : svc.retired? w (.refresh bearer) =
      (svc.retire payload.toClaims w₁).1.value? := by
    rw [Service.retired?, hok]
  have hswept : svc.swept? w (.refresh bearer) =
      svc.refused? w₁ payload.toClaims := by
    rw [Service.swept?, hok]
  have hrotate : Changes svc (svc.Allows w (.refresh bearer)) w₁
      (svc.rotate payload.toClaims w₁).2 := by
    refine rotate _ (by rw [hrefreshable.forcedReply, hforced]) ?_ ?_ ?_
    · intro t ht
      rw [Service.Allows, hretired, ht]
      rfl
    · intro t n j ht hn
      refine ⟨.inr ⟨n, Nat.lt_of_le_of_lt hrefreshable.minted hn, rfl⟩,
        .inl ?_⟩
      rw [Service.renewed?, hretired, ht]
      · rfl
      · exact nofun
    · intro sub hw hsub
      rw [Service.Allows, hswept, World.Sweepable, ← hrefreshable.outages]
      exact ⟨hw, hsub⟩
  refine bind (mapError _ hrotate) fun rotated w₂ hrotated =>
    pairFor _ _ fun s j hs => ?_
  obtain ⟨t, w₃, w₄, hretire, -, hissue⟩ :=
    Service.rotate_eq_ok (Action.mapError_eq_ok hrotated)
  obtain ⟨hpayload, -⟩ := Service.issueRefresh_eq_ok hissue
  rw [hpayload] at hs
  cases hs
  have hle : w₁.minted ≤ w₃.minted := by
    have hchanges : Changes svc (fun _ => True) w₁
        (svc.retire payload.toClaims w₁).2 :=
      retire _ (by rw [hrefreshable.forcedReply, hforced])
        (fun _ _ => trivial) fun _ _ _ => trivial
    rw [hretire] at hchanges
    exact hchanges.minted
  refine .inr ⟨w₃.minted + 1, ?_, rfl⟩
  exact Nat.lt_succ_of_le (Nat.le_trans hrefreshable.minted hle)

theorem logout (bearer : String) :
    Changes svc (svc.Allows w (.logout bearer)) w (svc.logout bearer w).2 := by
  refine bind (mapError _ (verifyMode _ _ fun sub hw hsub => ⟨hw, hsub⟩))
    fun payload w₁ hok => ?_
  cases hsession : payload.sessionId with
  | none => exact .done w₁
  | some session =>
      refine bind (invalidateSession _ _ ?_) fun _ w₂ _ => .done w₂
      rw [Service.Allows, Service.ended?, Action.mapError_eq_ok hok]
      simp [Outcome.value?, hsession]

theorem authenticate (bearer : String) :
    Changes svc (svc.Allows w (.authenticate bearer)) w
      (svc.authenticate bearer w).2 := by
  refine bind (mapError _ (verifyMode _ _ fun sub hw hsub => ⟨hw, hsub⟩))
    fun payload w₁ _ => ?_
  refine bind (requireUser ..) fun user w₂ _ => ?_
  split <;> exact .done w₂

/-! ## Requests about accounts -/

theorem replacePassword (id new : String)
    (hP : w.Sweepable → (svc.replacePassword id new w).1 = .ok () →
      P (.sweep id)) :
    Changes svc P w (svc.replacePassword id new w).2 := by
  obtain ⟨w₂, ⟨h, w₁, hw₁, hb, hswept⟩ | ⟨e, h, hw₂⟩⟩ :=
    svc.replacePassword_spec id new w
  · rw [h] at hP ⊢
    refine (pass hw₁).trans (of_swept (fun hs => hP ?_ rfl) (hswept ▸ hb))
    rwa [World.Sweepable, ← hw₁.outages]
  · rw [h]
    exact pass hw₂

theorem changePassword (id current new : String) :
    Changes svc (svc.Allows w (.changePassword id current new)) w
      (svc.changePassword id current new w).2 := by
  obtain ⟨u, hu, hchange⟩ | ⟨-, e, herror⟩ :=
    Service.changePassword_cases svc w id current new
  · rw [hchange]
    refine replacePassword _ _ fun hs hok => ⟨hs, ?_⟩
    rw [Service.swept?, hchange, if_pos hok, hu.found]
    rfl
  · rw [herror]
    exact .done w

theorem issueEmailVerification (id : String) :
    Changes svc P w (svc.issueEmailVerification id w).2 := by
  refine bind (requireUser ..) fun user w₁ _ => ?_
  split
  · exact .done w₁
  · exact bind (.done w₁) fun _ w₂ _ => .done w₂

theorem verifyEmail (token : String) :
    Changes svc P w (svc.verifyEmail token w).2 := by
  refine bind (mapError _ (verifyPurpose ..)) fun payload w₁ _ => ?_
  refine bind (callDirectory ..) fun b w₂ _ => ?_
  split <;> exact .done w₂

theorem requestPasswordReset (id : String) :
    Changes svc P w (svc.requestPasswordReset id w).2 := by
  refine bind (requireUser ..) fun user w₁ _ => ?_
  exact bind (.done w₁) fun _ w₂ _ => .done w₂

end Changes

/-! ## Redeeming a reset token -/

namespace Service

variable (svc : Service) (w : World)

theorem verifyPurpose_snd (token : String) (mode : Mode) :
    (svc.verifyPurpose token mode w).2 = w := by
  unfold verifyPurpose
  split
  · rfl
  · rw [Action.bind_apply, decode_apply]
    cases svc.codec.decode w.seconds mode.purpose (Bearer.token token) with
    | ok claims =>
        dsimp only [Outcome.mapError]
        split <;> rfl
    | error e => rfl
    | outOfRange => rfl

/-- A token that passes for a purpose was read and is good now, and its mode is
the one asked for. -/
theorem verifyPurpose_eq_ok {token : String} {mode : Mode} {p : Payload}
    (h : (svc.verifyPurpose token mode w).1 = .ok p) :
    ∃ claims v,
      svc.codec.read? mode.purpose (Bearer.token token) = some (claims, v) ∧
      svc.codec.checkValidity w.seconds v = .ok () ∧ claims.mode = some mode ∧
      Payload.ofClaims? claims = some p := by
  unfold verifyPurpose at h
  split at h
  · cases h
  · rw [Action.bind_apply, decode_apply] at h
    cases hd : svc.codec.decode w.seconds mode.purpose (Bearer.token token) with
    | error e => rw [hd] at h; cases h
    | outOfRange => rw [hd] at h; cases h
    | ok claims =>
        obtain ⟨v, hread, hv⟩ := Codec.read?_of_decode hd
        rw [hd] at h
        dsimp only [Outcome.mapError] at h
        split at h
        · next hmode =>
            cases hp : Payload.ofClaims? claims with
            | none => rw [hp] at h; cases h
            | some p' =>
                rw [hp] at h
                cases h
                exact ⟨claims, v, hread, hv, hmode, hp⟩
        · cases h

/-- The key that remembers a reset token. -/
def markOf (p : Payload) (token : String) : String :=
  Key.redeemed p.sub (resetDigest token)

/-- What follows the mark: the password is stored, or the mark is released. -/
def settle (p : Payload) (token new : String) : Action ServiceError Unit := do
  match ← (svc.replacePassword p.sub new).attempt with
  | .ok () => return ()
  | .error e =>
    let _ ← ((Store.delete [markOf p token]).attempt :
      Action ServiceError (Except ServiceError Nat))
    Action.fail e

theorem settle_of_ok {p : Payload} {token new : String} {w w' : World}
    (h : svc.replacePassword p.sub new w = (.ok (), w')) :
    svc.settle p token new w = (.ok (), w') :=
  Action.bind_of_ok (Action.attempt_of_ok h)

/-- Once the token and the password have passed, redeeming is marking, storing
the password, and taking the mark away if that fails. -/
theorem confirmPasswordReset_of_ok {token new : String} {p : Payload}
    (hp : (svc.verifyPurpose token .resetPassword w).1 = .ok p)
    (hnew : svc.policy.validate new = .ok ()) :
    svc.confirmPasswordReset token new w = (do
      if ← Store.setIfAbsent (markOf p token) Key.redeemedMark
          (toMillis svc.lifetimes.resetPassword) then svc.settle p token new
      else Action.fail (.rejected .alreadyCompleted) :
        Action ServiceError Unit) w := by
  have hverify : outside (svc.verifyPurpose token .resetPassword) w =
      (.ok p, w) := outside_of_ok (Prod.ext hp (svc.verifyPurpose_snd w ..))
  have hensure : Action.ensure (svc.policy.validate new) w =
      (.ok (), w) := by
    rw [hnew]
    rfl
  rw [confirmPasswordReset, Action.bind_of_ok hverify,
    Action.bind_of_ok hensure]
  rfl

/-- A token whose mark is there is turned down. -/
theorem confirmPasswordReset_of_redeemed {token new : String} {p : Payload}
    (hp : (svc.verifyPurpose token .resetPassword w).1 = .ok p)
    (hnew : svc.policy.validate new = .ok ())
    (hset : w.outages .setIfAbsent = none)
    (hmark : (w.live.get? (markOf p token)).isSome = true) :
    (svc.confirmPasswordReset token new w).1 =
      .error (.rejected .alreadyCompleted) := by
  obtain ⟨entry, hentry⟩ := Option.isSome_iff_exists.mp hmark
  obtain ⟨w₁, hmarked, -⟩ := Store.setIfAbsent_of_some hset hentry
    Key.redeemedMark (toMillis svc.lifetimes.resetPassword)
  rw [svc.confirmPasswordReset_of_ok w hp hnew, Action.bind_of_ok hmarked]
  rfl

/-- Releasing a mark that has just been set undoes setting it. -/
theorem delete_mark {w₁ w₂ : World} {key : String} {e : Entry}
    (hkey : w.live.get? key = none)
    (hw₁ : w.Becomes ((w.live.insert key e).live w.clock) w₁)
    (hw₂ : Change svc .pass w₁ w₂) (hdelete : w.outages .delete = none) :
    ∃ n w₃, Store.delete [key] w₂ = (.ok n, w₃) ∧ Change svc .pass w w₃ := by
  obtain ⟨n, w₃, hdel, hw₃, -⟩ := Store.delete_of_none
    (by rw [hw₂.outages, hw₁.outages, hdelete]) [key]
  refine ⟨n, w₃, hdel, .of_live ?_ ?_ ?_ ?_ ?_ ?_⟩
  · refine Keyspace.ext_get? fun key' => ?_
    rw [hw₃.live, Change.get?_filter_key, hw₂.live_of_pass, hw₁.live,
      Keyspace.get?_live_insert, World.live_live_clock]
    by_cases hne : key' = key
    · simp [hne, hkey]
    · simp [hne]
  · rw [hw₃.clock, hw₂.clock, hw₁.clock]
  · rw [hw₃.wall, hw₂.wall, hw₁.wall]
  · rw [hw₃.outages, hw₂.outages, hw₁.outages]
  · rw [hw₃.forcedReply, hw₂.forcedReply, hw₁.forcedReply]
  · have hminted := hw₂.minted
    rw [hw₁.minted] at hminted
    rw [hw₃.minted]
    exact hminted

theorem settle_spec {p : Payload} {token : String} (new : String) {e : Entry}
    {w w₁ : World} (hkey : w.live.get? (markOf p token) = none)
    (hw₁ : w.Becomes ((w.live.insert (markOf p token) e).live w.clock) w₁) :
    ((svc.settle p token new w₁).1 = .ok () ∧
      ∃ w₂, Change svc .pass w₁ w₂ ∧
        w₂.Becomes (w₂.swept p.sub) (svc.settle p token new w₁).2 ∧
        w₂.swept p.sub = w₂.live.withoutSessions p.sub) ∨
    ((svc.settle p token new w₁).1 ≠ .ok () ∧
      (Change svc .pass w (svc.settle p token new w₁).2 ∨
        (w.outages .delete ≠ none ∧
          Change svc .pass w₁ (svc.settle p token new w₁).2))) := by
  obtain ⟨w₃, ⟨hrep, w₂, hw₂, hb, hswept⟩ | ⟨err, hrep, hw₂⟩⟩ :=
    svc.replacePassword_spec p.sub new w₁
  · rw [svc.settle_of_ok hrep]
    exact .inl ⟨rfl, w₂, hw₂, hswept ▸ hb, hswept⟩
  · rw [settle, Action.bind_of_ok (Action.attempt_of_error hrep)]
    cases hdelete : w.outages .delete with
    | none =>
        obtain ⟨n, w₄, hdel, hw₄⟩ := svc.delete_mark w hkey hw₁ hw₂ hdelete
        dsimp only
        rw [Action.bind_of_ok (Action.attempt_of_ok hdel)]
        exact .inr ⟨by simp [Action.fail], .inl hw₄⟩
    | some how =>
        have hdel : Store.delete [markOf p token] w₃ =
            (.error (.storeFailed .delete how), w₃) :=
          Store.call_of_some (by rw [hw₂.outages, hw₁.outages, hdelete]) _
        dsimp only
        rw [Action.bind_of_ok (Action.attempt_of_error hdel)]
        exact .inr ⟨by simp [Action.fail], .inr ⟨nofun, hw₂⟩⟩

/-- Redeeming a token either goes through, with the mark set and the sessions
swept, or leaves no trace, unless there is a mark that cannot be released. -/
theorem confirmPasswordReset_spec (token new : String) :
    ((svc.confirmPasswordReset token new w).1 = .ok () ∧
      ∃ p w₁ w₂, (svc.verifyPurpose token .resetPassword w).1 = .ok p ∧
        Change svc (.redeem p.sub (resetDigest token)) w w₁ ∧
        Change svc .pass w₁ w₂ ∧
        w₂.Becomes (w₂.swept p.sub) (svc.confirmPasswordReset token new w).2 ∧
        w₂.swept p.sub = w₂.live.withoutSessions p.sub) ∨
    ((svc.confirmPasswordReset token new w).1 ≠ .ok () ∧
      (Change svc .pass w (svc.confirmPasswordReset token new w).2 ∨
        (w.outages .delete ≠ none ∧
          ∃ p, (svc.verifyPurpose token .resetPassword w).1 = .ok p ∧
            Change svc (.redeem p.sub (resetDigest token)) w
              (svc.confirmPasswordReset token new w).2))) := by
  have hstay : ∀ {w' : World}, w.Becomes w.live w' → Change svc .pass w w' :=
    fun h => .pass_of_becomes h
  have hverify : outside (svc.verifyPurpose token .resetPassword) w =
      ((svc.verifyPurpose token .resetPassword w).1.mapError
        TokenError.toServiceError, w) := by
    rw [outside, Action.mapError, svc.verifyPurpose_snd]
  cases hp : (svc.verifyPurpose token .resetPassword w).1 with
  | error e =>
      rw [hp] at hverify
      rw [confirmPasswordReset, Action.bind_of_error hverify]
      exact .inr ⟨by simp, .inl (hstay (.refl w))⟩
  | outOfRange =>
      rw [hp] at hverify
      rw [confirmPasswordReset, Action.bind_of_outOfRange hverify]
      exact .inr ⟨by simp, .inl (hstay (.refl w))⟩
  | ok p =>
      rw [hp] at hverify
      cases hnew : svc.policy.validate new with
      | error e =>
          have hensure :
              Action.ensure (svc.policy.validate new) w =
              (.error e, w) := by
            rw [hnew]
            rfl
          rw [confirmPasswordReset, Action.bind_of_ok hverify,
            Action.bind_of_error hensure]
          exact .inr ⟨by simp, .inl (hstay (.refl w))⟩
      | ok u =>
          rw [svc.confirmPasswordReset_of_ok w hp hnew]
          obtain ⟨r, w₁, hset, ⟨rfl, -, hkey, -, hw₁⟩ | ⟨hne, hw₁⟩⟩ :=
            Store.setIfAbsent_spec (markOf p token) Key.redeemedMark
              (toMillis svc.lifetimes.resetPassword) w
          · have hredeem :
                Change svc (.redeem p.sub (resetDigest token)) w w₁ :=
              .redeem_of_becomes hw₁ hkey
            rw [Action.bind_of_ok hset, if_pos rfl]
            rcases svc.settle_spec new hkey hw₁ with
              ⟨hok, w₂, hw₂, hb, hswept⟩ | ⟨hne, hw' | ⟨hdelete, hw'⟩⟩
            · exact .inl ⟨hok, p, w₁, w₂, rfl, hredeem, hw₂, hb, hswept⟩
            · exact .inr ⟨hne, .inl hw'⟩
            · exact .inr ⟨hne, .inr
                ⟨hdelete, p, rfl, hredeem.then_pass hw'⟩⟩
          · -- Whether the mark was there or could not be set, that is all.
            rw [Action.bind_apply, hset]
            rcases r with (_ | _) | e | _
            · exact .inr ⟨by simp [Action.fail], .inl (hstay hw₁)⟩
            · exact absurd rfl hne
            · exact .inr ⟨by simp, .inl (hstay hw₁)⟩
            · exact .inr ⟨by simp, .inl (hstay hw₁)⟩

end Service

namespace Changes

variable {svc : Service} {w : World}

theorem confirmPasswordReset (token new : String) :
    Changes svc (svc.Allows w (.confirmPasswordReset token new)) w
      (svc.confirmPasswordReset token new w).2 := by
  have hallows : ∀ sub, svc.Allows w (.confirmPasswordReset token new)
      (.redeem sub (resetDigest token)) := fun _ => ⟨token, new, rfl, rfl⟩
  rcases svc.confirmPasswordReset_spec w token new with
    ⟨hok, p, w₁, w₂, hp, hredeem, hw₂, hb, -⟩ | ⟨-, h | ⟨-, p, -, h⟩⟩
  · refine .step (fun _ => hallows _) hredeem
      ((pass hw₂).trans (of_swept (fun hs => ⟨?_, ?_⟩) hb))
    · rwa [World.Sweepable, ← hredeem.outages, ← hw₂.outages]
    · obtain ⟨claims, v, hread, -, -, hclaims⟩ := svc.verifyPurpose_eq_ok w hp
      rw [Service.swept?, if_pos hok]
      rw [show Mode.resetPassword.purpose = .resetPassword from rfl] at hread
      rw [hread]
      exact (Payload.of_ofClaims? hclaims).1
  · exact pass h
  · exact single (hallows _) h

/-- A session that is given is named, and one that is not is minted. -/
theorem enters_choose {r : Request} {session : Option String}
    (h : ∀ s, session = some s → s ∈ r.names) :
    svc.Enters w r (svc.choose w.minted session).1 := by
  cases session with
  | some s => exact .inl (h s rfl)
  | none => exact .inr ⟨_, Nat.lt_succ_self _, rfl⟩

/-- Every request is a chain of effects of the kinds that its answer allows. -/
theorem perform (r : Request) (hforced : w.forcedReply = none) :
    Changes svc (svc.Allows w r) w (svc.perform r w).2 := by
  cases r with
  | login id password => exact ignore (login id password)
  | refresh bearer => exact ignore (refresh bearer hforced)
  | logout bearer => exact logout bearer
  | logoutEverywhere id => exact ignore (invalidateAll id fun hs => ⟨hs, rfl⟩)
  | changePassword id current new => exact changePassword id current new
  | issueEmailVerification id => exact ignore (issueEmailVerification id)
  | verifyEmail token => exact ignore (verifyEmail token)
  | requestPasswordReset id => exact ignore (requestPasswordReset id)
  | confirmPasswordReset token new => exact confirmPasswordReset token new
  | authenticate bearer => exact ignore (authenticate bearer)
  | issueAccess sub session =>
      exact ignore (mapError _ (issueAccess _ _ fun j =>
        enters_choose fun s hs => Option.mem_toList.mpr hs))
  | issueRefresh sub session family =>
      refine ignore (mapError _ (issueRefresh _ _ _ fun j =>
        ⟨enters_choose fun s hs =>
          List.mem_append_left _ (Option.mem_toList.mpr hs), ?_⟩))
      cases family with
      | some f => exact .inl rfl
      | none =>
          have hle := svc.le_choose w.minted session
          exact .inr ⟨(svc.choose w.minted session).2 + 1, by omega, rfl⟩
  | issueVerification sub email => exact ignore (.done w)
  | issueReset sub email => exact ignore (.done w)
  | verify bearer =>
      exact ignore (mapError _ (verify _ fun sub hs hsub => ⟨hs, hsub⟩))
  | verifyMode bearer mode =>
      exact ignore (mapError _ (verifyMode _ _ fun sub hs hsub => ⟨hs, hsub⟩))
  | verifyPurpose token mode =>
      exact ignore (mapError _ (verifyPurpose token mode))
  | rotate claims =>
      refine ignore (mapError _ (rotate _ hforced (fun t ht => ?_)
        (fun t n j ht hn => ⟨.inr ⟨n, hn, rfl⟩, .inl ?_⟩)
        fun sub hs hsub => ⟨hs, hsub⟩))
      · rw [Service.Allows, Service.retired?, ht]
        rfl
      · rw [Service.renewed?, Service.retired?, ht]
        · rfl
        · exact nofun
  | invalidateAll sub => exact ignore (invalidateAll sub fun hs => ⟨hs, rfl⟩)
  | invalidateBestEffort sub =>
      exact ignore (invalidateBestEffort sub fun hs => ⟨hs, rfl⟩)
  | invalidateSession sub session =>
      exact ignore (invalidateSession sub session rfl)

end Changes

end SessionTokens
