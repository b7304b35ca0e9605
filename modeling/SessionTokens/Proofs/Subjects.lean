import SessionTokens.Proofs.Answers

/-!
# An operation keeps to its subject

Every effect names the subject whose keys it writes and removes, and the keys
of different subjects differ as long as identifiers have no colon in them. So
an operation that has effects for one subject only leaves the keys of all
others alone, whatever these are called. What remains to be seen is that an
operation's effects are for the subject that it was asked about: the subject is
handed from the argument, the claims or the account to every effect, and the
only place where it could change on the way is the directory, which is asked
for an account and gives one.
-/

namespace SessionTokens

/-! ## Keys of a subject -/

/-- A payload names nothing that its claims do not name. -/
theorem Payload.identifiers_toClaims {c : Claims} {p : Payload}
    (h : ofClaims? c = some p) {id : String}
    (hid : id ∈ p.toClaims.identifiers) : id ∈ c.identifiers := by
  cases readFrom_of_ofClaims? h with
  | access =>
      simp only [Claims.identifiers, toClaims, List.mem_append] at hid ⊢
      exact .inl (hid.resolve_right List.not_mem_nil)
  | refresh => exact hid
  | verification => cases hid
  | resetPassword => cases hid

/-- The key is one of the subject's, in any namespace. -/
def Key.OwnedBy (sub key : String) : Prop :=
  ∃ (ns : Namespace) (id : String), ':' ∉ id.toList ∧
    key = Key.make ns.name sub id

theorem Key.not_ownedBy_of_ne {ns : Namespace} {sub sub' id : String}
    (hid : ':' ∉ id.toList) (h : sub ≠ sub') :
    ¬ Key.OwnedBy sub' (Key.make ns.name sub id) := by
  rintro ⟨ns', id', hid', heq⟩
  exact h (Key.make_inj_of_no_colon hid hid' heq).2.1

namespace Effect

/-- The effect is for this subject, and the identifiers in its keys have no
colon in them. -/
def Concerns (v : String) : Effect → Prop
  | .pass => True
  | .access sub session _ => sub = v ∧ ':' ∉ session.toList
  | .refresh sub session _ family =>
    sub = v ∧ ':' ∉ session.toList ∧ ':' ∉ family.toList
  | .retire t => t.sub = v ∧ ':' ∉ t.jti.toList ∧ ':' ∉ t.session.toList
  | .sweep sub => sub = v
  | .endSession sub session => sub = v ∧ ':' ∉ session.toList
  | .redeem sub digest => sub = v ∧ ':' ∉ digest.toList

variable {svc : Service} {ef : Effect} {v key : String} {now : Nat} {e : Entry}

theorem Concerns.ownedBy_of_writes (h : ef.Concerns v)
    (he : (key, e) ∈ ef.writes svc now) : Key.OwnedBy v key := by
  cases ef with
  | access sub session jti =>
      obtain ⟨rfl, hsession⟩ := h
      cases List.mem_singleton.mp he
      exact ⟨.access, session, hsession, rfl⟩
  | refresh sub session jti family =>
      obtain ⟨rfl, hsession, hfamily⟩ := h
      rcases List.mem_cons.mp he with heq | hrest
      · cases heq
        exact ⟨.refresh, session, hsession, rfl⟩
      · cases List.mem_singleton.mp hrest
        exact ⟨.family, family, hfamily, rfl⟩
  | retire t =>
      obtain ⟨rfl, hjti, -⟩ := h
      cases List.mem_singleton.mp he
      exact ⟨.used, t.jti, hjti, rfl⟩
  | redeem sub digest =>
      obtain ⟨rfl, hdigest⟩ := h
      cases List.mem_singleton.mp he
      exact ⟨.redeemed, digest, hdigest, rfl⟩
  | pass => cases he
  | sweep sub => cases he
  | endSession sub session => cases he

theorem Concerns.ownedBy_of_removes (h : ef.Concerns v)
    (hkey : ef.removes key = true) : Key.OwnedBy v key := by
  cases ef with
  | retire t =>
      obtain ⟨rfl, -, hsession⟩ := h
      exact ⟨.refresh, t.session, hsession, of_decide_eq_true hkey⟩
  | sweep sub =>
      cases h
      obtain ⟨ns, -, id, hid, rfl⟩ := Key.isSessionKeyOf_iff.mp hkey
      exact ⟨ns, id, hid.2, rfl⟩
  | endSession sub session =>
      obtain ⟨rfl, hsession⟩ := h
      have hmem : key ∈ [Key.access sub session, Key.refresh sub session] :=
        List.contains_iff_mem.mp hkey
      rcases List.mem_cons.mp hmem with rfl | hrest
      · exact ⟨.access, session, hsession, rfl⟩
      · cases List.mem_singleton.mp hrest
        exact ⟨.refresh, session, hsession, rfl⟩
  | _ => cases hkey

end Effect

/-- One effect for a subject leaves the keys of all others as they are. -/
theorem Change.get?_of_not_ownedBy {svc : Service} {ef : Effect} {w w₁ : World}
    {v key : String} (h : Change svc ef w w₁) (hv : ef.Concerns v)
    (hkey : ¬ Key.OwnedBy v key) : w₁.live.get? key = w.live.get? key := by
  rw [h.get?_of_not_written fun e he => hkey (hv.ownedBy_of_writes he), if_neg]
  exact fun hremoves => hkey (hv.ownedBy_of_removes hremoves)

theorem Changes.get?_of_not_ownedBy {svc : Service} {w w₁ : World}
    {v key : String} (h : Changes svc (Effect.Concerns v) w w₁)
    (hkey : ¬ Key.OwnedBy v key) : w₁.live.get? key = w.live.get? key := by
  refine h.induct (I := fun w' => w'.live.get? key = w.live.get? key)
    (fun {ef w₁ w₂} hv hstep hw => ?_) rfl
  have hconcerns : ef.Concerns v := by
    by_cases hpass : ef = .pass
    · rw [hpass]
      trivial
    · exact hv hpass
  rw [hstep.get?_of_not_ownedBy hconcerns hkey, hw]

/-! ## Operations for a subject -/

/-- The accounts of all others are as they were. -/
def World.SparesAccounts (v : String) (w w' : World) : Prop :=
  ∀ id, id ≠ v → w'.users.find? id = w.users.find? id

namespace World.SparesAccounts

variable {v : String} {w w₁ w₂ : World}

theorem of_eq (h : w₁.users = w.users) : w.SparesAccounts v w₁ :=
  fun _ _ => by rw [h]

theorem trans (h : w.SparesAccounts v w₁) (h' : w₁.SparesAccounts v w₂) :
    w.SparesAccounts v w₂ :=
  fun id hne => (h' id hne).trans (h id hne)

end World.SparesAccounts

/-- What has happened was for this subject: to its keys and to its account. -/
structure Service.Confined (svc : Service) (v : String) (w w' : World) :
    Prop where
  changes : Changes svc (Effect.Concerns v) w w'
  users : w.SparesAccounts v w'

namespace Service.Confined

variable {svc : Service} {v : String} {w w₁ w₂ : World}
  {ε ε' α β : Type}

theorem refl (w : World) : svc.Confined v w w := ⟨.done w, .of_eq rfl⟩

theorem trans (h : svc.Confined v w w₁) (h' : svc.Confined v w₁ w₂) :
    svc.Confined v w w₂ :=
  ⟨h.changes.trans h'.changes, h.users.trans h'.users⟩

/-- Most operations have no business with the directory. -/
theorem of_users_eq (h : Changes svc (Effect.Concerns v) w w₁)
    (husers : w₁.users = w.users) : svc.Confined v w w₁ :=
  ⟨h, .of_eq husers⟩

theorem bind {m : Action ε α} {f : α → Action ε β}
    (hm : svc.Confined v w (m w₁).2)
    (hf : ∀ a w₂, m w₁ = (.ok a, w₂) → svc.Confined v w₂ (f a w₂).2) :
    svc.Confined v w ((m >>= f) w₁).2 :=
  Action.snd_bind (R := svc.Confined v) trans hm hf

theorem mapError (f : ε → ε') {m : Action ε α}
    (h : svc.Confined v w (m w₁).2) :
    svc.Confined v w (m.mapError f w₁).2 := h

theorem ignore {m : Action ε α} (hm : svc.Confined v w (m w₁).2) :
    svc.Confined v w (m.ignore w₁).2 :=
  bind hm fun _ w₂ _ => refl w₂

/-! ### Issuing, verifying, sweeping -/

theorem no_colon_choose (hids : ∀ n, ':' ∉ (svc.ids n).toList) {n : Nat}
    {o : Option String} (ho : ∀ id, o = some id → ':' ∉ id.toList) :
    ':' ∉ (svc.choose n o).1.toList := by
  cases o with
  | some id => exact ho id rfl
  | none => exact hids _

theorem issueAccess (hids : ∀ n, ':' ∉ (svc.ids n).toList)
    {session : Option String}
    (hsession : ∀ id, session = some id → ':' ∉ id.toList) :
    svc.Confined v w (svc.issueAccess v session w).2 := by
  refine of_users_eq (.issueAccess v session fun j =>
    ⟨rfl, no_colon_choose hids hsession⟩) ?_
  obtain ⟨token, -, ⟨-, e, -, h⟩ | ⟨-, -, h⟩ | ⟨-, -, w', h, hb⟩⟩ :=
    svc.issueAccess_spec v session w
  · rw [h]
  · rw [h]
  · rw [h, hb.users]

theorem issueRefresh (hids : ∀ n, ':' ∉ (svc.ids n).toList)
    {session family : Option String}
    (hsession : ∀ id, session = some id → ':' ∉ id.toList)
    (hfamily : ∀ id, family = some id → ':' ∉ id.toList) :
    svc.Confined v w (svc.issueRefresh v session family w).2 := by
  refine of_users_eq (.issueRefresh v session family fun j =>
    ⟨rfl, no_colon_choose hids hsession, no_colon_choose hids hfamily⟩) ?_
  obtain ⟨token, -, ⟨-, e, -, h⟩ | ⟨-, -, h⟩ | ⟨-, -, w', h, hb⟩⟩ :=
    svc.issueRefresh_spec v session family w
  · rw [h]
  · rw [h]
  · rw [h, hb.users]

/-- The access token of a pair is issued in the session of the refresh
token. -/
theorem pairFor (hids : ∀ n, ':' ∉ (svc.ids n).toList) {refresh : Issued}
    (hsession : ∀ id, refresh.payload.sessionId = some id → ':' ∉ id.toList) :
    svc.Confined v w (svc.pairFor v refresh w).2 := by
  unfold Service.pairFor
  cases hs : refresh.payload.sessionId with
  | none => exact refl w
  | some session =>
      refine bind (mapError _ (issueAccess hids fun id hid => ?_))
        fun access w₁ _ => refl w₁
      cases hid
      exact hsession session hs

/-- A pair that comes of issuing a refresh token in a session of its own. -/
theorem pairFor_of_issueRefresh (hids : ∀ n, ':' ∉ (svc.ids n).toList)
    {sub : String} {session family : Option String} {issued : Issued}
    (hsession : ∀ id, session = some id → ':' ∉ id.toList)
    (hissue : svc.issueRefresh sub session family w = (.ok issued, w₁)) :
    svc.Confined v w₁ (svc.pairFor v issued w₁).2 := by
  obtain ⟨hpayload, -⟩ := issueRefresh_eq_ok hissue
  refine pairFor hids fun id hid => ?_
  rw [hpayload] at hid
  cases hid
  exact no_colon_choose hids hsession

theorem invalidateAll : svc.Confined v w (svc.invalidateAll v w).2 := by
  refine of_users_eq (.invalidateAll v fun _ => rfl) ?_
  obtain ⟨w', ⟨n, h, hb, -⟩ | ⟨e, h, hb, -⟩⟩ := svc.invalidateAll_spec v w
  · rw [h, hb.users]
  · rw [h, hb.users]

theorem invalidateBestEffort :
    svc.Confined v w ((svc.invalidateBestEffort v : Action ε Nat) w).2 := by
  refine of_users_eq (.invalidateBestEffort v fun _ => rfl) ?_
  obtain ⟨n, w', h, hb⟩ := svc.invalidateBestEffort_spec (ε := ε) v w
  rw [h, hb.users]

theorem call_users (c : StoreCall)
    (f : MemoryStore → Nat → MemoryStore.Reply α) (w : World) :
    (Store.call c f w).2.users = w.users := by
  unfold Store.call
  split <;> rfl

theorem invalidateSession {session : String} (h : ':' ∉ session.toList) :
    svc.Confined v w (invalidateSession v session w).2 :=
  of_users_eq (.invalidateSession v session ⟨rfl, h⟩) (call_users ..)

section bearer

variable {bearer : String}
  (hsub : ∀ s, (svc.claims? bearer).bind (·.sub) = some s → s = v)

include hsub in
theorem verify : svc.Confined v w (svc.verify bearer w).2 := by
  refine of_users_eq (.verify bearer fun sub _ hcompromised => hsub sub ?_) ?_
  · unfold Service.compromised? at hcompromised
    split at hcompromised
    · rw [claims?, Option.bind_map]
      exact hcompromised
    · cases hcompromised
  · obtain ⟨r, k, w', hverify, -, hb⟩ := svc.verify_spec bearer w
    rw [hverify, hb.users]

include hsub in
theorem verifyMode (mode : Mode) :
    svc.Confined v w (svc.verifyMode bearer mode w).2 := by
  refine bind (verify hsub) fun p w₁ _ => ?_
  split <;> exact refl w₁

include hsub in
/-- A token that is verified is the subject's, and names what its claims
name. -/
theorem payload_of_verify {p : Payload}
    (h : svc.verify bearer w = (.ok p, w₁)) :
    p.sub = v ∧ w.Becomes w.live w₁ ∧ ∃ c, svc.claims? bearer = some c ∧
      c.sub = some p.sub ∧ Payload.ofClaims? c = some p := by
  obtain ⟨⟨c, s, ns, hfinds⟩, hb⟩ := verify_eq_ok h
  have hpsub := (Payload.of_ofClaims? hfinds.payload).1
  refine ⟨hsub p.sub ?_, hb, c, hfinds.claims?, hpsub, hfinds.payload⟩
  rw [hfinds.claims?]
  exact hpsub

end bearer

/-! ### Rotating -/

theorem retire {c : Claims} (hforced : w.forcedReply = none)
    (hsub : ∀ s, c.sub = some s → s = v)
    (hc : ∀ id ∈ c.identifiers, ':' ∉ id.toList) :
    svc.Confined v w (svc.retire c w).2 := by
  obtain ⟨k, -, hb⟩ := svc.retire_spec c hforced
  refine of_users_eq (.retire c hforced (fun t ht => ?_)
    fun sub _ hrefused => hsub sub ?_) hb.users
  · obtain ⟨hof, -⟩ := retire_eq_ok hforced (Action.eq_of_fst_eq ht)
    refine ⟨hsub _ hof.sub, hc _ ?_, hc _ ?_⟩
    · simp [Claims.identifiers, hof.jti]
    · simp [Claims.identifiers, hof.session]
  · unfold Service.refused? at hrefused
    split at hrefused
    · exact hrefused
    · cases hrefused

theorem rotate {c : Claims} (hids : ∀ n, ':' ∉ (svc.ids n).toList)
    (hforced : w.forcedReply = none)
    (hsub : ∀ s, c.sub = some s → s = v)
    (hc : ∀ id ∈ c.identifiers, ':' ∉ id.toList) :
    svc.Confined v w (svc.rotate c w).2 := by
  refine bind (retire hforced hsub hc) fun t w₁ ht => ?_
  obtain ⟨hof, -⟩ := retire_eq_ok hforced ht
  have hfamily : ':' ∉ t.family.toList :=
    hc _ (by simp [Claims.identifiers, hof.family])
  refine bind (of_users_eq (.of_minted (Nat.le_succ _)) rfl)
    fun fresh w₂ hfresh => ?_
  cases hfresh
  rw [hsub _ hof.sub]
  refine issueRefresh hids (fun id hid => ?_) fun id hid => ?_
  · cases hid
    exact hids _
  · cases hid
    exact hfamily

/-! ### Accounts and passwords -/

theorem hashPassword (h : Hasher) (password : String) :
    svc.Confined v w (Action.hashPassword h password w).2 := by
  refine of_users_eq (.hashPassword h password) ?_
  unfold Action.hashPassword
  split <;> rfl

/-- Changing the subject's account changes no other. -/
theorem update (call : DirectoryCall) (f : User → User) :
    svc.Confined v w
      (Action.callDirectory call (fun d => d.update v f) w).2 := by
  refine ⟨.callDirectory .., fun id hne => ?_⟩
  unfold Action.callDirectory
  split
  · rfl
  · unfold Directory.update
    dsimp only
    split
    · exact Directory.find?_put_of_ne hne
    · rfl

theorem replacePassword (new : String) :
    svc.Confined v w (svc.replacePassword v new w).2 := by
  refine bind (hashPassword svc.hasher new) fun hash w₁ _ => ?_
  refine bind (update .updateHash _) fun b w₂ _ => ?_
  split
  · exact bind invalidateAll fun _ w₃ _ => refl w₃
  · exact refl w₂

theorem requireUser (id : String) (missing : ServiceError) :
    svc.Confined v w (Service.requireUser id missing w).2 := by
  rw [Action.requireUser_apply]
  exact refl w

theorem verifyPassword (h : Hasher) (password hash : String) :
    svc.Confined v w (Action.verifyPassword h password hash w).2 := by
  rw [Action.verifyPassword_snd]
  exact refl w

theorem verifyPurpose (token : String) (mode : Mode) :
    svc.Confined v w (svc.verifyPurpose token mode w).2 := by
  rw [verifyPurpose_snd]
  exact refl w

/-- A token that passes for a purpose is the subject's. -/
theorem sub_of_verifyPurpose {token : String} (mode : Mode) {p : Payload}
    (hsub : ∀ s,
      (svc.codec.read? mode.purpose (Bearer.token token)).bind (·.1.sub) =
        some s → s = v)
    (h : (svc.verifyPurpose token mode w).1 = .ok p) : p.sub = v := by
  obtain ⟨c, val, hread, -, -, hp⟩ := verifyPurpose_eq_ok svc w h
  refine hsub p.sub ?_
  rw [hread]
  exact (Payload.of_ofClaims? hp).1

/-! ### Requests -/

section

variable (hids : ∀ n, ':' ∉ (svc.ids n).toList)
  (hdirectory : ∀ u, w.users.find? v = some u → u.id = v)

include hids hdirectory in
theorem login (password : String) :
    svc.Confined v w (svc.login v password w).2 := by
  refine bind (requireUser ..) fun user w₁ hw₁ => ?_
  obtain ⟨rfl, hfind⟩ := Action.requireUser_eq_ok hw₁
  rw [hdirectory user hfind]
  refine bind (verifyPassword ..) fun good w₂ _ => ?_
  split
  · refine bind (refl w₂) fun _ w₃ _ => ?_
    refine bind (mapError _ (issueRefresh hids nofun nofun))
      fun issued w₄ hissued => ?_
    refine pairFor_of_issueRefresh hids ?_ (Action.mapError_eq_ok hissued)
    exact nofun
  · exact refl w₂

include hdirectory in
theorem changePassword (current new : String) :
    svc.Confined v w (svc.changePassword v current new w).2 := by
  obtain ⟨u, hu, hchange⟩ | ⟨-, e, herror⟩ :=
    changePassword_cases svc w v current new
  · rw [hchange, hdirectory u hu.found]
    exact replacePassword new
  · rw [herror]
    exact refl w

include hids hdirectory in
theorem refresh {bearer : String} (hforced : w.forcedReply = none)
    (hsub : ∀ s, (svc.claims? bearer).bind (·.sub) = some s → s = v)
    (hc : ∀ c, svc.claims? bearer = some c →
      ∀ id ∈ c.identifiers, ':' ∉ id.toList) :
    svc.Confined v w (svc.refresh bearer w).2 := by
  have hrefreshable : svc.Confined v w (svc.refreshable bearer w).2 := by
    refine bind (mapError _ (verifyMode hsub _)) fun p w₁ _ => ?_
    refine bind (requireUser ..) fun user w₂ _ => ?_
    exact bind (refl w₂) fun _ w₃ _ => refl w₃
  refine bind hrefreshable fun ⟨p, user⟩ w₁ hok => ?_
  obtain ⟨hverify, hmode, -, hfind⟩ := refreshable_eq_ok hok
  obtain ⟨hpsub, hb, c, hclaims, -, hp⟩ :=
    payload_of_verify hsub hverify
  rw [hpsub] at hfind
  have hrotate : svc.Confined v w₁ (svc.rotate p.toClaims w₁).2 := by
    refine rotate hids (by rw [hb.forcedReply, hforced]) (fun s hs => ?_)
      fun id hid => hc c hclaims id (Payload.identifiers_toClaims hp hid)
    have htoClaims := (Payload.of_ofClaims? (Payload.ofClaims?_toClaims p)).1
    exact (Option.some.inj (hs.symm.trans htoClaims)).trans hpsub
  refine bind (mapError _ hrotate) fun issued w₂ hissued => ?_
  obtain ⟨t, w₃, w₄, -, -, hissue⟩ :=
    rotate_eq_ok (Action.mapError_eq_ok hissued)
  rw [hdirectory user hfind]
  refine pairFor_of_issueRefresh hids (fun id hid => ?_) hissue
  cases hid
  exact hids _

theorem logout {bearer : String}
    (hsub : ∀ s, (svc.claims? bearer).bind (·.sub) = some s → s = v)
    (hc : ∀ c, svc.claims? bearer = some c →
      ∀ id ∈ c.identifiers, ':' ∉ id.toList) :
    svc.Confined v w (svc.logout bearer w).2 := by
  refine bind (mapError _ (verifyMode hsub _)) fun p w₁ hok => ?_
  obtain ⟨hpsub, -, c, hclaims, -, hp⟩ :=
    payload_of_verify hsub (verifyMode_eq_ok (Action.mapError_eq_ok hok)).1
  cases hsession : p.sessionId with
  | none => exact refl w₁
  | some session =>
      rw [hpsub]
      refine bind (invalidateSession ?_) fun _ w₂ _ => refl w₂
      refine hc c hclaims session (Payload.identifiers_toClaims hp ?_)
      cases p <;> cases hsession <;> simp [Claims.identifiers, Payload.toClaims]

theorem authenticate {bearer : String}
    (hsub : ∀ s, (svc.claims? bearer).bind (·.sub) = some s → s = v) :
    svc.Confined v w (svc.authenticate bearer w).2 := by
  refine bind (mapError _ (verifyMode hsub _)) fun p w₁ _ => ?_
  refine bind (requireUser ..) fun user w₂ _ => ?_
  split <;> exact refl w₂

theorem issueEmailVerification (id : String) :
    svc.Confined v w (svc.issueEmailVerification id w).2 := by
  refine bind (requireUser ..) fun user w₁ _ => ?_
  split
  · exact refl w₁
  · exact bind (refl w₁) fun _ w₂ _ => refl w₂

theorem verifyEmail {token : String}
    (hsub : ∀ s, (svc.codec.read? .verification (Bearer.token token)).bind
      (·.1.sub) = some s → s = v) :
    svc.Confined v w (svc.verifyEmail token w).2 := by
  refine bind (mapError _ (verifyPurpose token _)) fun p w₁ hok => ?_
  rw [sub_of_verifyPurpose .verification hsub
    (congrArg Prod.fst (Action.mapError_eq_ok hok))]
  refine bind (update .markVerified _) fun b w₂ _ => ?_
  split <;> exact refl w₂

theorem requestPasswordReset (id : String) :
    svc.Confined v w (svc.requestPasswordReset id w).2 := by
  refine bind (requireUser ..) fun user w₁ _ => ?_
  exact bind (refl w₁) fun _ w₂ _ => refl w₂

theorem no_colon_resetDigest (token : String) :
    ':' ∉ (resetDigest token).toList := by
  rw [resetDigest, hexText, String.toList_ofList, List.mem_flatMap]
  rintro ⟨b, -, hb⟩
  exact Action.ne_colon_of_mem_hexDigits _ hb rfl

/-- The mark that may have to be taken away again is no effect of its own, so
the store and the accounts are looked at one after the other. -/
theorem confirmPasswordReset {token : String} (new : String)
    (hsub : ∀ s, (svc.codec.read? .resetPassword (Bearer.token token)).bind
      (·.1.sub) = some s → s = v) :
    svc.Confined v w (svc.confirmPasswordReset token new w).2 := by
  have howner : ∀ p, (svc.verifyPurpose token .resetPassword w).1 = .ok p →
      p.sub = v := fun p => sub_of_verifyPurpose .resetPassword hsub
  refine ⟨?_, ?_⟩
  · have hredeem : ∀ p, (svc.verifyPurpose token .resetPassword w).1 = .ok p →
        (Effect.redeem p.sub (resetDigest token)).Concerns v :=
      fun p hp => ⟨howner p hp, no_colon_resetDigest token⟩
    rcases svc.confirmPasswordReset_spec w token new with
      ⟨-, p, w₁, w₂, hp, h₁, h₂, hb, -⟩ | ⟨-, h | ⟨-, p, hp, h⟩⟩
    · exact .step (fun _ => hredeem p hp) h₁ ((Changes.pass h₂).trans
        (.of_swept (fun _ => howner p hp) hb))
    · exact .pass h
    · exact .single (hredeem p hp) h
  · refine Action.snd_bind (R := World.SparesAccounts v) .trans
      (.of_eq (congrArg World.users (svc.verifyPurpose_snd w token _)))
      fun p w₁ hp => ?_
    rw [sub_of_verifyPurpose .resetPassword hsub
      (congrArg Prod.fst (Action.mapError_eq_ok hp))]
    refine Action.snd_bind (R := World.SparesAccounts v) .trans (.of_eq rfl)
      fun _ w₂ _ => ?_
    refine Action.snd_bind (R := World.SparesAccounts v) .trans
      (.of_eq (call_users ..)) fun unmarked w₃ _ => ?_
    split
    · refine Action.snd_bind (R := World.SparesAccounts v) .trans ?_
        fun r w₄ _ => ?_
      · rw [Action.snd_attempt]
        exact (replacePassword new).users
      · cases r with
        | ok u => exact .of_eq rfl
        | error e =>
            refine Action.snd_bind (R := World.SparesAccounts v) .trans ?_
              fun _ w₅ _ => .of_eq rfl
            rw [Action.snd_attempt]
            exact .of_eq (call_users ..)
    · exact .of_eq rfl

include hids hdirectory in
/-- Every request keeps to the subject that it is about. -/
theorem perform {r : Request} (hforced : w.forcedReply = none)
    (hsubject : ∀ s, svc.subject? r = some s → s = v)
    (hnames : ∀ id ∈ r.names, ':' ∉ id.toList)
    (hpresented : ∀ c, svc.presented? r = some c →
      ∀ id ∈ c.identifiers, ':' ∉ id.toList) :
    svc.Confined v w (svc.perform r w).2 := by
  cases r with
  | login id password =>
      cases hsubject id rfl
      exact ignore (login hids hdirectory password)
  | refresh bearer =>
      exact ignore (refresh hids hdirectory hforced hsubject hpresented)
  | logout bearer => exact logout hsubject hpresented
  | logoutEverywhere id =>
      cases hsubject id rfl
      exact ignore invalidateAll
  | changePassword id current new =>
      cases hsubject id rfl
      exact changePassword hdirectory current new
  | issueEmailVerification id => exact ignore (issueEmailVerification id)
  | verifyEmail token => exact ignore (verifyEmail hsubject)
  | requestPasswordReset id => exact ignore (requestPasswordReset id)
  | confirmPasswordReset token new => exact confirmPasswordReset new hsubject
  | authenticate bearer => exact ignore (authenticate hsubject)
  | issueAccess sub session =>
      cases hsubject sub rfl
      exact ignore (mapError _ (issueAccess hids fun id hid =>
        hnames id (Option.mem_toList.mpr hid)))
  | issueRefresh sub session family =>
      cases hsubject sub rfl
      refine ignore (mapError _ (issueRefresh hids (fun id hid => ?_)
        fun id hid => ?_))
      · exact hnames id (List.mem_append_left _ (Option.mem_toList.mpr hid))
      · exact hnames id (List.mem_append_right _ (Option.mem_toList.mpr hid))
  | issueVerification sub email => exact ignore (refl w)
  | issueReset sub email => exact ignore (refl w)
  | verify bearer => exact ignore (mapError _ (verify hsubject))
  | verifyMode bearer mode =>
      exact ignore (mapError _ (verifyMode hsubject mode))
  | verifyPurpose token mode =>
      exact ignore (mapError _ (verifyPurpose token mode))
  | rotate claims =>
      exact ignore (mapError _
        (rotate hids hforced hsubject (hpresented claims rfl)))
  | invalidateAll sub =>
      cases hsubject sub rfl
      exact ignore invalidateAll
  | invalidateBestEffort sub =>
      cases hsubject sub rfl
      exact ignore invalidateBestEffort
  | invalidateSession sub session =>
      cases hsubject sub rfl
      exact ignore (invalidateSession
        (hnames session (List.mem_singleton_self _)))

end

end Service.Confined

end SessionTokens
