import SessionTokens.Session.History

/-!
# What does not look at the script

Whether the rotation script is registered is a part of the store's state that
only running it ever asks about. Every other call does the same either way and
leaves that part as it was. `Overlooks` says so, of a call and of an operation,
and it passes from the parts of an operation to the whole, so each one is gone
through as it is written. What is left in the end is every request but the two
that exchange a refresh token.
-/

namespace SessionTokens

namespace MemoryStore

variable {α : Type} {s : MemoryStore} {now : Nat}

/-- The store with the rotation script registered, or without it. -/
def withScript (s : MemoryStore) (loaded : Bool) : MemoryStore :=
  { s with scriptLoaded := loaded }

/-- The call does the same with the script and without it, and leaves that as it
was. -/
def Overlooks (f : MemoryStore → Nat → Reply α) : Prop :=
  ∀ s now loaded, f (s.withScript loaded) now =
    ((f s now).1, (f s now).2.withScript loaded)

@[simp] theorem keyspace_withScript (s : MemoryStore) (loaded : Bool) :
    (s.withScript loaded).keyspace = s.keyspace := rfl

@[simp] theorem purge_withScript (s : MemoryStore) (now : Nat) (loaded : Bool) :
    (s.withScript loaded).purge now = (s.purge now).withScript loaded := rfl

@[simp] theorem cursorKey?_withScript (s : MemoryStore) (cursor : UInt64)
    (loaded : Bool) :
    (s.withScript loaded).cursorKey? cursor = s.cursorKey? cursor := rfl

@[simp] theorem touch_withScript (s : MemoryStore) (now : Nat) (key : String)
    (loaded : Bool) : (s.withScript loaded).touch now key =
      (s.touch now key).withScript loaded := by
  simp only [touch, keyspace_withScript]
  cases s.keyspace.get? key with
  | none => rfl
  | some e => dsimp only; split <;> rfl

/-! ## Calls -/

theorem write_withScript (s : MemoryStore) (now : Nat) (key value : String)
    (ttl : Nat) (reply : α) (loaded : Bool) :
    (s.withScript loaded).write now key value ttl reply =
      ((s.write now key value ttl reply).1,
        (s.write now key value ttl reply).2.withScript loaded) := by
  unfold write
  split <;> rfl

theorem overlooks_get (key : String) :
    Overlooks fun s now => s.get now key := by
  intro s now loaded
  simp only [get, touch_withScript, keyspace_withScript]

theorem overlooks_contains (key : String) :
    Overlooks fun s now => s.contains now key := by
  intro s now loaded
  simp only [contains, touch_withScript, keyspace_withScript]

theorem overlooks_set (key value : String) (ttl : Nat) :
    Overlooks fun s now => s.set now key value ttl :=
  fun s now => s.write_withScript now key value ttl ()

theorem overlooks_setIfAbsent (key value : String) (ttl : Nat) :
    Overlooks fun s now => s.setIfAbsent now key value ttl := by
  intro s now loaded
  simp only [setIfAbsent, touch_withScript, keyspace_withScript]
  cases (s.touch now key).keyspace.get? key with
  | some e => rfl
  | none => exact write_withScript ..

theorem overlooks_delete (keys : List String) :
    Overlooks fun s now => s.delete now keys := by
  intro s now loaded
  have hfrom : ∀ (s : MemoryStore) (count : Nat),
      (s.withScript loaded).deleteFrom now count keys =
        ((s.deleteFrom now count keys).1,
          (s.deleteFrom now count keys).2.withScript loaded) := by
    induction keys with
    | nil => exact fun _ _ => rfl
    | cons key keys ih =>
        intro s count
        simp only [deleteFrom, touch_withScript, keyspace_withScript]
        cases (s.touch now key).keyspace.get? key with
        | some e => exact ih ((s.touch now key).remove key) (count + 1)
        | none => exact ih (s.touch now key) count
  simp only [delete, hfrom]

theorem overlooks_scanPage (pattern : String) (cursor : UInt64) (count : Nat) :
    Overlooks fun s now => s.scanPage now pattern cursor count := by
  intro s now loaded
  have hpage : ∀ (s : MemoryStore) (left : Keyspace),
      (s.withScript loaded).page pattern count left =
        ((s.page pattern count left).1,
          (s.page pattern count left).2.withScript loaded) := by
    intro s left
    simp only [page]
    split
    · rfl
    · split <;> rfl
  simp only [scanPage, purge_withScript, cursorKey?_withScript]
  split
  · exact hpage (s.purge now) _
  · cases (s.purge now).cursorKey? cursor with
    | none => rfl
    | some last => exact hpage ((s.purge now).closeCursor cursor) _

end MemoryStore

namespace World

variable (w : World)

/-- The world with the rotation script registered at its store, or without
it. -/
def withScript (loaded : Bool) : World :=
  { w with store := w.store.withScript loaded }

@[simp] theorem outages_withScript (loaded : Bool) :
    (w.withScript loaded).outages = w.outages := rfl

@[simp] theorem withScript_withScript (loaded loaded' : Bool) :
    (w.withScript loaded).withScript loaded' = w.withScript loaded' := rfl

end World

/-! ## Operations that overlook the script -/

/-- The operation does the same with the script and without it, and leaves that
as it was. It puts no call of the store out of order either. -/
structure Action.Overlooks {ε α : Type} (m : Action ε α) : Prop where
  run : ∀ (w : World) (loaded : Bool),
    m (w.withScript loaded) = ((m w).1, (m w).2.withScript loaded)
  outages : ∀ w : World, (m w).2.outages = w.outages

namespace Action.Overlooks

variable {ε ε' α β : Type} {m m' : Action ε α}

theorem pure (a : α) : (pure a : Action ε α).Overlooks :=
  ⟨fun _ _ => rfl, fun _ => rfl⟩

theorem fail (e : ε) : (Action.fail e : Action ε α).Overlooks :=
  ⟨fun _ _ => rfl, fun _ => rfl⟩

theorem lift (r : Outcome ε α) : (Action.lift r).Overlooks :=
  ⟨fun _ _ => rfl, fun _ => rfl⟩

theorem bind {f : α → Action ε β} (hm : m.Overlooks)
    (hf : ∀ a, (f a).Overlooks) : (m >>= f).Overlooks := by
  refine ⟨fun w loaded => ?_, fun w => ?_⟩
  · rw [bind_apply, bind_apply, hm.run]
    rcases m w with ⟨a | e | _, w'⟩
    · exact (hf a).run w' loaded
    · rfl
    · rfl
  · have houtages := hm.outages w
    rw [bind_apply]
    rcases h : m w with ⟨a | e | _, w'⟩ <;> rw [h] at houtages
    · exact ((hf a).outages w').trans houtages
    · exact houtages
    · exact houtages

theorem ite {c : Prop} [Decidable c] (h : m.Overlooks) (h' : m'.Overlooks) :
    (if c then m else m').Overlooks := by
  split
  · exact h
  · exact h'

theorem mapError (h : m.Overlooks) (f : ε → ε') : (m.mapError f).Overlooks :=
  ⟨fun w loaded => by simp only [Action.mapError, h.run], h.outages⟩

theorem ignore (h : m.Overlooks) : m.ignore.Overlooks :=
  h.bind fun _ => .pure _

theorem attempt (h : m.Overlooks) :
    (m.attempt : Action ε' (Except ε α)).Overlooks := by
  refine ⟨fun w loaded => ?_, fun w => ?_⟩
  · rw [Action.attempt, Action.attempt, h.run]
    rcases m w with ⟨a | e | _, w'⟩ <;> rfl
  · have houtages := h.outages w
    rw [Action.attempt]
    rcases hm : m w with ⟨a | e | _, w'⟩ <;> rw [hm] at houtages <;>
      exact houtages

/-! ### Calls of the store -/

theorem call {c : StoreCall} {f : MemoryStore → Nat → MemoryStore.Reply α}
    (h : MemoryStore.Overlooks f) : (Store.call c f).Overlooks := by
  refine ⟨fun w loaded => ?_, fun w => ?_⟩
  · unfold Store.call
    rw [World.outages_withScript]
    cases w.outages c with
    | some how => rfl
    | none =>
        have hf := h w.store w.clock loaded
        exact congrArg
          (fun r : MemoryStore.Reply α => (r.1, { w with store := r.2 })) hf
  · unfold Store.call
    split <;> rfl

theorem get (key : String) : (Store.get key).Overlooks :=
  call (MemoryStore.overlooks_get key)

theorem contains (key : String) : (Store.contains key).Overlooks :=
  call (MemoryStore.overlooks_contains key)

theorem set (key value : String) (ttl : Nat) :
    (Store.set key value ttl).Overlooks :=
  call (MemoryStore.overlooks_set key value ttl)

theorem setIfAbsent (key value : String) (ttl : Nat) :
    (Store.setIfAbsent key value ttl).Overlooks :=
  call (MemoryStore.overlooks_setIfAbsent key value ttl)

theorem delete (keys : List String) : (Store.delete keys).Overlooks :=
  call (MemoryStore.overlooks_delete keys)

theorem scanPage (pattern : String) (cursor : UInt64) (count : Nat) :
    (Store.scanPage pattern cursor count).Overlooks :=
  call (MemoryStore.overlooks_scanPage pattern cursor count)

/-- One page, and then the pages behind it. -/
theorem scanFrom_apply (pattern : String) (count : Nat) (cursor : UInt64)
    (w : World) :
    Store.scanFrom pattern count cursor w =
      (do
        let page ← Store.scanPage pattern cursor count
        if page.cursor = 0 then return page.keys
        else
          let keys ← Store.scanFrom pattern count page.cursor
          return page.keys ++ keys : Action ServiceError (List String)) w := by
  rw [Store.scanFrom, bind_apply]
  split
  · next page w' h =>
      rw [h]
      dsimp only
      split
      · rfl
      · rw [bind_apply]
        rcases Store.scanFrom pattern count page.cursor w' with
          ⟨keys | e | _, w''⟩ <;> rfl
  · next e w' h => rw [h]
  · next w' h => rw [h]

/-- The induction is on what there is still to look at, as the recursion of the
pages is. -/
theorem scanFrom (pattern : String) (count : Nat) (cursor : UInt64) :
    (Store.scanFrom pattern count cursor).Overlooks := by
  have hboth : ∀ (n : Nat) (w : World) (cursor : UInt64),
      (Store.left w cursor).entries.length = n →
      (∀ loaded, Store.scanFrom pattern count cursor (w.withScript loaded) =
        ((Store.scanFrom pattern count cursor w).1,
          (Store.scanFrom pattern count cursor w).2.withScript loaded)) ∧
      (Store.scanFrom pattern count cursor w).2.outages = w.outages := by
    intro n
    induction n using Nat.strongRecOn with
    | ind n ih =>
        rintro w cursor rfl
        have hpage := scanPage pattern cursor count
        have houtages := hpage.outages w
        simp only [scanFrom_apply, bind_apply, hpage.run]
        rcases h : Store.scanPage pattern cursor count w with ⟨page | e | _, w'⟩
        · rw [h] at houtages
          dsimp only
          by_cases hmore : page.cursor = 0
          · simp only [if_pos hmore]
            exact ⟨fun _ => rfl, houtages⟩
          · obtain ⟨hrun, hrest⟩ := ih _ (Store.left_scanPage h hmore) w'
              page.cursor rfl
            simp only [if_neg hmore, bind_apply, hrun]
            rcases hkeys : Store.scanFrom pattern count page.cursor w' with
              ⟨keys | e | _, w''⟩ <;> rw [hkeys] at hrest <;>
              exact ⟨fun _ => rfl, hrest.trans houtages⟩
        · rw [h] at houtages
          exact ⟨fun _ => rfl, houtages⟩
        · rw [h] at houtages
          exact ⟨fun _ => rfl, houtages⟩
  exact ⟨fun w => (hboth _ w cursor rfl).1, fun w => (hboth _ w cursor rfl).2⟩

theorem scan (pattern : String) (count : Nat) :
    (Store.scan pattern count).Overlooks :=
  (scanFrom pattern count 0).bind fun _ => .pure _

/-! ### Accounts and passwords -/

/-- Whether a collaborator is out of order has nothing to do with the script. -/
theorem barring {out : World → Prop} [DecidablePred out]
    (hout : ∀ w loaded, out (w.withScript loaded) ↔ out w) (h : m.Overlooks)
    (h' : m'.Overlooks) :
    Action.Overlooks fun w => if out w then m w else m' w := by
  refine ⟨fun w loaded => ?_, fun w => ?_⟩
  · by_cases hw : out w
    · rw [if_pos hw, if_pos ((hout w loaded).mpr hw), h.run]
    · rw [if_neg hw, if_neg fun hw' => hw ((hout w loaded).mp hw'), h'.run]
  · by_cases hw : out w
    · rw [if_pos hw, h.outages]
    · rw [if_neg hw, h'.outages]

theorem callDirectory (c : DirectoryCall) (f : Directory → α × Directory) :
    (Action.callDirectory c f).Overlooks :=
  barring (fun _ _ => Iff.rfl) (.fail _) ⟨fun _ _ => rfl, fun _ => rfl⟩

theorem hashPassword (h : Hasher) (password : String) :
    (Action.hashPassword h password).Overlooks := by
  have hsalt : Action.Overlooks (ε := ServiceError) drawSalt :=
    ⟨fun _ _ => rfl, fun _ => rfl⟩
  exact barring (fun _ _ => Iff.rfl) (.fail _) (hsalt.bind fun _ => .lift _)

theorem verifyPassword (h : Hasher) (password hash : String) :
    (Action.verifyPassword h password hash).Overlooks :=
  barring (fun _ _ => Iff.rfl) (.fail _) (.lift _)

theorem requireUser (id : String) (missing : ServiceError) :
    (Service.requireUser id missing).Overlooks := by
  refine (callDirectory ..).bind fun user => ?_
  cases user with
  | some u => exact .pure u
  | none => exact .fail missing

theorem ensure (r : Except ServiceError Unit) : (Action.ensure r).Overlooks :=
  .lift _

end Action.Overlooks

namespace Service

open SessionTokens.Action (Overlooks)

variable (svc : Service)

/-! ## Ending sessions -/

theorem overlooks_deleteInChunks (size : Nat) (keys : List String) :
    (deleteInChunks size keys).Overlooks := by
  induction keys using deleteInChunks.induct size with
  | case1 =>
      rw [deleteInChunks]
      exact .pure 0
  | case2 key keys ih =>
      rw [deleteInChunks]
      exact (Overlooks.delete _).bind fun _ => ih.bind fun _ => .pure _

theorem overlooks_sweepNamespace (sub : String) (ns : Namespace) :
    (svc.sweepNamespace sub ns).Overlooks :=
  (Overlooks.scan _ _).bind fun _ => overlooks_deleteInChunks ..

theorem overlooks_sweepFrom {ε : Type} (sub : String) (sofar : Swept)
    (nss : List Namespace) :
    (svc.sweepFrom sub sofar nss : Action ε Swept).Overlooks := by
  induction nss generalizing sofar with
  | nil => exact .pure sofar
  | cons ns nss ih =>
      exact (svc.overlooks_sweepNamespace sub ns).attempt.bind fun _ => ih _

theorem overlooks_invalidateAll (sub : String) :
    (svc.invalidateAll sub).Overlooks := by
  refine (svc.overlooks_sweepFrom sub _ _).bind fun swept => ?_
  split
  · exact .fail _
  · exact .pure _

theorem overlooks_invalidateBestEffort {ε : Type} (sub : String) :
    (svc.invalidateBestEffort sub : Action ε Nat).Overlooks :=
  (svc.overlooks_sweepFrom sub _ _).bind fun _ => .pure _

theorem overlooks_sweepAndReject {α : Type} (sub : String) (why : Rejection) :
    (svc.sweepAndReject sub why : Action TokenError α).Overlooks :=
  (svc.overlooks_invalidateBestEffort sub).bind fun _ => .fail _

/-! ## Verifying -/

theorem overlooks_decode (p : Purpose) (token : String) :
    (svc.decode p token).Overlooks := ⟨fun _ _ => rfl, fun _ => rfl⟩

theorem overlooks_checkLineage (sub jti : String) (family : Option String) :
    (svc.checkLineage sub jti family).Overlooks := by
  have hfamily : (familyLive sub family).Overlooks := by
    cases family with
    | none => exact .pure false
    | some f => exact (Overlooks.contains _).mapError _
  exact ((Overlooks.contains _).mapError _).bind fun _ =>
    .ite (svc.overlooks_sweepAndReject sub _) (hfamily.bind fun _ =>
      .ite (.pure ()) (svc.overlooks_sweepAndReject sub _))

theorem overlooks_verifyClaims (claims : Claims) :
    (svc.verifyClaims claims).Overlooks := by
  unfold verifyClaims
  split
  · exact .fail _
  · next c _ =>
      split
      · exact .fail _
      · next ns _ =>
          have hcheck : ∀ u : Unit, (do
              let stored ← failClosed
                (Store.get (Key.make ns.name c.sub c.sessionId))
              if stored = some c.jti then
                Action.lift (.ofOption (.rejected .structureInvalid)
                  (Payload.ofClaims? claims))
              else Action.fail (.rejected .livenessMismatch) :
                Action TokenError Payload).Overlooks := fun _ =>
            ((Overlooks.get _).mapError _).bind fun _ =>
              .ite (.lift _) (.fail _)
          dsimp only
          split
          · exact (svc.overlooks_checkLineage ..).bind hcheck
          · exact (Overlooks.pure ()).bind hcheck

theorem overlooks_verify (bearer : String) : (svc.verify bearer).Overlooks :=
  (svc.overlooks_decode ..).bind svc.overlooks_verifyClaims

theorem overlooks_verifyMode (bearer : String) (mode : Mode) :
    (svc.verifyMode bearer mode).Overlooks :=
  (svc.overlooks_verify bearer).bind fun _ => .ite (.pure _) (.fail _)

theorem overlooks_verifyPurpose (token : String) (mode : Mode) :
    (svc.verifyPurpose token mode).Overlooks :=
  .ite (.fail _) ((svc.overlooks_decode ..).bind fun _ =>
    .ite (.lift _) (.fail _))

/-! ## Issuing -/

theorem overlooks_mintId {ε : Type} :
    (svc.mintId : Action ε String).Overlooks := ⟨fun _ _ => rfl, fun _ => rfl⟩

theorem overlooks_orMintId {ε : Type} (id : Option String) :
    (svc.orMintId id : Action ε String).Overlooks := by
  cases id with
  | some id => exact .pure id
  | none => exact svc.overlooks_mintId

theorem overlooks_expiryOf {ε : Type} (ttl : UInt64) :
    (expiryOf ttl : Action ε Int64).Overlooks :=
  ⟨fun _ _ => rfl, fun _ => rfl⟩

theorem overlooks_sign (p : Payload) : (svc.sign p).Overlooks :=
  (Overlooks.lift _).bind fun _ => .pure _

theorem overlooks_issueAccess (sub : String) (session : Option String) :
    (svc.issueAccess sub session).Overlooks :=
  (svc.overlooks_orMintId session).bind fun _ =>
    svc.overlooks_mintId.bind fun _ => (overlooks_expiryOf _).bind fun _ =>
      (svc.overlooks_sign _).bind fun _ =>
        ((Overlooks.set ..).mapError _).bind fun _ => .pure _

theorem overlooks_issueRefresh (sub : String)
    (session family : Option String) :
    (svc.issueRefresh sub session family).Overlooks :=
  (svc.overlooks_orMintId session).bind fun _ =>
    (svc.overlooks_orMintId family).bind fun _ =>
      svc.overlooks_mintId.bind fun _ => (overlooks_expiryOf _).bind fun _ =>
        (svc.overlooks_sign _).bind fun _ =>
          ((Overlooks.set ..).mapError _).bind fun _ =>
            ((Overlooks.set ..).mapError _).bind fun _ => .pure _

theorem overlooks_issueVerification (sub : String) (email : Option String) :
    (svc.issueVerification sub email).Overlooks :=
  (overlooks_expiryOf _).bind fun _ => svc.overlooks_sign _

theorem overlooks_issueReset (sub : String) (email : Option String) :
    (svc.issueReset sub email).Overlooks :=
  (overlooks_expiryOf _).bind fun _ => svc.overlooks_sign _

/-! ## Flows -/

theorem overlooks_pairFor (sub : String) (refresh : Issued) :
    (svc.pairFor sub refresh).Overlooks := by
  unfold pairFor
  split
  · exact .fail _
  · exact ((svc.overlooks_issueAccess ..).mapError _).bind fun _ => .pure _

theorem overlooks_login (id password : String) :
    (svc.login id password).Overlooks :=
  (Overlooks.requireUser ..).bind fun _ =>
    (Overlooks.verifyPassword ..).bind fun _ =>
      .ite ((Overlooks.ensure _).bind fun _ =>
        ((svc.overlooks_issueRefresh ..).mapError _).bind fun _ =>
          svc.overlooks_pairFor ..) (.fail _)

theorem overlooks_refreshable (bearer : String) :
    (svc.refreshable bearer).Overlooks :=
  ((svc.overlooks_verifyMode ..).mapError _).bind fun _ =>
    (Overlooks.requireUser ..).bind fun _ =>
      (Overlooks.ensure _).bind fun _ => .pure _

theorem overlooks_logout (bearer : String) :
    (svc.logout bearer).Overlooks := by
  refine ((svc.overlooks_verifyMode ..).mapError _).bind fun payload => ?_
  split
  · exact .fail _
  · exact (Overlooks.delete _).bind fun _ => .pure _

theorem overlooks_authenticate (bearer : String) :
    (svc.authenticate bearer).Overlooks :=
  ((svc.overlooks_verifyMode ..).mapError _).bind fun _ =>
    (Overlooks.requireUser ..).bind fun _ => .ite (.pure _) (.fail _)

theorem overlooks_replacePassword (id new : String) :
    (svc.replacePassword id new).Overlooks :=
  (Overlooks.hashPassword ..).bind fun _ =>
    (Overlooks.callDirectory ..).bind fun _ =>
      .ite ((svc.overlooks_invalidateAll id).bind fun _ => .pure _) (.fail _)

theorem overlooks_changePassword (id current new : String) :
    (svc.changePassword id current new).Overlooks :=
  (Overlooks.requireUser ..).bind fun _ =>
    (Overlooks.verifyPassword ..).bind fun _ =>
      .ite ((Overlooks.ensure _).bind fun _ => (Overlooks.ensure _).bind
        fun _ => svc.overlooks_replacePassword ..) (.fail _)

theorem overlooks_issueEmailVerification (id : String) :
    (svc.issueEmailVerification id).Overlooks :=
  (Overlooks.requireUser ..).bind fun _ => .ite (.fail _)
    (((svc.overlooks_issueVerification ..).mapError _).bind fun _ => .pure _)

theorem overlooks_verifyEmail (token : String) :
    (svc.verifyEmail token).Overlooks :=
  ((svc.overlooks_verifyPurpose ..).mapError _).bind fun _ =>
    (Overlooks.callDirectory ..).bind fun _ => .ite (.pure _) (.fail _)

theorem overlooks_requestPasswordReset (id : String) :
    (svc.requestPasswordReset id).Overlooks :=
  (Overlooks.requireUser ..).bind fun _ =>
    ((svc.overlooks_issueReset ..).mapError _).bind fun _ => .pure _

theorem overlooks_confirmPasswordReset (token new : String) :
    (svc.confirmPasswordReset token new).Overlooks := by
  refine ((svc.overlooks_verifyPurpose ..).mapError _).bind fun payload => ?_
  refine (Overlooks.ensure _).bind fun _ => ?_
  refine (Overlooks.setIfAbsent ..).bind fun fresh => .ite ?_ (.fail _)
  refine (svc.overlooks_replacePassword ..).attempt.bind fun stored => ?_
  split
  · exact .pure ()
  · exact (Overlooks.delete _).attempt.bind fun _ => .fail _

/-! ## Requests -/

/-- Only an exchange of a refresh token has any use for the script. -/
theorem overlooks_perform {r : Request} (hr : r.isExchange = false) :
    (svc.perform r).Overlooks := by
  cases r with
  | login id password => exact (svc.overlooks_login id password).ignore
  | refresh bearer => cases hr
  | logout bearer => exact svc.overlooks_logout bearer
  | logoutEverywhere id => exact (svc.overlooks_invalidateAll id).ignore
  | changePassword id current new => exact svc.overlooks_changePassword ..
  | issueEmailVerification id =>
      exact (svc.overlooks_issueEmailVerification id).ignore
  | verifyEmail token => exact (svc.overlooks_verifyEmail token).ignore
  | requestPasswordReset id =>
      exact (svc.overlooks_requestPasswordReset id).ignore
  | confirmPasswordReset token new =>
      exact svc.overlooks_confirmPasswordReset token new
  | authenticate bearer => exact (svc.overlooks_authenticate bearer).ignore
  | issueAccess sub session =>
      exact ((svc.overlooks_issueAccess sub session).mapError _).ignore
  | issueRefresh sub session family =>
      exact ((svc.overlooks_issueRefresh sub session family).mapError _).ignore
  | issueVerification sub email =>
      exact ((svc.overlooks_issueVerification sub email).mapError _).ignore
  | issueReset sub email =>
      exact ((svc.overlooks_issueReset sub email).mapError _).ignore
  | verify bearer => exact ((svc.overlooks_verify bearer).mapError _).ignore
  | verifyMode bearer mode =>
      exact ((svc.overlooks_verifyMode bearer mode).mapError _).ignore
  | verifyPurpose token mode =>
      exact ((svc.overlooks_verifyPurpose token mode).mapError _).ignore
  | rotate claims => cases hr
  | invalidateAll sub => exact (svc.overlooks_invalidateAll sub).ignore
  | invalidateBestEffort sub =>
      exact (svc.overlooks_invalidateBestEffort sub).ignore
  | invalidateSession sub session => exact (Overlooks.delete _).ignore

end Service

end SessionTokens
