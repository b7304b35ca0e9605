import SessionTokens.Proofs.Accounts
import SessionTokens.Proofs.Rotation
import SessionTokens.Proofs.Verify
import SessionTokens.Session.History

/-!
# Every operation is a chain of effects

For each operation there is one lemma: it is a chain of effects, and of which
kind they are follows from what the operation answers. The kind is a parameter,
so a lemma asks for no more than that the effects which the operation can have
are of it, and an operation that is made of others inherits theirs.
-/

namespace SessionTokens

namespace Changes

variable {svc : Service} {P : Effect → Prop} {w : World}

/-! ## Operations that leave the store alone -/

section

variable {ε ε' α : Type}

theorem mapError {w₁ : World} (f : ε → ε') {m : Action ε α}
    (h : Changes svc P w (m w₁).2) : Changes svc P w (m.mapError f w₁).2 := h

theorem ignore {w₁ : World} {m : Action ε α} (hm : Changes svc P w (m w₁).2) :
    Changes svc P w (m.ignore w₁).2 :=
  bind hm fun _ w₂ _ => .done w₂

theorem ensure (r : Except ServiceError Unit) :
    Changes svc P w (Action.ensure r w).2 := .done w

theorem callDirectory (call : DirectoryCall) (f : Directory → α × Directory) :
    Changes svc P w (Action.callDirectory call f w).2 := by
  unfold Action.callDirectory
  split
  · exact .done w
  · exact .pass (.of_live rfl rfl rfl rfl rfl (Nat.le_refl _))

theorem requireUser (id : String) (missing : ServiceError) :
    Changes svc P w (Service.requireUser id missing w).2 := by
  refine bind (callDirectory ..) fun user w₁ _ => ?_
  cases user <;> exact .done w₁

theorem verifyPassword (h : Hasher) (password hash : String) :
    Changes svc P w (Action.verifyPassword h password hash w).2 := by
  unfold Action.verifyPassword
  split <;> exact .done w

theorem hashPassword (h : Hasher) (password : String) :
    Changes svc P w (Action.hashPassword h password w).2 := by
  unfold Action.hashPassword
  split
  · exact .done w
  · exact .pass (.of_live rfl rfl rfl rfl rfl (Nat.le_refl _))

end

/-! ## Issuing -/

/-- Minting is no effect. -/
theorem of_minted {n : Nat} (h : w.minted ≤ n) :
    Changes svc P w { w with minted := n } :=
  .pass (.of_live rfl rfl rfl rfl rfl h)

theorem issueAccess (sub : String) (session : Option String)
    (hP : ∀ j, P (.access sub (svc.choose w.minted session).1 j)) :
    Changes svc P w (svc.issueAccess sub session w).2 := by
  have hle := svc.le_choose w.minted session
  obtain ⟨token, -, ⟨-, e, -, h⟩ | ⟨-, -, h⟩ | ⟨-, -, w', h, hb⟩⟩ :=
    svc.issueAccess_spec sub session w
  · rw [h]
    exact of_minted (by omega)
  · rw [h]
    exact of_minted (by omega)
  · rw [h]
    exact single (hP _) (.access_of_becomes (by omega) hb)

theorem issueRefresh (sub : String) (session family : Option String)
    (hP : ∀ j, P (.refresh sub (svc.chosen w.minted session family).1 j
      (svc.chosen w.minted session family).2.1)) :
    Changes svc P w (svc.issueRefresh sub session family w).2 := by
  have hle : w.minted < (svc.chosen w.minted session family).2.2 :=
    svc.lt_chosen w.minted session family
  obtain ⟨token, -, ⟨-, e, -, h⟩ | ⟨-, -, h⟩ | ⟨-, -, w', h, hb⟩⟩ :=
    svc.issueRefresh_spec sub session family w
  · rw [h]
    exact of_minted (Nat.le_of_lt hle)
  · rw [h]
    exact of_minted (Nat.le_of_lt hle)
  · rw [h]
    exact single (hP _) (.refresh_of_becomes hle hb)

/-! ## Sweeping -/

theorem invalidateAll (sub : String) (hP : w.Sweepable → P (.sweep sub)) :
    Changes svc P w (svc.invalidateAll sub w).2 := by
  obtain ⟨w', ⟨n, h, hb, hswept⟩ | ⟨e, h, hb, -⟩⟩ :=
    svc.invalidateAll_spec sub w
  · rw [h]
    exact of_swept hP (hswept ▸ hb)
  · rw [h]
    exact of_becomes hb

theorem invalidateBestEffort {ε : Type} (sub : String)
    (hP : w.Sweepable → P (.sweep sub)) :
    Changes svc P w ((svc.invalidateBestEffort sub : Action ε Nat) w).2 := by
  obtain ⟨n, w', h, hb⟩ := svc.invalidateBestEffort_spec (ε := ε) sub w
  rw [h]
  exact of_swept hP hb

theorem invalidateSession (sub session : String)
    (hP : P (.endSession sub session)) :
    Changes svc P w (Service.invalidateSession sub session w).2 := by
  unfold Service.invalidateSession
  cases hdelete : w.outages .delete with
  | none =>
      obtain ⟨n, w', h, hb, -⟩ := Store.delete_of_none hdelete
        [Key.access sub session, Key.refresh sub session]
      rw [h]
      exact single hP (.endSession_of_becomes hb)
  | some how =>
      rw [Store.delete, Store.call_of_some hdelete]
      exact .done w

/-! ## Verifying -/

theorem verify (bearer : String)
    (hP : ∀ sub, w.Sweepable → svc.compromised? w bearer = some sub →
      P (.sweep sub)) :
    Changes svc P w (svc.verify bearer w).2 := by
  obtain ⟨r, k, w', hverify, hverification, hb⟩ := svc.verify_spec bearer w
  rw [hverify]
  cases hverification with
  | unreadable _ => exact of_becomes hb
  | untimely _ => exact of_becomes hb
  | judged hdecode hverdict =>
      cases hverdict with
      | incomplete _ => exact of_becomes hb
      | blind _ _ _ => exact of_becomes hb
      | stale _ _ _ _ => exact of_becomes hb
      | good _ _ _ _ _ _ => exact of_becomes hb
      | compromised hs _ _ hline =>
          refine of_swept (fun hw => hP _ hw ?_) hb
          obtain ⟨v, hread, -⟩ := Codec.read?_of_decode hdecode
          have hwhy := World.isCompromise_of_lineage hline
          rw [Service.compromised?, hverify, hread]
          simp [Outcome.rejection?, hwhy, (Claims.session?_eq_some.mp hs).1]

theorem verifyMode (bearer : String) (mode : Mode)
    (hP : ∀ sub, w.Sweepable → svc.compromised? w bearer = some sub →
      P (.sweep sub)) :
    Changes svc P w (svc.verifyMode bearer mode w).2 := by
  refine bind (verify bearer hP) fun p w₁ _ => ?_
  split <;> exact .done w₁

theorem verifyPurpose (token : String) (mode : Mode) :
    Changes svc P w (svc.verifyPurpose token mode w).2 := by
  unfold Service.verifyPurpose
  split
  · exact .done w
  · refine bind (.done w) fun claims w₁ _ => ?_
    split <;> exact .done w₁

/-! ## Rotating -/

theorem retire (c : Claims) (hforced : w.forcedReply = none)
    (hP : ∀ t, (svc.retire c w).1 = .ok t → P (.retire t))
    (hS : ∀ sub, w.Sweepable → svc.refused? w c = some sub → P (.sweep sub)) :
    Changes svc P w (svc.retire c w).2 := by
  obtain ⟨k, hretirement, hb⟩ := svc.retire_spec c hforced
  have hwho : ∀ sub why, c.sub = some sub →
      (svc.retire c w).1 = .error (.rejected why) →
        svc.refused? w c = some sub := by
    intro sub why hsub hwhy
    rw [Service.refused?, hwhy]
    exact hsub
  generalize hr : (svc.retire c w).1 = r at hretirement hwho hP
  cases hretirement with
  | anonymous _ => exact of_becomes hb
  | failed _ _ _ => exact of_becomes hb
  | endless _ _ _ _ => exact of_becomes hb
  | incomplete hsub _ =>
      exact of_swept (fun hw => hS _ hw (hwho _ _ hsub rfl)) hb
  | orphaned ht _ _ =>
      exact of_swept (fun hw => hS _ hw (hwho _ _ ht.sub rfl)) hb
  | reused ht _ _ _ =>
      exact of_swept (fun hw => hS _ hw (hwho _ _ ht.sub rfl)) hb
  | stale ht _ _ _ _ =>
      exact of_swept (fun hw => hS _ hw (hwho _ _ ht.sub rfl)) hb
  | done ht _ hfamily hused hrefresh _ =>
      exact single (hP _ rfl) (.retire_of_becomes hb
        ⟨hused, hrefresh, by rw [hfamily]; rfl⟩)

theorem rotate (c : Claims) (hforced : w.forcedReply = none)
    (hP : ∀ t, (svc.retire c w).1 = .ok t → P (.retire t))
    (hR : ∀ t n j, (svc.retire c w).1 = .ok t → w.minted < n →
      P (.refresh t.sub (svc.ids n) j t.family))
    (hS : ∀ sub, w.Sweepable → svc.refused? w c = some sub → P (.sweep sub)) :
    Changes svc P w (svc.rotate c w).2 := by
  have hretire := retire c hforced hP hS
  refine bind hretire fun t w₁ ht => ?_
  refine bind (of_minted (Nat.le_succ _)) fun fresh w₂ hfresh => ?_
  cases hfresh
  refine issueRefresh _ _ _ fun j => hR t _ j (by rw [ht]) ?_
  have hle := hretire.minted
  rw [ht] at hle
  exact Nat.lt_succ_of_le hle

end Changes

/-- The identifier of a session in which a request may issue: one that it names,
or one that is minted meanwhile. -/
def Service.Enters (svc : Service) (w : World) (r : Request)
    (session : String) : Prop :=
  session ∈ r.names ∨ ∃ n, w.minted < n ∧ session = svc.ids n

/-- The kinds of effect that a request can have, given what it answers. -/
def Service.Allows (svc : Service) (w : World) (r : Request) : Effect → Prop
  | .pass => True
  | .access _ session _ => svc.Enters w r session
  | .refresh sub session _ family =>
    svc.Enters w r session ∧
      (svc.renewed? w r = some (sub, family) ∨
        ∃ n, w.minted < n ∧ family = svc.ids n)
  | .retire t => svc.retired? w r = some t
  | .sweep sub => w.Sweepable ∧ svc.swept? w r = some sub
  | .endSession sub session => svc.ended? w r = some (sub, session)
  | .redeem _ digest =>
    ∃ token new, r = .confirmPasswordReset token new ∧
      digest = resetDigest token

end SessionTokens
