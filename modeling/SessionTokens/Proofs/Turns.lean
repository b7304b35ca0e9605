import SessionTokens.Proofs.Rotation
import SessionTokens.Token.Contention

/-!
# A rotation turn by turn

A rotation that has all turns to itself is the operation. Each loop of the
operation, over pages, over keys to remove and over namespaces, is a loop of
turns with the same measure, and a failure that the operation passes over is
one that the turns pass over.
-/

namespace SessionTokens

namespace Rotating

variable {svc : Service}

/-! ## One after another -/

theorem alone_add (svc : Service) (m n : Nat) (state : Rotating × World) :
    alone svc (m + n) state = alone svc n (alone svc m state) := by
  induction m generalizing state with
  | zero => rw [Nat.zero_add]; rfl
  | succ m ih =>
      rw [Nat.succ_add, alone, alone]
      cases hturn : state.1.turn? svc state.2 with
      | some next => exact ih _
      | none =>
          cases n with
          | zero => rfl
          | succ n => simp only [alone, hturn]

theorem alone_finished (svc : Service) (n : Nat)
    (result : Outcome TokenError Issued) (w : World) :
    alone svc n (.finished result, w) = (.finished result, w) := by
  cases n <;> rfl

/-- The one state comes after the other, if nobody else has a turn. -/
def Leads (svc : Service) (state state' : Rotating × World) : Prop :=
  ∃ n, alone svc n state = state'

/-- Without others the state ends like the operation. -/
def Ends (svc : Service) (state : Rotating × World)
    (result : Outcome TokenError Issued × World) : Prop :=
  Leads svc state (.finished result.1, result.2)

namespace Leads

variable {state state' state'' : Rotating × World}

theorem refl (state : Rotating × World) : Leads svc state state := ⟨0, rfl⟩

theorem trans (h : Leads svc state state') (h' : Leads svc state' state'') :
    Leads svc state state'' := by
  obtain ⟨m, rfl⟩ := h
  obtain ⟨n, rfl⟩ := h'
  exact ⟨m + n, alone_add svc m n state⟩

/-- A turn is a call and what is made of its answer. -/
theorem turn {α : Type} {r : Rotating} {step : StoreStep}
    {m : Action ServiceError α} {f : α → Answer} {w w' : World}
    {result : Outcome ServiceError α} (hcall : r.call? svc = some step)
    (hstep : step.perform = m.answering f) (hm : m w = (result, w')) :
    Leads svc (r, w) (r.resume svc w' (result.bind fun a => .ok (f a))) := by
  refine ⟨1, ?_⟩
  simp only [alone, turn?, hcall, Option.map_some, hstep, Action.answering, hm]

end Leads

/-- There is one way to end. -/
theorem Ends.unique {state : Rotating × World}
    {result result' : Outcome TokenError Issued × World}
    (h : Ends svc state result) (h' : Ends svc state result') :
    result = result' := by
  obtain ⟨m, hm⟩ := h
  obtain ⟨n, hn⟩ := h'
  have hmn := alone_add svc m n state
  rw [Nat.add_comm, alone_add, hm, hn, alone_finished, alone_finished] at hmn
  obtain ⟨hresult, hworld⟩ := Prod.mk.inj hmn
  exact Prod.ext (finished.inj hresult).symm hworld.symm

variable (svc)

/-- A call whose failure ends the rotation. -/
theorem ends_store {α : Type} {r : Rotating} {step : StoreStep}
    {m : Action ServiceError α} {f : α → Answer}
    {next : α → Action TokenError Issued} (hcall : r.call? svc = some step)
    (hstep : step.perform = m.answering f)
    (hok : ∀ a w', Ends svc (r.resume svc w' (.ok (f a))) (next a w'))
    (herror : ∀ e w', r.resume svc w' (.error e) =
      (.finished (.error (.internal e)), w'))
    (hrange : ∀ w', r.resume svc w' .outOfRange = (.finished .outOfRange, w'))
    (w : World) : Ends svc (r, w) ((Service.store m >>= next) w) := by
  rw [Action.bind_apply, Service.store_apply]
  rcases hm : m w with ⟨a | e | _, w'⟩
  · exact (Leads.turn hcall hstep hm).trans (hok a w')
  · have hturn := Leads.turn hcall hstep hm
    rw [Outcome.bind, herror] at hturn
    exact hturn
  · have hturn := Leads.turn hcall hstep hm
    rw [Outcome.bind, hrange] at hturn
    exact hturn

/-! ## Sweeps -/

section sweeps

variable (sub : String) (why : Rejection) (ns : Namespace)
  (rest : List Namespace)

/-- Where the pages of a namespace lead. -/
def scanned (found : List String) :
    Outcome ServiceError (List String) → Rotating
  | .ok keys => clear sub why rest ((found ++ keys).mergeSort.eraseReps.filter
      fun key => Key.belongsTo key ns.name sub)
  | .error _ => sweep sub why rest
  | .outOfRange => .finished .outOfRange

/-- Where the sweep of a namespace leads. -/
def swept : Outcome ServiceError Nat → Rotating
  | .outOfRange => .finished .outOfRange
  | _ => sweep sub why rest

theorem scanned_append (found keys : List String)
    (r : Outcome ServiceError (List String)) :
    scanned sub why ns rest (found ++ keys) r =
      scanned sub why ns rest found
        (r.bind fun more => .ok (keys ++ more)) := by
  cases r with
  | ok more => rw [scanned, Outcome.bind, scanned, List.append_assoc]
  | error e => rfl
  | outOfRange => rfl

/-- The pages that are left are scanned one after another. The induction is on
how much they leave, as the recursion of the operation is. -/
theorem leads_scanFrom (cursor : UInt64) (found : List String) (w : World) :
    let r := Store.scanFrom (Key.subjectPattern ns.name sub) svc.batch cursor w
    Leads svc (.scanning sub why ns rest cursor found, w)
      (scanned sub why ns rest found r.1, r.2) := by
  induction hn : (Store.left w cursor).entries.length using Nat.strongRecOn
    generalizing w cursor found with
  | _ n ih =>
      rw [Store.scanFrom]
      split
      · next page w' hpage =>
          have hturn :
              Leads svc (.scanning sub why ns rest cursor found, w) _ :=
            .turn rfl rfl hpage
          dsimp only [Outcome.bind, resume] at hturn
          split
          · next hzero =>
              rw [if_pos hzero] at hturn
              exact hturn
          · next hmore =>
              rw [if_neg hmore] at hturn
              have hlt := Store.left_scanPage hpage hmore
              have hrest := ih _ (hn ▸ hlt) page.cursor (found ++ page.keys) w'
                rfl
              dsimp only at hrest
              rw [scanned_append] at hrest
              exact hturn.trans hrest
      · next e w' hpage => exact .turn rfl rfl hpage
      · next w' hpage => exact .turn rfl rfl hpage

theorem leads_deleteInChunks (keys : List String) (w : World) :
    let r := deleteInChunks svc.batch keys w
    Leads svc (clear sub why rest keys, w) (swept sub why rest r.1, r.2) := by
  induction keys using deleteInChunks.induct svc.batch generalizing w with
  | case1 =>
      rw [deleteInChunks]
      exact .refl _
  | case2 key keys ih =>
      rw [deleteInChunks, Action.bind_apply]
      rcases hdelete : Store.delete (key :: keys.take (svc.batch - 1)) w with
        ⟨n | e | _, w'⟩
      · refine .trans (.turn rfl rfl hdelete) ?_
        have hrest := ih w'
        dsimp only at hrest ⊢
        rw [Action.bind_apply]
        rcases hmore : deleteInChunks svc.batch (keys.drop (svc.batch - 1)) w'
          with ⟨m | e | _, w''⟩ <;> rw [hmore] at hrest <;> exact hrest
      · exact .turn rfl rfl hdelete
      · exact .turn rfl rfl hdelete

theorem leads_sweepNamespace (w : World) :
    let r := svc.sweepNamespace sub ns w
    Leads svc (.scanning sub why ns rest 0 [], w)
      (swept sub why rest r.1, r.2) := by
  have hscan := leads_scanFrom svc sub why ns rest 0 [] w
  rw [Service.sweepNamespace, Action.bind_apply, Store.scan, Action.bind_apply]
  rcases hfound : Store.scanFrom (Key.subjectPattern ns.name sub) svc.batch 0 w
    with ⟨found | e | _, w'⟩
  · rw [hfound] at hscan
    exact hscan.trans (leads_deleteInChunks svc sub why rest _ w')
  · rw [hfound] at hscan
    exact hscan
  · rw [hfound] at hscan
    exact hscan

/-- Whether a namespace fails or not, the next one follows. -/
theorem ends_sweepFrom (sofar : Swept) (nss : List Namespace) (w : World) :
    Ends svc (sweep sub why nss, w)
      ((svc.sweepFrom sub sofar nss >>= fun _ =>
        (Action.fail (.rejected why) : Action TokenError Issued)) w) := by
  induction nss generalizing sofar w with
  | nil => exact .refl _
  | cons ns nss ih =>
      have hhere := leads_sweepNamespace svc sub why ns nss w
      rw [Service.sweepFrom, Action.bind_apply, Action.bind_apply]
      rcases hns : svc.sweepNamespace sub ns w with ⟨n | e | _, w'⟩
      · rw [hns] at hhere
        rw [Action.attempt_of_ok hns]
        exact hhere.trans (ih _ w')
      · rw [hns] at hhere
        rw [Action.attempt_of_error hns]
        exact hhere.trans (ih _ w')
      · rw [hns] at hhere
        rw [Action.attempt, hns]
        exact hhere

theorem ends_reject (w : World) :
    Ends svc (reject sub why, w) (svc.sweepAndReject sub why w) := by
  have hsweep := ends_sweepFrom svc sub why ⟨0, none⟩
    Namespace.session w
  rw [Service.sweepAndReject, Service.invalidateBestEffort, Service.sweep,
    Action.bind_apply, Action.bind_apply]
  rw [Action.bind_apply] at hsweep
  rcases hrest : (svc.sweepFrom sub ⟨0, none⟩ Namespace.session w :
    Outcome TokenError Swept × World) with ⟨s | e | _, w'⟩ <;>
    rw [hrest] at hsweep <;> exact hsweep

/-- A token that is turned down is turned down whatever would follow. -/
theorem sweepAndReject_bind {α β : Type} (f : α → Action TokenError β)
    (w : World) :
    (svc.sweepAndReject sub why >>= f) w = svc.sweepAndReject sub why w := by
  rw [Action.bind_apply]
  unfold Service.sweepAndReject
  rw [Action.bind_apply, Action.bind_apply]
  rcases (svc.invalidateBestEffort sub w : Outcome TokenError Nat × World) with
    ⟨n | e | _, w'⟩ <;> rfl

end sweeps

/-! ## The rest of a rotation -/

/-- What a rotation does when its old token is used up. -/
def replace (svc : Service) (old : Retired) : Action TokenError Issued := do
  let fresh ← svc.mintId
  svc.issueRefresh old.sub (some fresh) (some old.family)

/-- What a rotation does about what the script has found. -/
def settle (svc : Service) (old : Retired) :
    Rotated → Action TokenError Issued
  | .done => replace svc old
  | .reused => svc.sweepAndReject old.sub .reuseDetected
  | .invalid => svc.sweepAndReject old.sub .livenessMismatch

/-- What a rotation does about a reply of the script. -/
def settleReply (svc : Service) (old : Retired) (reply : String) :
    Action TokenError Issued :=
  Action.lift ((Outcome.ofExcept (Rotated.ofReply reply)).mapError .internal)
    >>= settle svc old

theorem ends_marking (new : Retired) (issued : Issued) (w : World) :
    Ends svc (.marking new issued, w) ((do
      Service.store (Store.set (Key.family new.sub new.family) Key.familyMark
        (toMillis svc.lifetimes.refresh))
      return issued : Action TokenError Issued) w) := by
  refine ends_store svc rfl rfl (fun _ w' => ?_) (fun _ _ => rfl)
    (fun _ => rfl) w
  exact .refl _

theorem ends_writing (new : Retired) (issued : Issued) (w : World) :
    Ends svc (.writing new issued, w) ((do
      Service.store (Store.set (Key.refresh new.sub new.session) new.jti
        (toMillis svc.lifetimes.refresh))
      Service.store (Store.set (Key.family new.sub new.family) Key.familyMark
        (toMillis svc.lifetimes.refresh))
      return issued : Action TokenError Issued) w) := by
  refine ends_store svc rfl rfl (fun _ w' => ?_) (fun _ _ => rfl)
    (fun _ => rfl) w
  exact ends_marking svc new issued w'

/-- A token that is signed takes two identifiers. -/
theorem succeed_eq (old : Retired) (w : World) :
    let new : Retired :=
      ⟨old.sub, svc.ids (w.minted + 2), svc.ids (w.minted + 1), old.family⟩
    ∃ issued, succeed svc w old =
        (.writing new issued, { w with minted := w.minted + 2 }) ∧
      replace svc old w = (do
        Service.store (Store.set (Key.refresh new.sub new.session) new.jti
          (toMillis svc.lifetimes.refresh))
        Service.store (Store.set (Key.family new.sub new.family) Key.familyMark
          (toMillis svc.lifetimes.refresh))
        return issued : Action TokenError Issued)
          { w with minted := w.minted + 2 } := by
  intro new
  let p := Payload.refresh old.sub (expiry w.seconds svc.lifetimes.refresh)
    new.jti new.session old.family
  let w' := { w with minted := w.minted + 2 }
  obtain ⟨token, -, hsign⟩ := svc.sign_spec p w'
  refine ⟨⟨token, p⟩, ?_, ?_⟩
  · have hsuccessor : successor svc old w = (.ok (new, ⟨token, p⟩), w') := by
      unfold successor
      refine (Action.bind_of_ok (svc.mintId_apply w)).trans ?_
      refine (Action.bind_of_ok (svc.mintId_apply _)).trans ?_
      refine (Action.bind_of_ok (Service.expiryOf_apply ..)).trans ?_
      exact Action.bind_of_ok hsign
    rw [succeed, hsuccessor]
  · unfold replace Service.issueRefresh
    refine (Action.bind_of_ok (svc.mintId_apply w)).trans ?_
    refine (Action.bind_of_ok (svc.orMintId_apply ..)).trans ?_
    refine (Action.bind_of_ok (svc.orMintId_apply ..)).trans ?_
    refine (Action.bind_of_ok (svc.mintId_apply _)).trans ?_
    refine (Action.bind_of_ok (Service.expiryOf_apply ..)).trans ?_
    exact Action.bind_of_ok hsign

theorem ends_succeed (old : Retired) (w : World) :
    Ends svc (succeed svc w old) (replace svc old w) := by
  obtain ⟨issued, hsucceed, hreplace⟩ := succeed_eq svc old w
  rw [hsucceed, hreplace]
  exact ends_writing svc _ issued _

theorem ends_replied (old : Retired) (reply : String) (w : World) :
    Ends svc (replied svc w old reply) (settleReply svc old reply w) := by
  rw [settleReply, Action.bind_apply, Action.lift, replied]
  cases Rotated.ofReply reply with
  | ok found =>
      cases found with
      | done => exact ends_succeed svc old w
      | reused => exact ends_reject svc old.sub .reuseDetected w
      | invalid => exact ends_reject svc old.sub .livenessMismatch w
  | error e => exact .refl _

/-- The call of the script that uses up a token. -/
def script (svc : Service) (old : Retired) : Action ServiceError String :=
  Store.evalScript [Key.refresh old.sub old.session, Key.used old.sub old.jti]
    [old.jti, svc.fenceText]

theorem ends_retrying (old : Retired) (w : World) :
    Ends svc (.retrying old, w)
      ((Service.store (script svc old) >>= settleReply svc old) w) :=
  ends_store svc rfl rfl (ends_replied svc old) (fun _ _ => rfl)
    (fun _ => rfl) w

theorem ends_registering (old : Retired) (w : World) :
    Ends svc (.registering old, w)
      ((Service.store (Store.loadScript >>= fun _ => script svc old) >>=
        settleReply svc old) w) := by
  rw [Action.bind_apply, Service.store_apply, Action.bind_apply]
  rcases hload : Store.loadScript w with ⟨a | e | _, w'⟩
  · exact .trans (.turn rfl rfl hload) (ends_retrying svc old w')
  · exact .turn rfl rfl hload
  · exact .turn rfl rfl hload

/-- A store that has forgotten the script is told once. -/
theorem ends_retiring (old : Retired) (w : World) :
    Ends svc (.retiring old, w)
      ((svc.useUp old.sub old.jti old.session >>= settle svc old) w) := by
  have huse : (svc.useUp old.sub old.jti old.session >>= settle svc old) w =
      (Service.store (Store.runScript
        [Key.refresh old.sub old.session, Key.used old.sub old.jti]
        [old.jti, svc.fenceText]) >>= settleReply svc old) w := by
    rw [Service.useUp, Action.bind_apply, Action.bind_apply, Action.bind_apply]
    rcases Service.store (Store.runScript
      [Key.refresh old.sub old.session, Key.used old.sub old.jti]
      [old.jti, svc.fenceText]) w with ⟨reply | e | _, w'⟩ <;> rfl
  rw [huse, Action.bind_apply, Service.store_apply, Store.runScript,
    Action.bind_apply]
  rcases hscript : Store.evalScript
    [Key.refresh old.sub old.session, Key.used old.sub old.jti]
    [old.jti, svc.fenceText] w with ⟨reply | e | _, w'⟩
  · rw [Action.attempt_of_ok hscript]
    exact .trans (.turn rfl rfl hscript) (ends_replied svc old reply w')
  · have hturn : Leads svc (.retiring old, w) _ := .turn rfl rfl hscript
    rw [Action.attempt_of_error hscript]
    dsimp only [Outcome.bind, resume] at hturn ⊢
    by_cases hkind : e.kind = .scriptNotFound
    · rw [if_pos hkind] at hturn ⊢
      exact hturn.trans (ends_registering svc old w')
    · rw [if_neg hkind] at hturn ⊢
      exact hturn
  · rw [Action.attempt, hscript]
    exact .turn rfl rfl hscript

theorem rotate_of_isOf {c : Claims} {t : Retired} (h : c.IsOf t) (w : World) :
    svc.rotate c w = (do
      if ← Service.store (Store.contains (Key.family t.sub t.family)) then
        svc.useUp t.sub t.jti t.session >>= settle svc t
      else svc.sweepAndReject t.sub .familyInvalidated) w := by
  rw [Service.rotate, svc.retire_of_isOf h, Action.bind_apply,
    Action.bind_apply, Action.bind_apply]
  rcases Service.store (Store.contains (Key.family t.sub t.family)) w with
    ⟨flag | e | _, w'⟩
  · cases flag with
    | false =>
        exact sweepAndReject_bind svc t.sub .familyInvalidated _ w'
    | true =>
        dsimp only
        rw [if_pos rfl, if_pos rfl, Action.bind_apply, Action.bind_apply]
        rcases svc.useUp t.sub t.jti t.session w' with ⟨found | e | _, w''⟩
        · cases found with
          | done => rfl
          | reused =>
              exact sweepAndReject_bind svc t.sub .reuseDetected _ w''
          | invalid =>
              exact sweepAndReject_bind svc t.sub .livenessMismatch _ w''
        · rfl
        · rfl
  · rfl
  · rfl

theorem ends_checking {c : Claims} {t : Retired} (h : c.IsOf t) (w : World) :
    Ends svc (.checking t, w) (svc.rotate c w) := by
  rw [rotate_of_isOf svc h]
  refine ends_store svc rfl rfl (fun flag w' => ?_) (fun _ _ => rfl)
    (fun _ => rfl) w
  cases flag with
  | true => exact ends_retiring svc t w'
  | false => exact ends_reject svc t.sub .familyInvalidated w'

theorem start_of_isOf {c : Claims} {t : Retired} (h : c.IsOf t) :
    start c = .checking t := by
  unfold start
  rw [h.sub, h.jti, h.session, h.family]
  exact if_neg (absurd h.mode)

theorem start_of_not_isOf {c : Claims} {sub : String} (hsub : c.sub = some sub)
    (h : ∀ t, ¬ c.IsOf t) : start c = reject sub .structureInvalid := by
  unfold start
  rw [hsub]
  dsimp only
  split
  · next jti session family hjti hsession hfamily =>
      have hmode : c.mode ≠ some .refresh := fun hm =>
        h ⟨sub, jti, session, family⟩ ⟨hsub, hm, hjti, hsession, hfamily⟩
      rw [if_pos hmode]
  · rfl

/-- A rotation that nobody comes between is the operation. -/
theorem ends_start (c : Claims) (w : World) :
    Ends svc (.start c, w) (svc.rotate c w) := by
  by_cases hof : ∃ t, c.IsOf t
  · obtain ⟨t, ht⟩ := hof
    rw [start_of_isOf ht]
    exact ends_checking svc ht w
  · have hnot : ∀ t, ¬ c.IsOf t := fun t ht => hof ⟨t, ht⟩
    cases hsub : c.sub with
    | none =>
        have hstart : start c =
            .finished (.error (.rejected .structureInvalid)) := by
          unfold start
          rw [hsub]
        have hrotate : svc.rotate c w =
            (.error (.rejected .structureInvalid), w) := by
          rw [Service.rotate, Action.bind_apply, Service.retire, hsub]
          rfl
        rw [hstart, hrotate]
        exact .refl _
    | some sub =>
        have hrotate : svc.rotate c w =
            svc.sweepAndReject sub .structureInvalid w := by
          rw [Service.rotate, svc.retire_of_not_isOf hsub hnot]
          exact sweepAndReject_bind svc sub .structureInvalid _ w
        rw [start_of_not_isOf hsub hnot, hrotate]
        exact ends_reject svc sub .structureInvalid w

end Rotating

end SessionTokens
