import SessionTokens.Proofs.Contention
import SessionTokens.Proofs.Exchanges
import SessionTokens.Proofs.Recovery

/-!
# A script that is lost is not missed

The script may be lost between two requests, and it may be lost while an
exchange is under way, between two calls of the store. A rotation that has not
come to its script yet does not notice, and one that is through with it neither.
One that has been told that the script is missing registers it in any case. So
a loss shows at one point only, after the script has been registered and before
it is asked for again, and then the second report is what the rotation ends
with.
-/

namespace SessionTokens

namespace Rotating

open SessionTokens.Action (Overlooks)

variable {svc : Service} {r : Rotating} {w : World}

/-! ## Turns that have no use for the script -/

/-- A rotation whose old token is used up, or is not going to be, has no more
use for the script. -/
theorem overlooks_call? {step : StoreStep} (h : r.old? = none)
    (hcall : r.call? svc = some step) : step.perform.Overlooks := by
  have hanswering : ∀ {α : Type} {m : Action ServiceError α}
      (f : α → Answer), m.Overlooks → (m.answering f).Overlooks :=
    fun f hm =>
      ⟨fun w loaded => by simp only [Action.answering, hm.run], hm.outages⟩
  cases r with
  | checking _ | retiring _ | registering _ | retrying _ => cases h
  | writing _ _ => cases hcall; exact hanswering _ (.set ..)
  | marking _ _ => cases hcall; exact hanswering _ (.set ..)
  | scanning _ _ _ _ _ _ => cases hcall; exact hanswering _ (.scanPage ..)
  | removing _ _ _ _ _ => cases hcall; exact hanswering _ (.delete _)
  | finished _ => cases hcall

theorem resume_withScript (h : r.old? = none) (answer : Answered)
    (loaded : Bool) :
    r.resume svc (w.withScript loaded) answer =
      ((r.resume svc w answer).1,
        (r.resume svc w answer).2.withScript loaded) := by
  cases r with
  | checking _ | retiring _ | registering _ | retrying _ => cases h
  | scanning _ _ _ _ _ _ =>
      rcases answer with a | e | _
      · cases a with
        | page page =>
            dsimp only [resume]
            split <;> rfl
        | _ => rfl
      · rfl
      · rfl
  | removing _ _ _ _ _ => rcases answer with a | e | _ <;> rfl
  | _ => rfl

theorem alone_withScript (h : r.old? = none) (n : Nat) (loaded : Bool) :
    alone svc n (r, w.withScript loaded) =
      ((alone svc n (r, w)).1,
        (alone svc n (r, w)).2.withScript loaded) := by
  induction n generalizing r w with
  | zero => rfl
  | succ n ih =>
      simp only [alone, turn?]
      cases hcall : r.call? svc with
      | none => rfl
      | some step =>
          simp only [Option.map_some, (overlooks_call? h hcall).run,
            resume_withScript h]
          refine ih ?_
          rw [Option.eq_none_iff_forall_ne_some]
          intro old hold
          have hbefore := (Follows.resume svc r (step.perform w).2
            (step.perform w).1).old old hold
          rw [h] at hbefore
          cases hbefore

/-! ## Losses between turns -/

theorem overlooks_settle (svc : Service) (old : Retired) (found : Rotated) :
    (settle svc old found).Overlooks := by
  cases found with
  | done =>
      exact svc.overlooks_mintId.bind fun _ => svc.overlooks_issueRefresh ..
  | reused => exact svc.overlooks_sweepAndReject ..
  | invalid => exact svc.overlooks_sweepAndReject ..

/-- The script has just been registered, and is to be asked for again. -/
def isRetrying : Rotating → Bool
  | .retrying _ => true
  | _ => false

/-- If the script is lost between two calls, a rotation ends as it would have,
unless it has just registered it. -/
theorem Ends.withScript {result : Outcome TokenError Issued × World}
    (h : Ends svc (r, w) result) (hr : r.isRetrying = false)
    (hw : w.Registers) (loaded : Bool) :
    ∃ loaded', Ends svc (r, w.withScript loaded)
      (result.1, result.2.withScript loaded') := by
  have hrest : ∀ m : Action TokenError Issued, m.Recovers →
      (∀ w, Ends svc (r, w) (m w)) →
      ∃ loaded', Ends svc (r, w.withScript loaded)
        (result.1, result.2.withScript loaded') := by
    intro m hm hends
    obtain ⟨loaded', hrun⟩ := hm w loaded hw
    have hlost := hends (w.withScript loaded)
    rw [h.unique (hends w)]
    rw [hrun] at hlost
    exact ⟨loaded', hlost⟩
  cases r with
  | checking old =>
      let c : Claims := (Payload.refresh old.sub 0 old.jti old.session
        old.family).toClaims
      exact hrest _ (svc.recovers_rotate c)
        (ends_checking svc ⟨rfl, rfl, rfl, rfl, rfl⟩)
  | retiring old =>
      refine hrest _ ?_ (ends_retiring svc old)
      exact (svc.recovers_useUp old.sub old.jti old.session).bind
        (overlooks_settle svc old)
  | registering old =>
      refine hrest _ ?_ (ends_registering svc old)
      refine ((Action.Recovers.afterLoading _).mapError _).bind fun reply => ?_
      exact (Overlooks.lift _).bind (overlooks_settle svc old)
  | retrying old => cases hr
  | _ =>
      obtain ⟨n, hn⟩ := h
      refine ⟨loaded, n, ?_⟩
      rw [alone_withScript rfl, hn]

/-- Where a rotation can get to if the script may be lost between any two of its
calls, except when it has just registered it. -/
inductive Disturbed (svc : Service) (state : Rotating × World) :
    Rotating × World → Prop
  | refl : Disturbed svc state state
  | turn {r : Rotating} {w : World} {x : Exchange} {next : Rotating × World} :
      Disturbed svc state (r, w) → r.turn? svc w = some (x, next) →
      Disturbed svc state next
  | loss {r : Rotating} {w : World} : Disturbed svc state (r, w) →
      r.isRetrying = false → Disturbed svc state (r, w.withScript false)

theorem Ends.of_turn {x : Exchange} {next : Rotating × World}
    {result : Outcome TokenError Issued × World}
    (h : Ends svc (r, w) result) (hturn : r.turn? svc w = some (x, next)) :
    Ends svc next result := by
  obtain ⟨n, hn⟩ := h
  cases n with
  | zero =>
      cases hn
      cases hturn
  | succ n =>
      simp only [alone, hturn] at hn
      exact ⟨n, hn⟩

theorem outages_turn? {x : Exchange} {next : Rotating × World}
    (hturn : r.turn? svc w = some (x, next)) :
    next.2.outages = w.outages := by
  obtain ⟨step, -, heq⟩ := Option.map_eq_some_iff.mp hturn
  have hnext : r.resume svc (step.perform w).2 (step.perform w).1 = next :=
    congrArg Prod.snd heq
  obtain ⟨n, -, hworld⟩ := (Follows.resume svc r (step.perform w).2
    (step.perform w).1).world
  rw [← hnext, hworld]
  exact step.outages_perform w

/-- However often the script is lost, a rotation is always on its way to what
it would have ended with. -/
theorem Disturbed.ends {c : Claims} {state : Rotating × World}
    (h : Disturbed svc (start c, w) state) (hw : w.Registers) :
    state.2.outages = w.outages ∧ ∃ loaded, Ends svc state
      ((svc.rotate c w).1, (svc.rotate c w).2.withScript loaded) := by
  induction h with
  | refl =>
      refine ⟨rfl, (svc.rotate c w).2.store.scriptLoaded, ?_⟩
      rw [World.withScript_self rfl]
      exact ends_start svc c w
  | turn _ hturn ih =>
      obtain ⟨houtages, loaded, hends⟩ := ih
      exact ⟨(outages_turn? hturn).trans houtages, loaded, hends.of_turn hturn⟩
  | loss _ hr ih =>
      obtain ⟨houtages, loaded, hends⟩ := ih
      refine ⟨houtages, ?_⟩
      refine hends.withScript hr ?_ false
      rwa [World.Registers, houtages]

/-! ## The one time that it shows -/

theorem answering_eq_error {α : Type} {m : Action ServiceError α}
    {f : α → Answer} {e : ServiceError}
    (h : (m.answering f w).1 = .error e) : (m w).1 = .error e := by
  rw [Action.answering] at h
  rcases hm : (m w).1 with a | e' | _ <;> rw [hm] at h <;> cases h
  rfl

/-- A rotation that fails to register the script, or to run it once it has, ends
with that, and has done nothing. -/
theorem turn?_of_error {old : Retired} {step : StoreStep} {e : ServiceError}
    {next : Rotating × World} (hr : r = .registering old ∨ r = .retrying old)
    (h : r.turn? svc w = some (⟨step, .error e⟩, next)) :
    next = (.finished (.error (.internal e)), w) := by
  obtain ⟨step, hcall, heq⟩ := Option.map_eq_some_iff.mp h
  have hanswer : (step.perform w).1 = .error e :=
    congrArg (fun x : Exchange × Rotating × World => x.1.answer) heq
  have hnext : r.resume svc (step.perform w).2 (step.perform w).1 = next :=
    congrArg Prod.snd heq
  have hstays : (step.perform w).2 = w := by
    rcases hr with rfl | rfl
    · cases hcall
      exact Store.loadScript_eq_error
        (Prod.ext (answering_eq_error hanswer) rfl)
    · cases hcall
      exact Store.evalScript_eq_error
        (Prod.ext (answering_eq_error hanswer) rfl)
  rw [hanswer, hstays] at hnext
  rcases hr with rfl | rfl <;> exact hnext.symm

end Rotating

namespace Service

/-- Whether the rotation script is registered or not makes no difference to what
running it gives and leaves: in either case that is what one run of it gives and
leaves where it is registered. So rotations and refreshes are answered alike
with and without any losses of the script before them, and a rotation ends
alike if it is lost in between, except between registering it and asking for it
again. Failing to register it, or to find it the second time, is what the
operation ends with, and leaves every entry as it was. -/
theorem script_loss_is_invisible (svc : Service) :
    (∀ (w : World) (keys args : List String) (loaded : Bool),
      w.outages .loadScript = none →
      let once := Store.evalScript keys args (w.withScript true)
      let run := Store.runScript keys args (w.withScript loaded)
      run.1 = once.1 ∧ run.2.live = once.2.live) ∧
    (∀ (w : World) (es : List Event), svc.RegistersThroughout w es →
      let lost := svc.after w es
      let kept := svc.after w (es.filter fun e => !e.losesScript)
      lost.Registers →
      (∀ c, (svc.rotate c lost).1 = (svc.rotate c kept).1 ∧
        (svc.rotate c lost).2.live = (svc.rotate c kept).2.live) ∧
      ∀ bearer, (svc.refresh bearer lost).1 = (svc.refresh bearer kept).1 ∧
        (svc.refresh bearer lost).2.live = (svc.refresh bearer kept).2.live) ∧
    (∀ (c : Claims) (w w' : World) (r : Rotating), w.Registers →
      Rotating.Disturbed svc (.start c, w) (r, w') →
      ∃ w'', Rotating.Ends svc (r, w') ((svc.rotate c w).1, w'') ∧
        w''.live = (svc.rotate c w).2.live) ∧
    (∀ (w : World) (keys args : List String) (e : ServiceError),
      (Store.evalScript keys args w).1 = .error e →
      e.kind = .scriptNotFound →
      let run := Store.runScript keys args w
      (∀ e', (Store.loadScript w).1 = .error e' →
        run.1 = .error e' ∧ run.2.live = w.live) ∧
      ∀ e', (Store.loadScript w).1 = .ok () →
        (Store.evalScript keys args (Store.loadScript w).2).1 = .error e' →
        run.1 = .error e' ∧ run.2.live = w.live) ∧
    ∀ (old : Retired) (r next : Rotating) (w w' : World) (step : StoreStep)
      (e : ServiceError), r = .registering old ∨ r = .retrying old →
      r.turn? svc w = some (⟨step, .error e⟩, next, w') →
      next = .finished (.error (.internal e)) ∧ w'.live = w.live := by
  refine ⟨fun w keys args loaded hload => ?_, fun w es hes => ?_,
    fun c w w' r hw hdisturbed => ?_, fun w keys args e he hkind => ?_,
    fun old r next w w' step e hr hturn => ?_⟩
  · obtain ⟨loaded', hrun⟩ :=
      Store.runScript_withScript hload keys args loaded
    intro once run
    rw [show run = _ from hrun]
    exact ⟨rfl, rfl⟩
  · intro lost kept hlost
    obtain ⟨loaded, hkept⟩ :=
      after_without_losses hes w.store.scriptLoaded
    rw [World.withScript_self rfl] at hkept
    rw [show kept = _ from hkept]
    refine ⟨fun c => ?_, fun bearer => ?_⟩
    · obtain ⟨loaded', hrun⟩ := svc.recovers_rotate c lost loaded hlost
      rw [hrun]
      exact ⟨rfl, rfl⟩
    · obtain ⟨loaded', hrun⟩ := svc.recovers_refresh bearer lost loaded hlost
      rw [hrun]
      exact ⟨rfl, rfl⟩
  · obtain ⟨-, loaded, hends⟩ := hdisturbed.ends hw
    exact ⟨_, hends, rfl⟩
  · have hmissing : Store.evalScript keys args w = (.error e, _) :=
      Prod.ext he rfl
    refine ⟨fun e' hload => ?_, fun e' hload hagain => ?_⟩
    · rw [Store.runScript_of_loadScript_error hmissing hkind
        (Prod.ext hload rfl)]
      exact ⟨rfl, rfl⟩
    · exact Store.runScript_of_missing_again hmissing hkind
        (Prod.ext hload rfl) (Prod.ext hagain rfl)
  · cases Rotating.turn?_of_error hr hturn
    exact ⟨rfl, rfl⟩

/-- The script is lost after a rotation, as another begins, and when it has just
been registered. -/
theorem trial_script_loss_is_invisible :
    let w := trialIssued
    let t : Retired := ⟨"u", Action.idText 3, Action.idText 1, Action.idText 2⟩
    let c := trialRefresh.toClaims
    let keys := [Key.refresh t.sub t.session, Key.used t.sub t.jti]
    let args := [t.jti, trial.fenceText]
    let es : List Event := [.request (.rotate c), .flushScripts]
    let unwilling := { w with
      outages := fun call =>
        if call = .loadScript then some .timeout else none }
    let forgetful := { w with
      outages := fun call =>
        if call = .evalScript then some .scriptMissing else none }
    (w.outages .loadScript = none ∧
      (Store.runScript keys args (w.withScript false)).1 =
        .ok MemoryStore.rotated) ∧
    (trial.RegistersThroughout w es ∧ (trial.after w es).Registers ∧
      (trial.refresh trialRefreshToken (trial.after w es)).1 =
        (trial.refresh trialRefreshToken
          (trial.after w [.request (.rotate c)])).1) ∧
    (w.Registers ∧
      Rotating.Disturbed trial (.start c, w.withScript true)
        (.start c, w.withScript false) ∧
      ∃ w', Rotating.Ends trial (.start c, w.withScript false)
        ((trial.rotate c (w.withScript true)).1, w')) ∧
    ((Store.runScript keys args unwilling).1 =
        .error (.storeFailed .loadScript .timeout) ∧
      (Store.runScript keys args forgetful).1 =
        .error (.storeFailed .evalScript .scriptMissing)) ∧
    ∃ x next w', x.answer = .error .scriptNotRegistered ∧
      Rotating.turn? trial w (.retrying t) = some (x, next, w') ∧
      next = .finished (.error (.internal .scriptNotRegistered)) ∧
      w'.live = w.live := by
  intro w t c keys args es unwilling forgetful
  obtain ⟨honce, hruns, hturns, hfails, hends⟩ := trial.script_loss_is_invisible
  have hregisters : w.Registers := fun _ => healthy_trialIssued _
  have houtages : (trial.after w es).outages = w.outages :=
    outages_after (fun e he => by
      rcases List.mem_cons.mp he with rfl | he
      · rfl
      · cases List.mem_singleton.mp he
        rfl) (by decide +kernel)
  have hlost : (trial.after w es).Registers := by
    rwa [World.Registers, houtages]
  have hthroughout : trial.RegistersThroughout w es :=
    ⟨fun _ _ _ => hregisters, fun _ hflush => (by cases hflush), trivial⟩
  have hdisturbed : Rotating.Disturbed trial (.start c, w.withScript true)
      (.start c, w.withScript false) :=
    .loss (w := w.withScript true) .refl rfl
  have hmissing : (Store.evalScript keys args unwilling).1 =
      .error .scriptNotRegistered := by decide +kernel
  have hanswer : ((StoreStep.evalScript keys args).perform w).1 =
      .error .scriptNotRegistered := by decide +kernel
  let failed : Exchange :=
    ⟨.evalScript keys args, .error .scriptNotRegistered⟩
  obtain ⟨next, w', hturn⟩ : ∃ next w',
      Rotating.turn? trial w (.retrying t) = some (failed, next, w') := by
    rw [show failed = ⟨_, _⟩ from rfl, ← hanswer]
    exact ⟨_, _, rfl⟩
  refine ⟨⟨healthy_trialIssued _, ?_⟩, ⟨hthroughout, hlost, ?_⟩,
    ⟨hregisters, hdisturbed, ?_⟩, ⟨?_, ?_⟩,
    ⟨_, _, _, rfl, hturn, hends t _ _ w _ _ _ (.inr rfl) hturn⟩⟩
  · rw [(honce w keys args false (healthy_trialIssued _)).1]
    decide +kernel
  · exact ((hruns w es hthroughout hlost).2 trialRefreshToken).1
  · obtain ⟨w', hw', -⟩ :=
      hturns c (w.withScript true) _ _ hregisters hdisturbed
    exact ⟨w', hw'⟩
  · exact ((hfails unwilling keys args _ hmissing rfl).1 _ rfl).1
  · exact ((hfails forgetful keys args _ rfl rfl).2 _ rfl rfl).1

end Service

end SessionTokens
