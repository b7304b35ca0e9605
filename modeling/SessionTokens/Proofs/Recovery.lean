import SessionTokens.Proofs.Histories
import SessionTokens.Proofs.Overlooking
import SessionTokens.Proofs.Script
import SessionTokens.Proofs.TimedMap

/-!
# Registering a script that is lost

A store that reports the script missing has run none of it. So registering it
then and asking once more comes to asking once where it had been registered all
along, and that report is the only answer that is followed by a second call:
`runScript_withScript`. All other calls overlook the script. What holds of this
one call therefore holds of an exchange, which makes it once, and of a history,
whenever in it the script is lost.
-/

namespace SessionTokens

namespace MemoryStore

variable {s : MemoryStore} {now : Nat} {keys args : List String}
  {r : Reply String}

theorem Evaluation.scriptLoaded (h : Evaluation s now keys args r) :
    r.2.scriptLoaded = s.scriptLoaded := by
  cases h with
  | refused _ => rfl
  | reused _ _ => rfl
  | invalid _ _ _ hs => exact hs.script
  | rotated _ _ _ _ _ _ _ hs _ => exact hs
  | endless _ _ _ _ hs => exact hs.script

/-- The script fails only where it does not say what to do. -/
theorem Evaluation.of_error {e : ServiceError}
    (h : Evaluation s now keys args r) (hr : r.1 = .error e) : r.2 = s := by
  cases h with
  | refused _ => rfl
  | reused _ _ => cases hr
  | invalid _ _ _ _ => cases hr
  | rotated _ _ _ _ _ _ _ _ _ => cases hr
  | endless _ _ _ _ _ => cases hr

theorem evalScript_eq_error {e : ServiceError}
    (h : (s.evalScript now keys args).1 = .error e) :
    (s.evalScript now keys args).2 = s := by
  by_cases hloaded : s.scriptLoaded = true
  · exact (s.evalScript_evaluation now hloaded keys args).of_error h
  · rw [evalScript_of_not_loaded _ _ hloaded]

end MemoryStore

namespace World

/-- The script can be registered wherever it can be run. -/
def Registers (w : World) : Prop :=
  w.outages .evalScript = none → w.outages .loadScript = none

theorem withScript_self {w : World} {loaded : Bool}
    (h : w.store.scriptLoaded = loaded) : w.withScript loaded = w := by
  subst h
  rfl

end World

/-! ## The call -/

namespace Store

variable {w w' w₁ w₂ : World} {e e' : ServiceError} {keys args : List String}

theorem evalScript_of_forced {reply : String}
    (h : w.outages .evalScript = none) (hforced : w.forcedReply = some reply)
    (keys args : List String) :
    evalScript keys args w = (.ok reply, w) := by
  simp only [evalScript, h, hforced]

theorem loadScript_of_some {how : Outage}
    (h : w.outages .loadScript = some how) :
    loadScript w = (.error (.storeFailed .loadScript how), w) :=
  call_of_some h _

/-- A run that fails has changed nothing. -/
theorem evalScript_eq_error (h : evalScript keys args w = (.error e, w')) :
    w' = w := by
  cases heval : w.outages .evalScript with
  | some how =>
      rw [evalScript_of_some heval] at h
      exact (congrArg Prod.snd h).symm
  | none =>
      cases hforced : w.forcedReply with
      | some reply =>
          rw [evalScript_of_forced heval hforced] at h
          cases h
      | none =>
          rw [evalScript_of_none heval hforced] at h
          obtain ⟨herror, rfl⟩ := Prod.mk.inj h
          rw [MemoryStore.evalScript_eq_error herror]

theorem runScript_of_missing (h : evalScript keys args w = (.error e, w'))
    (hkind : e.kind = .scriptNotFound) :
    runScript keys args w =
      (loadScript >>= fun _ => evalScript keys args) w := by
  cases evalScript_eq_error h
  rw [runScript, Action.bind_of_ok (Action.attempt_of_error h)]
  dsimp only
  rw [if_pos hkind]

/-- No other answer is followed by a second call. -/
theorem runScript_of_answered
    (h : ∀ e, (evalScript keys args w).1 = .error e →
      e.kind ≠ .scriptNotFound) :
    runScript keys args w = evalScript keys args w := by
  rw [runScript, Action.bind_apply]
  rcases heval : evalScript keys args w with ⟨reply | e | _, w'⟩
  · rw [Action.attempt_of_ok heval]
    rfl
  · rw [heval] at h
    rw [Action.attempt_of_error heval]
    dsimp only
    rw [if_neg (h e rfl)]
    rfl
  · rw [Action.attempt, heval]

theorem loadScript_eq_error (h : loadScript w = (.error e, w')) : w' = w := by
  cases hout : w.outages .loadScript with
  | none =>
      rw [loadScript_of_none hout] at h
      cases h
  | some how =>
      rw [loadScript_of_some hout] at h
      exact (congrArg Prod.snd h).symm

/-- A script that cannot be registered has not been run either. -/
theorem runScript_of_loadScript_error
    (h : evalScript keys args w = (.error e, w'))
    (hkind : e.kind = .scriptNotFound)
    (hload : loadScript w = (.error e', w₁)) :
    runScript keys args w = (.error e', w) := by
  rw [runScript_of_missing h hkind, Action.bind_of_error hload,
    loadScript_eq_error hload]

/-- It is asked for twice and not more often. -/
theorem runScript_of_missing_again
    (h : evalScript keys args w = (.error e, w'))
    (hkind : e.kind = .scriptNotFound) (hload : loadScript w = (.ok (), w₁))
    (hagain : evalScript keys args w₁ = (.error e', w₂)) :
    (runScript keys args w).1 = .error e' ∧
      (runScript keys args w).2.live = w.live := by
  rw [runScript_of_missing h hkind, Action.bind_of_ok hload, hagain,
    evalScript_eq_error hagain]
  have hbecomes := loadScript_becomes w
  rw [hload] at hbecomes
  exact ⟨rfl, hbecomes.live⟩

/-- A call that is out of order is made again if that is how it fails. -/
theorem runScript_of_some {how : Outage}
    (h : w.outages .evalScript = some how) (keys args : List String) :
    runScript keys args w =
      if how = .scriptMissing then
        (loadScript >>= fun _ => evalScript keys args) w
      else evalScript keys args w := by
  have heval := evalScript_of_some h keys args
  split
  · next hmissing =>
      subst hmissing
      exact runScript_of_missing heval rfl
  · next hother =>
      refine runScript_of_answered fun e he => ?_
      rw [heval] at he
      cases he
      cases how with
      | scriptMissing => exact absurd rfl hother
      | unavailable => exact nofun
      | timeout => exact nofun

/-- Where the script can be registered, it is run once, whether it had been
registered or not. -/
theorem runScript_withScript (hload : w.outages .loadScript = none)
    (keys args : List String) (loaded : Bool) :
    ∃ loaded', runScript keys args (w.withScript loaded) =
      ((evalScript keys args (w.withScript true)).1,
        (evalScript keys args (w.withScript true)).2.withScript loaded') := by
  cases heval : w.outages .evalScript with
  | some how =>
      have hfails : ∀ loaded, evalScript keys args (w.withScript loaded) =
          (.error (.storeFailed .evalScript how), w.withScript loaded) :=
        fun loaded =>
          evalScript_of_some (w := w.withScript loaded) heval keys args
      rw [runScript_of_some (w := w.withScript loaded) heval,
        hfails true]
      split
      · refine ⟨true, (Action.bind_of_ok (loadScript_of_none
          (w := w.withScript loaded) hload)).trans ?_⟩
        exact hfails true
      · exact ⟨loaded, hfails loaded⟩
  | none =>
      cases hforced : w.forcedReply with
      | some reply =>
          have hsame : ∀ loaded, evalScript keys args (w.withScript loaded) =
              (.ok reply, w.withScript loaded) := fun loaded =>
            evalScript_of_forced (w := w.withScript loaded) heval hforced
              keys args
          refine ⟨loaded, ?_⟩
          rw [hsame true, runScript_of_answered, hsame loaded]
          · rfl
          · intro e he
            rw [hsame loaded] at he
            cases he
      | none =>
          refine ⟨true, ?_⟩
          have hstays : (evalScript keys args
              (w.withScript true)).2.store.scriptLoaded = true := by
            rw [evalScript_of_none (w := w.withScript true) heval hforced]
            exact (MemoryStore.evalScript_evaluation _ _ rfl ..).scriptLoaded
          rw [World.withScript_self hstays]
          exact runScript_eq (w := w.withScript loaded) heval hload hforced
            keys args

end Store

/-! ## Operations -/

/-- Where the script can be registered whenever it can be run, the operation
does the same with it and without it, except for leaving it registered. -/
def Action.Recovers {ε α : Type} (m : Action ε α) : Prop :=
  ∀ (w : World) (loaded : Bool), w.Registers → ∃ loaded',
    m (w.withScript loaded) = ((m w).1, (m w).2.withScript loaded')

namespace Action.Recovers

variable {ε ε' α β : Type} {m m' : Action ε α}

theorem of_overlooks (h : m.Overlooks) : m.Recovers :=
  fun w loaded _ => ⟨loaded, h.run w loaded⟩

theorem ite {c : Prop} [Decidable c] (h : m.Recovers) (h' : m'.Recovers) :
    (if c then m else m').Recovers := by
  split
  · exact h
  · exact h'

theorem mapError (h : m.Recovers) (f : ε → ε') : (m.mapError f).Recovers := by
  intro w loaded hw
  obtain ⟨loaded', hrun⟩ := h w loaded hw
  exact ⟨loaded', by simp only [Action.mapError, hrun]⟩

/-- What comes first overlooks the script. -/
theorem after {f : α → Action ε β} (hm : m.Overlooks)
    (hf : ∀ a, (f a).Recovers) : (m >>= f).Recovers := by
  intro w loaded hw
  have houtages := hm.outages w
  rw [bind_apply, bind_apply, hm.run]
  rcases h : m w with ⟨a | e | _, w'⟩
  · rw [h] at houtages
    refine hf a w' loaded ?_
    rwa [World.Registers, houtages]
  · exact ⟨loaded, rfl⟩
  · exact ⟨loaded, rfl⟩

/-- What comes later overlooks the script. -/
theorem bind {f : α → Action ε β} (hm : m.Recovers)
    (hf : ∀ a, (f a).Overlooks) : (m >>= f).Recovers := by
  intro w loaded hw
  obtain ⟨loaded', hrun⟩ := hm w loaded hw
  rw [bind_apply, bind_apply, hrun]
  rcases m w with ⟨a | e | _, w'⟩
  · exact ⟨loaded', (hf a).run w' loaded'⟩
  · exact ⟨loaded', rfl⟩
  · exact ⟨loaded', rfl⟩

theorem ignore (h : m.Recovers) : m.ignore.Recovers :=
  h.bind fun _ => .pure _

/-- To register the script is all the same to a store that has it. -/
theorem afterLoading (m : Action ServiceError α) :
    (Store.loadScript >>= fun _ => m).Recovers := by
  intro w loaded _
  cases hload : w.outages .loadScript with
  | none =>
      have hrun : ∀ loaded, (Store.loadScript >>= fun _ => m)
          (w.withScript loaded) = m (w.withScript true) := fun loaded =>
        bind_of_ok (Store.loadScript_of_none (w := w.withScript loaded) hload)
      refine ⟨(m (w.withScript true)).2.store.scriptLoaded, ?_⟩
      have hself := hrun w.store.scriptLoaded
      rw [World.withScript_self rfl] at hself
      rw [hrun loaded, hself, World.withScript_self rfl]
  | some how =>
      refine ⟨loaded, ?_⟩
      rw [bind_of_error (Store.loadScript_of_some hload)]
      exact bind_of_error
        (Store.loadScript_of_some (w := w.withScript loaded) hload)

theorem runScript (keys args : List String) :
    (Store.runScript keys args).Recovers := by
  intro w loaded hw
  cases heval : w.outages .evalScript with
  | none =>
      have hload := hw heval
      obtain ⟨b, hrun⟩ := Store.runScript_withScript hload keys args loaded
      obtain ⟨b', hself⟩ := Store.runScript_withScript hload keys args
        w.store.scriptLoaded
      rw [World.withScript_self rfl] at hself
      exact ⟨b, by rw [hrun, hself, World.withScript_withScript]⟩
  | some how =>
      rw [Store.runScript_of_some heval,
        Store.runScript_of_some (w := w.withScript loaded) heval]
      split
      · exact afterLoading _ w loaded hw
      · refine ⟨loaded, ?_⟩
        rw [Store.evalScript_of_some heval]
        exact Store.evalScript_of_some (w := w.withScript loaded) heval ..

end Action.Recovers

namespace Service

variable (svc : Service)

theorem recovers_useUp (sub jti session : String) :
    (svc.useUp sub jti session).Recovers :=
  ((Action.Recovers.runScript _ _).mapError _).bind fun _ => .lift _

theorem recovers_retire (c : Claims) : (svc.retire c).Recovers := by
  unfold retire
  split
  · exact .of_overlooks (.fail _)
  · next sub _ =>
      split
      · next jti session family _ _ _ =>
          refine .ite (.of_overlooks (svc.overlooks_sweepAndReject ..)) ?_
          refine .after ((Action.Overlooks.contains _).mapError _) fun _ => ?_
          refine .ite ?_ (.of_overlooks (svc.overlooks_sweepAndReject ..))
          refine (svc.recovers_useUp sub jti session).bind fun found => ?_
          cases found with
          | done => exact .pure _
          | reused => exact svc.overlooks_sweepAndReject ..
          | invalid => exact svc.overlooks_sweepAndReject ..
      · exact .of_overlooks (svc.overlooks_sweepAndReject ..)

theorem recovers_rotate (c : Claims) : (svc.rotate c).Recovers :=
  (svc.recovers_retire c).bind fun _ => svc.overlooks_mintId.bind fun _ =>
    svc.overlooks_issueRefresh ..

theorem recovers_refresh (bearer : String) : (svc.refresh bearer).Recovers :=
  .after (svc.overlooks_refreshable bearer) fun _ =>
    ((svc.recovers_rotate _).mapError _).bind fun _ =>
      svc.overlooks_pairFor ..

/-! ## Histories -/

/-- With the script or without it a request does the same, if the script can be
registered for one that exchanges a token. -/
theorem perform_withScript {r : Request} {w : World}
    (h : r.isExchange = true → w.Registers) (loaded : Bool) :
    ∃ loaded', svc.perform r (w.withScript loaded) =
      ((svc.perform r w).1, (svc.perform r w).2.withScript loaded') := by
  cases hr : r.isExchange with
  | false => exact ⟨loaded, (svc.overlooks_perform hr).run w loaded⟩
  | true =>
      cases r with
      | refresh bearer =>
          exact (svc.recovers_refresh bearer).ignore w loaded (h hr)
      | rotate c =>
          exact ((svc.recovers_rotate c).mapError _).ignore w loaded (h hr)
      | _ => cases hr

/-- The script can be registered for every request that exchanges a token. -/
def RegistersThroughout (w : World) (es : List Event) : Prop :=
  svc.Throughout (fun w e => ∀ r, e = .request r → r.isExchange = true →
    w.Registers) w es

end Service

/-- The event makes the store forget its scripts. -/
def Event.losesScript : Event → Bool
  | .flushScripts => true
  | _ => false

namespace Service

variable {svc : Service}

theorem next_withScript {w : World} {e : Event}
    (h : ∀ r, e = .request r → r.isExchange = true → w.Registers)
    (loaded : Bool) :
    ∃ loaded', svc.next (w.withScript loaded) e =
      (svc.next w e).withScript loaded' := by
  cases e with
  | request r =>
      obtain ⟨loaded', hrun⟩ := svc.perform_withScript (h r rfl) loaded
      exact ⟨loaded', congrArg Prod.snd hrun⟩
  | flushScripts => exact ⟨false, rfl⟩
  | _ => exact ⟨loaded, rfl⟩

/-- A history without the losses leaves the world that it leaves with them,
except for the script. -/
theorem after_without_losses {w : World} {es : List Event}
    (h : svc.RegistersThroughout w es) (loaded : Bool) :
    ∃ loaded', svc.after (w.withScript loaded)
        (es.filter fun e => !e.losesScript) =
      (svc.after w es).withScript loaded' := by
  induction es generalizing w loaded with
  | nil => exact ⟨loaded, rfl⟩
  | cons e es ih =>
      obtain ⟨he, hes⟩ := h
      rw [after_cons]
      by_cases hloss : e.losesScript = true
      · rw [List.filter_cons_of_neg (by simp [hloss])]
        obtain ⟨loaded', hnext⟩ := ih hes loaded
        cases e with
        | flushScripts => exact ⟨loaded', hnext⟩
        | _ => cases hloss
      · rw [List.filter_cons_of_pos (by simp [hloss]), after_cons]
        obtain ⟨loaded', hnext⟩ := next_withScript he loaded
        rw [hnext]
        exact ih hes loaded'

end Service

end SessionTokens
