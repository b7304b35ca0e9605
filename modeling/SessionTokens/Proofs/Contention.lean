import SessionTokens.Proofs.Identifiers
import SessionTokens.Proofs.Script
import SessionTokens.Proofs.Turns

/-!
# Of rotations that contend one wins

Among others a rotation may win or not, but it cannot make up for another's
win. All it ever writes is its new token's identifier, which has just been
minted, the mark of a family, and a fence; and families and fences have keys of
their own. So no rotation writes the identifier of a token that had been issued
before to the key of its session, and without that the key is won once.
-/

namespace SessionTokens

/-- Only the script has replies. -/
theorem StoreStep.eq_evalScript_of_reply {step : StoreStep} {w : World}
    {reply : String} (h : (step.perform w).1 = .ok (.reply reply)) :
    ∃ keys args, step = .evalScript keys args := by
  cases step with
  | evalScript keys args => exact ⟨keys, args, rfl⟩
  | allKeys => cases h
  | flushScripts => cases h
  | advance ms => cases h
  | _ =>
      obtain ⟨a, -, heq⟩ := Outcome.bind_eq_ok h
      cases heq

/-- What is kept when time passes and when the store changes, every call
keeps. -/
theorem StoreStep.perform_keeps {I : World → Prop} {w : World}
    (hstore : ∀ s, I { w with store := s }) (htime : ∀ ms, I (w.advance ms))
    (step : StoreStep) : I (step.perform w).2 := by
  have hcall : ∀ {α : Type} (c : StoreCall)
      (f : MemoryStore → Nat → MemoryStore.Reply α) (g : α → Answer),
      I ((Store.call c f).answering g w).2 := by
    intro α c f g
    rw [Action.answering, Store.call]
    split
    · exact hstore w.store
    · exact hstore _
  cases step with
  | allKeys => exact hstore _
  | flushScripts => exact hstore _
  | advance ms => exact htime ms
  | evalScript keys args =>
      rw [StoreStep.perform, Action.answering, Store.evalScript]
      split
      · exact hstore w.store
      · exact hcall _ _ .reply
  | _ => exact hcall ..

theorem StoreStep.minted_perform (step : StoreStep) (w : World) :
    (step.perform w).2.minted = w.minted :=
  step.perform_keeps (I := fun w' => w'.minted = w.minted) (fun _ => rfl)
    fun _ => rfl

theorem StoreStep.outages_perform (step : StoreStep) (w : World) :
    (step.perform w).2.outages = w.outages :=
  step.perform_keeps (I := fun w' => w'.outages = w.outages) (fun _ => rfl)
    fun _ => rfl

namespace Rotating

variable {svc : Service} {w : World} {r : Rotating}

/-! ## What a rotation remembers -/

/-- The token that is to be used up, until the script has replied. -/
def old? : Rotating → Option Retired
  | .checking old | .retiring old | .registering old | .retrying old => some old
  | _ => none

/-- The token that takes its place, once it is signed. -/
def new? : Rotating → Option Retired
  | .writing new _ | .marking new _ => some new
  | _ => none

section sweeps

variable (sub : String) (why : Rejection)

@[simp] theorem old?_sweep (nss : List Namespace) :
    (sweep sub why nss).old? = none := by
  cases nss <;> rfl

@[simp] theorem new?_sweep (nss : List Namespace) :
    (sweep sub why nss).new? = none := by
  cases nss <;> rfl

@[simp] theorem old?_clear (nss : List Namespace) (keys : List String) :
    (clear sub why nss keys).old? = none := by
  cases keys
  · exact old?_sweep sub why nss
  · rfl

@[simp] theorem new?_clear (nss : List Namespace) (keys : List String) :
    (clear sub why nss keys).new? = none := by
  cases keys
  · exact new?_sweep sub why nss
  · rfl

@[simp] theorem old?_reject : (reject sub why).old? = none := old?_sweep ..

@[simp] theorem new?_reject : (reject sub why).new? = none := new?_sweep ..

end sweeps

theorem isOf_of_old?_start {c : Claims} {t : Retired}
    (h : (start c).old? = some t) : c.IsOf t := by
  by_cases hof : ∃ t', c.IsOf t'
  · obtain ⟨t', ht'⟩ := hof
    rw [start_of_isOf ht'] at h
    cases h
    exact ht'
  · have hnot : ∀ t', ¬ c.IsOf t' := fun t' ht' => hof ⟨t', ht'⟩
    cases hsub : c.sub with
    | none =>
        unfold start at h
        rw [hsub] at h
        cases h
    | some sub =>
        rw [start_of_not_isOf hsub hnot, old?_reject] at h
        cases h

theorem new?_start (c : Claims) : (start c).new? = none := by
  unfold start
  split
  · rfl
  · split
    · split
      · exact new?_reject ..
      · rfl
    · exact new?_reject ..

/-- What comes of an answer: a token to be used up is the one from before, a
new token is the one from before or has been minted just now, and nothing else
happens to the world. -/
structure Follows (svc : Service) (r : Rotating) (w : World)
    (next : Rotating × World) : Prop where
  old : ∀ old, next.1.old? = some old → r.old? = some old
  new : ∀ new, next.1.new? = some new →
    r.new? = some new ∨ ∃ n, w.minted < n ∧ new.jti = svc.ids n
  world : ∃ n, w.minted ≤ n ∧ next.2 = { w with minted := n }

namespace Follows

theorem stay {r' : Rotating} (hold : ∀ old, r'.old? = some old →
    r.old? = some old) (hnew : ∀ new, r'.new? = some new → r.new? = some new) :
    Follows svc r w (r', w) :=
  ⟨hold, fun new h => .inl (hnew new h), w.minted, Nat.le_refl _, rfl⟩

theorem forget {r' : Rotating} (hold : r'.old? = none) (hnew : r'.new? = none) :
    Follows svc r w (r', w) :=
  stay (fun old h => by rw [hold] at h; cases h)
    (fun new h => by rw [hnew] at h; cases h)

theorem replied (old : Retired) (reply : String) :
    Follows svc r w (replied svc w old reply) := by
  unfold Rotating.replied
  cases Rotated.ofReply reply with
  | error e => exact forget rfl rfl
  | ok found =>
      cases found with
      | reused => exact forget (old?_reject ..) (new?_reject ..)
      | invalid => exact forget (old?_reject ..) (new?_reject ..)
      | done =>
          obtain ⟨issued, hsucceed, -⟩ := succeed_eq svc old w
          dsimp only
          rw [hsucceed]
          refine ⟨fun old h => ?_, fun new h => .inr ?_, w.minted + 2,
            Nat.le_add_right .., rfl⟩
          · cases h
          · cases h
            exact ⟨w.minted + 2, by omega, rfl⟩

/-- Whatever the answer to its call. -/
theorem resume (svc : Service) (r : Rotating) (w : World) (answer : Answered) :
    Follows svc r w (r.resume svc w answer) := by
  -- Answers that the call cannot have are cases of their own here.
  cases r with
  | checking old =>
      rcases answer with a | e | _
      · cases a with
        | flag flag =>
            cases flag with
            | true => exact stay (fun _ => id) (fun _ => id)
            | false => exact forget (old?_reject ..) (new?_reject ..)
        | _ => exact forget rfl rfl
      · exact forget rfl rfl
      · exact forget rfl rfl
  | retiring old =>
      rcases answer with a | e | _
      · cases a with
        | reply reply => exact replied old reply
        | _ => exact forget rfl rfl
      · dsimp only [Rotating.resume]
        split
        · exact stay (fun _ => id) (fun _ => id)
        · exact forget rfl rfl
      · exact forget rfl rfl
  | retrying old =>
      rcases answer with a | e | _
      · cases a with
        | reply reply => exact replied old reply
        | _ => exact forget rfl rfl
      · exact forget rfl rfl
      · exact forget rfl rfl
  | registering _ | writing _ _ =>
      rcases answer with a | e | _
      · exact stay (fun _ => id) (fun _ => id)
      · exact forget rfl rfl
      · exact forget rfl rfl
  | marking new issued =>
      rcases answer with a | e | _ <;> exact forget rfl rfl
  | scanning sub why ns rest cursor found =>
      rcases answer with a | e | _
      · cases a with
        | page page =>
            dsimp only [Rotating.resume]
            split
            · exact forget (old?_clear ..) (new?_clear ..)
            · exact forget rfl rfl
        | _ => exact forget rfl rfl
      · exact forget (old?_sweep ..) (new?_sweep ..)
      · exact forget rfl rfl
  | removing sub why rest key keys =>
      rcases answer with a | e | _
      · exact forget (old?_clear ..) (new?_clear ..)
      · exact forget (old?_sweep ..) (new?_sweep ..)
      · exact forget rfl rfl
  | finished result => exact forget rfl rfl

end Follows

/-! ## What a rotation asks for -/

section call?

variable {step : StoreStep} (hcall : r.call? svc = some step)

include hcall

/-- A rotation writes no identifier but that of its new token to the key of a
session. -/
theorem not_writes_of_call? {sub session jti : String} (answer : Answered)
    (hnew : ∀ new, r.new? = some new → new.jti ≠ jti) :
    ¬ Exchange.Writes ⟨step, answer⟩ (Key.refresh sub session) jti := by
  intro hwrites
  cases r with
  | writing new issued =>
      cases hcall
      rcases hwrites with h | h | h
      · exact hnew new rfl (StoreStep.set.inj h).2.1
      · cases h
      · cases h
  | marking new issued =>
      cases hcall
      rcases hwrites with h | h | h
      · exact Key.make_ne_of_ns_ne (by decide) (StoreStep.set.inj h).1
      · cases h
      · cases h
  | retiring old | retrying old =>
      cases hcall
      rcases hwrites with h | h | h
      · cases h
      · cases h
      · have hkeys := (StoreStep.evalScript.inj h).1
        exact Key.make_ne_of_ns_ne (by decide)
          (List.cons.inj (List.cons.inj hkeys).2).1
  | _ => cases hcall <;> rcases hwrites with h | h | h <;> cases h

/-- A rotation that sees its script go through wins its own token. -/
theorem wins_of_call?
    (hreply : (step.perform w).1 = .ok (.reply MemoryStore.rotated)) :
    ∃ old, r.old? = some old ∧
      Exchange.Wins ⟨step, (step.perform w).1⟩
        (Key.refresh old.sub old.session) old.jti := by
  obtain ⟨keys, args, rfl⟩ := StoreStep.eq_evalScript_of_reply hreply
  cases r with
  | retiring old | retrying old =>
      cases hcall
      exact ⟨old, rfl, hreply, _, _, rfl⟩
  | _ => cases hcall

end call?

end Rotating

/-! ## Crowds -/

namespace Crowd

variable {svc : Service} {w : World} {claims : Nat → Claims} {c : Crowd}
  {sub session jti : String}

/-- What holds of a crowd at all times: its log is a log of the store, nothing
in it writes the identifier to the key, no rotation is about to, and whoever has
won has won with a token it was asked to rotate. -/
structure Sound (w : World) (claims : Nat → Claims) (key jti : String)
    (c : Crowd) : Prop where
  logs : w.Logs (c.log.map Prod.snd) c.world
  minted : w.minted ≤ c.world.minted
  unwritten : ∀ p ∈ c.log, ¬ p.2.Writes key jti
  new : ∀ i new, (c.rotations i).new? = some new → new.jti ≠ jti
  old : ∀ i old, (c.rotations i).old? = some old → (claims i).IsOf old
  won : ∀ i, c.Sees i MemoryStore.rotated → ∃ t, (claims i).IsOf t ∧
    ∃ p ∈ c.log, p.1 = some i ∧ p.2.Wins (Key.refresh t.sub t.session) t.jti

theorem sound_start (w : World) (claims : Nat → Claims) (key jti : String) :
    (start w claims).Sound w claims key jti where
  logs := .start
  minted := Nat.le_refl _
  unwritten := by simp [start]
  new i new h := by
    rw [start, Rotating.new?_start] at h
    cases h
  old i old h := Rotating.isOf_of_old?_start h
  won i h := by
    obtain ⟨step, hmem⟩ := h
    cases hmem

theorem Sound.sees {key : String} (h : c.Sound w claims key jti) {i : Nat}
    {t : Retired} (ht : (claims i).IsOf t)
    (hsees : c.Sees i MemoryStore.rotated) :
    ∃ p ∈ c.log, p.1 = some i ∧
      p.2.Wins (Key.refresh t.sub t.session) t.jti := by
  obtain ⟨t', ht', hwon⟩ := h.won i hsees
  cases ht.unique ht'
  exact hwon

/-- One more call in the log: who has won has won before or by this call. -/
theorem Sound.won_append {key : String} {c' : Crowd} {e : Option Nat × Exchange}
    (h : c.Sound w claims key jti) (hlog : c'.log = c.log ++ [e])
    (he : ∀ i, e.1 = some i →
      e.2.answer = .ok (.reply MemoryStore.rotated) → ∃ t, (claims i).IsOf t ∧
        e.2.Wins (Key.refresh t.sub t.session) t.jti)
    (i : Nat) (hsees : c'.Sees i MemoryStore.rotated) :
    ∃ t, (claims i).IsOf t ∧ ∃ p ∈ c'.log, p.1 = some i ∧
      p.2.Wins (Key.refresh t.sub t.session) t.jti := by
  obtain ⟨step, hmem⟩ := hsees
  rw [hlog] at hmem ⊢
  rcases List.mem_append.mp hmem with hmem | hmem
  · obtain ⟨t, ht, p, hp, hwins⟩ := h.won i ⟨step, hmem⟩
    exact ⟨t, ht, p, List.mem_append_left _ hp, hwins⟩
  · cases List.mem_singleton.mp hmem
    obtain ⟨t, ht, hwins⟩ := he i rfl rfl
    exact ⟨t, ht, _, List.mem_append_right _ (List.mem_singleton_self _), rfl,
      hwins⟩

theorem Sound.turn (hids : ∀ n, w.minted < n → svc.ids n ≠ jti) (i : Nat)
    (h : c.Sound w claims (Key.refresh sub session) jti) :
    (c.move svc (.turn i)).Sound w claims (Key.refresh sub session) jti := by
  rw [move, Rotating.turn?]
  cases hcall : (c.rotations i).call? svc with
  | none => exact h
  | some step =>
      have hnext := Rotating.Follows.resume svc (c.rotations i)
        (step.perform c.world).2 (step.perform c.world).1
      -- What is minted is minted after the call, and calls mint nothing.
      have hminted := step.minted_perform c.world
      obtain ⟨n, hn, hworld⟩ := hnext.world
      rw [hminted] at hn
      dsimp only [Option.map_some]
      constructor
      case logs =>
        rw [hworld, List.map_append]
        exact .aside (.call step h.logs) rfl rfl rfl
      case minted =>
        rw [hworld]
        exact Nat.le_trans h.minted hn
      case unwritten =>
        exact List.forall_mem_append.mpr ⟨h.unwritten,
          List.forall_mem_singleton.mpr
            (Rotating.not_writes_of_call? hcall _ (h.new i))⟩
      case new =>
        intro k new hnew
        dsimp only at hnew
        split at hnew
        · rcases hnext.new new hnew with hnew | ⟨m, hm, hjti⟩
          · exact h.new i new hnew
          · rw [hjti]
            exact hids m (Nat.lt_of_le_of_lt h.minted (hminted ▸ hm))
        · exact h.new k new hnew
      case old =>
        intro k old hold
        dsimp only at hold
        split at hold
        · next heq =>
            rw [heq]
            exact h.old i old (hnext.old old hold)
        · exact h.old k old hold
      case won =>
        refine h.won_append rfl fun k hk hreply => ?_
        cases hk
        obtain ⟨old, hold, hwins⟩ := Rotating.wins_of_call? hcall hreply
        exact ⟨old, h.old i old hold, hwins⟩

/-- A call of another client, which does not write the identifier. -/
theorem Sound.other {key : String} {step : StoreStep}
    (hstep : ∀ answer, ¬ Exchange.Writes ⟨step, answer⟩ key jti)
    (h : c.Sound w claims key jti) :
    (c.move svc (.other step)).Sound w claims key jti where
  logs := by
    rw [move, List.map_append]
    exact .call step h.logs
  minted := by
    rw [move, step.minted_perform]
    exact h.minted
  unwritten := List.forall_mem_append.mpr
    ⟨h.unwritten, List.forall_mem_singleton.mpr (hstep _)⟩
  new := h.new
  old := h.old
  won := h.won_append rfl fun _ hi _ => by cases hi

/-- Whatever the order of the moves. -/
theorem Sound.run (hids : ∀ n, w.minted < n → svc.ids n ≠ jti)
    {moves : List Move}
    (hothers : ∀ step, .other step ∈ moves → ∀ answer,
      ¬ Exchange.Writes ⟨step, answer⟩ (Key.refresh sub session) jti)
    (h : c.Sound w claims (Key.refresh sub session) jti) :
    (c.run svc moves).Sound w claims (Key.refresh sub session) jti := by
  induction moves generalizing c with
  | nil => exact h
  | cons m moves ih =>
      refine ih (fun step hstep => hothers step (List.mem_cons_of_mem _ hstep))
        ?_
      cases m with
      | turn i => exact h.turn hids i
      | other step => exact h.other (hothers step (List.mem_cons_self ..))
      | fail outages =>
          exact ⟨.aside h.logs rfl rfl rfl, h.minted, h.unwritten, h.new, h.old,
            h.won⟩

/-- Of all calls in the log of a sound crowd one at most wins the key. -/
theorem Sound.pairwise {key : String} (h : c.Sound w claims key jti)
    (hforced : w.forcedReply = none) :
    c.log.Pairwise fun p q => ¬ (p.2.Wins key jti ∧ q.2.Wins key jti) := by
  rw [List.pairwise_iff_forall_sublist]
  rintro p q hsub ⟨hp, hq⟩
  obtain ⟨front, back, hlog, hmem, hrest⟩ := List.cons_sublist_iff.mp hsub
  obtain ⟨before, between, rfl⟩ := List.append_of_mem hmem
  obtain ⟨between', after, rfl⟩ :=
    List.append_of_mem (List.singleton_sublist.mp hrest)
  have hsplit : c.log.map Prod.snd = before.map Prod.snd ++ p.2 ::
      ((between ++ between').map Prod.snd ++ q.2 :: after.map Prod.snd) := by
    rw [hlog]
    simp
  obtain ⟨z, hz, hwrites⟩ := h.logs.exists_writes_between hforced hsplit hp hq
  obtain ⟨p', hp', rfl⟩ := List.mem_map.mp hz
  refine h.unwritten p' ?_ hwrites
  rw [hlog]
  simp only [List.mem_append, List.mem_cons] at hp' ⊢
  rcases hp' with hp' | hp'
  · exact .inl (.inr (.inr hp'))
  · exact .inr (.inl hp')

theorem eq_of_pairwise_not {α : Type} {P : α → Prop} {l : List α}
    (h : l.Pairwise fun x y => ¬ (P x ∧ P y)) {x y : α} (hx : x ∈ l) (hPx : P x)
    (hy : y ∈ l) (hPy : P y) : x = y := by
  induction h with
  | nil => cases hx
  | cons hhead _ ih =>
      rcases List.mem_cons.mp hx with rfl | hx'
      · rcases List.mem_cons.mp hy with rfl | hy'
        · rfl
        · exact absurd ⟨hPx, hPy⟩ (hhead y hy')
      · rcases List.mem_cons.mp hy with rfl | hy'
        · exact absurd ⟨hPy, hPx⟩ (hhead x hx')
        · exact ih hx' hy'

/-- One at most of the rotations of a token sees its script go through. -/
theorem Sound.eq_of_sees {t : Retired}
    (h : c.Sound w claims (Key.refresh t.sub t.session) t.jti)
    (hforced : w.forcedReply = none) {i j : Nat} (hi : (claims i).IsOf t)
    (hj : (claims j).IsOf t) (hsi : c.Sees i MemoryStore.rotated)
    (hsj : c.Sees j MemoryStore.rotated) : i = j := by
  obtain ⟨p, hp, hpi, hpw⟩ := h.sees hi hsi
  obtain ⟨q, hq, hqj, hqw⟩ := h.sees hj hsj
  cases eq_of_pairwise_not (h.pairwise hforced) hp hpw hq hqw
  exact Option.some.inj (hpi.symm.trans hqj)

end Crowd

/-- The script does all it is for or nothing, and between two times that it goes
through for an identifier the identifier is written again. So however the calls
of any rotations come between one another, and those of others who do not write
it, an identifier that has been minted before is used up once, and one rotation
at most of those that have its token sees it done. A rotation with no call
between its own is the operation. -/
theorem rotation_script_wins_once :
    (∀ (s : MemoryStore) (now : Nat) (keys args : List String),
      s.scriptLoaded = true →
        s.Evaluation now keys args (s.evalScript now keys args)) ∧
    (∀ (w w' : World) (before between after : List Exchange) (x y : Exchange)
      (key jti : String), w.forcedReply = none →
        w.Logs (before ++ x :: (between ++ y :: after)) w' →
        x.Wins key jti → y.Wins key jti → ∃ z ∈ between, z.Writes key jti) ∧
    (∀ (svc : Service) (w : World) (claims : Nat → Claims) (moves : List Move)
      (t : Retired) (n : Nat), svc.Distinguishes → w.forcedReply = none →
        t.jti = svc.ids n → n ≤ w.minted →
        (∀ step, .other step ∈ moves → ∀ answer, ¬ Exchange.Writes
          ⟨step, answer⟩ (Key.refresh t.sub t.session) t.jti) →
        let c := (Crowd.start w claims).run svc moves
        (c.log.Pairwise fun p q =>
          ¬ (p.2.Wins (Key.refresh t.sub t.session) t.jti ∧
            q.2.Wins (Key.refresh t.sub t.session) t.jti)) ∧
        ∀ i j, (claims i).IsOf t → (claims j).IsOf t →
          c.Sees i MemoryStore.rotated → c.Sees j MemoryStore.rotated →
            i = j) ∧
    ∀ (svc : Service) (w : World) (c : Claims),
      ∃ n, Rotating.alone svc n (.start c, w) =
        (.finished (svc.rotate c w).1, (svc.rotate c w).2) := by
  refine ⟨fun s now keys args hloaded =>
      s.evalScript_evaluation now hloaded keys args,
    fun w w' before between after x y key jti hforced hlogs hx hy =>
      hlogs.exists_writes_between hforced rfl hx hy,
    fun svc w claims moves t n hids hforced hjti hn hothers => ?_,
    fun svc w c => Rotating.ends_start svc c w⟩
  have hfresh : ∀ m, w.minted < m → svc.ids m ≠ t.jti := by
    intro m hm heq
    rw [hjti] at heq
    have := hids.injective heq
    omega
  have hsound := (Crowd.sound_start w claims _ _).run hfresh hothers
  exact ⟨hsound.pairwise hforced, fun i j => hsound.eq_of_sees hforced⟩

/-! ## A trial -/

/-- A refresh token of a service that counts identifiers. -/
def Retired.trial : Retired :=
  ⟨"u", Action.idText 2, Action.idText 1, Action.idText 0⟩

/-- The call of the script for it. -/
def StoreStep.trial : StoreStep :=
  .evalScript
    [Key.refresh "u" (Action.idText 1), Key.used "u" (Action.idText 2)]
    [Action.idText 2, "600"]

/-- A world in which it is live. -/
def World.trial : World :=
  { (World.initial 1700000000000).afterRequests
      [.step .loadScript,
        .step (.set (Key.family "u" (Action.idText 0)) Key.familyMark 3600000),
        .step (.set (Key.refresh "u" (Action.idText 1)) (Action.idText 2)
          3600000)] with minted := 2 }

/-- Its claims. -/
def Claims.trial : Claims :=
  ⟨some "u", 1700003600, some .refresh, some (Action.idText 2),
    some (Action.idText 1), some (Action.idText 0), none⟩

/-- Rotations of it. The first two both check the family before either of them
runs the script. -/
def Crowd.trial : Crowd :=
  (start .trial fun _ => .trial).run .trial
    [.turn 0, .turn 1, .turn 0, .turn 1]

theorem Crowd.sees_of_mem {c : Crowd} {i : Nat} {reply : String}
    (h : (some i, .ok (.reply reply)) ∈
      c.log.map fun p => (p.1, p.2.answer)) : c.Sees i reply := by
  obtain ⟨⟨k, step, answer⟩, hmem, heq⟩ := List.mem_map.mp h
  cases heq
  exact ⟨step, hmem⟩

/-- The first rotation goes through and the second finds the fence. Where the
fence is removed and the identifier is written, the script goes through
again. -/
theorem trial_rotation_script_wins_once :
    let key := Key.refresh "u" (Action.idText 1)
    let jti := Action.idText 2
    let w₁ := (StoreStep.trial.perform .trial).2
    let delete : StoreStep := .delete [Key.used "u" jti]
    let w₂ := (delete.perform w₁).2
    let set : StoreStep := .set key jti 3600000
    let w₃ := (set.perform w₂).2
    World.trial.store.Evaluation 0 [] []
        (World.trial.store.evalScript 0 [] []) ∧
      (Exchange.Wins ⟨.trial, (StoreStep.trial.perform .trial).1⟩ key jti ∧
        Exchange.Wins ⟨.trial, (StoreStep.trial.perform w₃).1⟩ key jti ∧
        ∃ z ∈ [⟨delete, (delete.perform w₁).1⟩, ⟨set, (set.perform w₂).1⟩],
          Exchange.Writes z key jti) ∧
      Crowd.trial.Sees 0 MemoryStore.rotated ∧
      Crowd.trial.Sees 1 MemoryStore.reused ∧
      ¬ Crowd.trial.Sees 1 MemoryStore.rotated := by
  intro key jti w₁ delete w₂ set w₃
  obtain ⟨hrun, hlog, hcrowd, -⟩ := rotation_script_wins_once
  have hx : Exchange.Wins ⟨.trial, (StoreStep.trial.perform .trial).1⟩
    key jti := ⟨by decide +kernel, _, _, rfl⟩
  have hy : Exchange.Wins ⟨.trial, (StoreStep.trial.perform w₃).1⟩ key jti :=
    ⟨by decide +kernel, _, _, rfl⟩
  have hwrites := hlog .trial _ [] _ [] _ _ key jti (by decide +kernel)
    (.call .trial (.call set (.call delete (.call .trial .start)))) hx hy
  have hanswers : Crowd.trial.log.map (fun p => (p.1, p.2.answer)) =
      [(some 0, .ok (.flag true)), (some 1, .ok (.flag true)),
        (some 0, .ok (.reply MemoryStore.rotated)),
        (some 1, .ok (.reply MemoryStore.reused))] := by
    decide +kernel
  have hfirst : Crowd.trial.Sees 0 MemoryStore.rotated :=
    Crowd.sees_of_mem (by rw [hanswers]; decide)
  have hsecond : Crowd.trial.Sees 1 MemoryStore.reused :=
    Crowd.sees_of_mem (by rw [hanswers]; decide)
  have hof : Claims.trial.IsOf .trial := ⟨rfl, rfl, rfl, rfl, rfl⟩
  refine ⟨hrun _ 0 [] [] (by decide +kernel), ⟨hx, hy, hwrites⟩, hfirst,
    hsecond, fun hboth => ?_⟩
  have hone := (hcrowd .trial .trial (fun _ => .trial)
    [.turn 0, .turn 1, .turn 0, .turn 1] .trial 2 Service.trial_distinguishes
    rfl rfl (Nat.le_refl _) (by simp)).2 0 1 hof hof hfirst hboth
  cases hone

end SessionTokens
