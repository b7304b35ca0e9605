import SessionTokens.Proofs.Answers

/-!
# How long marks stay

A fence, a family's mark and the mark of a redeemed token are written for a
lifetime. Nothing shortens it: a fence and a redemption are marked only where
there is no mark, and a family's mark is only ever renewed. Of all effects the
sweep of the subject is the one that takes a fence or a family's mark away, and
none takes a redemption's. So up to its deadline a mark is there in every
history in which the subject is not swept.
-/

namespace SessionTokens

/-- Up to this deadline the key has an entry, and one that lasts as long. -/
def World.Keeps (w : World) (key : String) (deadline : Nat) : Prop :=
  w.clock < deadline → ∃ e, w.live.get? key = some e ∧ deadline ≤ e.deadline

section

variable {svc : Service} {ef : Effect} {w w₁ : World} {key : String} {d : Nat}

theorem Passes.keeps (h : Passes w w₁) (hw : w.Keeps key d) :
    w₁.Keeps key d := by
  intro hlt
  obtain ⟨e, he, hd⟩ := hw (Nat.lt_of_le_of_lt h.clock hlt)
  exact ⟨e, h.get? he (Nat.lt_of_lt_of_le hlt hd), hd⟩

/-- A change keeps an entry that it does not take away, if what it writes in its
place lasts as long. -/
theorem Change.keeps (h : Change svc ef w w₁)
    (hremoves : ef.removes key = false)
    (hwrites : ∀ e, (key, e) ∈ ef.writes svc w.clock →
      w.live.get? key = none ∨ d ≤ e.deadline) (hw : w.Keeps key d) :
    w₁.Keeps key d := by
  intro hlt
  rw [h.clock] at hlt
  obtain ⟨e, he, hd⟩ := hw hlt
  rw [h.look, Effect.look]
  split
  · next p hp =>
      have hkey : p.1 = key := by simpa using List.find?_some hp
      have hmem := List.mem_of_find?_eq_some hp
      subst hkey
      rcases hwrites p.2 hmem with hnone | hle
      · rw [hnone] at he
        cases he
      · rw [if_pos (Nat.lt_of_lt_of_le hlt hle)]
        exact ⟨p.2, rfl, hle⟩
  · rw [hremoves]
    exact ⟨e, he, hd⟩

/-- What has just been written is there up to its deadline. -/
theorem Change.keeps_of_written (h : Change svc ef w w₁) {e : Entry}
    (he : (ef.writes svc w.clock).find? (·.1 = key) = some (key, e))
    (hd : d ≤ e.deadline) : w₁.Keeps key d := by
  intro hlt
  rw [h.clock] at hlt
  refine ⟨e, ?_, hd⟩
  rw [h.look, Effect.look, he]
  exact if_pos (Nat.lt_of_lt_of_le hlt hd)

end

/-! ## What happens to marks -/

section

variable {svc : Service} {ef : Effect} {w w₁ : World} {ns : Namespace}
  {sub id : String}

/-- A mark is kept at no key of a token. -/
theorem Key.make_ne_of_isLiveness {ns ns' : Namespace} {sub' id' : String}
    (hns : ns.isLiveness = false) (hns' : ns'.isLiveness = true) :
    Key.make ns.name sub id ≠ Key.make ns'.name sub' id' :=
  fun heq => Key.not_isLiveness hns sub id ⟨_, _, _, hns', heq⟩

/-- Only a sweep takes marks away, and of marks with a plain identifier it takes
those of its subject only. -/
theorem Effect.eq_sweep_of_removes (hns : ns.isLiveness = false)
    (h : ef.removes (Key.make ns.name sub id) = true) :
    ns ∈ Namespace.session ∧ (Key.IsPlain id → ef = .sweep sub) := by
  cases ef with
  | sweep sub' =>
      obtain ⟨ns', hsession, id', hid', heq⟩ := Key.isSessionKeyOf_iff.mp h
      cases Key.ns_eq_of_make_eq heq
      refine ⟨hsession, fun hid => ?_⟩
      rw [(Key.make_injective hid hid' heq).1]
  | retire t =>
      have heq : Key.make ns.name sub id = Key.refresh t.sub t.session := by
        simpa [removes] using h
      exact absurd heq (Key.make_ne_of_isLiveness hns rfl)
  | endSession sub' session =>
      have heq : Key.make ns.name sub id = Key.access sub' session ∨
          Key.make ns.name sub id = Key.refresh sub' session := by
        simpa [removes] using h
      rcases heq with heq | heq
      · exact absurd heq (Key.make_ne_of_isLiveness hns rfl)
      · exact absurd heq (Key.make_ne_of_isLiveness hns rfl)
  | pass => cases h
  | access sub' session jti => cases h
  | refresh sub' session jti family => cases h
  | redeem sub' digest => cases h

/-- A mark is written where there is none, or it is a family's that is written
for the whole lifetime of a token. -/
theorem Change.writes_mark (h : Change svc ef w w₁)
    (hns : ns.isLiveness = false)
    {e : Entry} (he : (Key.make ns.name sub id, e) ∈ ef.writes svc w.clock) :
    w.live.get? (Key.make ns.name sub id) = none ∨
      (ns = .family ∧
        e.deadline = w.clock + toMillis svc.lifetimes.refresh) := by
  have hguard := h.guard
  cases ef with
  | access sub' session jti =>
      exact absurd (Prod.mk.inj (List.mem_singleton.mp he)).1
        (Key.make_ne_of_isLiveness hns rfl)
  | refresh sub' session jti family =>
      rcases List.mem_cons.mp he with heq | hrest
      · exact absurd (Prod.mk.inj heq).1 (Key.make_ne_of_isLiveness hns rfl)
      · obtain ⟨hkey, rfl⟩ := Prod.mk.inj (List.mem_singleton.mp hrest)
        exact .inr ⟨Key.ns_eq_of_make_eq hkey, rfl⟩
  | retire t =>
      obtain ⟨hkey, -⟩ := Prod.mk.inj (List.mem_singleton.mp he)
      rw [hkey]
      exact .inl hguard.1
  | redeem sub' digest =>
      obtain ⟨hkey, -⟩ := Prod.mk.inj (List.mem_singleton.mp he)
      rw [hkey]
      exact .inl hguard
  | pass => cases he
  | sweep sub' => cases he
  | endSession sub' session => cases he

/-- Writing does not shorten the life of a mark. -/
theorem Changes.keeps {d : Nat} (h : Changes svc Service.Writes w w₁)
    (hns : ns.isLiveness = false)
    (hd : ns = .family → d ≤ w.clock + toMillis svc.lifetimes.refresh)
    (hw : w.Keeps (Key.make ns.name sub id) d) :
    w₁.Keeps (Key.make ns.name sub id) d := by
  let I : World → Prop := fun w' =>
    w'.clock = w.clock ∧ w'.Keeps (Key.make ns.name sub id) d
  have hboth : I w₁ := by
    refine h.induct (fun {ef w' w''} hwrites hc hI => ?_) ⟨rfl, hw⟩
    refine ⟨hc.clock.trans hI.1, hc.keeps ?_ (fun e he => ?_) hI.2⟩
    · by_cases hpass : ef = .pass
      · rw [hpass]
        rfl
      · exact hwrites hpass _
    · rcases hc.writes_mark hns he with hnone | ⟨hfamily, hdeadline⟩
      · exact .inl hnone
      · exact .inr (by rw [hdeadline, hI.1]; exact hd hfamily)
  exact hboth.2

end

/-! ## Histories -/

/-- The identifier of a mark is one that no other subject's sweep can take for
one of its own. -/
def Key.IsSafe (ns : Namespace) (id : String) : Prop :=
  ns = .redeemed ∨ Key.IsPlain id

namespace Service

variable {svc : Service} {w : World} {ns : Namespace} {sub id : String}
    {d : Nat}

/-- The event leaves the marks of the subject in this namespace alone. -/
def Spares (svc : Service) (ns : Namespace) (sub : String) (w : World)
    (e : Event) :
    Prop :=
  ns = .redeemed ∨ ¬ svc.Sweeps w sub e

/-- One effect keeps a mark, unless it is the sweep of its subject. -/
theorem keeps_of_change {ef : Effect} {w₁ : World} (h : Change svc ef w w₁)
    (hns : ns.isLiveness = false) (hid : Key.IsSafe ns id)
    (hd : ns = .family → d ≤ w.clock + toMillis svc.lifetimes.refresh)
    (hsweep : ns = .redeemed ∨ ef ≠ .sweep sub)
    (hw : w.Keeps (Key.make ns.name sub id) d) :
    w₁.Keeps (Key.make ns.name sub id) d := by
  refine h.keeps ?_ (fun e he => ?_) hw
  · rw [Bool.eq_false_iff]
    intro hremoves
    obtain ⟨hsession, hplain⟩ := Effect.eq_sweep_of_removes hns hremoves
    have hne : ns ≠ .redeemed := by
      rintro rfl
      exact absurd hsession (by decide)
    exact (hsweep.resolve_left hne) (hplain (hid.resolve_left hne))
  · rcases h.writes_mark hns he with hnone | ⟨hfamily, hdeadline⟩
    · exact .inl hnone
    · exact .inr (by rw [hdeadline]; exact hd hfamily)

/-- One event keeps a mark, unless it sweeps its subject. -/
theorem next_keeps {e : Event} (hforced : w.forcedReply = none)
    (hns : ns.isLiveness = false) (hid : Key.IsSafe ns id)
    (hd : ns = .family → d ≤ w.clock + toMillis svc.lifetimes.refresh)
    (he : svc.Spares ns sub w e) (hw : w.Keeps (Key.make ns.name sub id) d) :
    (svc.next w e).Keeps (Key.make ns.name sub id) d := by
  -- Clocks only move on, so what is written later is due no earlier.
  let I : World → Prop := fun w' =>
    w.clock ≤ w'.clock ∧ w'.Keeps (Key.make ns.name sub id) d
  have hboth : I (svc.next w e) := by
    refine next_preserves
      (fun hp hI => ⟨Nat.le_trans hI.1 hp.clock, hp.keeps hI.2⟩)
      (fun {r ef w₁ w₂} hr hallows _ hc hI => ?_) hforced ⟨Nat.le_refl _, hw⟩
    refine ⟨Nat.le_trans hI.1 (Nat.le_of_eq hc.clock.symm),
      keeps_of_change hc hns hid (fun hfamily => ?_) ?_ hI.2⟩
    · have hdw := hd hfamily
      have hle := hI.1
      omega
    · rcases he with hredeemed | hspares
      · exact .inl hredeemed
      · refine .inr fun hef => ?_
        subst hef hr
        exact hspares (hallows nofun)
  exact hboth.2

/-- A mark is there up to its deadline, whatever happens short of a sweep of its
subject. -/
theorem after_keeps (ns : Namespace) {es : List Event}
    (hforced : w.forcedReply = none)
    (hns : ns.isLiveness = false) (hid : Key.IsSafe ns id)
    (hd : ns = .family → d ≤ w.clock + toMillis svc.lifetimes.refresh)
    (hes : svc.Throughout (svc.Spares ns sub) w es)
    (hw : w.Keeps (Key.make ns.name sub id) d) :
    (svc.after w es).Keeps (Key.make ns.name sub id) d := by
  let I : World → Prop := fun w' =>
    w.clock ≤ w'.clock ∧ w'.Keeps (Key.make ns.name sub id) d
  have hboth : I (svc.after w es) := by
    refine (after_preserves (fun {w' e} hf he hI =>
      ⟨Nat.le_trans hI.1 (clock_next _ _ hf),
        next_keeps hf hns hid (fun hfamily => ?_) he hI.2⟩)
      hes hforced ⟨Nat.le_refl _, hw⟩).1
    have hdw := hd hfamily
    have hle := hI.1
    omega
  exact hboth.2

end Service

end SessionTokens
