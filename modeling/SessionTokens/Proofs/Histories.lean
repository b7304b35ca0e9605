import SessionTokens.Proofs.Requests

/-!
# What holds throughout a history

Between requests only time can take entries away, by passing their deadlines.
So a property holds after every history as soon as no effect breaks it and the
passing of time does not, and that is one induction, made here once. Effects
that would break it may be kept out by a condition on the events: whatever an
event does is of the kinds that it allows.
-/

namespace SessionTokens

/-- Time passes, or something changes that is no business of the store's. -/
structure Passes (w w' : World) : Prop where
  live : w'.live = w.live.live w'.clock
  clock : w.clock ≤ w'.clock
  minted : w'.minted = w.minted
  forcedReply : w'.forcedReply = w.forcedReply

theorem Passes.of_get? {w w' : World} {key : String} {e : Entry}
    (h : Passes w w') (hkey : w'.live.get? key = some e) :
    w.live.get? key = some e := by
  rw [h.live, Keyspace.get?_live_eq_some] at hkey
  exact hkey.1

theorem Passes.get? {w w' : World} {key : String} {e : Entry} (h : Passes w w')
    (hkey : w.live.get? key = some e) (hlt : w'.clock < e.deadline) :
    w'.live.get? key = some e := by
  rw [h.live, Keyspace.get?_live_eq_some]
  exact ⟨hkey, hlt⟩

/-- Everything that is there has its deadline before it. -/
theorem World.lt_deadline {w : World} {key : String} {e : Entry}
    (h : w.live.get? key = some e) : w.clock < e.deadline :=
  (Keyspace.get?_live_eq_some.mp h).2

/-- The event puts no call of the store out of order, nor back into it. -/
def Event.sparesStore : Event → Bool
  | .failStore _ => false
  | _ => true

namespace Service

variable {svc : Service} {w : World}

/-- An event either changes entries in the ways that it allows, or lets time
pass. -/
theorem next_spec (w : World) (e : Event) (hforced : w.forcedReply = none) :
    (∃ r, e = .request r ∧ Changes svc (svc.Allows w r) w (svc.next w e)) ∨
      Passes w (svc.next w e) := by
  cases e with
  | request r => exact .inl ⟨r, rfl, .perform r hforced⟩
  | advance ms =>
      have hle : w.clock ≤ w.clock + ms := Nat.le_add_right ..
      exact .inr ⟨(Keyspace.live_live hle).symm, hle, rfl, rfl⟩
  | _ => exact .inr ⟨(World.live_live_clock w).symm, Nat.le_refl _, rfl, rfl⟩

theorem forcedReply_next (e : Event) (hforced : w.forcedReply = none) :
    (svc.next w e).forcedReply = none := by
  rcases svc.next_spec w e hforced with ⟨r, -, h⟩ | h
  · rw [h.forcedReply, hforced]
  · rw [h.forcedReply, hforced]

/-- One step: what no allowed effect and no time breaks, an event keeps. -/
theorem next_preserves {I : World → Prop} {e : Event}
    (htime : ∀ {w w'}, Passes w w' → I w → I w')
    (heffect : ∀ {r ef w₁ w₂}, e = .request r →
      (ef ≠ .pass → svc.Allows w r ef) → w.minted ≤ w₁.minted →
      Change svc ef w₁ w₂ → I w₁ → I w₂)
    (hforced : w.forcedReply = none) (hw : I w) : I (svc.next w e) := by
  rcases svc.next_spec w e hforced with ⟨r, hr, h⟩ | h
  · -- The number of minted identifiers is carried along with the property.
    have hboth := h.induct (I := fun w' => w.minted ≤ w'.minted ∧ I w')
      (fun hP hstep ⟨hle, hI⟩ =>
        ⟨Nat.le_trans hle hstep.minted, heffect hr hP hle hstep hI⟩)
      ⟨Nat.le_refl _, hw⟩
    exact hboth.2
  · exact htime h hw

/-- A whole history: what every event of a kind keeps, a history of such events
keeps. -/
theorem after_preserves {I : World → Prop} {H : World → Event → Prop}
    (hstep : ∀ {w e}, w.forcedReply = none → H w e → I w → I (svc.next w e))
    {es : List Event} (hes : svc.Throughout H w es)
    (hforced : w.forcedReply = none) (hw : I w) :
    I (svc.after w es) ∧ (svc.after w es).forcedReply = none := by
  induction es generalizing w with
  | nil => exact ⟨hw, hforced⟩
  | cons e es ih =>
      obtain ⟨he, hes⟩ := hes
      exact ih hes (forcedReply_next e hforced) (hstep hforced he hw)

theorem throughout_of {P : World → Event → Prop} (h : ∀ w e, P w e) (w : World)
    (es : List Event) : svc.Throughout P w es := by
  induction es generalizing w with
  | nil => trivial
  | cons e es ih => exact ⟨h w e, ih _⟩

/-- What every event keeps, every history keeps. -/
theorem after_always {I : World → Prop}
    (hstep : ∀ {w e}, w.forcedReply = none → I w → I (svc.next w e))
    (hforced : w.forcedReply = none) (hw : I w) (es : List Event) :
    I (svc.after w es) ∧ (svc.after w es).forcedReply = none :=
  after_preserves (H := fun _ _ => True) (fun hf _ hI => hstep hf hI)
    (throughout_of (fun _ _ => trivial) w es) hforced hw

/-- What neither an effect nor time breaks, every history keeps. -/
theorem after_invariant {I : World → Prop}
    (htime : ∀ {w w'}, Passes w w' → I w → I w')
    (heffect : ∀ {ef w₁ w₂}, Change svc ef w₁ w₂ → I w₁ → I w₂)
    (hforced : w.forcedReply = none) (hw : I w) (es : List Event) :
    I (svc.after w es) ∧ (svc.after w es).forcedReply = none :=
  after_always
    (fun hf hI => next_preserves htime (fun _ _ _ hc => heffect hc) hf hI)
    hforced hw es

theorem Throughout.imp {P Q : World → Event → Prop} (h : ∀ {w e}, P w e → Q w e)
    {es : List Event} (hes : svc.Throughout P w es) :
    svc.Throughout Q w es := by
  induction es generalizing w with
  | nil => trivial
  | cons e es ih => exact ⟨h hes.1, ih hes.2⟩

theorem Throughout.and {P Q : World → Event → Prop} {es : List Event}
    (hP : svc.Throughout P w es) (hQ : svc.Throughout Q w es) :
    svc.Throughout (fun w e => P w e ∧ Q w e) w es := by
  induction es generalizing w with
  | nil => trivial
  | cons e es ih => exact ⟨⟨hP.1, hQ.1⟩, ih hP.2 hQ.2⟩

/-- What holds of every event where the history has got to it holds
throughout. -/
theorem throughout_of_split {P : World → Event → Prop} {es : List Event}
    (h : ∀ past e rest, es = past ++ e :: rest → P (svc.after w past) e) :
    svc.Throughout P w es := by
  induction es generalizing w with
  | nil => trivial
  | cons e es ih =>
      refine ⟨h [] e es rfl, ih fun past e' rest heq => ?_⟩
      exact h (e :: past) e' rest (congrArg (e :: ·) heq)

theorem after_append (w : World) (es es' : List Event) :
    svc.after w (es ++ es') = svc.after (svc.after w es) es' :=
  List.foldl_append ..

theorem after_cons (w : World) (e : Event) (es : List Event) :
    svc.after w (e :: es) = svc.after (svc.next w e) es := rfl

/-! ## Clocks -/

theorem clock_next (w : World) (e : Event) (hforced : w.forcedReply = none) :
    w.clock ≤ (svc.next w e).clock := by
  rcases svc.next_spec w e hforced with ⟨r, -, h⟩ | h
  · exact Nat.le_of_eq h.clock.symm
  · exact h.clock

theorem minted_next (w : World) (e : Event) (hforced : w.forcedReply = none) :
    w.minted ≤ (svc.next w e).minted := by
  rcases svc.next_spec w e hforced with ⟨r, -, h⟩ | h
  · exact h.minted
  · exact Nat.le_of_eq h.minted.symm

/-- Steady events keep the distance between the two clocks. -/
theorem wall_next {e : Event} (he : e.isSteady = true)
    (hforced : w.forcedReply = none) :
    (svc.next w e).wall + w.clock = w.wall + (svc.next w e).clock := by
  cases e with
  | request r =>
      have h : Changes svc (svc.Allows w r) w (svc.perform r w).2 :=
        .perform r hforced
      show (svc.perform r w).2.wall + w.clock =
          w.wall + (svc.perform r w).2.clock
      rw [h.wall, h.clock]
  | advance ms =>
      show w.wall + ms + w.clock = w.wall + (w.clock + ms)
      omega
  | setWall ms => cases he
  | _ => rfl

theorem minted_after (es : List Event) (hforced : w.forcedReply = none) :
    w.minted ≤ (svc.after w es).minted :=
  (after_always (I := fun w' => w.minted ≤ w'.minted)
    (fun hf hI => Nat.le_trans hI (minted_next _ _ hf)) hforced (Nat.le_refl _)
    es).1

theorem forcedReply_after (es : List Event) (hforced : w.forcedReply = none) :
    (svc.after w es).forcedReply = none :=
  (after_always (I := fun _ => True) (fun _ _ => trivial) hforced trivial es).2

/-- Only failing and recovering puts calls of the store out of order, or back
into it. -/
theorem outages_after {es : List Event}
    (hes : ∀ e ∈ es, e.sparesStore = true) (hforced : w.forcedReply = none) :
    (svc.after w es).outages = w.outages := by
  induction es generalizing w with
  | nil => rfl
  | cons e es ih =>
      have hnext : (svc.next w e).outages = w.outages := by
        have he := hes e List.mem_cons_self
        cases e with
        | request r =>
            exact (Changes.perform r hforced :
              Changes svc (svc.Allows w r) w _).outages
        | failStore outages => cases he
        | _ => rfl
      rw [after_cons, ih (fun e' he' => hes e' (List.mem_cons_of_mem e he'))
        (forcedReply_next e hforced), hnext]

theorem outages_after_requests (rs : List Request)
    (hforced : w.forcedReply = none) :
    (svc.after w (rs.map .request)).outages = w.outages := by
  refine outages_after (fun e he => ?_) hforced
  obtain ⟨r, -, rfl⟩ := List.mem_map.mp he
  rfl

/-- Two clocks that are in step stay so through steady events. -/
theorem wall_after {es : List Event} (hes : ∀ e ∈ es, e.isSteady = true)
    (hforced : w.forcedReply = none) :
    (svc.after w es).wall + w.clock = w.wall + (svc.after w es).clock := by
  induction es generalizing w with
  | nil => rfl
  | cons e es ih =>
      have hnext : (svc.next w e).wall + w.clock =
          w.wall + (svc.next w e).clock :=
        wall_next (hes e List.mem_cons_self) hforced
      have hrest :=
        @ih (svc.next w e) (fun e' he' => hes e' (List.mem_cons_of_mem e he'))
        (forcedReply_next e hforced)
      rw [after_cons]
      omega

end Service

end SessionTokens
