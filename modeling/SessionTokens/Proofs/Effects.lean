import SessionTokens.Proofs.Sweep
import SessionTokens.Token.Rotation

/-!
# What operations do to the store, step by step

Whatever an operation is for, it touches the live entries in one of a handful
of ways: it issues a token, uses one up, sweeps a subject, ends a session or
marks a reset token as redeemed. `Effect` lists them, each with the entries it
writes and the keys it takes away, and a `Change` is one of them happening to a
world. Everything an operation does is a chain of changes.

That is all that later arguments know about operations. A property of worlds
that no effect breaks and that passing time does not break holds through every
history; one that a single effect breaks holds for as long as that effect stays
away.
-/

namespace SessionTokens

/-- What one step of an operation does to the entries that are there. -/
inductive Effect where
  | pass
  | access (sub session jti : String)
  | refresh (sub session jti family : String)
  | retire (t : Retired)
  | sweep (sub : String)
  | endSession (sub session : String)
  | redeem (sub digest : String)

namespace Effect

variable (svc : Service) (now : Nat)

/-- The entries that an effect writes. -/
def writes : Effect → List (String × Entry)
  | .access sub session jti =>
    [(Key.access sub session, ⟨jti, now + toMillis svc.lifetimes.access⟩)]
  | .refresh sub session jti family =>
    [(Key.refresh sub session, ⟨jti, now + toMillis svc.lifetimes.refresh⟩),
      (Key.family sub family,
        ⟨Key.familyMark, now + toMillis svc.lifetimes.refresh⟩)]
  | .retire t =>
    [(Key.used t.sub t.jti, ⟨Key.usedMark, now + svc.fenceSeconds * 1000⟩)]
  | .redeem sub digest =>
    [(Key.redeemed sub digest,
      ⟨Key.redeemedMark, now + toMillis svc.lifetimes.resetPassword⟩)]
  | .pass | .sweep _ | .endSession _ _ => []

/-- The namespaces in which an effect writes. -/
def namespaces : Effect → List Namespace
  | .access _ _ _ => [.access]
  | .refresh _ _ _ _ => [.refresh, .family]
  | .retire _ => [.used]
  | .redeem _ _ => [.redeemed]
  | .pass | .sweep _ | .endSession _ _ => []

theorem mem_namespaces_of_writes {ef : Effect} (ns : Namespace)
    {sub id : String} {e : Entry}
    (he : (Key.make ns.name sub id, e) ∈ ef.writes svc now) :
    ns ∈ ef.namespaces := by
  have hmem : ∀ {ns' : Namespace} {sub' id' : String} {e' : Entry},
      (Key.make ns.name sub id, e) = (Key.make ns'.name sub' id', e') →
        ns = ns' :=
    fun heq => Key.ns_eq_of_make_eq (Prod.mk.inj heq).1
  cases ef with
  | access sub' session jti =>
      exact List.mem_singleton.mpr (hmem (List.mem_singleton.mp he))
  | refresh sub' session jti family =>
      rcases List.mem_cons.mp he with heq | hrest
      · rw [hmem heq]
        exact List.mem_cons_self
      · rw [hmem (List.mem_singleton.mp hrest)]
        exact List.mem_cons_of_mem _ List.mem_cons_self
  | retire t => exact List.mem_singleton.mpr (hmem (List.mem_singleton.mp he))
  | redeem sub' digest =>
      exact List.mem_singleton.mpr (hmem (List.mem_singleton.mp he))
  | pass => cases he
  | sweep sub' => cases he
  | endSession sub' session => cases he

/-- The keys that an effect takes away. -/
def removes : Effect → String → Bool
  | .retire t => fun key => key = Key.refresh t.sub t.session
  | .sweep sub => Key.isSessionKeyOf sub
  | .endSession sub session => fun key =>
    [Key.access sub session, Key.refresh sub session].contains key
  | _ => fun _ => false

/-- What is found at a key after an effect. -/
def look (ef : Effect) (k : Keyspace) (key : String) : Option Entry :=
  match (ef.writes svc now).find? (·.1 = key) with
  | some p => if now < p.2.deadline then some p.2 else none
  | none => if ef.removes key then none else k.get? key

/-- The entry that is written comes first. -/
theorem look_of_writes_cons {ef : Effect} {p : String × Entry}
    {ps : List (String × Entry)} (h : ef.writes svc now = p :: ps)
    (k : Keyspace) (key : String) :
    ef.look svc now k key =
      if key = p.1 then if now < p.2.deadline then some p.2 else none
      else match ps.find? (·.1 = key) with
        | some q => if now < q.2.deadline then some q.2 else none
        | none => if ef.removes key then none else k.get? key := by
  rw [look, h, List.find?_cons]
  by_cases hkey : key = p.1
  · rw [if_pos hkey, show decide (p.1 = key) = true by simp [hkey]]
  · rw [if_neg hkey, show decide (p.1 = key) = false by simp [Ne.symm hkey]]

/-- What an effect can rely on when it happens. Identifiers that are written
have just been minted, and a token that is used up was the live one of its
session, with its family in order. -/
def Guard (w w' : World) : Effect → Prop
  | .access _ _ jti | .refresh _ _ jti _ =>
    ∃ n, w.minted < n ∧ n ≤ w'.minted ∧ jti = svc.ids n
  | .retire t =>
    w.live.get? (Key.used t.sub t.jti) = none ∧
      (w.live.get? (Key.refresh t.sub t.session)).map Entry.value = some t.jti ∧
      (w.live.get? (Key.family t.sub t.family)).isSome = true
  | .redeem sub digest => w.live.get? (Key.redeemed sub digest) = none
  | .pass | .sweep _ | .endSession _ _ => True

end Effect

theorem World.live_live_clock (w : World) : w.live.live w.clock = w.live :=
  Keyspace.live_self ..

/-- An effect happens to a world. The clocks stand still meanwhile, and nothing
but the store and the number of minted identifiers is spoken of. -/
structure Change (svc : Service) (ef : Effect) (w w' : World) : Prop where
  look : ∀ key, w'.live.get? key = ef.look svc w.clock w.live key
  guard : ef.Guard svc w w'
  clock : w'.clock = w.clock
  wall : w'.wall = w.wall
  outages : w'.outages = w.outages
  forcedReply : w'.forcedReply = w.forcedReply
  minted : w.minted ≤ w'.minted

/-- Effects of a kind, one after another. Nothing happening is of every
kind. -/
inductive Changes (svc : Service) (P : Effect → Prop) : World → World → Prop
  | done (w : World) : Changes svc P w w
  | step {ef : Effect} {w w₁ w₂ : World} : (ef ≠ .pass → P ef) →
      Change svc ef w w₁ → Changes svc P w₁ w₂ → Changes svc P w w₂

variable {svc : Service} {P Q : Effect → Prop} {w w₁ w₂ : World}

/-! ## Looking at a changed world -/

namespace Change

variable {ef : Effect} {key : String} {e : Entry}

/-- An entry that is there after a change was written by it or was there
before. -/
theorem of_get? (h : Change svc ef w w₁) (hkey : w₁.live.get? key = some e) :
    (key, e) ∈ ef.writes svc w.clock ∨
      (ef.removes key = false ∧ w.live.get? key = some e) := by
  rw [h.look, Effect.look] at hkey
  split at hkey
  · next p hp =>
      split at hkey
      · have hkey' : p.1 = key := by simpa using List.find?_some hp
        have hentry : p.2 = e := Option.some.inj hkey
        subst hkey' hentry
        exact .inl (List.mem_of_find?_eq_some hp)
      · cases hkey
  · split at hkey
    · cases hkey
    · next hremoves => exact .inr ⟨Bool.eq_false_iff.mpr hremoves, hkey⟩

/-- A key that a change does not write is as before, unless it is taken away. -/
theorem get?_of_not_written (h : Change svc ef w w₁)
    (hwrites : ∀ e, (key, e) ∉ ef.writes svc w.clock) :
    w₁.live.get? key = if ef.removes key then none else w.live.get? key := by
  rw [h.look, Effect.look]
  split
  · next p hp =>
      have hkey : p.1 = key := by simpa using List.find?_some hp
      subst hkey
      exact absurd (List.mem_of_find?_eq_some hp) (hwrites p.2)
  · rfl

/-- What comes of an operation that leaves the entries alone. -/
theorem of_live (hlive : w₁.live = w.live) (hclock : w₁.clock = w.clock)
    (hwall : w₁.wall = w.wall) (houtages : w₁.outages = w.outages)
    (hforced : w₁.forcedReply = w.forcedReply)
    (hminted : w.minted ≤ w₁.minted) : Change svc .pass w w₁ where
  look := fun key => by rw [hlive]; rfl
  guard := trivial
  clock := hclock
  wall := hwall
  outages := houtages
  forcedReply := hforced
  minted := hminted

theorem live_of_pass (h : Change svc .pass w w₁) : w₁.live = w.live :=
  Keyspace.ext_get? h.look

theorem pass_trans (h : Change svc .pass w w₁) (h' : Change svc .pass w₁ w₂) :
    Change svc .pass w w₂ :=
  of_live (h'.live_of_pass.trans h.live_of_pass) (h'.clock.trans h.clock)
    (h'.wall.trans h.wall) (h'.outages.trans h.outages)
    (h'.forcedReply.trans h.forcedReply) (Nat.le_trans h.minted h'.minted)

/-- Nothing happening afterwards makes no difference. -/
theorem then_pass (h : Change svc ef w w₁) (h' : Change svc .pass w₁ w₂) :
    Change svc ef w w₂ where
  look := fun key => by rw [h'.live_of_pass, h.look]
  guard := by
    have hguard := h.guard
    have hminted := h'.minted
    cases ef with
    | access sub session jti =>
        obtain ⟨n, hlt, hle, hjti⟩ := hguard
        exact ⟨n, hlt, Nat.le_trans hle hminted, hjti⟩
    | refresh sub session jti family =>
        obtain ⟨n, hlt, hle, hjti⟩ := hguard
        exact ⟨n, hlt, Nat.le_trans hle hminted, hjti⟩
    | _ => exact hguard
  clock := h'.clock.trans h.clock
  wall := h'.wall.trans h.wall
  outages := h'.outages.trans h.outages
  forcedReply := h'.forcedReply.trans h.forcedReply
  minted := Nat.le_trans h.minted h'.minted

theorem of_minted_becomes {k : Keyspace} {n : Nat} (hn : w.minted ≤ n)
    (h : World.Becomes { w with minted := n } k w₁)
    (hlook : ∀ key, k.get? key = ef.look svc w.clock w.live key)
    (hguard : ef.Guard svc w w₁) : Change svc ef w w₁ where
  look := fun key => by rw [h.live, hlook]
  guard := hguard
  clock := h.clock
  wall := h.wall
  outages := h.outages
  forcedReply := h.forcedReply
  minted := by rw [h.minted]; exact hn

theorem of_becomes {k : Keyspace} (h : w.Becomes k w₁)
    (hlook : ∀ key, k.get? key = ef.look svc w.clock w.live key)
    (hguard : ef.Guard svc w w₁) : Change svc ef w w₁ :=
  of_minted_becomes (Nat.le_refl _) h hlook hguard

theorem pass_of_becomes (h : w.Becomes w.live w₁) : Change svc .pass w w₁ :=
  of_becomes h (fun _ => rfl) trivial

/-- Taking keys away by a test is seen at each key. -/
theorem get?_filter_key (k : Keyspace) (p : String → Bool) (key : String) :
    (k.filter fun x => !p x.1).get? key =
      if p key then none else k.get? key := by
  rw [Keyspace.get?_filter]
  cases hp : p key <;> cases k.get? key <;> simp [hp]

/-- After a sweep the subject has no session key. -/
theorem get?_of_swept {sub key : String}
    (h : w.Becomes (w.live.withoutSessions sub) w₁)
    (hkey : Key.isSessionKeyOf sub key = true) : w₁.live.get? key = none := by
  rw [h.live]
  exact (get?_filter_key _ _ key).trans (if_pos hkey)

theorem sweep_of_becomes {sub : String}
    (h : w.Becomes (w.live.withoutSessions sub) w₁) :
    Change svc (.sweep sub) w w₁ :=
  of_becomes h (get?_filter_key _ _) trivial

theorem access_of_becomes {sub session : String} {n : Nat} (hn : w.minted < n)
    (h : World.Becomes { w with minted := n }
      ((w.live.insert (Key.access sub session)
        ⟨svc.ids n, w.clock + toMillis svc.lifetimes.access⟩).live w.clock)
      w₁) :
    Change svc (.access sub session (svc.ids n)) w w₁ := by
  refine of_minted_becomes (Nat.le_of_lt hn) h (fun key => ?_)
    ⟨n, hn, Nat.le_of_eq h.minted.symm, rfl⟩
  rw [Effect.look_of_writes_cons svc w.clock rfl, Keyspace.get?_live_insert,
    World.live_live_clock]
  rfl

theorem refresh_of_becomes {sub session family : String} {n : Nat}
    (hn : w.minted < n)
    (h : World.Becomes { w with minted := n }
      ((((w.live.insert (Key.refresh sub session)
        ⟨svc.ids n, w.clock + toMillis svc.lifetimes.refresh⟩).live
          w.clock).insert (Key.family sub family)
        ⟨Key.familyMark, w.clock + toMillis svc.lifetimes.refresh⟩).live
          w.clock) w₁) :
    Change svc (.refresh sub session (svc.ids n) family) w w₁ := by
  refine of_minted_becomes (Nat.le_of_lt hn) h (fun key => ?_)
    ⟨n, hn, Nat.le_of_eq h.minted.symm, rfl⟩
  have hne : Key.refresh sub session ≠ Key.family sub family :=
    Key.make_ne_of_ns_ne (by decide)
  rw [Effect.look_of_writes_cons svc w.clock rfl, Keyspace.get?_live_insert,
    Keyspace.live_self, Keyspace.get?_live_insert, World.live_live_clock]
  by_cases hfamily : key = Key.family sub family
  · subst hfamily
    simp [Ne.symm hne]
  · by_cases hrefresh : key = Key.refresh sub session
    · simp [hrefresh, hne]
    · simp [hfamily, hrefresh, Ne.symm hfamily, Effect.removes]

theorem retire_of_becomes {t : Retired}
    (h : w.Becomes (((w.live.insert (Key.used t.sub t.jti)
      ⟨Key.usedMark, w.clock + svc.fenceSeconds * 1000⟩).live w.clock).erase
        (Key.refresh t.sub t.session)) w₁)
    (hguard : (Effect.retire t).Guard svc w w₁) :
    Change svc (.retire t) w w₁ := by
  refine of_becomes h (fun key => ?_) hguard
  have hne : Key.used t.sub t.jti ≠ Key.refresh t.sub t.session :=
    Key.make_ne_of_ns_ne (by decide)
  rw [Effect.look_of_writes_cons svc w.clock rfl, Keyspace.get?_erase,
    Keyspace.get?_live_insert, World.live_live_clock]
  by_cases hused : key = Key.used t.sub t.jti
  · subst hused
    simp [hne]
  · simp [hused, Effect.removes]

theorem endSession_of_becomes {sub session : String}
    (h : w.Becomes (w.live.filter fun x =>
      !([Key.access sub session, Key.refresh sub session].contains x.1)) w₁) :
    Change svc (.endSession sub session) w w₁ :=
  of_becomes h (get?_filter_key _ _) trivial

theorem redeem_of_becomes {sub digest : String}
    (h : w.Becomes ((w.live.insert (Key.redeemed sub digest)
      ⟨Key.redeemedMark, w.clock + toMillis svc.lifetimes.resetPassword⟩).live
        w.clock) w₁)
    (hguard : w.live.get? (Key.redeemed sub digest) = none) :
    Change svc (.redeem sub digest) w w₁ := by
  refine of_becomes h (fun key => ?_) hguard
  rw [Effect.look_of_writes_cons svc w.clock rfl, Keyspace.get?_live_insert,
    World.live_live_clock]
  rfl

end Change

/-! ## Chains -/

/-- Where the parts of an operation lead in a certain way, the operation does,
if ways can be put together. -/
theorem Action.snd_bind {ε α β : Type} {R : World → World → Prop}
    (htrans : ∀ {w w₁ w₂}, R w w₁ → R w₁ w₂ → R w w₂) {m : Action ε α}
    {f : α → Action ε β} (hm : R w (m w₁).2)
    (hf : ∀ a w₂, m w₁ = (.ok a, w₂) → R w₂ (f a w₂).2) :
    R w ((m >>= f) w₁).2 := by
  rw [Action.bind_apply]
  rcases h : m w₁ with ⟨a | e | _, w₂⟩
  · rw [h] at hm
    exact htrans hm (hf a w₂ h)
  · rw [h] at hm
    exact hm
  · rw [h] at hm
    exact hm

/-- Taking an error as a value does nothing. -/
theorem Action.snd_attempt {ε ε' α : Type} (m : Action ε α) (w : World) :
    ((m.attempt : Action ε' (Except ε α)) w).2 = (m w).2 := by
  unfold Action.attempt
  rcases m w with ⟨a | e | _, w₁⟩ <;> rfl

namespace Changes

theorem single {ef : Effect} (hP : P ef) (h : Change svc ef w w₁) :
    Changes svc P w w₁ := .step (fun _ => hP) h (.done w₁)

theorem pass (h : Change svc .pass w w₁) : Changes svc P w w₁ :=
  .step (fun hne => absurd rfl hne) h (.done w₁)

theorem of_becomes (h : w.Becomes w.live w₁) : Changes svc P w w₁ :=
  pass (.pass_of_becomes h)

/-- A sweep happens only to a store that lets it. -/
theorem of_swept {sub : String} (hP : w.Sweepable → P (.sweep sub))
    (h : w.Becomes (w.swept sub) w₁) : Changes svc P w w₁ := by
  by_cases hw : w.Sweepable
  · have hswept : w.swept sub = w.live.withoutSessions sub := if_pos hw
    exact single (hP hw) (.sweep_of_becomes (hswept ▸ h))
  · have hswept : w.swept sub = w.live := if_neg hw
    exact of_becomes (hswept ▸ h)

theorem trans (h : Changes svc P w w₁) (h' : Changes svc P w₁ w₂) :
    Changes svc P w w₂ := by
  induction h with
  | done w => exact h'
  | step hP hstep _ ih => exact .step hP hstep (ih h')

theorem mono (hPQ : ∀ ef, P ef → Q ef) (h : Changes svc P w w₁) :
    Changes svc Q w w₁ := by
  induction h with
  | done w => exact .done w
  | step hP hstep _ ih => exact .step (fun hne => hPQ _ (hP hne)) hstep ih

/-- What every single change keeps, a chain of them keeps. -/
theorem induct {I : World → Prop}
    (hI : ∀ {ef w w'}, (ef ≠ .pass → P ef) → Change svc ef w w' → I w → I w')
    (h : Changes svc P w w₁) (hw : I w) : I w₁ := by
  induction h with
  | done w => exact hw
  | step hP hstep _ ih => exact ih (hI hP hstep hw)

theorem clock (h : Changes svc P w w₁) : w₁.clock = w.clock :=
  h.induct (I := fun w' => w'.clock = w.clock)
    (fun _ hstep hw => hstep.clock.trans hw) rfl

theorem wall (h : Changes svc P w w₁) : w₁.wall = w.wall :=
  h.induct (I := fun w' => w'.wall = w.wall)
    (fun _ hstep hw => hstep.wall.trans hw) rfl

theorem seconds (h : Changes svc P w w₁) : w₁.seconds = w.seconds := by
  rw [World.seconds, h.wall, World.seconds]

theorem outages (h : Changes svc P w w₁) : w₁.outages = w.outages :=
  h.induct (I := fun w' => w'.outages = w.outages)
    (fun _ hstep hw => hstep.outages.trans hw) rfl

theorem forcedReply (h : Changes svc P w w₁) : w₁.forcedReply = w.forcedReply :=
  h.induct (I := fun w' => w'.forcedReply = w.forcedReply)
    (fun _ hstep hw => hstep.forcedReply.trans hw) rfl

theorem minted (h : Changes svc P w w₁) : w.minted ≤ w₁.minted :=
  h.induct (I := fun w' => w.minted ≤ w'.minted)
    (fun _ hstep hw => Nat.le_trans hw hstep.minted) (Nat.le_refl _)

/-! ## Operations in sequence -/

variable {ε α β : Type}

/-- An operation changes what its parts change. -/
theorem bind {m : Action ε α} {f : α → Action ε β}
    (hm : Changes svc P w (m w₁).2)
    (hf : ∀ a w₂, m w₁ = (.ok a, w₂) → Changes svc P w₂ (f a w₂).2) :
    Changes svc P w ((m >>= f) w₁).2 :=
  Action.snd_bind (R := Changes svc P) trans hm hf

end Changes

end SessionTokens
