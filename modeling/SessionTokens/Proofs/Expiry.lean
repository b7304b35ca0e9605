import SessionTokens.Proofs.Alarms
import SessionTokens.Proofs.Openings

/-!
# When a refresh token expires by itself

A refresh token and the mark of its family are given the same lifetime, but they
do not end together. The mark is gone when the lifetime is over, to the
millisecond, while the token is read for the rest of that second and for the
leeway after it. As long as the mark stands, a token that was neither used nor
swept is never suspected; once it is gone the token looks as if its family had
been put out of use, for as long as it is still read, and whoever presents it
then loses all sessions.
-/

namespace SessionTokens

/-! ## Fences -/

/-- Fences are put up for identifiers that have been minted. -/
def World.Fenced (svc : Service) (w : World) : Prop :=
  ∀ sub n e, w.live.get? (Key.used sub (svc.ids n)) = some e → n ≤ w.minted

section

variable {svc : Service} {ef : Effect} {w w₁ : World} {sub : String} {n : Nat}

theorem Effect.eq_retire_of_writes {e : Entry} {id : String} {now : Nat}
    (he : (Key.used sub id, e) ∈ ef.writes svc now) :
    ∃ t, ef = .retire t ∧ Key.used sub id = Key.used t.sub t.jti := by
  have hns := mem_namespaces_of_writes svc now .used he
  cases ef with
  | retire t => exact ⟨t, rfl, (Prod.mk.inj (List.mem_singleton.mp he)).1⟩
  | _ => simp [namespaces] at hns

/-- A fence that is put up is for the token that is used up, and its identifier
has been minted. -/
theorem Change.retired_of_fence (hids : svc.Distinguishes)
    (h : Change svc ef w w₁) (htidy : w.Tidy svc) {e : Entry}
    (he : (Key.used sub (svc.ids n), e) ∈ ef.writes svc w.clock) :
    (∃ t, ef = .retire t ∧ t.jti = svc.ids n) ∧ n ≤ w.minted := by
  obtain ⟨t, rfl, hkey⟩ := Effect.eq_retire_of_writes he
  obtain ⟨m, hm, hjti⟩ := htidy.minted h.records_of_retire
  rw [hjti] at hkey
  have hsame : sub = t.sub ∧ svc.ids n = svc.ids m :=
    Key.make_injective (hids.plain n) (hids.plain m) hkey
  cases hids.injective hsame.2
  exact ⟨⟨t, rfl, hjti⟩, hm⟩

theorem Change.fenced (hids : svc.Distinguishes) (h : Change svc ef w w₁)
    (htidy : w.Tidy svc) (hw : w.Fenced svc) : w₁.Fenced svc := by
  intro sub n e he
  refine Nat.le_trans ?_ h.minted
  rcases h.of_get? he with hwritten | ⟨-, hold⟩
  · exact (h.retired_of_fence hids htidy hwritten).2
  · exact hw sub n e hold

theorem Passes.fenced (h : Passes w w₁) (hw : w.Fenced svc) :
    w₁.Fenced svc := by
  intro sub n e he
  rw [h.minted]
  exact hw sub n e (h.of_get? he)

theorem World.IsNew.fenced (h : w.IsNew) : w.Fenced svc := by
  intro sub n e he
  rw [World.live, MemoryStore.live, h.keyspace, Keyspace.live_empty] at he
  cases he

/-- No fence is put up for a token by using up another. -/
theorem Change.unfenced (hids : svc.Distinguishes) (h : Change svc ef w w₁)
    (htidy : w.Tidy svc) (hef : ∀ t, ef = .retire t → t.jti ≠ svc.ids n)
    (hw : w.live.get? (Key.used sub (svc.ids n)) = none) :
    w₁.live.get? (Key.used sub (svc.ids n)) = none := by
  refine Option.eq_none_iff_forall_ne_some.mpr fun e he => ?_
  rcases h.of_get? he with hwritten | ⟨-, hold⟩
  · obtain ⟨⟨t, ht, hjti⟩, -⟩ := h.retired_of_fence hids htidy hwritten
    exact hef t ht hjti
  · rw [hw] at hold
    cases hold

theorem Passes.unfenced {key : String} (h : Passes w w₁)
    (hw : w.live.get? key = none) :
    w₁.live.get? key = none := by
  refine Option.eq_none_iff_forall_ne_some.mpr fun e he => ?_
  rw [h.of_get? he] at hw
  cases hw

end

namespace Service

variable {svc : Service} (hids : svc.Distinguishes) {w : World} {sub : String}
    {n : Nat}

include hids

theorem after_fenced (hforced : w.forcedReply = none) (htidy : w.Tidy svc)
    (hw : w.Fenced svc) (es : List Event) : (svc.after w es).Fenced svc :=
  after_preserves_tidy (I := World.Fenced svc) (H := fun _ _ => True)
    hids.injective
    (fun hf ht _ hI => next_preserves_tidy hids.injective Passes.fenced
      (fun _ _ ht' hc => hc.fenced hids ht') hf ht hI)
    (throughout_of (fun _ _ => trivial) w es) hforced htidy hw

/-- The event uses up no token with this identifier. -/
def Reserves (svc : Service) (jti : String) (w : World) (e : Event) : Prop :=
  ∀ t, svc.Retires w t e → t.jti ≠ jti

theorem next_unfenced {e : Event} (hforced : w.forcedReply = none)
    (htidy : w.Tidy svc) (he : svc.Reserves (svc.ids n) w e)
    (hw : w.live.get? (Key.used sub (svc.ids n)) = none) :
    (svc.next w e).live.get? (Key.used sub (svc.ids n)) = none := by
  refine next_preserves_tidy
    (I := fun w' => w'.live.get? (Key.used sub (svc.ids n)) = none)
    hids.injective Passes.unfenced (fun hr hallows ht hc hI => ?_) hforced htidy
    hw
  refine hc.unfenced hids ht (fun t heq => ?_) hI
  subst hr heq
  exact he t (hallows nofun)

theorem after_unfenced {es : List Event} (hforced : w.forcedReply = none)
    (htidy : w.Tidy svc) (hes : svc.Throughout (svc.Reserves (svc.ids n)) w es)
    (hw : w.live.get? (Key.used sub (svc.ids n)) = none) :
    (svc.after w es).live.get? (Key.used sub (svc.ids n)) = none :=
  after_preserves_tidy
    (I := fun w' => w'.live.get? (Key.used sub (svc.ids n)) = none)
    hids.injective (fun hf ht he hI => next_unfenced hids hf ht he hI) hes
    hforced htidy hw

/-- The identifier of a token that has just been issued has no fence. -/
theorem unfenced_of_opens {r : Request} {pair : TokenPair} {t : Retired}
    (hforced : w.forcedReply = none) (htidy : w.Tidy svc)
    (hfenced : w.Fenced svc) (h : svc.Opens w r pair t) :
    (svc.next w (.request r)).live.get? (Key.used t.sub t.jti) = none := by
  obtain ⟨n, hlt, hjti⟩ := h.fresh
  rw [hjti]
  refine next_unfenced hids hforced htidy (fun t' ht' => ?_) ?_
  · obtain ⟨w₁, w₂, hb, hretire, -⟩ := retired?_eq_some hforced ht'
    have htidy₁ : w₁.Tidy svc :=
      (Change.pass_of_becomes hb).tidy hids.injective htidy
    obtain ⟨m, hm, hjti'⟩ := htidy₁.minted hretire.records_of_retire
    rw [hb.minted] at hm
    intro heq
    have hmn : m = n := hids.injective (hjti'.symm.trans heq)
    omega
  · refine Option.eq_none_iff_forall_ne_some.mpr fun e he => ?_
    have hle := hfenced _ _ _ he
    omega

/-- Nor does it get one before it is used. -/
theorem unfenced_of_reserves {r : Request} {pair : TokenPair} {t : Retired}
    {later : List Event} (hforced : w.forcedReply = none) (htidy : w.Tidy svc)
    (hfenced : w.Fenced svc) (h : svc.Opens w r pair t)
    (hlater :
      svc.Throughout (svc.Reserves t.jti) (svc.next w (.request r)) later) :
    (svc.after (svc.next w (.request r)) later).live.get?
      (Key.used t.sub t.jti) = none := by
  have hstart := unfenced_of_opens hids hforced htidy hfenced h
  have htidy' := (after_tidy hids.injective hforced htidy [.request r]).1
  obtain ⟨n, -, hjti⟩ := h.fresh
  rw [hjti] at hstart hlater ⊢
  exact after_unfenced hids (forcedReply_next _ hforced) htidy' hlater hstart

end Service

/-! ## The mark of the family -/

/-- What the key has ends at this deadline, or before. -/
def World.Expires (w : World) (key : String) (deadline : Nat) : Prop :=
  ∀ e, w.live.get? key = some e → e.deadline ≤ deadline

section

variable {svc : Service} {ef : Effect} {w w₁ : World} {key : String} {d : Nat}

theorem World.Expires.get? (h : w.Expires key d) (hd : d ≤ w.clock) :
    w.live.get? key = none := by
  refine Option.eq_none_iff_forall_ne_some.mpr fun e he => ?_
  have hlt := World.lt_deadline he
  have hle := h e he
  omega

theorem Passes.expires (h : Passes w w₁) (hw : w.Expires key d) :
    w₁.Expires key d :=
  fun e he => hw e (h.of_get? he)

theorem Change.expires (h : Change svc ef w w₁)
    (hwrites : ∀ e, (key, e) ∈ ef.writes svc w.clock → e.deadline ≤ d)
    (hw : w.Expires key d) : w₁.Expires key d := by
  intro e he
  rcases h.of_get? he with hwritten | ⟨-, hold⟩
  · exact hwrites e hwritten
  · exact hw e hold

/-- What has just been written ends when it is meant to. -/
theorem Change.expires_of_written (h : Change svc ef w w₁) {e : Entry}
    (he : (ef.writes svc w.clock).find? (·.1 = key) = some (key, e))
    (hd : e.deadline ≤ d) : w₁.Expires key d := by
  intro e' he'
  rw [h.look, Effect.look, he] at he'
  dsimp only at he'
  split at he'
  · cases he'
    exact hd
  · cases he'

end

theorem Effect.eq_refresh_of_writes {svc : Service} {ef : Effect}
    {sub family : String} {e : Entry} {now : Nat}
    (he : (Key.family sub family, e) ∈ ef.writes svc now) :
    ∃ sub' session jti family', ef = .refresh sub' session jti family' ∧
      Key.family sub family = Key.family sub' family' := by
  have hns := mem_namespaces_of_writes svc now .family he
  cases ef with
  | refresh sub' session jti family' =>
      rcases List.mem_cons.mp he with heq | hrest
      · exact absurd (Prod.mk.inj heq).1 (Key.make_ne_of_ns_ne (by decide))
      · exact ⟨_, _, _, _, rfl, (Prod.mk.inj (List.mem_singleton.mp hrest)).1⟩
  | _ => simp [namespaces] at hns

namespace Service

variable {svc : Service} {w : World} {sub family : String} {d : Nat}

/-- The event does not renew this mark of a family. -/
def Leaves (svc : Service) (key : String) (w : World) (e : Event) : Prop :=
  ∀ sub family, svc.Renews w sub family e → Key.family sub family ≠ key

/-- Unless it is renewed, the mark of a family that is there already ends when
it was meant to. -/
theorem next_expires {e : Event} (hids : svc.Distinguishes)
    (hforced : w.forcedReply = none)
    (hfamily : ∃ n, n ≤ w.minted ∧ family = svc.ids n)
    (he : svc.Leaves (Key.family sub family) w e)
    (hw : w.Expires (Key.family sub family) d) :
    (svc.next w e).Expires (Key.family sub family) d := by
  refine next_preserves (I := fun w' => w'.Expires (Key.family sub family) d)
    Passes.expires (fun {r ef w₁ w₂} hr hallows _ hc hI => ?_) hforced hw
  refine hc.expires (fun entry hentry => ?_) hI
  obtain ⟨sub', session, jti, family', rfl, hkey⟩ :=
    Effect.eq_refresh_of_writes hentry
  subst hr
  rcases (hallows nofun).2 with hrenewed | ⟨n, hlt, hn⟩
  · exact absurd hkey.symm (he sub' family' hrenewed)
  · -- A family that is opened now is another one.
    obtain ⟨m, hm, rfl⟩ := hfamily
    subst hn
    have hsame : sub = sub' ∧ svc.ids m = svc.ids n :=
      Key.make_injective (hids.plain m) (hids.plain n) hkey
    have hmn : m = n := hids.injective hsame.2
    omega

theorem after_expires {es : List Event} (hids : svc.Distinguishes)
    (hforced : w.forcedReply = none)
    (hfamily : ∃ n, n ≤ w.minted ∧ family = svc.ids n)
    (hes : svc.Throughout (svc.Leaves (Key.family sub family)) w es)
    (hw : w.Expires (Key.family sub family) d) :
    (svc.after w es).Expires (Key.family sub family) d := by
  let I : World → Prop := fun w' =>
    (∃ n, n ≤ w'.minted ∧ family = svc.ids n) ∧
      w'.Expires (Key.family sub family) d
  have hboth : I (svc.after w es) :=
    (after_preserves (I := I)
      (fun {w' e} hf he hI => by
        obtain ⟨⟨n, hn, hfam⟩, hexpires⟩ := hI
        exact ⟨⟨n, Nat.le_trans hn (minted_next w' e hf), hfam⟩,
          next_expires hids hf ⟨n, hn, hfam⟩ he hexpires⟩)
      hes hforced ⟨hfamily, hw⟩).1
  exact hboth.2

/-- A token that has just been issued has the mark of its family for as long as
it is meant to live, and not longer. -/
theorem family_of_opens {r : Request} {pair : TokenPair} {t : Retired}
    (h : svc.Opens w r pair t) :
    (svc.next w (.request r)).Keeps (Key.family t.sub t.family)
        (w.clock + toMillis svc.lifetimes.refresh) ∧
      (svc.next w (.request r)).Expires (Key.family t.sub t.family)
        (w.clock + toMillis svc.lifetimes.refresh) := by
  obtain ⟨w₁, w₂, hclock, hwritten, hafter⟩ := h.issued
  have hne : Key.refresh t.sub t.session ≠ Key.family t.sub t.family :=
    Key.make_ne_of_ns_ne (by decide)
  have hmark :
      ((Effect.refresh t.sub t.session t.jti t.family).writes svc
      w₁.clock).find?
      (·.1 = Key.family t.sub t.family) = some (Key.family t.sub t.family,
        ⟨Key.familyMark, w.clock + toMillis svc.lifetimes.refresh⟩) := by
    rw [← hclock]
    simp [Effect.writes, hne]
  constructor
  · refine Changes.keeps (hafter.mono ?_) rfl (fun _ => Nat.le_of_eq ?_)
      (hwritten.keeps_of_written hmark (Nat.le_refl _))
    · rintro ef ⟨sub, session, jti, rfl⟩ key
      rfl
    · rw [hwritten.clock, hclock]
  · refine hafter.induct
      (I := fun w' => w'.Expires (Key.family t.sub t.family) _)
      (fun hP hc hI => hc.expires (fun e he => ?_) hI)
      (hwritten.expires_of_written hmark (Nat.le_refl _))
    obtain ⟨sub', session, jti, family', rfl, -⟩ :=
      Effect.eq_refresh_of_writes he
    obtain ⟨sub, session, jti, heq⟩ := hP nofun
    cases heq

/-- The mark stands for that long, if the sessions of the subject are not taken
away. -/
theorem family_of_spares {r : Request} {pair : TokenPair} {t : Retired}
    {later : List Event} (hforced : w.forcedReply = none)
    (h : svc.Opens w r pair t) (hplain : Key.IsPlain t.family)
    (hlater : svc.Throughout (svc.Spares .family t.sub)
      (svc.next w (.request r)) later)
    (hlt : (svc.after (svc.next w (.request r)) later).clock <
      w.clock + toMillis svc.lifetimes.refresh) :
    ((svc.after (svc.next w (.request r)) later).live.get?
      (Key.family t.sub t.family)).isSome = true := by
  obtain ⟨hstart, -⟩ := family_of_opens h
  have hkept := after_keeps .family (forcedReply_next _ hforced) rfl
    (.inr hplain) (fun _ => Nat.add_le_add_right (clock_next _ _ hforced) _)
    hlater hstart
  obtain ⟨e, he, -⟩ := hkept hlt
  exact Option.isSome_iff_exists.mpr ⟨e, he⟩

/-! ## Histories -/

/-- The event takes no sessions of the subject away and uses up no token with
this identifier. -/
def Respects (svc : Service) (t : Retired) (w : World) (e : Event) : Prop :=
  ¬ svc.Sweeps w t.sub e ∧ svc.Reserves t.jti w e

/-- A token that has no fence is suspected only while it is still read and the
mark of its family is gone. -/
theorem not_suspects_of_unfenced {bearer : String} {c : Claims}
    {v : Codec.Validity} {t : Retired}
    (hread : svc.codec.read? .session (Bearer.token bearer) = some (c, v))
    (ht : c.IsOf t) (hunused : w.live.get? (Key.used t.sub t.jti) = none)
    (h : (w.live.get? (Key.family t.sub t.family)).isSome = true ∨
      svc.codec.checkValidity w.seconds v ≠ .ok ()) :
    ¬ svc.Suspects w bearer := by
  intro hsuspects
  obtain ⟨c', s, why, hdecode, hs, -, hline, -⟩ :=
    compromised_of_suspects hsuspects
  obtain ⟨v', hread', hvalid⟩ := Codec.read?_of_decode hdecode
  cases hread.symm.trans hread'
  have hfamily := h.resolve_right (absurd hvalid)
  obtain ⟨hsub, -, hjti, -⟩ := Claims.session?_eq_some.mp hs
  have hnone : w.lineage t.sub t.jti c.family = none :=
    World.lineage_eq_none.mpr ⟨hunused, t.family, ht.family, hfamily⟩
  rw [Option.some.inj (hsub.symm.trans ht.sub),
    Option.some.inj (hjti.symm.trans ht.jti), hnone] at hline
  cases hline

/-- Once the mark of its family is gone, a token that has no fence and is still
read is answered as if the family had been put out of use. -/
theorem perform_of_unfenced {r : Request} {bearer : String} {c : Claims}
    {v : Codec.Validity} {t : Retired} (hr : r.bearer? = some bearer)
    (hread : svc.codec.read? .session (Bearer.token bearer) = some (c, v))
    (hvalid : svc.codec.checkValidity w.seconds v = .ok ()) (ht : c.IsOf t)
    (hexists : w.outages .exists = none)
    (hunused : w.live.get? (Key.used t.sub t.jti) = none)
    (hgone : w.live.get? (Key.family t.sub t.family) = none) :
    (svc.perform r w).1 = .error (.rejected .familyInvalidated) ∧
      (w.Sweepable → ∀ key, Key.isSessionKeyOf t.sub key = true →
        (svc.perform r w).2.live.get? key = none) := by
  have hline : w.lineage t.sub t.jti (some t.family) =
      some .familyInvalidated :=
    World.lineage_eq_familyInvalidated.mpr
      ⟨hunused, fun f hf => Option.some.inj hf ▸ hgone⟩
  obtain ⟨hanswer, hb⟩ :=
    verify_of_lineage (Codec.decode_of_read? hread hvalid) ht hexists hline
  have hperform : svc.perform r w =
      (.error (.rejected .familyInvalidated), (svc.verify bearer w).2) :=
    perform_of_verify_error hr (Prod.ext hanswer rfl)
  rw [hperform]
  refine ⟨rfl, fun hsweepable key hkey => ?_⟩
  rw [World.swept_of_sweepable hsweepable] at hb
  exact Change.get?_of_swept hb hkey

section

variable {tokens : TokenSettings} {batch : Nat}
  {policy : Password.Policy} {hasher : Hasher} {ids : Nat → String}
  {w₀ w₁ : World} {first r : Request} {pair : TokenPair}
  {c : Claims} {v : Codec.Validity} {t : Retired} {bearer : String}

/-- A token that expires by itself is suspected in one window and never else.
Take a refresh token as a client was given it, and a history in which it has not
been used and its subject has not been swept. As long as its lifetime is not
over, and again when it is no longer read, presenting it raises no alarm and
takes nothing away but its own session. In between, when its lifetime is over to
the millisecond but the second of its expiry and the leeway are not, presenting
it is answered as if its family had been put out of use, and takes all sessions
of the subject away. -/
theorem alarms_at_expiry_only
    (hsvc : assemble tokens batch policy hasher ids = .ok svc)
    (hids : svc.Distinguishes)
    (hnew : w₀.IsNew) (past : List Event) (hw₁ : w₁ = svc.after w₀ past)
    (hopened : svc.opened? w₁ first = some pair)
    (hread : svc.codec.read? .session (Bearer.token pair.refreshToken) =
      some (c, v))
    (ht : c.IsOf t)
    (hfamily : first.isExchange = true →
      ∃ n, n ≤ (svc.next w₁ (.request first)).minted ∧ t.family = svc.ids n)
    (later : List Event)
    (hw : w = svc.after (svc.next w₁ (.request first)) later)
    (hquiet :
      svc.Throughout (svc.Respects t) (svc.next w₁ (.request first)) later)
    (hr : r.bearer? = some bearer)
    (hbearer : Bearer.token bearer = Bearer.token pair.refreshToken) :
    (v.exp : Int) =
      min (w₁.seconds + svc.lifetimes.refresh.toNat : Int) Word.greatest ∧
    (w.clock < w₁.clock + toMillis svc.lifetimes.refresh ∨
        svc.codec.checkValidity w.seconds v ≠ .ok () →
      ¬ svc.Alarms w r ∧ ∀ key, key ≠ Key.refresh t.sub t.session →
        (w.live.get? key).isSome = true →
        ((svc.perform r w).2.live.get? key).isSome = true) ∧
    (w₁.clock + toMillis svc.lifetimes.refresh ≤ w.clock →
      svc.codec.checkValidity w.seconds v = .ok () →
      svc.Throughout (svc.Leaves (Key.family t.sub t.family))
        (svc.next w₁ (.request first)) later →
      w.outages .exists = none →
      (svc.perform r w).1 = .error (.rejected .familyInvalidated) ∧
        (w.Sweepable → ∀ key, Key.isSessionKeyOf t.sub key = true →
          (svc.perform r w).2.live.get? key = none)) := by
  subst hw₁
  obtain ⟨htidy, hforced₁⟩ :=
    after_tidy hids.injective hnew.forcedReply hnew.tidy past
  have hfenced : (svc.after w₀ past).Fenced svc :=
    after_fenced hids hnew.forcedReply hnew.tidy hnew.fenced past
  obtain ⟨t', hopens⟩ := opens_of_opened? hforced₁ hopened
  -- The token is read as what it was issued as.
  cases hread.symm.trans hopens.read
  cases ht.unique ⟨rfl, rfl, rfl, rfl, rfl⟩
  have hforced : w.forcedReply = none := by
    rw [hw]
    exact forcedReply_after later (forcedReply_next _ hforced₁)
  have hunused : w.live.get? (Key.used t.sub t.jti) = none := by
    rw [hw]
    exact unfenced_of_reserves hids hforced₁ htidy hfenced hopens
      (hquiet.imp fun h => h.2)
  obtain ⟨m, hm, hfam⟩ := hopens.family.elim hfamily id
  have hread' := hopens.read
  rw [← hbearer] at hread'
  refine ⟨hopens.exp, fun h => ?_, fun hover hvalid hleaves hexists => ?_⟩
  · have hquiet' : ¬ svc.Suspects w bearer := by
      refine not_suspects_of_unfenced hread' ht hunused
        (h.imp_left fun hlt => ?_)
      have hplain : Key.IsPlain t.family := hfam ▸ hids.plain m
      rw [hw] at hlt ⊢
      exact family_of_spares hforced₁ hopens hplain
        (hquiet.imp fun h => .inr h.1) hlt
    exact ⟨fun halarms => hquiet' (suspects_of_alarms hforced hr halarms),
      fun key hkey hlive =>
        perform_keeps hforced (lives_of_assemble hsvc) hr hread' ht hquiet'
          hkey hlive⟩
  · have hgone : w.live.get? (Key.family t.sub t.family) = none := by
      obtain ⟨-, hexpires⟩ := family_of_opens hopens
      have hends := after_expires hids (forcedReply_next _ hforced₁)
        ⟨m, hm, hfam⟩ hleaves hexpires
      rw [← hw] at hends
      exact hends.get? hover
    exact perform_of_unfenced hr hread' hvalid ht hexists hunused hgone

end

/-! ## A trial -/

/-- The account logs in once more, a minute after the first login. -/
def trialLater (ms : Nat) : List Event :=
  [.advance 60000, .request (.login "u" "secret"), .advance ms]

/-- A millisecond before the lifetime of the first token is over, the token is
verified and the second session stays. -/
theorem trial_no_alarm_before_expiry :
    let w := trial.after (.initial 1700000000000)
      (trialAccount ++ .request (.login "u" "secret") :: trialLater 3539999)
    ¬ trial.Alarms w (.verify trialRefreshToken) ∧
      ((trial.perform (.verify trialRefreshToken) w).2.live.get?
        (Key.refresh "u" (Action.idText 5))).isSome = true := by
  intro w
  obtain ⟨pair, hopened, htoken⟩ := opened?_trial
  have hnew : (World.initial 1700000000000).IsNew := ⟨rfl, rfl⟩
  have hw : w = trial.after (trial.next
      (trial.after (.initial 1700000000000) trialAccount)
      (.request (.login "u" "secret"))) (trialLater 3539999) :=
    (after_append ..).trans (after_cons ..)
  have hlive :
      (w.live.get? (Key.refresh "u" (Action.idText 5))).isSome = true := by
    decide +kernel
  have hclock : w.clock < (trial.after (.initial 1700000000000)
      trialAccount).clock + toMillis trial.lifetimes.refresh := by
    decide +kernel
  have hquiet : trial.Throughout
      (trial.Respects ⟨"u", Action.idText 3, Action.idText 1, Action.idText 2⟩)
      (trial.next (trial.after (.initial 1700000000000) trialAccount)
        (.request (.login "u" "secret"))) (trialLater 3539999) :=
    ⟨⟨id, fun _ => False.elim⟩, ⟨nofun, nofun⟩, ⟨id, fun _ => False.elim⟩,
      trivial⟩
  have hread := htoken ▸ read?_trialRefreshToken
  clear_value w
  obtain ⟨-, hbefore, -⟩ :=
    alarms_at_expiry_only assemble_trial trial_distinguishes hnew
    trialAccount rfl hopened hread isOf_trialRefresh nofun _ hw hquiet
    (r := .verify trialRefreshToken) rfl (congrArg Bearer.token htoken.symm)
  obtain ⟨hquiet', hkeeps⟩ := hbefore (.inl hclock)
  exact ⟨hquiet', hkeeps _ (by decide +kernel) hlive⟩

/-- When it is over, verifying the token reports it as compromised and takes the
second session away. -/
theorem trial_expiry_alarms :
    let w := trial.after (.initial 1700000000000)
      (trialAccount ++ .request (.login "u" "secret") :: trialLater 3540000)
    (∃ pair, trial.opened?
        (trial.after (.initial 1700000000000) trialAccount)
        (.login "u" "secret") = some pair ∧
          pair.refreshToken = trialRefreshToken) ∧
      (w.live.get? (Key.refresh "u" (Action.idText 5))).isSome = true ∧
      (trial.verify trialRefreshToken w).1 =
        .error (.rejected .familyInvalidated) ∧
      (trial.verify trialRefreshToken w).2.live.get?
        (Key.refresh "u" (Action.idText 5)) = none := by
  intro w
  obtain ⟨hlive, hline, hsweepable, hexists, hseconds⟩ :
      (w.live.get? (Key.refresh "u" (Action.idText 5))).isSome = true ∧
      w.lineage "u" (Action.idText 3) (some (Action.idText 2)) =
        some .familyInvalidated ∧
      w.Sweepable ∧ w.outages .exists = none ∧ w.seconds = 1700003600 := by
    decide +kernel
  have hdecode : trial.codec.decode w.seconds .session
      (Bearer.token trialRefreshToken) = .ok trialRefresh.toClaims := by
    rw [hseconds]
    exact Codec.decode_of_read? read?_trialRefreshToken rfl
  obtain ⟨hanswer, hb⟩ :=
    verify_of_lineage hdecode isOf_trialRefresh hexists hline
  refine ⟨opened?_trial, hlive, hanswer, ?_⟩
  have hswept : w.swept "u" = w.live.withoutSessions "u" := if_pos hsweepable
  have hkey :
      Key.isSessionKeyOf "u" (Key.refresh "u" (Action.idText 5)) = true :=
    Key.isSessionKeyOf_make
      (show Namespace.refresh ∈ Namespace.session by decide)
      (Action.isPlain_idText 5)
  rw [hb.live, hswept]
  exact (Change.get?_filter_key _ _ _).trans (if_pos hkey)

end Service

end SessionTokens
