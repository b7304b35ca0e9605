import SessionTokens.Proofs.Histories
import SessionTokens.Proofs.Identifiers

/-!
# Identifiers on record

An identifier is written once, when it has just been minted, and it is written
to one session. None of the effects moves an identifier from one key to
another, and what is minted later is something else. So in every world that a
service can be in, what is on record has been minted and is kept at one key:
`Tidy` says so, and it is what every later argument starts from.
-/

namespace SessionTokens

/-- A key at which the identifier of a live token is kept. -/
def Key.IsLiveness (key : String) : Prop :=
  ∃ (ns : Namespace) (sub session : String),
    ns.isLiveness = true ∧ key = Key.make ns.name sub session

/-- This identifier is on record at the key. -/
structure World.Records (w : World) (key jti : String) : Prop where
  liveness : Key.IsLiveness key
  value : (w.live.get? key).map Entry.value = some jti

/-- Identifiers on record have been minted, and each is kept at one key. -/
structure World.Tidy (svc : Service) (w : World) : Prop where
  minted : ∀ {key jti}, w.Records key jti → ∃ n, n ≤ w.minted ∧ jti = svc.ids n
  unique : ∀ {key key' jti}, w.Records key jti → w.Records key' jti → key = key'

/-- The key at which an effect puts a new identifier on record. -/
def Effect.opens : Effect → Option String
  | .access sub session _ => some (Key.access sub session)
  | .refresh sub session _ _ => some (Key.refresh sub session)
  | _ => none

/-! ## One effect -/

section

variable {svc : Service} {ef : Effect} {w w₁ : World} {key jti : String}

/-- Marks are kept in namespaces of their own. -/
theorem Key.not_isLiveness {ns : Namespace} (h : ns.isLiveness = false)
    (sub id : String) : ¬ Key.IsLiveness (Key.make ns.name sub id) := by
  rintro ⟨ns', sub', session, hns', heq⟩
  cases Key.ns_eq_of_make_eq heq
  rw [h] at hns'
  cases hns'

/-- What is on record after an effect was on record before, or it has just been
minted. -/
theorem Change.records (h : Change svc ef w w₁) (hr : w₁.Records key jti) :
    (w.Records key jti ∧ ef.removes key = false) ∨
      (ef.opens = some key ∧ ∃ n, w.minted < n ∧ n ≤ w₁.minted ∧
        jti = svc.ids n) := by
  obtain ⟨hkey, hvalue⟩ := hr
  obtain ⟨e, he, rfl⟩ := Option.map_eq_some_iff.mp hvalue
  rcases h.of_get? he with hwritten | ⟨hremoves, hbefore⟩
  · have hguard := h.guard
    cases ef with
    | access sub session j =>
        cases List.mem_singleton.mp hwritten
        exact .inr ⟨rfl, hguard⟩
    | refresh sub session j family =>
        rcases List.mem_cons.mp hwritten with heq | hrest
        · cases heq
          exact .inr ⟨rfl, hguard⟩
        · cases List.mem_singleton.mp hrest
          exact absurd hkey (Key.not_isLiveness rfl _ _)
    | retire t =>
        cases List.mem_singleton.mp hwritten
        exact absurd hkey (Key.not_isLiveness rfl _ _)
    | redeem sub digest =>
        cases List.mem_singleton.mp hwritten
        exact absurd hkey (Key.not_isLiveness rfl _ _)
    | pass => cases hwritten
    | sweep sub => cases hwritten
    | endSession sub session => cases hwritten
  · exact .inl ⟨⟨hkey, by rw [hbefore]; rfl⟩, hremoves⟩

/-- The token that is used up was on record. -/
theorem Change.records_of_retire {t : Retired}
    (h : Change svc (.retire t) w w₁) :
    w.Records (Key.refresh t.sub t.session) t.jti :=
  ⟨⟨.refresh, t.sub, t.session, rfl, rfl⟩, h.guard.2.1⟩

theorem Passes.records (h : Passes w w₁) (hr : w₁.Records key jti) :
    w.Records key jti := by
  obtain ⟨e, he, hjti⟩ := Option.map_eq_some_iff.mp hr.value
  exact ⟨hr.liveness, by rw [h.of_get? he, Option.map_some, hjti]⟩

end

/-! ## What is withdrawn stays so -/

/-- The identifier has been minted and is not on record at this key. -/
structure World.Withdrawn (svc : Service) (w : World) (key jti : String) :
    Prop where
  minted : ∃ n, n ≤ w.minted ∧ jti = svc.ids n
  gone : ¬ w.Records key jti

section

variable {svc : Service} {ef : Effect} {w w₁ : World} {key jti : String}

/-- What is put on record has just been minted. -/
theorem Change.withdrawn (hids : ∀ {n m}, svc.ids n = svc.ids m → n = m)
    (h : Change svc ef w w₁) (hw : w.Withdrawn svc key jti) :
    w₁.Withdrawn svc key jti := by
  obtain ⟨⟨m, hm, hjti⟩, hgone⟩ := hw
  refine ⟨⟨m, Nat.le_trans hm h.minted, hjti⟩, fun hr => ?_⟩
  rcases h.records hr with ⟨hold, -⟩ | ⟨-, n, hlt, -, hjti'⟩
  · exact hgone hold
  · have hnm : n = m := hids (hjti'.symm.trans hjti)
    omega

theorem Passes.withdrawn (h : Passes w w₁) (hw : w.Withdrawn svc key jti) :
    w₁.Withdrawn svc key jti :=
  ⟨by rw [h.minted]; exact hw.minted, fun hr => hw.gone (h.records hr)⟩

theorem Service.after_withdrawn
    (hids : ∀ {n m}, svc.ids n = svc.ids m → n = m)
    (hforced : w.forcedReply = none) (hw : w.Withdrawn svc key jti)
    (es : List Event) : (svc.after w es).Withdrawn svc key jti :=
  (after_invariant Passes.withdrawn (fun hc => hc.withdrawn hids) hforced hw
    es).1

end

/-! ## Every effect keeps records tidy -/

section

variable {svc : Service} (hids : ∀ {n m}, svc.ids n = svc.ids m → n = m)
  {ef : Effect} {w w₁ : World} {jti : String}

include hids

theorem Change.tidy (h : Change svc ef w w₁) (hw : w.Tidy svc) :
    w₁.Tidy svc := by
  constructor
  · intro key jti hr
    rcases h.records hr with ⟨hold, -⟩ | ⟨-, n, -, hn, hjti⟩
    · obtain ⟨n, hn, hjti⟩ := hw.minted hold
      exact ⟨n, Nat.le_trans hn h.minted, hjti⟩
    · exact ⟨n, hn, hjti⟩
  · intro key key' jti hr hr'
    -- An identifier cannot be old and new at once.
    have hclash : ∀ {k : String}, w.Records k jti →
        ¬ ∃ n, w.minted < n ∧ n ≤ w₁.minted ∧ jti = svc.ids n := by
      rintro k hold ⟨n, hlt, -, hjti⟩
      obtain ⟨m, hm, hjti'⟩ := hw.minted hold
      have hnm : n = m := hids (hjti.symm.trans hjti')
      omega
    rcases h.records hr with ⟨hold, -⟩ | ⟨hopens, hnew⟩
    · rcases h.records hr' with ⟨hold', -⟩ | ⟨-, hnew'⟩
      · exact hw.unique hold hold'
      · exact absurd hnew' (hclash hold)
    · rcases h.records hr' with ⟨hold', -⟩ | ⟨hopens', -⟩
      · exact absurd hnew (hclash hold')
      · exact Option.some.inj (hopens.symm.trans hopens')

end

section

variable {svc : Service} {w w₁ : World} {jti : String}

theorem Passes.tidy (h : Passes w w₁) (hw : w.Tidy svc) : w₁.Tidy svc where
  minted := fun hr => by
    rw [h.minted]
    exact hw.minted (h.records hr)
  unique := fun hr hr' => hw.unique (h.records hr) (h.records hr')

theorem World.IsNew.tidy (h : w.IsNew) : w.Tidy svc := by
  have hnone : ∀ {key jti : String}, ¬ w.Records key jti := by
    rintro key jti ⟨-, hvalue⟩
    rw [World.live, MemoryStore.live, h.keyspace, Keyspace.live_empty] at hvalue
    cases hvalue
  exact ⟨fun hr => absurd hr hnone, fun hr => absurd hr hnone⟩

end

/-! ## Histories -/

namespace Service

variable {svc : Service} {w : World}

theorem after_tidy (hids : ∀ {n m}, svc.ids n = svc.ids m → n = m)
    (hforced : w.forcedReply = none) (hw : w.Tidy svc) (es : List Event) :
    (svc.after w es).Tidy svc ∧ (svc.after w es).forcedReply = none :=
  after_invariant Passes.tidy (fun hc => hc.tidy hids) hforced hw es

/-- One step, for what is kept as long as records are tidy. -/
theorem next_preserves_tidy {I : World → Prop} {e : Event}
    (hids : ∀ {n m}, svc.ids n = svc.ids m → n = m)
    (htime : ∀ {w w'}, Passes w w' → I w → I w')
    (heffect : ∀ {r ef w₁ w₂}, e = .request r →
      (ef ≠ .pass → svc.Allows w r ef) → w₁.Tidy svc →
      Change svc ef w₁ w₂ → I w₁ → I w₂)
    (hforced : w.forcedReply = none) (htidy : w.Tidy svc) (hw : I w) :
    I (svc.next w e) := by
  have hboth := next_preserves (I := fun w' => w'.Tidy svc ∧ I w')
    (fun hp hI => ⟨hp.tidy hI.1, htime hp hI.2⟩)
    (fun hr hallows _ hc hI =>
      ⟨hc.tidy hids hI.1, heffect hr hallows hI.1 hc hI.2⟩)
    hforced ⟨htidy, hw⟩
  exact hboth.2

/-- A whole history, for what is kept as long as records are tidy. -/
theorem after_preserves_tidy {I : World → Prop} {H : World → Event → Prop}
    (hids : ∀ {n m}, svc.ids n = svc.ids m → n = m)
    (hstep : ∀ {w e}, w.forcedReply = none → w.Tidy svc → H w e → I w →
      I (svc.next w e))
    {es : List Event} (hes : svc.Throughout H w es)
    (hforced : w.forcedReply = none) (htidy : w.Tidy svc) (hw : I w) :
    I (svc.after w es) := by
  have hboth := after_preserves (I := fun w' => w'.Tidy svc ∧ I w')
    (fun {w' e} hf he hI =>
      ⟨(after_tidy hids hf hI.1 [e]).1, hstep hf hI.1 he hI.2⟩)
    hes hforced ⟨htidy, hw⟩
  exact hboth.1.2

end Service

end SessionTokens
