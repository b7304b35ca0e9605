import SessionTokens.Proofs.Answers

/-!
# A refresh token is good once

An identifier on record is kept at one key, so taking that entry away takes the
identifier out of the store, and for good: only what has just been minted is
ever put on record. `Spent` is what holds of an identifier from the moment when
its token was used up. The fence of a used token plays no part in this. It may
expire or be swept away; the token stays dead.
-/

namespace SessionTokens

/-- The identifier has been minted and is not on record. -/
structure World.Spent (svc : Service) (w : World) (jti : String) : Prop where
  minted : ∃ n, n ≤ w.minted ∧ jti = svc.ids n
  gone : ∀ key, ¬ w.Records key jti

section

variable {svc : Service} {ef : Effect} {w w₁ : World} {jti : String}

theorem Change.spent (hids : ∀ {n m}, svc.ids n = svc.ids m → n = m)
    (h : Change svc ef w w₁) (hw : w.Spent svc jti) : w₁.Spent svc jti := by
  obtain ⟨n, hn, hjti⟩ := hw.minted
  exact ⟨⟨n, Nat.le_trans hn h.minted, hjti⟩,
    fun key => (h.withdrawn hids ⟨hw.minted, hw.gone key⟩).gone⟩

theorem Passes.spent (h : Passes w w₁) (hw : w.Spent svc jti) :
    w₁.Spent svc jti :=
  ⟨by rw [h.minted]; exact hw.minted, fun key hr => hw.gone key (h.records hr)⟩

/-- Using a token up takes the only record of its identifier away. -/
theorem Change.spent_of_retire {t : Retired} (h : Change svc (.retire t) w w₁)
    (hw : w.Tidy svc) : w₁.Spent svc t.jti := by
  have hrecord := h.records_of_retire
  obtain ⟨n, hn, hjti⟩ := hw.minted hrecord
  refine ⟨⟨n, Nat.le_trans hn h.minted, hjti⟩, fun key hr => ?_⟩
  rcases h.records hr with ⟨hold, hremoves⟩ | ⟨hopens, -⟩
  · cases hw.unique hold hrecord
    simp [Effect.removes] at hremoves
  · cases hopens

end

/-! ## Histories -/

namespace Service

variable {svc : Service} (hids : ∀ {n m}, svc.ids n = svc.ids m → n = m)
  {w : World} {jti : String}

include hids in
theorem after_spent (hforced : w.forcedReply = none) (hw : w.Spent svc jti)
    (es : List Event) :
    (svc.after w es).Spent svc jti ∧ (svc.after w es).forcedReply = none :=
  after_invariant Passes.spent (fun hc => hc.spent hids) hforced hw es

include hids in
/-- A request that uses a token up leaves its identifier spent. -/
theorem next_spent {r : Request} {t : Retired} (hforced : w.forcedReply = none)
    (hw : w.Tidy svc) (h : svc.retired? w r = some t) :
    (svc.next w (.request r)).Spent svc t.jti := by
  obtain ⟨w₁, w₂, hb, hretire, hafter⟩ := retired?_eq_some hforced h
  have htidy : w₁.Tidy svc := (Change.pass_of_becomes hb).tidy hids hw
  exact hafter.induct (fun _ hc hI => hc.spent hids hI)
    (hretire.spent_of_retire htidy)

/-- A refresh token is consumed once. Once a request has used it up, or an
exchange of it has gone through, no request that presents it goes through ever
after, whatever happens in between. -/
theorem not_accepts_of_used_up (hids : ∀ {n m}, svc.ids n = svc.ids m → n = m)
    (hw : w.IsNew) (past : List Event) (first : Request)
    (h : (∃ t, svc.retired? (svc.after w past) first = some t ∧ t.jti = jti) ∨
      (first.isExchange = true ∧ svc.Accepts (svc.after w past) jti first))
    (between : List Event) (later : Request) :
    ¬ svc.Accepts (svc.after w (past ++ .request first :: between))
      jti later := by
  obtain ⟨htidy, hforced⟩ := after_tidy hids hw.forcedReply hw.tidy past
  have hretired : ∃ t, svc.retired? (svc.after w past) first = some t ∧
      t.jti = jti := by
    rcases h with h | ⟨hexchange, haccepts⟩
    · exact h
    · exact haccepts.retired hforced hexchange
  obtain ⟨t, hretired, rfl⟩ := hretired
  have hspent := next_spent hids hforced htidy hretired
  obtain ⟨hspent', hforced'⟩ :=
    after_spent hids (forcedReply_next _ hforced) hspent between
  rw [after_append, after_cons]
  intro haccepts
  obtain ⟨c, ns, sub, session, -, -, -, -, hrecord⟩ := haccepts.records hforced'
  exact hspent'.gone _ hrecord

/-- The token of a first session is exchanged; when its fence has expired it is
still not good for another exchange. -/
theorem trial_token_used_up :
    let issue := Event.request (.issueRefresh "u" none none)
    let claims := (Payload.refresh "u" 3600 (Action.idText 3) (Action.idText 1)
      (Action.idText 2)).toClaims
    trial.retired? (trial.after (.initial 0) [issue])
        (.rotate claims) =
      some ⟨"u", Action.idText 3, Action.idText 1, Action.idText 2⟩ ∧
    ¬ trial.Accepts
      (trial.after (.initial 0)
        ([issue] ++ .request (.rotate claims) :: [.advance 600000]))
      (Action.idText 3) (.rotate claims) := by
  intro issue claims
  have hretired : trial.retired? (trial.after (.initial 0) [issue])
        (.rotate claims) =
      some ⟨"u", Action.idText 3, Action.idText 1, Action.idText 2⟩ := by
    decide +kernel
  exact ⟨hretired,
    not_accepts_of_used_up trial_distinguishes.injective ⟨rfl, rfl⟩
    [issue] (.rotate claims) (.inl ⟨_, hretired, rfl⟩) [.advance 600000]
    (.rotate claims)⟩

end Service

end SessionTokens
