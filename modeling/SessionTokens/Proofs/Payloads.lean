import SessionTokens.Proofs.Answers
import SessionTokens.Proofs.Claims
import SessionTokens.Proofs.JsonText

/-!
# Claims and payloads agree

Claims are what is written and a payload is what is meant, and each is had from
the other. Nothing is lost in writing claims, since an absent claim is left out
and read as absent. What a payload does not take from its claims is what its mode
does not carry, and what it does take it gives back; so on the claims of a
payload, which carry nothing else, the two conversions undo each other.
-/

namespace SessionTokens

/-- The claims without what their mode does not carry. -/
def Claims.trimmed (c : Claims) : Claims :=
  match c.mode with
  | some .access => { c with family := none, email := none }
  | some .refresh => { c with email := none }
  | some .verification | some .resetPassword =>
    { c with jti := none, sessionId := none, family := none }
  | none => c

theorem Claims.trimmed_trimmed (c : Claims) : c.trimmed.trimmed = c.trimmed := by
  rcases c with ⟨sub, exp, _ | mode, jti, session, family, email⟩
  · rfl
  · cases mode <;> rfl

/-- The text of claims is read as these claims. -/
theorem Claims.parse?_compactText (c : Claims) :
    parse? c.toJson.compactText.toUTF8.toList = some c := by
  rw [Json.toList_compactText c.isWritten_toJson, parse?,
    Json.parse?_compact c.isWritten_toJson]
  exact c.ofJson?_toJson

namespace Payload

variable {c : Claims} {p : Payload}

/-- Claims are no payload exactly if they lack what their mode asks for. -/
theorem ofClaims?_eq_none_iff :
    ofClaims? c = none ↔ c.sub = none ∨ c.mode = none ∨
      (c.mode = some .access ∨ c.mode = some .refresh) ∧
        (c.jti = none ∨ c.sessionId = none) ∨
      c.mode = some .refresh ∧ c.family = none := by
  rcases c with ⟨_ | sub, exp, _ | mode, jti, session, family, email⟩
  · simp [ofClaims?]
  · simp [ofClaims?]
  · simp [ofClaims?]
  · cases mode with
    | access => cases jti <;> cases session <;> simp [ofClaims?]
    | refresh =>
        cases jti <;> cases session <;> cases family <;> simp [ofClaims?]
    | verification => simp [ofClaims?]
    | resetPassword => simp [ofClaims?]

theorem toClaims_of_ofClaims? (h : ofClaims? c = some p) :
    p.toClaims = c.trimmed := by
  cases readFrom_of_ofClaims? h <;> rfl

/-- Reading the text of claims gives the claims back. They are no payload, but
an invalid structure, exactly if the subject, the mode or a claim that their
mode asks for is missing. The payload that they are otherwise gives them back
without what their mode does not carry, which is the same payload and has
nothing left to take away. And a payload is had back from the text of its
claims. -/
theorem claims_and_payloads_agree :
    (∀ c : Claims,
      Claims.parse? c.toJson.compactText.toUTF8.toList = some c) ∧
    (∀ c : Claims,
      Outcome.ofOption (TokenError.rejected .structureInvalid) (ofClaims? c) =
          .error (.rejected .structureInvalid) ↔
        c.sub = none ∨ c.mode = none ∨
          (c.mode = some .access ∨ c.mode = some .refresh) ∧
            (c.jti = none ∨ c.sessionId = none) ∨
          c.mode = some .refresh ∧ c.family = none) ∧
    (∀ (c : Claims) (p : Payload), ofClaims? c = some p →
      p.toClaims = c.trimmed ∧ ofClaims? c.trimmed = some p ∧
        c.trimmed.trimmed = c.trimmed) ∧
    ∀ p : Payload,
      (Claims.parse? p.toClaims.toJson.compactText.toUTF8.toList).bind
        ofClaims? = some p := by
  refine ⟨Claims.parse?_compactText, fun c => ?_, fun c p h => ?_,
    fun p => ?_⟩
  · rw [← ofClaims?_eq_none_iff]
    cases ofClaims? c with
    | none => exact ⟨fun _ => rfl, fun _ => rfl⟩
    | some p => exact ⟨nofun, nofun⟩
  · have hback := toClaims_of_ofClaims? h
    exact ⟨hback, hback ▸ p.ofClaims?_toClaims, c.trimmed_trimmed⟩
  · rw [Claims.parse?_compactText]
    exact p.ofClaims?_toClaims

/-- An access token has no family and no address. As a refresh token the same
claims would do with the family, and without it they would not. -/
theorem claims_and_payloads_agree_on_access :
    let c : Claims := ⟨some "u", 60, some .access, some "j", some "s", some "f",
      some "u@example.com"⟩
    let orphan : Claims := { c with mode := some .refresh, family := none }
    let p : Payload := .access "u" 60 "j" "s"
    Claims.parse? c.toJson.compactText.toUTF8.toList = some c ∧
      Outcome.ofOption (TokenError.rejected .structureInvalid)
          (ofClaims? orphan) = .error (.rejected .structureInvalid) ∧
      ofClaims? c = some p ∧
      p.toClaims = { c with family := none, email := none } ∧
      (Claims.parse? p.toClaims.toJson.compactText.toUTF8.toList).bind
        ofClaims? = some p := by
  intro c orphan p
  obtain ⟨hread, hlacks, hback, hround⟩ := claims_and_payloads_agree
  have hp : ofClaims? c = some p := rfl
  exact ⟨hread c, (hlacks orphan).mpr (.inr (.inr (.inr ⟨rfl, rfl⟩))), hp,
    (hback c p hp).1, hround p⟩

end Payload

end SessionTokens
