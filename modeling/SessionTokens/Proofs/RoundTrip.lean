import SessionTokens.Proofs.Codec
import SessionTokens.Proofs.Identifiers
import SessionTokens.Proofs.Verify

/-!
# Decoding undoes encoding

A token carries its claims through two texts, and neither of them loses
anything: an absent claim stays absent, and a string comes back character by
character, whatever it was escaped to. So what a token says once it has been
read is what it was written for.

Time decides only between the claims and an error. A token is good up to the
second that lies the leeway behind its expiry, it has expired from the next one
on, and it is never taken for a bad one.
-/

namespace SessionTokens.Codec

variable {c : Codec} {claims : Claims} {m : Mode}

/-- Accepted settings make a codec, which has their algorithm and leeway. -/
theorem exists_of_validate {s : TokenSettings} {f : HashFunction}
    (h : s.validate = .ok f) :
    ∃ c, ofSettings s = .ok c ∧ c.hash = f ∧ c.leeway = s.leewaySeconds := by
  rw [ofSettings, h]
  exact ⟨_, rfl, rfl, rfl⟩

theorem encode_of_mode (c : Codec) (h : claims.mode = some m) :
    c.encode claims = .ok (asciiText (c.tokenBytes m.purpose claims)) := by
  rw [encode, h]

/-- Behind the leeway, an expiry is either to come or over. -/
theorem checkValidity_of_leeway_le {now exp : Nat}
    (h : c.leeway.toNat ≤ now) :
    c.checkValidity now ⟨exp, false⟩ =
      if now ≤ exp + c.leeway.toNat then .ok () else .error .expired := by
  rw [checkValidity, if_neg (Nat.not_lt.mpr h)]
  dsimp only
  by_cases hgood : now ≤ exp + c.leeway.toNat
  · rw [if_pos hgood, if_neg (by omega), if_neg Bool.false_ne_true]
  · rw [if_neg hgood, if_pos (by omega)]

/-- What is read of a token that was written here, at any time behind the
leeway. -/
theorem decode_asciiText {now : Nat} (hexp : 0 ≤ claims.exp)
    (hnow : c.leeway.toNat ≤ now) (p : Purpose) :
    c.decode now p (asciiText (c.tokenBytes p claims)) =
      if (now : Int) - c.leeway.toNat ≤ claims.exp.toInt then .ok claims
      else .error .expired := by
  have hnat : (claims.exp.toInt.toNat : Int) = claims.exp.toInt :=
    Int.toNat_of_nonneg (Int64.le_iff_toInt_le.mp hexp)
  have hedge : now ≤ claims.exp.toInt.toNat + c.leeway.toNat ↔
      (now : Int) - c.leeway.toNat ≤ claims.exp.toInt := by omega
  simp only [decode, c.read?_asciiText hexp,
    checkValidity_of_leeway_le hnow, hedge]
  split <;> rfl

/-- Decoding undoes encoding. Under accepted settings, all claims with a mode
and an expiry that is not negative have a token. It is read as these very
claims, for the purpose of their mode, up to the second that lies the leeway
behind the expiry; after that it has expired. -/
theorem decode_undoes_encode {s : TokenSettings} {f : HashFunction}
    (hs : s.validate = .ok f) (hmode : claims.mode = some m)
    (hexp : 0 ≤ claims.exp) :
    ∃ c token, ofSettings s = .ok c ∧ c.encode claims = .ok token ∧
      ∀ now : Nat, s.leewaySeconds.toNat ≤ now →
        c.decode now m.purpose token =
          if (now : Int) - s.leewaySeconds.toNat ≤ claims.exp.toInt then
            .ok claims
          else .error .expired := by
  obtain ⟨c, hc, -, hleeway⟩ := exists_of_validate hs
  refine ⟨c, _, hc, c.encode_of_mode hmode, fun now hnow => ?_⟩
  rw [← hleeway] at hnow ⊢
  exact decode_asciiText hexp hnow m.purpose

/-- Claims with a quotation mark, a line end and letters of other scripts in
them, and without most of what they may have. -/
def trialClaims : Claims where
  sub := some "\"Zoë\"\n\\u0000 🦀"
  exp := 1700000900
  mode := some .verification
  jti := none
  sessionId := some ""
  family := none
  email := some "поза@пример.рф"

/-- The five seconds of leeway are the last ones in which a token is good. -/
theorem trial_decode_undoes_encode :
    ∃ c token, ofSettings .trial = .ok c ∧
      c.encode trialClaims = .ok token ∧
      c.decode 1700000905 .verification token = .ok trialClaims ∧
      c.decode 1700000906 .verification token = .error .expired := by
  obtain ⟨c, token, hc, hencode, hdecode⟩ :=
    decode_undoes_encode TokenSettings.validate_trial
      (show trialClaims.mode = some .verification from rfl) (by decide)
  exact ⟨c, token, hc, hencode, hdecode 1700000905 (by decide),
    hdecode 1700000906 (by decide)⟩

end SessionTokens.Codec
