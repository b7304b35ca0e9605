import SessionTokens.Proofs.Answers
import SessionTokens.Proofs.Purposes

/-!
# Tokens stay in their mode

Secrets do not keep the modes apart for certain: two of them may be one key, and
then a token is opened where it does not belong. The mode that is signed into
the token does. Whoever opens a token that was written here reads the claims it
was written for, so its mode with them, and everything that accepts a token
looks at the mode again: verification through the payload and the liveness key,
which two of the modes do not have, and the check for a purpose by itself.

Nothing is assumed of the keys or of the signatures.
-/

namespace SessionTokens

/-- The operation fails and does nothing else. -/
def Action.Refuses {ε α : Type} (m : Action ε α) (w : World) : Prop :=
  (∀ a, (m w).1 ≠ .ok a) ∧ (m w).2 = w

namespace Action.Refuses

variable {ε ε' α β : Type} {m : Action ε α} {w : World}

theorem bind (h : m.Refuses w) (f : α → Action ε β) : (m >>= f).Refuses w := by
  obtain ⟨hne, hsame⟩ := h
  rw [Refuses, bind_apply]
  rcases hm : m w with ⟨a | e | _, w'⟩
  · exact absurd (congrArg Prod.fst hm) (hne a)
  · exact ⟨nofun, by rw [← hsame, hm]⟩
  · exact ⟨nofun, by rw [← hsame, hm]⟩

theorem mapError (h : m.Refuses w) (f : ε → ε') : (m.mapError f).Refuses w := by
  refine ⟨fun a ha => h.1 a ?_, h.2⟩
  have hok := mapError_eq_ok (eq_of_fst_eq ha)
  exact congrArg Prod.fst hok

end Action.Refuses

/-- What a written token is opened as is what it was written for. -/
theorem Codec.eq_of_read?_of_encode {c : Codec} {claims d : Claims}
    {token : String} {q : Purpose} {v : Codec.Validity}
    (hencode : c.encode claims = .ok token)
    (hread : c.read? q token = some (d, v)) : d = claims := by
  unfold encode at hencode
  split at hencode
  · cases hencode
  · next m _ =>
      cases hencode
      rw [read?_tokenBytes] at hread
      split at hread
      · rw [read?_asciiText_eq_map] at hread
        obtain ⟨_, -, heq⟩ := Option.map_eq_some_iff.mp hread
        exact (congrArg Prod.fst heq).symm
      · cases hread

namespace Service

/-- The text was written as a token of the mode: signed as it is, or issued. -/
inductive WrittenFor (svc : Service) : Mode → String → Prop
  | signed {claims : Claims} {m : Mode} {token : String} :
      claims.mode = some m → svc.codec.encode claims = .ok token →
      WrittenFor svc m token
  | access {sub : String} {session : Option String} {issued : Issued}
      {w w' : World} :
      svc.issueAccess sub session w = (.ok issued, w') →
      WrittenFor svc .access issued.token
  | refresh {sub : String} {session family : Option String} {issued : Issued}
      {w w' : World} :
      svc.issueRefresh sub session family w = (.ok issued, w') →
      WrittenFor svc .refresh issued.token
  | rotated {c : Claims} {issued : Issued} {w w' : World} :
      svc.rotate c w = (.ok issued, w') → WrittenFor svc .refresh issued.token
  | verification {sub : String} {email : Option String} {issued : Issued}
      {w w' : World} :
      svc.issueVerification sub email w = (.ok issued, w') →
      WrittenFor svc .verification issued.token
  | resetPassword {sub : String} {email : Option String} {issued : Issued}
      {w w' : World} :
      svc.issueReset sub email w = (.ok issued, w') →
      WrittenFor svc .resetPassword issued.token

/-- What can become of a text that is presented, if it stays in the mode. -/
structure StaysIn (svc : Service) (m : Mode) (bearer : String) (w : World) :
    Prop where
  verify : ∀ p, (svc.verify bearer w).1 = .ok p →
    m.isSessionBound = true ∧ p.mode = m
  verifyMode : ∀ m' p, (svc.verifyMode bearer m' w).1 = .ok p →
    m' = m ∧ p.mode = m
  verifyPurpose : ∀ m' p, (svc.verifyPurpose bearer m' w).1 = .ok p →
    m' = m ∧ p.mode = m
  /-- Only access tokens authenticate or log out, and only refresh tokens
  refresh. -/
  authenticate : ∀ u, (svc.authenticate bearer w).1 = .ok u → m = .access
  logout : ∀ a, (svc.logout bearer w).1 = .ok a → m = .access
  refresh : ∀ pair, (svc.refresh bearer w).1 = .ok pair → m = .refresh
  /-- Tokens that belong to no session do not get to the store. -/
  sessionless : m.isSessionBound = false →
    (svc.verify bearer).Refuses w ∧ (svc.authenticate bearer).Refuses w ∧
      (svc.logout bearer).Refuses w ∧ (svc.refresh bearer).Refuses w
  verifyEmail : m ≠ .verification → (svc.verifyEmail bearer).Refuses w
  confirmPasswordReset : m ≠ .resetPassword →
    ∀ new, (svc.confirmPasswordReset bearer new).Refuses w

variable {svc : Service} {m m' : Mode} {token bearer : String} {w w' : World}

/-- However a token came to be written, claims of its mode were signed. -/
theorem WrittenFor.encode (h : svc.WrittenFor m token) :
    ∃ claims, claims.mode = some m ∧ svc.codec.encode claims = .ok token := by
  have hsigned : ∀ {p : Payload} {issued : Issued} {w w' : World},
      svc.sign p w = (.ok issued, w') →
      svc.codec.encode p.toClaims = .ok issued.token := by
    intro p issued w w' h
    obtain ⟨token, hencode, hsign⟩ := svc.sign_spec p w
    cases hsign.symm.trans h
    exact hencode
  cases h with
  | signed hmode hencode => exact ⟨_, hmode, hencode⟩
  | access h =>
      obtain ⟨-, hencode, -⟩ := issueAccess_eq_ok h
      exact ⟨_, rfl, hencode⟩
  | refresh h =>
      obtain ⟨-, hencode, -⟩ := issueRefresh_eq_ok h
      exact ⟨_, rfl, hencode⟩
  | rotated h =>
      obtain ⟨t, w₁, w₂, -, -, hissue⟩ := rotate_eq_ok h
      obtain ⟨-, hencode, -⟩ := issueRefresh_eq_ok hissue
      exact ⟨_, rfl, hencode⟩
  | verification h =>
      obtain ⟨exp, w₁, -, hsign⟩ := Action.bind_eq_ok h
      exact ⟨_, rfl, hsigned hsign⟩
  | resetPassword h =>
      obtain ⟨exp, w₁, -, hsign⟩ := Action.bind_eq_ok h
      exact ⟨_, rfl, hsigned hsign⟩

/-- A written token is its own spelling. -/
theorem WrittenFor.token_eq (h : svc.WrittenFor m token) :
    Bearer.token token = token := by
  obtain ⟨claims, hmode, hencode⟩ := h.encode
  rw [Codec.encode, hmode] at hencode
  cases hencode
  exact Bearer.token_of_isSolid (svc.codec.isSolid_asciiText _ _)

/-! ## What is read -/

/-- Whatever is read off the text are claims of the mode. -/
def ReadsMode (svc : Service) (m : Mode) (bearer : String) : Prop :=
  ∀ q claims v, svc.codec.read? q (Bearer.token bearer) = some (claims, v) →
    claims.mode = some m

theorem WrittenFor.readsMode (h : svc.WrittenFor m (Bearer.token bearer)) :
    svc.ReadsMode m bearer := by
  intro q claims v hread
  obtain ⟨written, hmode, hencode⟩ := h.encode
  rw [Codec.eq_of_read?_of_encode hencode hread, hmode]

/-! ## What is accepted -/

namespace ReadsMode

theorem of_verify (h : svc.ReadsMode m bearer) {p : Payload}
    (hok : svc.verify bearer w = (.ok p, w')) :
    m.isSessionBound = true ∧ p.mode = m := by
  obtain ⟨⟨claims, s, ns, hdecode, hs, hns, -, -, -, hp⟩, -⟩ := verify_eq_ok hok
  obtain ⟨v, hread, -⟩ := Codec.read?_of_decode hdecode
  have hmode := h _ _ _ hread
  obtain ⟨-, hsession, -⟩ := Claims.session?_eq_some.mp hs
  obtain ⟨-, hpayload, -⟩ := Payload.of_ofClaims? hp
  cases hmode.symm.trans hsession
  refine ⟨?_, Option.some.inj (hpayload.symm.trans hmode)⟩
  cases hm : s.mode with
  | access => rfl
  | refresh => rfl
  | verification => rw [hm] at hns; cases hns
  | resetPassword => rw [hm] at hns; cases hns

theorem of_verifyMode (h : svc.ReadsMode m bearer) {p : Payload}
    (hok : svc.verifyMode bearer m' w = (.ok p, w')) :
    m' = m ∧ p.mode = m := by
  obtain ⟨hverify, hexpected⟩ := verifyMode_eq_ok hok
  obtain ⟨-, hmode⟩ := h.of_verify hverify
  exact ⟨hexpected.symm.trans hmode, hmode⟩

theorem of_verifyPurpose (h : svc.ReadsMode m bearer) {p : Payload}
    (hok : (svc.verifyPurpose bearer m' w).1 = .ok p) :
    m' = m ∧ p.mode = m := by
  obtain ⟨claims, v, hread, -, hexpected, hp⟩ := verifyPurpose_eq_ok svc w hok
  have hmode := h _ _ _ hread
  obtain ⟨-, hpayload, -⟩ := Payload.of_ofClaims? hp
  exact ⟨Option.some.inj (hexpected.symm.trans hmode),
    Option.some.inj (hpayload.symm.trans hmode)⟩

/-- A token of no session is turned down for its mode, before anything is looked
up. -/
theorem verify_refuses (h : svc.ReadsMode m bearer)
    (hm : m.isSessionBound = false) : (svc.verify bearer).Refuses w := by
  refine ⟨fun p hok => ?_, ?_⟩
  · obtain ⟨hbound, -⟩ :=
      h.of_verify (Action.eq_of_fst_eq hok)
    cases hm.symm.trans hbound
  · cases hd :
      svc.codec.decode w.seconds .session (Bearer.token bearer) with
    | error why => rw [svc.verify_of_decode_error hd]
    | outOfRange => rw [svc.verify_of_decode_outOfRange hd]
    | ok claims =>
        obtain ⟨v, hread, -⟩ := Codec.read?_of_decode hd
        rw [svc.verify_of_decode hd, verifyClaims]
        cases hs : claims.session? with
        | none => rfl
        | some s =>
            obtain ⟨-, hsession, -⟩ := Claims.session?_eq_some.mp hs
            cases (h _ _ _ hread).symm.trans hsession
            cases hmode : s.mode with
            | access => rw [hmode] at hm; cases hm
            | refresh => rw [hmode] at hm; cases hm
            | verification => simp only [hmode]; rfl
            | resetPassword => simp only [hmode]; rfl

theorem verifyMode_refuses (h : svc.ReadsMode m bearer)
    (hm : m.isSessionBound = false) :
    (outside (svc.verifyMode bearer m')).Refuses w :=
  ((h.verify_refuses hm).bind _).mapError _

theorem verifyPurpose_refuses (h : svc.ReadsMode m bearer) (hne : m ≠ m') :
    (outside (svc.verifyPurpose bearer m')).Refuses w :=
  Action.Refuses.mapError
    ⟨fun _ hok => hne (h.of_verifyPurpose hok).1.symm,
      svc.verifyPurpose_snd w bearer m'⟩ _

/-- The first thing that an operation on a session token does is to check the
mode. -/
theorem of_bind (h : svc.ReadsMode m bearer) {α : Type}
    {f : Payload → Action ServiceError α} {a : α}
    (hok : ((outside (svc.verifyMode bearer m') >>= f) w).1 = .ok a) :
    m = m' := by
  obtain ⟨p, w₁, hp, -⟩ := Action.bind_eq_ok (Action.eq_of_fst_eq hok)
  exact (h.of_verifyMode (Action.mapError_eq_ok hp)).1.symm

end ReadsMode

/-- A token that was written for a mode is accepted as a token of that mode
only, however it is spelled, by whichever operation, whatever the secrets are
and whatever the store holds. -/
theorem written_token_stays_in_mode (hwritten : svc.WrittenFor m token)
    (hbearer : Bearer.token bearer = token) (w : World) :
    svc.StaysIn m bearer w := by
  subst hbearer
  have h := hwritten.readsMode
  exact {
    verify := fun p hok => h.of_verify (Action.eq_of_fst_eq hok)
    verifyMode := fun m' p hok => h.of_verifyMode (Action.eq_of_fst_eq hok)
    verifyPurpose := fun m' p hok => h.of_verifyPurpose hok
    authenticate := fun u hok => h.of_bind hok
    logout := fun a hok => h.of_bind hok
    refresh := fun pair hok => by
      obtain ⟨⟨p, u⟩, w₁, hrefreshable, -⟩ :=
        Action.bind_eq_ok (Action.eq_of_fst_eq hok)
      exact h.of_bind (congrArg Prod.fst hrefreshable)
    sessionless := fun hm =>
      ⟨h.verify_refuses hm, (h.verifyMode_refuses hm).bind _,
        (h.verifyMode_refuses hm).bind _,
        ((h.verifyMode_refuses hm).bind _).bind _⟩
    verifyEmail := fun hm => (h.verifyPurpose_refuses hm).bind _
    confirmPasswordReset := fun hm new =>
      (h.verifyPurpose_refuses hm).bind _ }

/-! ## A trial -/

/-- Where the secrets of sessions and addresses are one key, a session could
open the token of an address, but does not take it. -/
theorem trial_written_token_stays_in_mode :
    ∃ svc : Service, Codec.ofSettings .padded = .ok svc.codec ∧
      svc.codec.SharesKey .session .verification ∧
      ∃ issued, (svc.issueVerification "u" none (.initial 1700000000000)).1 =
          .ok issued ∧
        ∀ w, svc.StaysIn .verification issued.token w := by
  have hs : ∃ c, Codec.ofSettings .padded = .ok c ∧
      c.SharesKey .session .verification := by
    rw [Codec.ofSettings, TokenSettings.validate_padded]
    exact ⟨_, rfl, by decide +kernel⟩
  obtain ⟨c, hs, hshare⟩ := hs
  let svc : Service := { Service.trial with codec := c }
  obtain ⟨token, -, hsign⟩ := svc.sign_spec
    (.verification "u" (expiry 1700000000 svc.lifetimes.verification) none)
    (.initial 1700000000000)
  have hissue : svc.issueVerification "u" none (.initial 1700000000000) =
    (.ok _, _) := hsign
  have hwritten : svc.WrittenFor .verification token := .verification hissue
  exact ⟨svc, hs, hshare, _, congrArg Prod.fst hissue,
    written_token_stays_in_mode hwritten hwritten.token_eq⟩

end Service

end SessionTokens
