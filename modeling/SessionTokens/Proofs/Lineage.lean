import Mathlib.Data.List.Induction
import Mathlib.Data.List.Pairwise
import SessionTokens.Proofs.Issuance
import SessionTokens.Proofs.SingleUse

/-!
# A family is a single line

Nothing in the store says which family a refresh token belongs to, so the order
of a family is read off the history: its tokens, as they were given. A token
joins a family that is there already only when another token of it is used up,
and a token can be used up only while its identifier is on record. So if all
tokens of the family but the last are spent, the one that is used up is the
last, and when the new one is given, again all but the last are spent. What
fails on the way does no harm, because the old token is spent before the new
one is issued.
-/

namespace SessionTokens

namespace Service

variable {svc : Service} {w w₁ w₂ : World} {r : Request} {e : Event}
    {token bearer : String} {p : Payload}

/-- The token can be read, and its identifier is spent. -/
def UsedUp (svc : Service) (w : World) (token : String) : Prop :=
  ∃ c jti, svc.claims? token = some c ∧ c.jti = some jti ∧ w.Spent svc jti

/-- If the second token is of the same family, the first is used up. -/
def Superseded (svc : Service) (w : World) (first second : String) : Prop :=
  ∀ f, svc.family? first = some f → svc.family? second = some f →
    svc.UsedUp w first

/-! ## Tokens that are used up -/

section

variable (hids : ∀ {n m}, svc.ids n = svc.ids m → n = m)

include hids

theorem UsedUp.next (hforced : w.forcedReply = none) (h : svc.UsedUp w token) :
    svc.UsedUp (svc.next w e) token := by
  obtain ⟨c, jti, hc, hjti, hspent⟩ := h
  exact ⟨c, jti, hc, hjti, (after_spent hids hforced hspent [e]).1⟩

theorem Superseded.next {second : String} (hforced : w.forcedReply = none)
    (h : svc.Superseded w token second) :
    svc.Superseded (svc.next w e) token second :=
  fun f hf hf' => (h f hf hf').next hids hforced

end

theorem UsedUp.not_verifies (h : svc.UsedUp w token)
    (hbearer : Bearer.token bearer = Bearer.token token) (p : Payload) :
    (svc.verify bearer w).1 ≠ .ok p := by
  intro hok
  obtain ⟨c, jti, hc, hjti, hspent⟩ := h
  obtain ⟨ns, sub, session, -, -, hrecord⟩ :=
    records_of_claims? ((claims?_eq_of_token hbearer).trans hc) hjti hok
  exact hspent.gone _ hrecord

/-- A token that is used up cannot be used up again. -/
theorem not_spent_of_retired? {t : Retired} (hforced : w.forcedReply = none)
    (h : svc.retired? w r = some t) : ¬ w.Spent svc t.jti := by
  intro hspent
  obtain ⟨w₁, w₂, hb, hretire, -⟩ := retired?_eq_some hforced h
  obtain ⟨hkey, hvalue⟩ := hretire.records_of_retire
  rw [hb.live] at hvalue
  exact hspent.gone _ ⟨hkey, hvalue⟩

/-! ## Tokens of a family -/

theorem Gives.family? (h : svc.Gives w r token p) :
    svc.family? token = p.family := by
  rw [Service.family?, h.claims?, Option.bind_some]
  cases p with
  | access sub exp jti session => rfl
  | refresh sub exp jti session family => rfl
  | verification sub exp email => exact absurd h.bound Bool.false_ne_true
  | resetPassword sub exp email => exact absurd h.bound Bool.false_ne_true

theorem claims_of_family? {f : String} (h : svc.family? token = some f) :
    ∃ c, svc.claims? token = some c ∧ c.family = some f := by
  obtain ⟨c, hc, hf⟩ := Option.bind_eq_some_iff.mp h
  split at hf
  · exact ⟨c, hc, hf⟩
  · cases hf

/-- What a request gives is one token, or an access token and then another. -/
theorem pairwise_gives (hforced : w.forcedReply = none) :
    (svc.gives w r).Pairwise fun first _ => svc.family? first = none := by
  have hpair : ∀ {pair : Option TokenPair}, svc.opened? w r = pair →
      ((pair.map TokenPair.tokens).getD []).Pairwise
        fun first _ => svc.family? first = none := by
    intro pair hopened
    cases pair with
    | none => exact .nil
    | some pair =>
        obtain ⟨⟨p, hp, hmode, -⟩, -⟩ := gives_of_opened? hforced hopened
        have hnone : svc.family? pair.accessToken = none := by
          rw [hp.family?]
          cases p <;> first | rfl | cases hmode
        exact .cons (fun _ _ => hnone) (List.pairwise_singleton _ _)
  have hone : ∀ {o : Option String}, o.toList.Pairwise
      fun first _ => svc.family? first = none := by
    rintro (_ | token)
    · exact .nil
    · exact List.pairwise_singleton _ _
  cases r with
  | login id password => exact hpair rfl
  | refresh bearer => exact hpair rfl
  | issueAccess sub session => exact hone
  | issueRefresh sub session family => exact hone
  | rotate claims => exact hone
  | _ => exact .nil

/-- Of two tokens of a family, one is used up. -/
theorem usedUp_or_usedUp {tokens : List String} {first second f : String}
    (h : tokens.Pairwise (svc.Superseded w)) (hfirst : first ∈ tokens)
    (hsecond : second ∈ tokens) (hf : svc.family? first = some f)
    (hf' : svc.family? second = some f) (hne : first ≠ second) :
    svc.UsedUp w first ∨ svc.UsedUp w second := by
  let R (a b : String) : Prop :=
    svc.Superseded w a b ∨ svc.Superseded w b a
  have hsymm : Std.Symm R := ⟨fun _ _ => Or.symm⟩
  have hboth : tokens.Pairwise R := h.imp Or.inl
  rcases hboth.forall hfirst hsecond hne with h | h
  · exact .inl (h f hf hf')
  · exact .inr (h f hf' hf)

/-! ## Histories -/

variable {w₀ : World} {es : List Event}

/-- A token that is given now supersedes the tokens of its family that were
given before. -/
theorem superseded_of_gives
    (hids : ∀ {n m}, svc.ids n = svc.ids m → n = m) (hnew : w₀.IsNew)
    (hnames : ∀ e ∈ es ++ [.request r], e.names = [])
    (hauthentic : svc.Authentic w₀ (es ++ [.request r]))
    (hline : (svc.givenIn w₀ es).Pairwise (svc.Superseded (svc.after w₀ es)))
    {old : String} (hold : old ∈ svc.givenIn w₀ es)
    (htoken : token ∈ svc.gives (svc.after w₀ es) r) :
    svc.Superseded (svc.next (svc.after w₀ es) (.request r)) old token := by
  intro f hf hf'
  obtain ⟨htidy, hforced⟩ := after_tidy hids hnew.forcedReply hnew.tidy es
  obtain ⟨p, hp⟩ := gives_of_mem hforced htoken
  obtain ⟨c, hc, hfamily⟩ := claims_of_family? hf
  rcases hp.family f (hp.family? ▸ hf') with
    hnamed | ⟨n, hlt, -, hn⟩ | ⟨t, hretired, rfl⟩
  · have hnone : r.names = [] := hnames (.request r) (by simp)
    rw [hnone] at hnamed
    cases hnamed
  · -- A family that has just been minted is not that of an old token.
    obtain ⟨m, hle, hm⟩ := family_of_givenIn hnew.forcedReply
      (fun e he => hnames e (List.mem_append_left _ he))
      hauthentic.of_append hold hc hfamily
    have hnm : n = m := hids (hn.symm.trans hm)
    omega
  · -- The token that is used up for the new one was the last of its line.
    obtain ⟨c', hpresented, ht⟩ := presented?_of_retired? hforced hretired
    obtain ⟨used, hused, hc'⟩ := hauthentic es r [] rfl c' hpresented
    have hspent : svc.UsedUp (svc.next (svc.after w₀ es) (.request r)) used :=
      ⟨c', t.jti, hc', ht.jti, next_spent hids hforced htidy hretired⟩
    by_cases hsame : old = used
    · exact hsame ▸ hspent
    have husedf : svc.family? used = some t.family := by
      rw [family?, hc', Option.bind_some, if_pos ht.mode, ht.family]
    rcases usedUp_or_usedUp hline hold hused hf husedf hsame with h | h
    · exact h.next hids hforced
    · obtain ⟨c'', jti, hc'', hjti, hgone⟩ := h
      cases hc'.symm.trans hc''
      cases hjti.symm.trans ht.jti
      exact absurd hgone (not_spent_of_retired? hforced hretired)

/-- Of the tokens of a family that a history gives, all but the last are used
up. -/
theorem pairwise_givenIn (hids : ∀ {n m}, svc.ids n = svc.ids m → n = m)
    (hnew : w₀.IsNew) (hnames : ∀ e ∈ es, e.names = [])
    (hauthentic : svc.Authentic w₀ es) :
    (svc.givenIn w₀ es).Pairwise (svc.Superseded (svc.after w₀ es)) := by
  induction es using List.reverseRecOn with
  | nil => exact .nil
  | append_singleton es e ih =>
      have hforced : (svc.after w₀ es).forcedReply = none :=
        forcedReply_after es hnew.forcedReply
      have hline := ih (fun e he => hnames e (List.mem_append_left _ he))
        hauthentic.of_append
      have hkept := hline.imp fun h => h.next (e := e) hids hforced
      rw [givenIn_append, after_append]
      cases e with
      | request r =>
          rw [show svc.givenIn (svc.after w₀ es) [.request r] =
            svc.gives (svc.after w₀ es) r from List.append_nil _]
          refine List.pairwise_append.mpr ⟨hkept,
            (pairwise_gives hforced).imp fun hnone f hf => ?_, ?_⟩
          · rw [hnone] at hf
            cases hf
          · intro old hold token htoken
            exact superseded_of_gives hids hnew hnames hauthentic hline hold
              htoken
      | _ =>
          rw [show svc.givenIn _ [_] = [] from rfl, List.append_nil]
          exact hkept

/-- A family is a single line. In a history that names no identifiers and
presents given tokens only, whatever fails in it, of all refresh tokens of a
family that have been given none but the last is accepted. -/
theorem only_last_of_line (hids : ∀ {n m}, svc.ids n = svc.ids m → n = m)
    (hnew : w₀.IsNew) (hnames : ∀ e ∈ es, e.names = [])
    (hauthentic : svc.Authentic w₀ es) {f : String}
    (htoken : token ∈ (svc.line w₀ es f).dropLast)
    (hbearer : Bearer.token bearer = Bearer.token token) :
    ∀ p, (svc.verify bearer (svc.after w₀ es)).1 ≠ .ok p := by
  have hline : (svc.line w₀ es f).Pairwise
      (svc.Superseded (svc.after w₀ es)) :=
    (pairwise_givenIn hids hnew hnames hauthentic).filter _
  have hfamily : ∀ token ∈ svc.line w₀ es f, svc.family? token = some f :=
    fun token h => of_decide_eq_true (List.mem_filter.mp h).2
  have hne : svc.line w₀ es f ≠ [] := by
    intro hnil
    rw [hnil] at htoken
    cases htoken
  rw [← List.dropLast_concat_getLast hne] at hline
  obtain ⟨-, -, hlast⟩ := List.pairwise_append.mp hline
  have hused : svc.UsedUp (svc.after w₀ es) token :=
    hlast token htoken _ (List.mem_singleton_self _) f
      (hfamily _ (List.dropLast_subset _ htoken))
      (hfamily _ (List.getLast_mem hne))
  exact hused.not_verifies hbearer

/-- A first token is exchanged. Its line has two tokens then, and the second is
the one that is good. -/
theorem trial_only_last_of_line :
    let second := Payload.refresh "u" 1700003600 (Action.idText 5)
      (Action.idText 4) (Action.idText 2)
    let token := Codec.asciiText
      (trial.codec.tokenBytes .session second.toClaims)
    let es := [.request (.issueRefresh "u" none none),
      .request (.rotate trialRefresh.toClaims)]
    let w := trial.after (.initial 1700000000000) es
    trial.line (.initial 1700000000000) es (Action.idText 2) =
        [trialRefreshToken, token] ∧
      (∀ p, (trial.verify trialRefreshToken w).1 ≠ .ok p) ∧
      (trial.verify token w).1 = .ok second := by
  intro second token es w
  let issue : Event := .request (.issueRefresh "u" none none)
  have hencode : trial.codec.encode second.toClaims = .ok token := rfl
  have hread : trial.codec.read? .session (Bearer.token token) =
      some (second.toClaims, ⟨1700003600, false⟩) :=
    trial.codec.read?_of_encode (m := .refresh) rfl
      (show 0 ≤ second.exp by decide) hencode
  have hissue : trial.givenIn (.initial 1700000000000) [issue] =
      [trialRefreshToken] := by
    have htoken : (trial.issueRefresh "u" none none
        (.initial 1700000000000)).1.value?.map Issued.token =
          some trialRefreshToken := rfl
    rw [givenIn, gives, htoken]
    rfl
  have hrotate : trial.gives (trial.after (.initial 1700000000000) [issue])
      (.rotate trialRefresh.toClaims) = [token] := by
    have hpayload : (trial.rotate trialRefresh.toClaims
        (trial.after (.initial 1700000000000) [issue])).1.value?.map
          Issued.payload = some second := by decide +kernel
    obtain ⟨issued, hissued, hpayload⟩ := Option.map_eq_some_iff.mp hpayload
    have hissued' := encode_of_rotate hissued
    rw [hpayload] at hissued'
    have htoken : issued.token = token :=
      Except.ok.inj (hissued'.symm.trans hencode)
    rw [gives, hissued, ← htoken]
    rfl
  have hline : trial.line (.initial 1700000000000) es (Action.idText 2) =
      [trialRefreshToken, token] := by
    have hgiven : trial.givenIn (.initial 1700000000000) es =
        [trialRefreshToken, token] := by
      rw [show es = [issue] ++ [.request (.rotate trialRefresh.toClaims)] from
        rfl, givenIn_append, hissue, givenIn, hrotate]
      rfl
    rw [line, hgiven]
    refine List.filter_eq_self.mpr fun token htoken => decide_eq_true ?_
    rw [family?]
    rcases List.mem_cons.mp htoken with rfl | htoken
    · rw [claims?_trialRefreshToken]
      rfl
    · cases List.mem_singleton.mp htoken
      rw [claims?, hread]
      rfl
  have hnames : ∀ e ∈ es, e.names = [] := by
    simp [es, Event.names, Request.names]
  have hauthentic : trial.Authentic (.initial 1700000000000) es := by
    intro past r rest heq c hc
    rcases past with _ | ⟨e, _ | ⟨e', past⟩⟩
    · obtain ⟨hr, -⟩ := List.cons.inj heq
      cases hr
      cases hc
    · obtain ⟨rfl, hrest⟩ := List.cons.inj heq
      obtain ⟨hr, -⟩ := List.cons.inj hrest
      cases hr
      cases hc
      exact ⟨trialRefreshToken, by rw [hissue]; simp,
        claims?_trialRefreshToken⟩
    · simp [es] at heq
  obtain ⟨hseconds, hget, hexists, hlineage, hvalue⟩ :
      w.seconds = 1700000000 ∧ w.outages .get = none ∧
      w.outages .exists = none ∧
      w.lineage "u" (Action.idText 5) (some (Action.idText 2)) = none ∧
      (w.live.get? (Key.refresh "u" (Action.idText 4))).map Entry.value =
        some (Action.idText 5) := by decide +kernel
  refine ⟨hline, only_last_of_line trial_distinguishes.injective ⟨rfl, rfl⟩
    hnames hauthentic (by rw [hline]; exact List.mem_singleton_self _) rfl, ?_⟩
  refine Finds.verify ⟨Codec.decode_of_read? hread ?_, rfl,
    (rfl : Mode.refresh.liveness? = some .refresh),
    fun _ => ⟨hexists, hlineage⟩, hget, hvalue, second.ofClaims?_toClaims⟩
  rw [hseconds]
  rfl

end Service

end SessionTokens
