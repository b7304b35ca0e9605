import SessionTokens.Proofs.Issuance
import SessionTokens.Proofs.Subjects

/-!
# Subjects are isolated

What an operation changes has the operation's subject in its key, and what
verification looks up has the token's subject in its key. Keys of different
subjects differ, whether one is the beginning of the other, goes on with a
colon behind it or has characters in it that mean something in a pattern. So
whatever is done for one subject, the look-ups for the tokens of all others
find what they found before, and as verification has no other source, it
answers as before.
-/

namespace SessionTokens

section

variable {w w' : World} {c : Claims} {s : SessionClaims}

/-- The worlds are alike as far as a token can tell: the same calls fail, and
the same is found at the keys of its subject that it names. -/
structure World.AlikeFor (w w' : World) (c : Claims) : Prop where
  outages : w'.outages = w.outages
  keys : ∀ sub, c.sub = some sub → ∀ (ns : Namespace), ∀ id ∈ c.identifiers,
    w'.live.get? (Key.make ns.name sub id) =
      w.live.get? (Key.make ns.name sub id)

namespace World.AlikeFor

theorem lineage (h : w.AlikeFor w' c) (hs : c.session? = some s) :
    w'.lineage s.sub s.jti c.family = w.lineage s.sub s.jti c.family := by
  obtain ⟨hsub, -, hjti, -⟩ := Claims.session?_eq_some.mp hs
  have hused : w'.live.get? (Key.used s.sub s.jti) =
      w.live.get? (Key.used s.sub s.jti) :=
    h.keys s.sub hsub .used s.jti (by simp [Claims.identifiers, hjti])
  unfold World.lineage
  rw [hused]
  cases hf : c.family with
  | none => rfl
  | some f =>
      have hfamily : w'.live.get? (Key.family s.sub f) =
          w.live.get? (Key.family s.sub f) :=
        h.keys s.sub hsub .family f (by simp [Claims.identifiers, hf])
      simp only [Option.any_some, hfamily]

theorem descends (h : w.AlikeFor w' c) (hs : c.session? = some s)
    (hd : s.Descends w c.family) : s.Descends w' c.family := by
  intro hmode
  rw [h.outages, h.lineage hs]
  exact hd hmode

/-- Alike worlds give the same verdict. -/
theorem verdict (h : w.AlikeFor w' c) {r : Outcome TokenError Payload}
    {k : Keyspace} (hr : Verdict w c r k) : ∃ k', Verdict w' c r k' := by
  have hvalue : ∀ {s : SessionClaims} {ns : Namespace},
      c.session? = some s →
      w'.live.get? (Key.make ns.name s.sub s.sessionId) =
        w.live.get? (Key.make ns.name s.sub s.sessionId) := by
    intro s ns hs
    obtain ⟨hsub, -, -, hsession⟩ := Claims.session?_eq_some.mp hs
    exact h.keys s.sub hsub ns s.sessionId
      (by simp [Claims.identifiers, hsession])
  cases hr with
  | incomplete hnot => exact ⟨_, .incomplete hnot⟩
  | compromised hs hmode hexists hline =>
      rw [← h.outages] at hexists
      rw [← h.lineage hs] at hline
      exact ⟨_, .compromised hs hmode hexists hline⟩
  | blind hs hmode hout =>
      rw [← h.outages] at hout
      exact ⟨_, .blind hs hmode hout⟩
  | stale hs hns hd hbad =>
      rw [← h.outages, ← hvalue hs] at hbad
      exact ⟨_, .stale hs hns (h.descends hs hd) hbad⟩
  | good hs hns hd hget hjti hp =>
      rw [← h.outages] at hget
      rw [← hvalue hs] at hjti
      exact ⟨_, .good hs hns (h.descends hs hd) hget hjti hp⟩

end World.AlikeFor

end

namespace Service

variable {svc : Service} {w w' : World} {bearer : String}

/-- Verification answers alike in worlds that are alike for the token. -/
theorem verify_of_alike (hseconds : w'.seconds = w.seconds)
    (h : ∀ c, svc.claims? bearer = some c → w.AlikeFor w' c) :
    (svc.verify bearer w').1 = (svc.verify bearer w).1 := by
  obtain ⟨r, k, w₁, hverify, hverification, -⟩ := svc.verify_spec bearer w
  rw [hverify]
  cases hverification with
  | unreadable hdecode =>
      rw [svc.verify_of_decode_error (hseconds ▸ hdecode)]
  | untimely hdecode =>
      rw [svc.verify_of_decode_outOfRange (hseconds ▸ hdecode)]
  | judged hdecode hverdict =>
      obtain ⟨k', hverdict'⟩ := (h _ (claims?_of_decode hdecode)).verdict hverdict
      exact (svc.verify_of_verdict (hseconds ▸ hdecode) hverdict').1

/-- Whatever a request does for a subject, and whatever calls of the store fail
meanwhile: the keys at which anything differs afterwards are the subject's own,
the accounts of all others are as they were, and verification answers every
token of any other subject as it did before. The directory is relied on to give
the subject's account under the subject's own identifier. -/
theorem perform_isolates {v : String} {r : Request}
    (hids : ∀ n, ':' ∉ (svc.ids n).toList)
    (hdirectory : ∀ u, w.users.find? v = some u → u.id = v)
    (hforced : w.forcedReply = none)
    (hsubject : ∀ s, svc.subject? r = some s → s = v)
    (hnames : ∀ id ∈ r.names, ':' ∉ id.toList)
    (hpresented : ∀ c, svc.presented? r = some c →
      ∀ id ∈ c.identifiers, ':' ∉ id.toList) :
    let w' := (svc.perform r w).2
    (∀ key, w'.live.get? key ≠ w.live.get? key →
      ∃ (ns : Namespace) (id : String), ':' ∉ id.toList ∧
        key = Key.make ns.name v id) ∧
    (∀ id, id ≠ v → w'.users.find? id = w.users.find? id) ∧
    (∀ u, u ≠ v → ∀ bearer, (∀ c, svc.claims? bearer = some c →
        c.sub = some u ∧ ∀ id ∈ c.identifiers, ':' ∉ id.toList) →
      (svc.verify bearer w').1 = (svc.verify bearer w).1) := by
  intro w'
  have hconfined : svc.Confined v w w' :=
    .perform hids hdirectory hforced hsubject hnames hpresented
  have hkey : ∀ {key}, ¬ Key.OwnedBy v key →
      w'.live.get? key = w.live.get? key :=
    hconfined.changes.get?_of_not_ownedBy
  refine ⟨fun key hne => ?_, hconfined.users, fun u hne bearer hc => ?_⟩
  · by_cases howned : Key.OwnedBy v key
    · exact howned
    · exact absurd (hkey howned) hne
  · refine verify_of_alike hconfined.changes.seconds fun c hclaims => ?_
    obtain ⟨hsub, hplain⟩ := hc c hclaims
    refine ⟨hconfined.changes.outages, fun sub hsub' ns id hid => ?_⟩
    cases hsub.symm.trans hsub'
    exact hkey (Key.not_ownedBy_of_ne (hplain id hid) hne)

/-- What a refresh token says that is issued next, to a subject whose name goes
on where another's ends. -/
def trialNeighbour : Payload :=
  .refresh "u:x" 1700003600 (Action.idText 7) (Action.idText 5)
    (Action.idText 6)

/-- A used token is presented and its subject loses a key, while the token of
the neighbour is as good as before. -/
theorem trial_perform_isolates :
    let w := trial.after (.initial 1700000000000) (trialAccount ++
      [.request (.login "u" "secret"),
        .request (.issueRefresh "u:x" none none),
        .request (.rotate trialRefresh.toClaims)])
    let w' := (trial.perform (.refresh trialRefreshToken) w).2
    let token := Codec.asciiText
      (trial.codec.tokenBytes .session trialNeighbour.toClaims)
    w'.live.get? (Key.used "u" (Action.idText 3)) ≠
        w.live.get? (Key.used "u" (Action.idText 3)) ∧
      (∀ key, w'.live.get? key ≠ w.live.get? key →
        ∃ (ns : Namespace) (id : String), ':' ∉ id.toList ∧
          key = Key.make ns.name "u" id) ∧
      (trial.verify token w).1 = .ok trialNeighbour ∧
      (trial.verify token w').1 = .ok trialNeighbour := by
  intro w w' token
  have hread : trial.codec.read? .session (Bearer.token token) =
      some (trialNeighbour.toClaims, ⟨1700003600, false⟩) :=
    trial.codec.read?_of_encode (m := .refresh) rfl
      (show 0 ≤ trialNeighbour.exp by decide)
      (show trial.codec.encode trialNeighbour.toClaims = .ok token from rfl)
  have hclaims : trial.claims? token = some trialNeighbour.toClaims := by
    rw [claims?, hread]
    rfl
  obtain ⟨huser, hseconds, hget, hexists, hsweepable, hline, hthere, hline',
      hvalue⟩ :
      w.users.find? "u" =
        some ⟨"u", "u@example.com", "plain:secret", true, true⟩ ∧
      w.seconds = 1700000000 ∧ w.outages .get = none ∧
      w.outages .exists = none ∧ w.Sweepable ∧
      w.lineage "u" (Action.idText 3) (some (Action.idText 2)) =
        some .reuseDetected ∧
      w.live.get? (Key.used "u" (Action.idText 3)) ≠ none ∧
      w.lineage "u:x" (Action.idText 7) (some (Action.idText 6)) = none ∧
      (w.live.get? (Key.refresh "u:x" (Action.idText 5))).map Entry.value =
        some (Action.idText 7) := by decide +kernel
  have hdecode : ∀ {bearer c}, trial.codec.read? .session
      (Bearer.token bearer) = some (c, ⟨1700003600, false⟩) →
      trial.codec.decode w.seconds .session (Bearer.token bearer) = .ok c := by
    intro bearer c hread
    rw [hseconds]
    exact Codec.decode_of_read? hread rfl
  have hgone : w'.live.get? (Key.used "u" (Action.idText 3)) = none := by
    obtain ⟨hanswer, hb⟩ := verify_of_lineage (hdecode read?_trialRefreshToken)
      isOf_trialRefresh hexists hline
    have hsame : w' = (trial.verify trialRefreshToken w).2 :=
      congrArg Prod.snd (perform_of_verify_error
        (r := .refresh trialRefreshToken) rfl (Prod.ext hanswer rfl))
    have hkey :
        Key.isSessionKeyOf "u" (Key.used "u" (Action.idText 3)) = true :=
      Key.isSessionKeyOf_make
        (show Namespace.used ∈ Namespace.session by decide)
        (Action.isPlain_idText 3)
    rw [World.swept_of_sweepable hsweepable] at hb
    rw [hsame]
    exact Change.get?_of_swept hb hkey
  have hgood : (trial.verify token w).1 = .ok trialNeighbour :=
    Finds.verify (s := ⟨"u:x", .refresh, Action.idText 7, Action.idText 5⟩)
      ⟨hdecode hread, rfl, rfl, fun _ => ⟨hexists, hline'⟩, hget, hvalue, rfl⟩
  have hplain : ∀ p ∈ [trialRefresh, trialNeighbour],
      ∀ id ∈ p.toClaims.identifiers, ':' ∉ id.toList := by
    decide +kernel
  obtain ⟨hkeys, -, hverify⟩ :=
    trial.perform_isolates (w := w) (v := "u") (r := .refresh trialRefreshToken)
      (fun n => (trial_distinguishes.plain n).2)
      (fun u hu => by cases huser.symm.trans hu; rfl)
      (forcedReply_after _ rfl)
      (fun s hs => by
        rw [subject?, claims?_trialRefreshToken] at hs
        cases hs
        rfl)
      (fun id hid => absurd hid List.not_mem_nil)
      (fun c hc => by
        cases claims?_trialRefreshToken.symm.trans hc
        exact hplain _ (by simp))
  refine ⟨fun hsame => hthere (hsame.symm.trans hgone), hkeys, hgood, ?_⟩
  rw [hverify "u:x" (by decide) token fun c hc => ?_, hgood]
  cases hclaims.symm.trans hc
  exact ⟨rfl, hplain _ (by simp)⟩

end Service

end SessionTokens
