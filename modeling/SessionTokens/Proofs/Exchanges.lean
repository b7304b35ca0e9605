import SessionTokens.Proofs.Alarms
import SessionTokens.Proofs.Decision

/-!
# What exchanging a refresh token comes to

Claims are taken as they come: whether somebody signed them is not asked here.
`World.appraise` is the answer to them as a table, in the order in which it is
decided: first the claims have to be complete, then the family, the fence and
the identifier in the session are looked up. It differs from the table of
verification in two places. What is missing is found before the store is asked
anything, and a family that is gone outweighs a fence.

With a store in order an exchange gives this answer and no other, and what it
leaves is read off at every key: a refusal takes the session keys of the
subject that the claims name, and an exchange that goes through touches the
four keys of the old token and its successor.
-/

namespace SessionTokens

theorem Action.idText_ne_familyMark (n : Nat) : idText n ≠ Key.familyMark := by
  intro h
  have hl := congrArg (fun s => s.toList.head?) h
  have hfront :
      ("00000000-0000-4000-8000-" : String).toList.head? = some '0' := by
    decide +kernel
  have hmark : Key.familyMark.toList.head? = some 'a' := by decide +kernel
  simp only [toList_idText, List.head?_append, hfront, hmark] at hl
  cases hl

theorem Key.make_eq_iff {ns sub id id' : String} :
    make ns sub id = make ns sub id' ↔ id = id' := by
  refine ⟨fun h => ?_, fun h => by rw [h]⟩
  have hl := congrArg String.toList h
  simp only [toList_make, List.append_cancel_left_eq, List.cons.injEq,
    true_and] at hl
  exact String.toList_injective hl

namespace World

/-- The answer to the claims of a token that is to be exchanged, from what the
store holds. -/
def appraise (w : World) (c : Claims) : Except Rejection Retired :=
  match c.sub, c.mode, c.jti, c.sessionId, c.family with
  | some sub, some .refresh, some jti, some session, some family =>
    if (w.live.get? (Key.family sub family)).isNone then
      .error .familyInvalidated
    else if (w.live.get? (Key.used sub jti)).isSome then .error .reuseDetected
    else if (w.live.get? (Key.refresh sub session)).map Entry.value =
        some jti then
      .ok ⟨sub, jti, session, family⟩
    else .error .livenessMismatch
  | _, _, _, _, _ => .error .structureInvalid

/-- The store does not know the identifier: no key is made with it, and it is
kept nowhere. -/
structure Lacks (w : World) (id : String) : Prop where
  keys : ∀ (ns : Namespace) (sub : String),
    w.live.get? (Key.make ns.name sub id) = none
  values : ∀ key e, w.live.get? key = some e → e.value ≠ id

/-- What is found at a key once a refresh token has been used up: its fence has
taken the place of its identifier. -/
def spent (w : World) (svc : Service) (t : Retired) (key : String) :
    Option Entry :=
  if key = Key.used t.sub t.jti then
    some ⟨Key.usedMark, w.clock + toMillis svc.lifetimes.usedRefresh⟩
  else if key = Key.refresh t.sub t.session then none
  else w.live.get? key

/-- What is found at a key once a refresh token has been exchanged for one with
this identifier in this session. -/
def exchanged (w : World) (svc : Service) (t : Retired) (jti session : String)
    (key : String) : Option Entry :=
  if key = Key.used t.sub t.jti then
    some ⟨Key.usedMark, w.clock + toMillis svc.lifetimes.usedRefresh⟩
  else if key = Key.family t.sub t.family then
    some ⟨Key.familyMark, w.clock + toMillis svc.lifetimes.refresh⟩
  else if key = Key.refresh t.sub session then
    some ⟨jti, w.clock + toMillis svc.lifetimes.refresh⟩
  else if key = Key.refresh t.sub t.session then none
  else w.live.get? key

section

variable {w w' : World} {c : Claims} {t : Retired} {id : String}

theorem Lacks.of_live_eq (h : w.Lacks id) (hlive : w'.live = w.live) :
    w'.Lacks id :=
  ⟨hlive.symm ▸ h.keys, hlive.symm ▸ h.values⟩

/-- A store whose keys are made with other plain identifiers, and that keeps
none but other identifiers, does not know this one. -/
theorem lacks_of_entries (hid : Key.IsPlain id)
    (h : ∀ p ∈ w.live.entries, p.2.value ≠ id ∧
      ∃ (ns : Namespace) (sub id' : String), Key.IsPlain id' ∧ id' ≠ id ∧
        p.1 = Key.make ns.name sub id') : w.Lacks id := by
  refine ⟨fun ns sub => ?_, fun key e he => ?_⟩
  · refine Option.eq_none_iff_forall_ne_some.mpr fun e he => ?_
    obtain ⟨-, ns', sub', id', hid', hne, hkey⟩ :=
      h _ (Keyspace.get?_eq_some.mp he)
    have hns : ns = ns' := Key.ns_eq_of_make_eq hkey
    subst hns
    exact hne (Key.make_injective hid hid' hkey).2.symm
  · exact (h _ (Keyspace.get?_eq_some.mp he)).1

/-- A store in which every key is made with an identifier that has been
counted, and which keeps nothing else, does not know later ones. -/
theorem lacks_idText {m n : Nat} (hn : m < n)
    (h : ∀ p ∈ w.live.entries,
      (p.2.value = Key.familyMark ∨ ∃ i, i ≤ m ∧ p.2.value = Action.idText i) ∧
      ∃ (ns : Namespace) (sub : String) (i : Nat), i ≤ m ∧
        p.1 = Key.make ns.name sub (Action.idText i)) :
    w.Lacks (Action.idText n) := by
  have hlater : ∀ {i}, i ≤ m → Action.idText i ≠ Action.idText n := by
    intro i hi heq
    have hsame := Action.idText_injective heq
    omega
  refine lacks_of_entries (Action.isPlain_idText n) fun p hp => ?_
  obtain ⟨hvalue, ns, sub, i, hi, hkey⟩ := h p hp
  refine ⟨?_, ns, sub, _, Action.isPlain_idText i, hlater hi, hkey⟩
  rcases hvalue with hmark | ⟨i', hi', hvalue⟩
  · rw [hmark]
    exact (Action.idText_ne_familyMark n).symm
  · rw [hvalue]
    exact hlater hi'

/-! ## Looking up after an exchange -/

section

variable {svc : Service} {jti session : String}

theorem exchanged_family : w.exchanged svc t jti session
    (Key.family t.sub t.family) =
      some ⟨Key.familyMark, w.clock + toMillis svc.lifetimes.refresh⟩ := by
  have hused : Key.family t.sub t.family ≠ Key.used t.sub t.jti :=
    Key.make_ne_of_ns_ne (by decide)
  rw [exchanged, if_neg hused, if_pos rfl]

theorem exchanged_refresh (session' : String) : w.exchanged svc t jti session
    (Key.refresh t.sub session') =
      if session' = session then
        some ⟨jti, w.clock + toMillis svc.lifetimes.refresh⟩
      else if session' = t.session then none
      else w.live.get? (Key.refresh t.sub session') := by
  have hused : Key.refresh t.sub session' ≠ Key.used t.sub t.jti :=
    Key.make_ne_of_ns_ne (by decide)
  have hfamily : Key.refresh t.sub session' ≠ Key.family t.sub t.family :=
    Key.make_ne_of_ns_ne (by decide)
  rw [exchanged, if_neg hused, if_neg hfamily]
  simp only [Key.refresh, Key.make_eq_iff]

theorem exchanged_used (jti' : String) : w.exchanged svc t jti session
    (Key.used t.sub jti') =
      if jti' = t.jti then
        some ⟨Key.usedMark, w.clock + toMillis svc.lifetimes.usedRefresh⟩
      else w.live.get? (Key.used t.sub jti') := by
  have hfamily : Key.used t.sub jti' ≠ Key.family t.sub t.family :=
    Key.make_ne_of_ns_ne (by decide)
  have hrefresh : ∀ session', Key.used t.sub jti' ≠
      Key.refresh t.sub session' := fun _ => Key.make_ne_of_ns_ne (by decide)
  rw [exchanged, if_neg hfamily, if_neg (hrefresh _), if_neg (hrefresh _)]
  simp only [Key.used, Key.make_eq_iff]

end

/-! ## The lines of the table -/

theorem appraise_of_incomplete (h : ∀ t, ¬ c.IsOf t) :
    w.appraise c = .error .structureInvalid := by
  unfold appraise
  split
  · next sub jti session family hsub hmode hjti hsession hfamily =>
      exact absurd ⟨hsub, hmode, hjti, hsession, hfamily⟩
        (h ⟨sub, jti, session, family⟩)
  · rfl

theorem appraise_of_isOf (h : c.IsOf t) :
    w.appraise c =
      if (w.live.get? (Key.family t.sub t.family)).isNone then
        .error .familyInvalidated
      else if (w.live.get? (Key.used t.sub t.jti)).isSome then
        .error .reuseDetected
      else if (w.live.get? (Key.refresh t.sub t.session)).map Entry.value =
          some t.jti then .ok t
      else .error .livenessMismatch := by
  unfold appraise
  rw [h.sub, h.mode, h.jti, h.session, h.family]

theorem InOrder.appraise (h : w.InOrder t) (ht : c.IsOf t) :
    w.appraise c = .ok t := by
  obtain ⟨f, hf⟩ := Option.isSome_iff_exists.mp h.family
  rw [appraise_of_isOf ht, hf, h.unused]
  exact if_pos h.current

end

end World

/-- With a store in order every answer is a line of the table, and what it
leaves is what it was, all but the subject's session keys, or the store after
the token has been used up. -/
theorem Retirement.appraised {svc : Service} {w : World} {c : Claims}
    {r : Outcome TokenError Retired} {k : Keyspace}
    (hhealthy : ∀ call, w.outages call = none) (hruns : w.RunsScripts)
    (hfence : MemoryStore.IsStorable w.clock (svc.fenceSeconds * 1000))
    (h : Retirement svc w c r k) :
    r = (Outcome.ofExcept (w.appraise c)).mapError .rejected ∧
      (∀ why, w.appraise c = .error why →
        (c.sub = none → k = w.live) ∧
        ∀ sub, c.sub = some sub → k = w.live.withoutSessions sub) ∧
      ∀ t, w.appraise c = .ok t → c.IsOf t := by
  have hsweepable : w.Sweepable := ⟨hhealthy _, hhealthy _⟩
  have hswept : ∀ {sub : String}, c.sub = some sub →
      (c.sub = none → w.swept sub = w.live) ∧
        ∀ sub', c.sub = some sub' →
          w.swept sub = w.live.withoutSessions sub' := by
    intro sub hsub
    refine ⟨fun hnone => ?_, fun sub' hsub' => ?_⟩
    · rw [hsub] at hnone
      cases hnone
    · cases hsub.symm.trans hsub'
      exact World.swept_of_sweepable hsweepable sub
  cases h with
  | anonymous hsub =>
      have hnot : ∀ t, ¬ c.IsOf t := fun t ht => by
        rw [ht.sub] at hsub
        cases hsub
      rw [World.appraise_of_incomplete hnot]
      refine ⟨rfl, fun _ _ => ⟨fun _ => rfl, fun sub heq => ?_⟩, nofun⟩
      rw [hsub] at heq
      cases heq
  | incomplete hsub hnot =>
      rw [World.appraise_of_incomplete hnot]
      exact ⟨rfl, fun _ _ => hswept hsub, nofun⟩
  | failed _ _ hout =>
      rcases hout with hout | hout
      · exact absurd (hhealthy _) hout
      · exact absurd hruns hout
  | orphaned ht _ hnone =>
      rw [World.appraise_of_isOf ht, hnone]
      exact ⟨rfl, fun _ _ => hswept ht.sub, nofun⟩
  | reused ht _ hf hused =>
      rw [World.appraise_of_isOf ht, hf, hused]
      exact ⟨rfl, fun _ _ => hswept ht.sub, nofun⟩
  | stale ht _ hf hused hne =>
      rw [World.appraise_of_isOf ht, hf, hused]
      simp only [Option.isNone_some, Option.isSome_none, Bool.false_eq_true,
        if_false, if_neg hne]
      exact ⟨rfl, fun _ _ => hswept ht.sub, nofun⟩
  | endless _ _ _ hnot => exact absurd hfence hnot
  | @done t f ht _ hf hused hvalue _ =>
      rw [World.appraise_of_isOf ht, hf, hused]
      simp only [Option.isNone_some, Option.isSome_none, Bool.false_eq_true,
        if_false, if_pos hvalue]
      refine ⟨rfl, nofun, fun t' heq => ?_⟩
      cases heq
      exact ht

/-! ## Looking up after a change -/

namespace Change

variable {svc : Service} {w w₁ : World} {t : Retired}

/-- Nothing that is written is over at once. -/
theorem get?_of_written {ef : Effect} (h : Change svc ef w w₁)
    (hlives : svc.Lives) {key : String} {e : Entry}
    (he : (ef.writes svc w.clock).find? (·.1 = key) = some (key, e)) :
    w₁.live.get? key = some e := by
  rw [h.look, Effect.look, he]
  exact if_pos (hlives.lt_deadline (List.mem_of_find?_eq_some he))

theorem get?_access {sub session jti : String}
    (h : Change svc (.access sub session jti) w w₁) (hlives : svc.Lives)
    (key : String) :
    w₁.live.get? key =
      if key = Key.access sub session then
        some ⟨jti, w.clock + toMillis svc.lifetimes.access⟩
      else w.live.get? key := by
  split
  · next hkey =>
      subst hkey
      exact h.get?_of_written hlives (by simp [Effect.writes])
  · next hkey =>
      refine h.get?_of_not_written fun e he => hkey ?_
      exact (Prod.mk.inj (List.mem_singleton.mp he)).1

theorem get?_refresh {sub session jti family : String}
    (h : Change svc (.refresh sub session jti family) w w₁)
    (hlives : svc.Lives) (key : String) :
    w₁.live.get? key =
      if key = Key.family sub family then
        some ⟨Key.familyMark, w.clock + toMillis svc.lifetimes.refresh⟩
      else if key = Key.refresh sub session then
        some ⟨jti, w.clock + toMillis svc.lifetimes.refresh⟩
      else w.live.get? key := by
  have hne : Key.refresh sub session ≠ Key.family sub family :=
    Key.make_ne_of_ns_ne (by decide)
  split
  · next hkey =>
      subst hkey
      exact h.get?_of_written hlives (by simp [Effect.writes, hne])
  · next hfamily =>
      split
      · next hkey =>
          subst hkey
          exact h.get?_of_written hlives (by simp [Effect.writes])
      · next hkey =>
          refine h.get?_of_not_written fun e he => ?_
          rcases List.mem_cons.mp he with heq | hrest
          · exact hkey (Prod.mk.inj heq).1
          · exact hfamily (Prod.mk.inj (List.mem_singleton.mp hrest)).1

theorem get?_retire (h : Change svc (.retire t) w w₁) (hlives : svc.Lives)
    (key : String) :
    w₁.live.get? key = w.spent svc t key := by
  have hmillis :
      toMillis svc.lifetimes.usedRefresh = svc.fenceSeconds * 1000 := by
    rw [Service.fenceSeconds_eq hlives.usedRefresh]
    rfl
  rw [World.spent]
  split
  · next hkey =>
      subst hkey
      rw [hmillis]
      exact h.get?_of_written hlives (by simp [Effect.writes])
  · next hkey =>
      rw [h.get?_of_not_written fun e he => hkey
        (Prod.mk.inj (List.mem_singleton.mp he)).1]
      simp [Effect.removes]

/-- The token that is used up is on record, so it has nothing to do with an
identifier that the store does not know. -/
theorem ne_of_lacks {id : String} (h : Change svc (.retire t) w w₁)
    (hid : w.Lacks id) : id ≠ t.session ∧ id ≠ t.jti := by
  obtain ⟨e, he, hvalue⟩ := Option.map_eq_some_iff.mp h.guard.2.1
  refine ⟨fun heq => ?_, fun heq => hid.values _ e he (hvalue.trans heq.symm)⟩
  have hnone := hid.keys .refresh t.sub
  rw [heq] at hnone
  cases hnone.symm.trans he

/-- What is found once a token has been used up and its successor has been
issued. -/
theorem get?_exchanged {w₂ : World} {n : Nat} {session jti : String}
    (hretire : Change svc (.retire t) w w₁)
    (hissue : Change svc (.refresh t.sub session jti t.family)
      { w₁ with minted := n } w₂)
    (hlives : svc.Lives) (key : String) :
    w₂.live.get? key = w.exchanged svc t jti session key := by
  have hfamily : Key.used t.sub t.jti ≠ Key.family t.sub t.family :=
    Key.make_ne_of_ns_ne (by decide)
  have hrefresh : Key.used t.sub t.jti ≠ Key.refresh t.sub session :=
    Key.make_ne_of_ns_ne (by decide)
  have hlive : World.live { w₁ with minted := n } = w₁.live := rfl
  rw [hissue.get?_refresh hlives, hlive, hretire.get?_retire hlives,
    hretire.clock, World.exchanged, World.spent]
  by_cases hused : key = Key.used t.sub t.jti
  · subst hused
    rw [if_neg hfamily, if_neg hrefresh, if_pos rfl, if_pos rfl]
  · rw [if_neg hused, if_neg hused]

/-- What is found once a token has been exchanged and the access token that goes
with its successor has been issued. -/
theorem get?_superseded {w₂ w' : World} {n : Nat}
    {session jti accessId : String} (hretire : Change svc (.retire t) w w₁)
    (hissue : Change svc (.refresh t.sub session jti t.family)
      { w₁ with minted := n } w₂)
    (hwrite : Change svc (.access t.sub session accessId) w₂ w')
    (hlives : svc.Lives) (key : String) :
    w'.live.get? key =
      if key = Key.access t.sub session then
        some ⟨accessId, w.clock + toMillis svc.lifetimes.access⟩
      else w.exchanged svc t jti session key := by
  have hclock : w₂.clock = w.clock := hissue.clock.trans hretire.clock
  rw [hwrite.get?_access hlives, hretire.get?_exchanged hissue hlives, hclock]

end Change

namespace Service

theorem rotate_eq_issueRefresh {svc : Service} {w w₁ : World} {c : Claims}
    {t : Retired} (hretire : svc.retire c w = (.ok t, w₁)) :
    svc.rotate c w =
      svc.issueRefresh t.sub (some (svc.ids (w₁.minted + 1))) (some t.family)
        { w₁ with minted := w₁.minted + 1 } := by
  rw [rotate, Action.bind_of_ok hretire]
  exact Action.bind_of_ok (svc.mintId_apply w₁)

/-- A token that has been used up is replaced, unless nothing can be
written. -/
theorem rotate_of_retire {svc : Service} {w w₁ : World} {c : Claims}
    {t : Retired} (hretire : svc.retire c w = (.ok t, w₁))
    (hset : w₁.outages .set = none)
    (hstorable :
      MemoryStore.IsStorable w₁.clock (toMillis svc.lifetimes.refresh)) :
    let session := svc.ids (w₁.minted + 1)
    let jti := svc.ids (w₁.minted + 2)
    let p := Payload.refresh t.sub (expiry w₁.seconds svc.lifetimes.refresh)
      jti session t.family
    ∃ token w', svc.codec.encode p.toClaims = .ok token ∧
      svc.rotate c w = (.ok ⟨token, p⟩, w') ∧
      Change svc (.refresh t.sub session jti t.family)
        { w₁ with minted := w₁.minted + 1 } w' ∧
      w' = { w₁ with store := w'.store, minted := w₁.minted + 2 } := by
  intro session jti p
  obtain ⟨token, hencode, ⟨hout, -⟩ | ⟨-, hendless, -⟩ |
      ⟨-, -, w', hissue, hb⟩⟩ :=
    svc.issueRefresh_spec t.sub (some session) (some t.family)
      { w₁ with minted := w₁.minted + 1 }
  · exact absurd hset hout
  · exact absurd hstorable hendless
  · exact ⟨token, w', hencode, (rotate_eq_issueRefresh hretire).trans hissue,
      (issueRefresh_eq_ok hissue).2.2.2.1, hb.rest⟩

section

variable {tokens : TokenSettings} {batch : Nat}
  {policy : Password.Policy} {hasher : Hasher} {ids : Nat → String}
  {svc : Service} {w : World}

/-- As long as no store call fails, any claims whatever are answered by the
table when they are to be exchanged. A refusal takes exactly the session keys of
the subject with it, and nothing if the claims name none. Otherwise there is a
token of the same subject and family whose session and identifier have just been
minted; the old one is fenced for as long as a fence lasts, the new one and the
family are on record for a refresh token's whole lifetime, the old refresh key
is gone, and every other key is as it was. -/
theorem rotate_decides
    (hbuilt : assemble tokens batch policy hasher ids = .ok svc)
    (hstorable :
      MemoryStore.IsStorable w.clock (toMillis svc.lifetimes.refresh))
    (hhealthy : ∀ call, w.outages call = none) (hforced : w.forcedReply = none)
    (hnew : ∀ n, w.minted < n → w.Lacks (svc.ids n)) (c : Claims) :
    ∃ w',
      (∀ why, w.appraise c = .error why →
        svc.rotate c w = (.error (.rejected why), w') ∧
        w' = { w with store := w'.store } ∧
        (c.sub = none → w'.live = w.live) ∧
        ∀ sub, c.sub = some sub → w.LosesSessions sub w') ∧
      ∀ t, w.appraise c = .ok t →
        let session := svc.ids (w.minted + 1)
        let jti := svc.ids (w.minted + 2)
        let p := Payload.refresh t.sub
          (expiry w.seconds svc.lifetimes.refresh) jti session t.family
        c.IsOf t ∧ session ≠ t.session ∧ jti ≠ t.jti ∧
        ∃ token, svc.codec.encode p.toClaims = .ok token ∧
          svc.rotate c w = (.ok ⟨token, p⟩, w') ∧
          w' = { w with store := w'.store, minted := w.minted + 2 } ∧
          w'.live.get? (Key.refresh t.sub t.session) = none ∧
          ∀ key, w'.live.get? key = w.exchanged svc t jti session key := by
  have hlives := lives_of_assemble hbuilt
  have hfence : MemoryStore.IsStorable w.clock (svc.fenceSeconds * 1000) :=
    hstorable.mono (Nat.le_refl _)
      (Nat.mul_le_mul_right 1000 (fenceSeconds_le_of_assemble hbuilt))
  have hruns : w.RunsScripts := ⟨hhealthy _, .inr (hhealthy _)⟩
  obtain ⟨k, hretirement, hb⟩ := svc.retire_spec c hforced
  obtain ⟨hanswer, hleft, hof⟩ :=
    hretirement.appraised hhealthy hruns hfence
  cases happraise : w.appraise c with
  | error why =>
      have hrotate : svc.rotate c w =
          (.error (.rejected why), (svc.retire c w).2) := by
        rw [happraise] at hanswer
        exact Action.bind_of_error (Prod.ext hanswer rfl)
      refine ⟨(svc.retire c w).2, fun why' heq => ?_,
        fun _ heq => by cases heq⟩
      cases heq
      obtain ⟨hnone, hsome⟩ := hleft why happraise
      exact ⟨hrotate, hb.rest, fun hsub => hb.live.trans (hnone hsub),
        fun sub hsub =>
          World.losesSessions_of_live (hb.live.trans (hsome sub hsub))⟩
  | ok t =>
      rw [happraise] at hanswer
      have hretire : svc.retire c w = (.ok t, (svc.retire c w).2) :=
        Prod.ext hanswer rfl
      generalize (svc.retire c w).2 = w₁ at hretire
      obtain ⟨-, hb₁, hchange⟩ := retire_eq_ok hforced hretire
      obtain ⟨token, w', hencode, hrotate, hissue, hw'⟩ :=
        rotate_of_retire hretire (by rw [hb₁.outages]; exact hhealthy _)
          (by rw [hb₁.clock]; exact hstorable)
      rw [hb₁.minted, World.seconds, hb₁.wall] at hencode hrotate
      rw [hb₁.minted] at hissue hw'
      have hsession := (hchange.ne_of_lacks (hnew (w.minted + 1) (by omega))).1
      have hjti := (hchange.ne_of_lacks (hnew (w.minted + 2) (by omega))).2
      refine ⟨w', fun _ heq => (by cases heq), fun t' heq => ?_⟩
      cases heq
      have hlook := hchange.get?_exchanged hissue hlives
      refine ⟨hof t happraise, hsession, hjti, token, hencode, hrotate, ?_, ?_,
        hlook⟩
      · rw [hw', hb₁.rest]
      · rw [hlook, World.exchanged_refresh, if_neg hsession.symm, if_pos rfl]

end

/-- The world after a first refresh token has been issued. -/
def trialIssued : World :=
  trial.after (.initial 1700000000000) [.request (.issueRefresh "u" none none)]

theorem healthy_trialIssued (call : StoreCall) :
    trialIssued.outages call = none :=
  congrFun (outages_after_requests [.issueRefresh "u" none none] rfl) call

theorem entries_trialIssued : trialIssued.live.entries =
    [(Key.family "u" (Action.idText 2), ⟨Key.familyMark, 3600000⟩),
      (Key.refresh "u" (Action.idText 1), ⟨Action.idText 3, 3600000⟩)] := by
  decide +kernel

theorem lacks_trialIssued {n : Nat} (hn : trialIssued.minted < n) :
    trialIssued.Lacks (trial.ids n) := by
  have hminted : trialIssued.minted = 3 := by decide +kernel
  rw [hminted] at hn
  refine World.lacks_idText hn ?_
  rw [entries_trialIssued]
  intro p hp
  rcases List.mem_cons.mp hp with rfl | hp
  · exact ⟨.inl rfl, .family, "u", 2, by omega, rfl⟩
  · cases List.mem_singleton.mp hp
    exact ⟨.inr ⟨3, by omega, rfl⟩, .refresh, "u", 1, by omega, rfl⟩

theorem inOrder_trialIssued : trialIssued.InOrder
    ⟨"u", Action.idText 3, Action.idText 1, Action.idText 2⟩ :=
  ⟨healthy_trialIssued _, by decide +kernel, by decide +kernel,
    by decide +kernel⟩

/-- Claims that expired long ago are exchanged like any others; without a family
they are refused, and the subject's session is gone. -/
theorem trial_rotate_decides :
    let expired := { trialRefresh.toClaims with exp := 0 }
    let lacking := { trialRefresh.toClaims with family := none }
    assemble .trial 2 .trial .plain Action.idText = .ok trial ∧
      MemoryStore.IsStorable trialIssued.clock
        (toMillis trial.lifetimes.refresh) ∧
      (∀ call, trialIssued.outages call = none) ∧
      trialIssued.forcedReply = none ∧
      (∀ n, trialIssued.minted < n → trialIssued.Lacks (trial.ids n)) ∧
      (∃ issued w', trial.rotate expired trialIssued = (.ok issued, w') ∧
        issued.payload.sessionId = some (Action.idText 4) ∧
        w'.live.get? (Key.used "u" (Action.idText 3)) =
          some ⟨Key.usedMark, 600000⟩ ∧
        w'.live.get? (Key.refresh "u" (Action.idText 1)) = none) ∧
      ∃ w', trial.rotate lacking trialIssued =
          (.error (.rejected .structureInvalid), w') ∧
        w'.live.get? (Key.refresh "u" (Action.idText 1)) = none := by
  intro expired lacking
  have hclock : trialIssued.clock = 0 := by decide +kernel
  have hstorable : MemoryStore.IsStorable trialIssued.clock
      (toMillis trial.lifetimes.refresh) := by
    rw [hclock]
    decide +kernel
  have hforced : trialIssued.forcedReply = none := by decide +kernel
  have hexpired : trialIssued.appraise expired = .ok
      ⟨"u", Action.idText 3, Action.idText 1, Action.idText 2⟩ :=
    inOrder_trialIssued.appraise ⟨rfl, rfl, rfl, rfl, rfl⟩
  have hlacking : trialIssued.appraise lacking = .error .structureInvalid :=
    World.appraise_of_incomplete fun t ht => by cases ht.family
  obtain ⟨w₁, -, hok⟩ := trial.rotate_decides assemble_trial hstorable
    healthy_trialIssued hforced (fun n => lacks_trialIssued) expired
  obtain ⟨w₂, herror, -⟩ := trial.rotate_decides assemble_trial hstorable
    healthy_trialIssued hforced (fun n => lacks_trialIssued) lacking
  obtain ⟨-, -, -, token, -, hrotate, -, hgone, hlook⟩ := hok _ hexpired
  obtain ⟨hreject, -, -, hloss⟩ := herror _ hlacking
  have hminted : trialIssued.minted = 3 := by decide +kernel
  refine ⟨assemble_trial, hstorable, healthy_trialIssued, hforced,
    fun n => lacks_trialIssued, ⟨_, w₁, hrotate, ?_, ?_, hgone⟩, w₂, hreject,
    ?_⟩
  · rw [hminted]
    rfl
  · rw [hlook, World.exchanged, if_pos rfl, hclock]
    rfl
  · refine Option.eq_none_iff_forall_ne_some.mpr fun e he => ?_
    exact ((hloss "u" rfl _ _).mp he).2
      ⟨.refresh, by decide, _, Action.isPlain_idText 1, rfl⟩

end Service

end SessionTokens
