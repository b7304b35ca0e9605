import SessionTokens.Proofs.Decimal
import SessionTokens.Proofs.TimedMap
import SessionTokens.Store.Exchange

/-!
# The rotation script

The script looks at two keys before it changes anything, and then it changes
both. So a run of it either does nothing to what is live or does all it is for,
and it does that only where the refresh key holds the identifier that is
expected. Having done it, it has taken the key away. To win again with the same
identifier, the key must hold it again, and of all calls of a store only those
that write a value make a key hold one it did not hold: everything else keeps
an entry as it is, gives it another lifetime, or drops it.
-/

namespace SessionTokens

/-! ## One run of the script -/

/-- What the script is to do: to move a refresh key to a fence. -/
structure ScriptCall where
  refreshKey : String
  usedKey : String
  /-- The identifier that the refresh key should hold. -/
  expected : String
  /-- The lifetime of the fence. -/
  seconds : Nat

/-- The keys and the arguments say what to do: two of each, and the last is a
number. -/
structure ScriptCall.Reads (c : ScriptCall) (keys args : List String) :
    Prop where
  keys : keys = [c.refreshKey, c.usedKey]
  args : ∃ fence, Decimal.IsWord fence c.seconds ∧ args = [c.expected, fence]

namespace MemoryStore

variable (s : MemoryStore) (now : Nat)

/-- Nothing but dead entries tells the stores apart. -/
structure Resembles (s s' : MemoryStore) (now : Nat) : Prop where
  live : s'.live now = s.live now
  script : s'.scriptLoaded = s.scriptLoaded
  cursors : s.SameCursors s'

/-- The replies of the script, each with what it is given for and with what has
been done. -/
inductive Evaluation (s : MemoryStore) (now : Nat) (keys args : List String) :
    Reply String → Prop
  /-- The call does not say what to do. -/
  | refused {e : ServiceError} : (∀ c : ScriptCall, ¬ c.Reads keys args) →
      Evaluation s now keys args (.error e, s)
  /-- The fence is there. -/
  | reused {c : ScriptCall} {e : Entry} : c.Reads keys args →
      (s.live now).get? c.usedKey = some e →
      Evaluation s now keys args (.ok reused, s)
  /-- The refresh key does not hold the identifier. -/
  | invalid {c : ScriptCall} {s' : MemoryStore} : c.Reads keys args →
      (s.live now).get? c.usedKey = none →
      ((s.live now).get? c.refreshKey).map Entry.value ≠ some c.expected →
      s.Resembles s' now → Evaluation s now keys args (.ok invalid, s')
  | rotated {c : ScriptCall} {s' : MemoryStore} : c.Reads keys args →
      (s.live now).get? c.usedKey = none →
      ((s.live now).get? c.refreshKey).map Entry.value = some c.expected →
      IsStorable now (c.seconds * 1000) →
      s'.keyspace.get? c.usedKey = some ⟨"used", now + c.seconds * 1000⟩ →
      s'.keyspace.get? c.refreshKey = none →
      (∀ key, key ≠ c.usedKey → key ≠ c.refreshKey →
        s'.keyspace.get? key = s.keyspace.get? key) →
      s'.scriptLoaded = s.scriptLoaded → s.SameCursors s' →
      Evaluation s now keys args (.ok rotated, s')
  /-- There is no number for the end of the fence. -/
  | endless {c : ScriptCall} {s' : MemoryStore} : c.Reads keys args →
      (s.live now).get? c.usedKey = none →
      ((s.live now).get? c.refreshKey).map Entry.value = some c.expected →
      ¬ IsStorable now (c.seconds * 1000) → s.Resembles s' now →
      Evaluation s now keys args (.outOfRange, s')

theorem get?_touch_of_ne {key key' : String} (h : key' ≠ key) :
    (s.touch now key).keyspace.get? key' = s.keyspace.get? key' := by
  unfold touch
  split
  · split
    · rfl
    · exact Keyspace.get?_erase_of_ne h
  · rfl

theorem touch_of_live {key : String} {e : Entry}
    (h : (s.live now).get? key = some e) : s.touch now key = s := by
  obtain ⟨hkey, hlt⟩ := Keyspace.get?_live_eq_some.mp h
  unfold touch
  rw [hkey]
  exact if_pos (decide_eq_true hlt)

theorem resembles_touch (key : String) :
    s.Resembles (s.touch now key) now :=
  ⟨s.live_touch now key, s.scriptLoaded_touch now key, .touch s now key⟩

theorem Resembles.trans {s s' s'' : MemoryStore} {now : Nat}
    (h : s.Resembles s' now) (h' : s'.Resembles s'' now) :
    s.Resembles s'' now :=
  ⟨h'.live.trans h.live, h'.script.trans h.script, h.cursors.trans h'.cursors⟩

/-- The two keys of a run that goes through are different: one is live, and the
other is not. -/
theorem rotate_evaluation {keys args : List String} {c : ScriptCall}
    (hc : c.Reads keys args) :
    Evaluation s now keys args
      (s.rotate now c.refreshKey c.usedKey c.expected c.seconds) := by
  have htouched := (s.resembles_touch now c.usedKey).trans
    ((s.touch now c.usedKey).resembles_touch now c.refreshKey)
  cases hused : (s.live now).get? c.usedKey with
  | some e =>
      rw [s.rotate_of_used now hused, s.touch_of_live now hused]
      exact .reused hc hused
  | none =>
      by_cases hrefresh :
        ((s.live now).get? c.refreshKey).map Entry.value = some c.expected
      · by_cases hfence : IsStorable now (c.seconds * 1000)
        · have hne : c.usedKey ≠ c.refreshKey := by
            intro heq
            rw [← heq, hused] at hrefresh
            cases hrefresh
          rw [s.rotate_of_fresh now hused hrefresh hfence]
          refine .rotated hc hused hrefresh hfence ?_ ?_ (fun key hu hr => ?_)
            htouched.script
            ⟨htouched.cursors.cursors, htouched.cursors.lastCursor⟩
          · exact (Keyspace.get?_erase_of_ne hne).trans
              (Keyspace.get?_insert_self ..)
          · exact Keyspace.get?_erase_self ..
          · refine (Keyspace.get?_erase_of_ne hr).trans
              ((Keyspace.get?_insert_of_ne hu).trans ?_)
            rw [get?_touch_of_ne _ now hr, get?_touch_of_ne _ now hu]
        · rw [s.rotate_of_fresh_of_not_isStorable now hused hrefresh hfence]
          exact .endless hc hused hrefresh hfence htouched
      · rw [s.rotate_of_stale now hused hrefresh]
        exact .invalid hc hused hrefresh htouched

/-- A registered script does all it is for or nothing, and says which. -/
theorem evalScript_evaluation (h : s.scriptLoaded = true)
    (keys args : List String) :
    Evaluation s now keys args (s.evalScript now keys args) := by
  unfold evalScript
  rw [if_pos h]
  match keys, args with
  | [refreshKey, usedKey], [expected, fence] =>
      dsimp only
      cases hfence : Decimal.word? fence with
      | some seconds =>
          exact s.rotate_evaluation now (c := ⟨_, _, _, seconds⟩)
            ⟨rfl, fence, Decimal.word?_eq_some_iff.mp hfence, rfl⟩
      | none =>
          refine .refused fun c hc => ?_
          obtain ⟨fence', hword, hargs⟩ := hc.args
          cases hargs
          rw [← Decimal.word?_eq_some_iff, hfence] at hword
          cases hword
  | [_, _], [] | [_, _], [_] | [_, _], _ :: _ :: _ :: _ =>
      refine .refused fun c hc => ?_
      obtain ⟨_, -, hargs⟩ := hc.args
      cases hargs
  | [], _ | [_], _ | _ :: _ :: _ :: _, _ =>
      exact .refused fun c hc => by cases hc.keys

/-- The script says that it has rotated only if it has. -/
theorem Evaluation.of_rotated {s : MemoryStore} {now : Nat}
    {keys args : List String} {r : Reply String}
    (h : Evaluation s now keys args r) (hr : r.1 = .ok MemoryStore.rotated) :
    ∃ c : ScriptCall, c.Reads keys args ∧
      ((s.live now).get? c.refreshKey).map Entry.value = some c.expected ∧
      (r.2.live now).get? c.refreshKey = none := by
  cases h with
  | refused _ => cases hr
  | reused _ _ => exact absurd (Outcome.ok.inj hr) (by decide)
  | invalid _ _ _ _ => exact absurd (Outcome.ok.inj hr) (by decide)
  | rotated hc _ hrefresh _ _ hgone _ _ _ =>
      refine ⟨_, hc, hrefresh, ?_⟩
      rw [live, Keyspace.get?_live, hgone]
      rfl
  | endless _ _ _ _ _ => cases hr

end MemoryStore

/-! ## What a key holds -/

/-- The key holds the value. -/
def World.Has (w : World) (key value : String) : Prop :=
  (w.live.get? key).map Entry.value = some value

theorem Store.evalScript_eq_call {w : World} (h : w.forcedReply = none)
    (keys args : List String) :
    evalScript keys args w =
      call .evalScript (fun s now => s.evalScript now keys args) w := by
  unfold evalScript
  rw [h]
  cases w.outages .evalScript <;> rfl

/-- A step fails and does nothing, or goes as if no call was out of order. -/
theorem StoreStep.perform_healed (step : StoreStep) {w : World}
    (hforced : w.forcedReply = none) :
    (∃ e, step.perform w = (.error e, w)) ∨
      step.perform w = ((step.perform w.healed).1,
        { (step.perform w.healed).2 with outages := w.outages }) := by
  have hcall : ∀ {α : Type} (c : StoreCall)
      (f : MemoryStore → Nat → MemoryStore.Reply α) (g : α → Answer),
      (∃ e, (Store.call c f).answering g w = (.error e, w)) ∨
        (Store.call c f).answering g w =
          (((Store.call c f).answering g w.healed).1,
            { ((Store.call c f).answering g w.healed).2 with
              outages := w.outages }) := by
    intro α c f g
    cases hout : w.outages c with
    | some how =>
        refine .inl ⟨.storeFailed c how, ?_⟩
        rw [Action.answering, Store.call_of_some hout]
        rfl
    | none =>
        refine .inr ?_
        rw [Action.answering, Store.call_of_none hout]
        rfl
  cases step with
  | allKeys => exact .inr rfl
  | flushScripts => exact .inr rfl
  | advance ms => exact .inr rfl
  | evalScript keys args =>
      have hhealed : w.healed.forcedReply = none := hforced
      simp only [perform, Action.answering,
        Store.evalScript_eq_call hforced, Store.evalScript_eq_call hhealed]
      exact hcall ..
  | _ => exact hcall ..

/-! ## Writing and winning -/

namespace TimedMap

variable {t : TimedMap} {key value : String}

/-- The key holds the value. -/
def Has (t : TimedMap) (key value : String) : Prop :=
  ∃ e, t.present? key = some e ∧ e.value = value

theorem present?_eq_some {e : Entry} :
    t.present? key = some e ↔
      t.entries.get? key = some e ∧ t.now < e.deadline := by
  rw [present?, Option.filter_eq_some_iff, decide_eq_true_eq]

/-- Entries and time that are left to others may be put in place of these. -/
theorem Has.of_get? {t' : TimedMap} (h : t'.Has key value)
    (hget : ∀ e, t'.entries.get? key = some e → t.entries.get? key = some e)
    (hnow : t.now ≤ t'.now) : t.Has key value := by
  obtain ⟨e, he, hvalue⟩ := h
  obtain ⟨hkey, hlt⟩ := present?_eq_some.mp he
  exact ⟨e, present?_eq_some.mpr ⟨hget e hkey, Nat.lt_of_le_of_lt hnow hlt⟩,
    hvalue⟩

theorem Has.of_insert {key' : String} {e : Entry}
    (h : Has { t with entries := t.entries.insert key' e } key value) :
    t.Has key value ∨ key' = key ∧ e.value = value := by
  by_cases heq : key = key'
  · obtain ⟨e', he, hvalue⟩ := h
    obtain ⟨hkey, -⟩ := present?_eq_some.mp he
    rw [heq] at hkey
    cases (Keyspace.get?_insert_self ..).symm.trans hkey
    exact .inr ⟨heq.symm, hvalue⟩
  · exact .inl (h.of_get? (fun e' he =>
      (Keyspace.get?_insert_of_ne heq).symm.trans he) (Nat.le_refl _))

theorem Has.of_write {key' value' : String} {ttl : Nat} {answer : Answer}
    (h : (t.write key' value' ttl answer).2.Has key value) :
    t.Has key value ∨ (t.write key' value' ttl answer).1 = .ok answer ∧
      key' = key ∧ value' = value := by
  rw [write] at h ⊢
  cases hd : MemoryStore.deadline? t.now ttl with
  | none => rw [hd] at h; exact .inl h
  | some deadline =>
      rw [hd] at h
      exact h.of_insert.imp_right fun heq => ⟨rfl, heq⟩

theorem Has.of_scanPage {pattern : String} {cursor : UInt64} {count : Nat}
    (h : (t.scanPage pattern cursor count).2.Has key value) :
    t.Has key value := by
  unfold scanPage at h
  split at h
  · exact h
  · dsimp only at h
    split at h <;> exact h

/-- The script takes a key away and sets a fence. -/
theorem Has.of_rotate {refreshKey usedKey expected : String} {seconds : Nat}
    (h : (t.rotate refreshKey usedKey expected seconds).2.Has key value) :
    t.Has key value ∨
      (t.rotate refreshKey usedKey expected seconds).1 =
          .ok (.reply MemoryStore.rotated) ∧
        usedKey = key ∧ value = "used" := by
  rw [rotate] at h ⊢
  split at h
  · exact .inl h
  · next hused =>
      rw [if_neg hused]
      split at h
      · next hrefresh =>
          rw [if_pos hrefresh]
          cases hd : MemoryStore.deadline? t.now (seconds * 1000) with
          | none => rw [hd] at h; exact .inl h
          | some deadline =>
              rw [hd] at h
              have hinserted : Has { t with
                  entries := t.entries.insert usedKey ⟨"used", deadline⟩ }
                key value := h.of_get?
                  (fun e he => (Keyspace.get?_filter_eq_some.mp he).1)
                  (Nat.le_refl _)
              exact hinserted.of_insert.imp_right fun heq =>
                ⟨rfl, heq.1, heq.2.symm⟩
      · exact .inl h

theorem Has.of_evalScript {keys args : List String}
    (h : (t.evalScript keys args).2.Has key value) :
    t.Has key value ∨
      (t.evalScript keys args).1 = .ok (.reply MemoryStore.rotated) ∧
        ∃ refreshKey, keys = [refreshKey, key] ∧ value = "used" := by
  unfold evalScript at h ⊢
  split at h
  · next hloaded =>
      rw [if_pos hloaded]
      split at h
      · next refreshKey usedKey =>
          split at h
          · next expected fence =>
              split at h
              · next seconds _ =>
                  refine h.of_rotate.imp_right ?_
                  rintro ⟨hok, rfl, rfl⟩
                  exact ⟨hok, refreshKey, rfl, rfl⟩
              · exact .inl h
          · exact .inl h
      · exact .inl h
  · exact .inl h

/-- Only a step that writes the value to the key makes the key hold it. -/
theorem Has.of_step {step : StoreStep} (h : (t.step step).2.Has key value) :
    t.Has key value ∨ Exchange.Writes ⟨step, (t.step step).1⟩ key value := by
  cases step with
  | set key' value' ttl =>
      refine h.of_write.imp_right ?_
      rintro ⟨hok, rfl, rfl⟩
      exact .set rfl hok
  | setIfAbsent key' value' ttl =>
      rw [TimedMap.step] at h ⊢
      split at h
      · exact .inl h
      · next habsent =>
          rw [if_neg habsent]
          refine h.of_write.imp_right ?_
          rintro ⟨hok, rfl, rfl⟩
          exact .setIfAbsent rfl hok
  | expire key' ttl =>
      rw [TimedMap.step] at h
      split at h
      · next e he =>
          refine .inl (h.of_write.elim id ?_)
          rintro ⟨-, rfl, hvalue⟩
          exact ⟨e, he, hvalue⟩
      · exact .inl h
  | delete keys =>
      exact .inl (h.of_get? (fun e he => (Keyspace.get?_filter_eq_some.mp he).1)
        (Nat.le_refl _))
  | scanPage pattern cursor count => exact .inl h.of_scanPage
  | evalScript keys args =>
      refine h.of_evalScript.imp_right ?_
      rintro ⟨hok, refreshKey, rfl, rfl⟩
      exact .fence rfl rfl hok
  | advance ms => exact .inl (h.of_get? (fun _ => id) (Nat.le_add_right ..))
  | _ => exact .inl h

/-- Every store is shown by a map. -/
def ofStore (s : MemoryStore) (now : Nat) : TimedMap :=
  ⟨s.keyspace, now, s.scriptLoaded, s.cursorKey?, s.lastCursor⟩

theorem mirrors_healed {w : World} (hforced : w.forcedReply = none) :
    (ofStore w.store w.clock).Mirrors w.healed :=
  ⟨⟨rfl, rfl, fun _ _ => rfl, rfl⟩, rfl, fun _ => rfl, hforced⟩

theorem Mirrors.has_iff {w : World} (h : t.Mirrors w) :
    w.Has key value ↔ t.Has key value := by
  rw [World.Has, Option.map_eq_some_iff, Has, h.shows.present?, ← h.clock]
  rfl

end TimedMap

namespace World

variable {w : World} {key value jti : String}

/-- Only a step that writes the value to the key makes the key hold it. -/
theorem Has.of_step {step : StoreStep} (hforced : w.forcedReply = none)
    (h : (step.perform w).2.Has key value) :
    w.Has key value ∨ Exchange.Writes ⟨step, (step.perform w).1⟩ key value := by
  rcases step.perform_healed hforced with ⟨e, heq⟩ | heq
  · rw [heq] at h
    exact .inl h
  · have hmirrors := TimedMap.mirrors_healed hforced
    obtain ⟨hanswer, hafter⟩ := hmirrors.step step
    rw [heq] at h ⊢
    rw [hanswer]
    exact (hafter.has_iff.mp h).of_step.imp_left hmirrors.has_iff.mpr

theorem forcedReply_step (step : StoreStep) (hforced : w.forcedReply = none) :
    (step.perform w).2.forcedReply = none := by
  rcases step.perform_healed hforced with ⟨e, heq⟩ | heq
  · rw [heq]
    exact hforced
  · have hmirrors := TimedMap.mirrors_healed hforced
    rw [heq]
    exact (hmirrors.step step).2.forcedReply

/-- A call that wins finds the identifier at the key, and takes the key away. -/
theorem has_of_wins {step : StoreStep} (hforced : w.forcedReply = none)
    (h : Exchange.Wins ⟨step, (step.perform w).1⟩ key jti) :
    w.Has key jti ∧ ∀ value, ¬ (step.perform w).2.Has key value := by
  obtain ⟨hanswer, usedKey, fence, hstep⟩ := h
  dsimp only at hanswer hstep
  subst hstep
  rw [StoreStep.perform, Action.answering] at hanswer ⊢
  cases hout : w.outages .evalScript with
  | some how =>
      rw [Store.evalScript_of_some hout] at hanswer
      cases hanswer
  | none =>
      rw [Store.evalScript_of_none hout hforced] at hanswer ⊢
      dsimp only at hanswer ⊢
      by_cases hloaded : w.store.scriptLoaded = true
      · have hrun := w.store.evalScript_evaluation w.clock hloaded
          [key, usedKey] [jti, fence]
        obtain ⟨reply, hreply, heq⟩ := Outcome.bind_eq_ok hanswer
        cases heq
        obtain ⟨c, hc, hrefresh, hgone⟩ := hrun.of_rotated hreply
        cases hc.keys
        obtain ⟨fence', -, hargs⟩ := hc.args
        cases hargs
        refine ⟨hrefresh, fun value hvalue => ?_⟩
        obtain ⟨e, he, -⟩ := Option.map_eq_some_iff.mp hvalue
        cases hgone.symm.trans he
      · rw [MemoryStore.evalScript_of_not_loaded _ _ hloaded] at hanswer
        cases hanswer

/-! ## Logs -/

theorem append_singleton_eq {α : Type} {l before after : List α} {x e : α}
    (h : l ++ [e] = before ++ x :: after) :
    (after = [] ∧ l = before ∧ e = x) ∨
      ∃ after', after = after' ++ [e] ∧ l = before ++ x :: after' := by
  rcases List.eq_nil_or_concat after with rfl | ⟨after', e', rfl⟩
  · obtain ⟨hl, he⟩ := List.append_inj' h rfl
    exact .inl ⟨rfl, hl, List.singleton_inj.mp he⟩
  · rw [List.concat_eq_append] at h ⊢
    rw [← List.cons_append, ← List.append_assoc] at h
    obtain ⟨hl, he⟩ := List.append_inj' h rfl
    cases he
    exact .inr ⟨after', rfl, hl⟩

namespace Logs

variable {log : List Exchange} {w' : World}

theorem forcedReply (h : w.Logs log w') (hforced : w.forcedReply = none) :
    w'.forcedReply = none := by
  induction h with
  | start => exact hforced
  | call step _ ih => exact forcedReply_step step ih
  | aside _ _ _ hsame ih => exact hsame.trans ih

/-- A refresh key that has been won does not hold the identifier until that is
written to it. -/
theorem not_has_of_won (h : w.Logs log w') (hforced : w.forcedReply = none)
    {before after : List Exchange} {x : Exchange}
    (hlog : log = before ++ x :: after) (hx : x.Wins key jti)
    (hafter : ∀ z ∈ after, ¬ z.Writes key jti) : ¬ w'.Has key jti := by
  induction h generalizing after with
  | start => exact absurd hlog (by simp)
  | @call log w₁ step hlogs ih =>
      have hforced₁ := hlogs.forcedReply hforced
      rcases append_singleton_eq hlog with ⟨rfl, -, rfl⟩ | ⟨after, rfl, hl⟩
      · exact (has_of_wins hforced₁ hx).2 jti
      · intro hhas
        rcases hhas.of_step hforced₁ with hhad | hwrites
        · exact ih hl (fun z hz => hafter z (List.mem_append_left _ hz)) hhad
        · exact hafter _ (List.mem_append_right _ (List.mem_singleton_self _))
            hwrites
  | @aside log w₁ w₂ _ hstore hclock _ ih =>
      have hlive : w₂.live = w₁.live := by rw [live, hstore, hclock, live]
      rw [Has, hlive]
      exact ih hlog hafter

/-- Between two wins of an identifier at a refresh key it has been written to
that key again. -/
theorem exists_writes_between (h : w.Logs log w')
    (hforced : w.forcedReply = none)
    {before between after : List Exchange} {x y : Exchange}
    (hlog : log = before ++ x :: (between ++ y :: after))
    (hx : x.Wins key jti) (hy : y.Wins key jti) :
    ∃ z ∈ between, z.Writes key jti := by
  induction h generalizing after with
  | start => exact absurd hlog (by simp)
  | @call log w₁ step hlogs ih =>
      rw [← List.cons_append, ← List.append_assoc] at hlog
      rcases append_singleton_eq hlog with ⟨rfl, hl, rfl⟩ | ⟨after, rfl, hl⟩
      · have hforced₁ := hlogs.forcedReply hforced
        refine Classical.byContradiction fun hnone => ?_
        exact hlogs.not_has_of_won hforced hl hx
          (fun z hz hwrites => hnone ⟨z, hz, hwrites⟩)
          (has_of_wins hforced₁ hy).1
      · rw [List.append_assoc, List.cons_append] at hl
        exact ih hl
  | aside _ _ _ _ ih => exact ih hlog

end Logs

end World

end SessionTokens
