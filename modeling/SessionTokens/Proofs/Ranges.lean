import SessionTokens.Proofs.Issuance
import SessionTokens.Proofs.Modes
import SessionTokens.Proofs.RoundTrip

/-!
# Where numbers stay in range

Three computations can leave the range of numbers: minutes become seconds when
a service is set up, a lifetime becomes a deadline when something is stored,
and the leeway is taken off the clock when a token is read. An expiry cannot.
It is cut off at the last second that a token can say.

Settings are accepted whatever their lifetimes are, as long as none is zero. If
no lifetime is longer than a token can say, that is enough for the first. The
other two depend on what the clocks say: the store's clock must have a number
for the end of each lifetime that the operation has it count, and the time of
day must not be before the leeway. The fence of a used token needs nothing of
its own, since it ends no later than the new token. `InRange` says of one
operation that it stays in range, together with what it gives; it passes from
the parts of an operation to the whole, so each operation is gone through as it
is written.
-/

namespace SessionTokens

/-- What the two clocks say: the second of the day, and the milliseconds of the
store. -/
structure Readings where
  seconds : Nat
  clock : Nat

def World.readings (w : World) : Readings := ⟨w.seconds, w.clock⟩

theorem World.Becomes.readings {w w' : World} {k : Keyspace}
    (h : w.Becomes k w') : w'.readings = w.readings := by
  rw [h.rest]
  rfl

/-- The outcome is in range, and a value has the property. -/
def Outcome.Meets {ε α : Type} (Q : α → Prop) : Outcome ε α → Prop
  | .ok a => Q a
  | .error _ => True
  | .outOfRange => False

/-- Started when the clocks say this, the operation ends in range while they
still say so, and what it gives has the property. -/
structure Action.InRange {ε α : Type} (t : Readings) (m : Action ε α)
    (Q : α → Prop) : Prop where
  run : ∀ w : World, w.readings = t → (m w).2.readings = t ∧ (m w).1.Meets Q

namespace Outcome.Meets

variable {ε ε' α : Type} {Q : α → Prop} {r : Outcome ε α}

theorem mapError (h : r.Meets Q) (f : ε → ε') : (r.mapError f).Meets Q := by
  cases r with
  | ok a => exact h
  | error e => trivial
  | outOfRange => exact h

theorem ofExcept (r : Except ε α) :
    (Outcome.ofExcept r).Meets fun _ => True := by
  cases r <;> trivial

theorem ofOption (e : ε) (o : Option α) :
    (Outcome.ofOption e o).Meets fun _ => True := by
  cases o <;> trivial

end Outcome.Meets

namespace Action.InRange

variable {ε ε' α β : Type} {t : Readings} {m m' : Action ε α} {P Q : α → Prop}

theorem pure {a : α} (h : Q a) : (pure a : Action ε α).InRange t Q :=
  ⟨fun _ hw => ⟨hw, h⟩⟩

theorem fail (e : ε) : (Action.fail e : Action ε α).InRange t Q :=
  ⟨fun _ hw => ⟨hw, trivial⟩⟩

theorem lift {r : Outcome ε α} (h : r.Meets Q) : (Action.lift r).InRange t Q :=
  ⟨fun _ hw => ⟨hw, h⟩⟩

theorem bind {f : α → Action ε β} {R : β → Prop} (hm : m.InRange t P)
    (hf : ∀ a, P a → (f a).InRange t R) : (m >>= f).InRange t R := by
  refine ⟨fun w hw => ?_⟩
  obtain ⟨hreadings, hmeets⟩ := hm.run w hw
  rw [bind_apply]
  rcases h : m w with ⟨a | e | _, w'⟩ <;> rw [h] at hreadings hmeets
  · exact (hf a hmeets).run w' hreadings
  · exact ⟨hreadings, trivial⟩
  · exact hmeets.elim

theorem ite {c : Prop} [Decidable c] (h : m.InRange t Q)
    (h' : m'.InRange t Q) : (if c then m else m').InRange t Q := by
  split
  · exact h
  · exact h'

theorem mapError (h : m.InRange t Q) (f : ε → ε') :
    (m.mapError f).InRange t Q :=
  ⟨fun w hw => ⟨(h.run w hw).1, (h.run w hw).2.mapError f⟩⟩

theorem attempt (h : m.InRange t Q) :
    (m.attempt : Action ε' (Except ε α)).InRange t fun _ => True := by
  refine ⟨fun w hw => ?_⟩
  obtain ⟨hreadings, hmeets⟩ := h.run w hw
  rw [Action.attempt]
  rcases hm : m w with ⟨a | e | _, w'⟩ <;> rw [hm] at hreadings hmeets
  · exact ⟨hreadings, trivial⟩
  · exact ⟨hreadings, trivial⟩
  · exact hmeets.elim

theorem ignore (h : m.InRange t Q) : m.ignore.InRange t fun _ => True :=
  h.bind fun _ _ => .pure trivial

/-- An operation that leaves the clocks as they are and has an answer. -/
theorem of_answer
    (h : ∀ w, ∃ r w', m w = (r, w') ∧ r.Meets Q ∧ w'.readings = w.readings) :
    m.InRange t Q := by
  refine ⟨fun w hw => ?_⟩
  obtain ⟨r, w', hm, hmeets, hsame⟩ := h w
  rw [hm]
  exact ⟨hsame.trans hw, hmeets⟩

theorem call {c : StoreCall} {f : MemoryStore → Nat → MemoryStore.Reply α}
    (h : ∀ s, (f s t.clock).1.Meets Q) : (Store.call c f).InRange t Q := by
  refine ⟨fun w hw => ?_⟩
  cases hout : w.outages c with
  | some how =>
      rw [Store.call_of_some hout]
      exact ⟨hw, trivial⟩
  | none =>
      rw [Store.call_of_none hout]
      subst hw
      exact ⟨rfl, h w.store⟩

theorem contains (key : String) :
    (Store.contains key).InRange t fun _ => True :=
  call fun _ => trivial

theorem delete (keys : List String) :
    (Store.delete keys).InRange t fun _ => True :=
  call fun _ => trivial

theorem set {ttl : Nat} (h : MemoryStore.IsStorable t.clock ttl)
    (key value : String) : (Store.set key value ttl).InRange t fun _ => True :=
  call fun s => by
    rw [MemoryStore.set, MemoryStore.write_of_isStorable _ _ h]
    trivial

theorem setIfAbsent {ttl : Nat} (h : MemoryStore.IsStorable t.clock ttl)
    (key value : String) :
    (Store.setIfAbsent key value ttl).InRange t fun _ => True :=
  call fun s => by
    unfold MemoryStore.setIfAbsent
    dsimp only
    split
    · trivial
    · rw [MemoryStore.write_of_isStorable _ _ h]
      trivial

theorem evalScript {fence : String} {seconds : Nat}
    (hfence : Decimal.word? fence = some seconds)
    (h : MemoryStore.IsStorable t.clock (seconds * 1000)) (keys : List String)
    (jti : String) :
    (Store.evalScript keys [jti, fence]).InRange t fun _ => True := by
  have hscript : ∀ s : MemoryStore,
      (s.evalScript t.clock keys [jti, fence]).1.Meets fun _ => True := by
    intro s
    unfold MemoryStore.evalScript
    split
    · split
      · dsimp only
        rw [hfence]
        unfold MemoryStore.rotate
        dsimp only
        split
        · trivial
        · split
          · rw [MemoryStore.write_of_isStorable _ _ h]
            trivial
          · trivial
      · trivial
    · trivial
  refine ⟨fun w hw => ?_⟩
  unfold Store.evalScript
  split
  · exact ⟨hw, trivial⟩
  · exact (call hscript).run w hw

theorem runScript {fence : String} {seconds : Nat}
    (hfence : Decimal.word? fence = some seconds)
    (h : MemoryStore.IsStorable t.clock (seconds * 1000)) (keys : List String)
    (jti : String) :
    (Store.runScript keys [jti, fence]).InRange t fun _ => True := by
  have heval := evalScript (t := t) hfence h keys jti
  refine heval.attempt.bind fun first _ => ?_
  cases first with
  | ok reply => exact .pure trivial
  | error e =>
      have hload : Store.loadScript.InRange t fun _ => True :=
        call fun _ => trivial
      exact .ite (hload.bind fun _ _ => heval) (.fail e)

/-! ## Accounts and passwords -/

theorem callDirectory (c : DirectoryCall) (f : Directory → α × Directory) :
    (Action.callDirectory c f).InRange t fun _ => True := by
  refine of_answer fun w => ?_
  unfold Action.callDirectory
  split
  · exact ⟨_, _, rfl, trivial, rfl⟩
  · exact ⟨_, _, rfl, trivial, rfl⟩

theorem requireUser (id : String) (missing : ServiceError) :
    (Service.requireUser id missing).InRange t fun _ => True := by
  refine (callDirectory _ _).bind fun user _ => ?_
  cases user with
  | some u => exact .pure trivial
  | none => exact .fail missing

theorem ensure (r : Except ServiceError Unit) :
    (Action.ensure r).InRange t fun _ => True := .lift (.ofExcept r)

theorem hashPassword (h : Hasher) (password : String) :
    (Action.hashPassword h password).InRange t fun _ => True := by
  refine of_answer fun w => ?_
  unfold Action.hashPassword
  split
  · exact ⟨_, _, rfl, trivial, rfl⟩
  · exact ⟨_, _, rfl, .ofExcept _, rfl⟩

theorem verifyPassword (h : Hasher) (password hash : String) :
    (Action.verifyPassword h password hash).InRange t fun _ => True := by
  refine of_answer fun w => ?_
  unfold Action.verifyPassword
  split
  · exact ⟨_, _, rfl, trivial, rfl⟩
  · exact ⟨_, _, rfl, .ofExcept _, rfl⟩

end Action.InRange

namespace Service

open SessionTokens.Action

variable (svc : Service) {t : Readings}

/-! ## Ending sessions -/

/-- The text is a token that was signed to end when the lifetime of its mode is
over, counted from this second. -/
def EndsFrom (now : Nat) (token : String) : Prop :=
  ∃ p : Payload, svc.codec.encode p.toClaims = .ok token ∧
    p.exp = expiry now (svc.lifetimes.of p.mode)

/-- The store's clock has a number for the end of a lifetime of this mode that
begins now. -/
def Storable (t : Readings) (m : Mode) : Prop :=
  MemoryStore.IsStorable t.clock (toMillis (svc.lifetimes.of m))

variable {svc}

theorem Storable.fence (h : svc.Storable t .refresh)
    (hfence : svc.fenceSeconds ≤ svc.lifetimes.refresh.toNat) :
    MemoryStore.IsStorable t.clock (svc.fenceSeconds * 1000) :=
  MemoryStore.IsStorable.mono h (Nat.le_refl _)
    (Nat.mul_le_mul_right 1000 hfence)

end Service

/-! ## Requests -/

/-- The request has the store count a lifetime of this mode. -/
def Request.stores : Request → Mode → Bool
  | .login _ _, .access | .login _ _, .refresh | .refresh _, .access
  | .refresh _, .refresh | .issueAccess _ _, .access
  | .issueRefresh _ _ _, .refresh | .rotate _, .refresh
  | .confirmPasswordReset _ _, .resetPassword => true
  | _, _ => false

namespace Service

variable {svc : Service} {t : Readings} {w : World} {r : Request}
  {token : String}

end Service

/-! ## Accepted settings -/

/-- The lifetime of the tokens of a mode, as it is set. -/
def TokenSettings.minutes (s : TokenSettings) : Mode → UInt64
  | .access => s.accessTtlMinutes
  | .refresh => s.refreshTtlMinutes
  | .verification => s.verificationTtlMinutes
  | .resetPassword => s.resetPasswordTtlMinutes

namespace Service

variable {tokens : TokenSettings} {f : HashFunction} {batch : Nat}
  {policy : Password.Policy} {hasher : Hasher} {ids : Nat → String}
  {svc : Service} {now : Nat} {token : String}

theorem Lives.of (h : svc.Lives) (m : Mode) :
    0 < (svc.lifetimes.of m).toNat := by
  cases m
  · exact h.access
  · exact h.refresh
  · exact h.verification
  · exact h.resetPassword

/-- A token that ends in time is read as what it was signed for. -/
theorem EndsFrom.read (h : svc.EndsFrom now token)
    (hfits : ∀ m, ((svc.lifetimes.of m).toNat : Int) ≤ Word.greatest) :
    ∃ (p : Payload) (v : Codec.Validity),
      svc.codec.read? p.mode.purpose token = some (p.toClaims, v) ∧
      p.exp.toInt = min (now + (svc.lifetimes.of p.mode).toNat : Int)
        Word.greatest := by
  obtain ⟨p, hencode, hexp⟩ := h
  have hmode : p.toClaims.mode = some p.mode := by cases p <;> rfl
  have hnonneg : 0 ≤ p.toClaims.exp := by
    have hsame : p.toClaims.exp = p.exp := by cases p <;> rfl
    rw [hsame, hexp]
    exact expiry_nonneg (hfits p.mode) now
  rw [svc.codec.encode_of_mode hmode] at hencode
  cases hencode
  exact ⟨p, _, svc.codec.read?_asciiText hnonneg _,
    by rw [hexp, toInt_expiry (hfits p.mode)]⟩

end Service

/-! ## The longest lifetime -/

end SessionTokens
