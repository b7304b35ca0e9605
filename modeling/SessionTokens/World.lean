import SessionTokens.Directory
import SessionTokens.Store.Memory

/-! # The world of a service

Everything that a service's operations read and change, and which of its collaborators are out of
order at the moment. Clocks stand still during an operation; only a step between operations moves
them. An operation is a function from worlds to an outcome and the world after it: what was done
before an error or an overflow stays done.
-/

namespace SessionTokens

/-- The calls that a password hasher answers. -/
inductive HasherCall where
  | hash
  | verify
deriving DecidableEq, Repr

/-- What a service works on. -/
structure World where
  store : MemoryStore
  /-- The store's clock in milliseconds. -/
  clock : Nat
  /-- The time of day, in milliseconds since 1970. -/
  wall : Nat
  /-- The store calls that fail at present, before they reach the store. -/
  outages : StoreCall → Option Outage
  /-- What scripts reply at present instead of running. -/
  forcedReply : Option String
  /-- How many identifiers have been minted. -/
  minted : Nat
  /-- How many salts have been drawn. -/
  salts : Nat
  users : Directory
  /-- The directory call that fails at present. -/
  directoryOutage : Option DirectoryCall
  /-- The hasher call that fails at present. -/
  hasherOutage : Option HasherCall

namespace World

/-- A world in order, with an empty store and no accounts, at the given time of day. -/
def initial (wall : Nat) : World where
  store := .empty
  clock := 0
  wall
  outages := fun _ => none
  forcedReply := none
  minted := 0
  salts := 0
  users := .empty
  directoryOutage := none
  hasherOutage := none

/-- The time of day in whole seconds. -/
def seconds (w : World) : Nat := w.wall / 1000

/-- Both clocks move on. -/
def advance (w : World) (ms : Nat) : World :=
  { w with clock := w.clock + ms, wall := w.wall + ms }

/-- The entries that the store holds now. -/
def live (w : World) : Keyspace := w.store.live w.clock

/-- The world with every call of the store in order. -/
def healed (w : World) : World := { w with outages := fun _ => none }

/-- The rotation script can be run: it is registered, or can be. -/
def RunsScripts (w : World) : Prop :=
  w.outages .evalScript = none ∧
    (w.store.scriptLoaded = true ∨ w.outages .loadScript = none)

/-- Keys can be enumerated and removed. -/
def Sweepable (w : World) : Prop :=
  w.outages .scanPage = none ∧ w.outages .delete = none

instance (w : World) : Decidable w.Sweepable := inferInstanceAs (Decidable (_ ∧ _))

end World

/-- An operation on a world. -/
def Action (ε α : Type) : Type := World → Outcome ε α × World

namespace Action

variable {ε ε' α β : Type}

/-- Goes on with a value in the world that the first operation left. -/
def bind (m : Action ε α) (f : α → Action ε β) : Action ε β := fun w =>
  match m w with
  | (.ok a, w') => f a w'
  | (.error e, w') => (.error e, w')
  | (.outOfRange, w') => (.outOfRange, w')

instance : Monad (Action ε) where
  pure a := fun w => (.ok a, w)
  bind := bind

/-- What an operation gives, with the world that it leaves. -/
theorem eq_of_fst_eq {m : Action ε α} {w : World} {r : Outcome ε α} (h : (m w).1 = r) :
    m w = (r, (m w).2) :=
  Prod.ext h rfl

theorem pure_apply (a : α) (w : World) : (pure a : Action ε α) w = (.ok a, w) := rfl

theorem bind_apply (m : Action ε α) (f : α → Action ε β) (w : World) :
    (m >>= f) w =
      match m w with
      | (.ok a, w') => f a w'
      | (.error e, w') => (.error e, w')
      | (.outOfRange, w') => (.outOfRange, w') := rfl

section bind

variable {m : Action ε α} {f : α → Action ε β} {w w' : World}

theorem bind_of_ok {a : α} (h : m w = (.ok a, w')) : (m >>= f) w = f a w' := by
  rw [bind_apply, h]

theorem bind_of_error {e : ε} (h : m w = (.error e, w')) : (m >>= f) w = (.error e, w') := by
  rw [bind_apply, h]

theorem bind_of_outOfRange (h : m w = (.outOfRange, w')) : (m >>= f) w = (.outOfRange, w') := by
  rw [bind_apply, h]

theorem bind_eq_ok {b : β} (h : (m >>= f) w = (.ok b, w')) :
    ∃ a w₁, m w = (.ok a, w₁) ∧ f a w₁ = (.ok b, w') := by
  rw [bind_apply] at h
  rcases hm : m w with ⟨a | e | _, w₁⟩
  · rw [hm] at h
    exact ⟨a, w₁, rfl, h⟩
  · rw [hm] at h
    cases h
  · rw [hm] at h
    cases h

theorem bind_eq_error {e : ε} (h : (m >>= f) w = (.error e, w')) :
    m w = (.error e, w') ∨ ∃ a w₁, m w = (.ok a, w₁) ∧ f a w₁ = (.error e, w') := by
  rw [bind_apply] at h
  rcases hm : m w with ⟨a | e' | _, w₁⟩
  · rw [hm] at h
    exact .inr ⟨a, w₁, rfl, h⟩
  · rw [hm] at h
    cases h
    exact .inl rfl
  · rw [hm] at h
    cases h

end bind

/-- Fails. -/
def fail (e : ε) : Action ε α := fun w => (.error e, w)

/-- An outcome that does not depend on the world. -/
def lift (r : Outcome ε α) : Action ε α := fun w => (r, w)

/-- Looks at the world. -/
def read (f : World → α) : Action ε α := fun w => (.ok (f w), w)

/-- Restates the error. -/
def mapError (f : ε → ε') (m : Action ε α) : Action ε' α := fun w =>
  let r := m w
  (r.1.mapError f, r.2)

theorem mapError_eq_ok {f : ε → ε'} {m : Action ε α} {w w' : World} {a : α}
    (h : m.mapError f w = (.ok a, w')) : m w = (.ok a, w') := by
  rcases hm : m w with ⟨b | e | _, w₁⟩ <;> rw [mapError, hm] at h <;> cases h
  rfl

/-- Takes an error as a value. What the failed operation did stays done. -/
def attempt (m : Action ε α) : Action ε' (Except ε α) := fun w =>
  match m w with
  | (.ok a, w') => (.ok (.ok a), w')
  | (.error e, w') => (.ok (.error e), w')
  | (.outOfRange, w') => (.outOfRange, w')

section attempt

variable {m : Action ε α} {w w' : World}

theorem attempt_of_ok {a : α} (h : m w = (.ok a, w')) :
    (m.attempt : Action ε' (Except ε α)) w = (.ok (.ok a), w') := by
  rw [attempt, h]

theorem attempt_of_error {e : ε} (h : m w = (.error e, w')) :
    (m.attempt : Action ε' (Except ε α)) w = (.ok (.error e), w') := by
  rw [attempt, h]

end attempt

/-! ## Identifiers and salts -/

/-- The lower-case hexadecimal digits of a number, with leading zeros up to a width. -/
def hexDigits (width n : Nat) : List Char :=
  let digits := Nat.toDigits 16 n
  List.replicate (width - digits.length) '0' ++ digits

/-- The identifier that is minted as the `n`-th by a source that counts. -/
def idText (n : Nat) : String := "00000000-0000-4000-8000-" ++ String.ofList (hexDigits 12 n)

/-- Draws a salt of sixteen bytes that has not been drawn before. -/
def drawSalt : Action ε (List UInt8) := fun w =>
  (.ok ((List.range 16).map fun i => UInt8.ofNat (w.salts / Nat.pow 256 i)),
    { w with salts := w.salts + 1 })

/-! ## The directory -/

/-- A call of the directory, unless it is out of order. -/
def callDirectory (call : DirectoryCall) (f : Directory → α × Directory) : Action ServiceError α :=
  fun w =>
    if w.directoryOutage = some call then (.error .directoryUnavailable, w)
    else
      let r := f w.users
      (.ok r.1, { w with users := r.2 })

/-- The account of an identifier. -/
def findUser (id : String) : Action ServiceError (Option User) :=
  callDirectory .find fun d => (d.find? id, d)

/-- Replaces the password hash of an account, and tells whether there is one. -/
def updatePasswordHash (id hash : String) : Action ServiceError Bool :=
  callDirectory .updateHash fun d => d.update id fun u => { u with passwordHash := hash }

/-- Marks an account's address as verified, and tells whether there is an account. -/
def markVerified (id : String) : Action ServiceError Bool :=
  callDirectory .markVerified fun d => d.update id fun u => { u with isVerified := true }

end Action

end SessionTokens
