/-! # Outcomes

A computation gives a value, fails with an error, or leaves the range of the machine's numbers. The
last is no error of the domain and nothing handles it: it ends the computation, whatever stands
around it.
-/

namespace SessionTokens

/-- How a computation ends. -/
inductive Outcome (ε α : Type) where
  | ok (a : α)
  | error (e : ε)
  /-- A number became too large or too small for its type. -/
  | outOfRange
deriving DecidableEq, Repr

namespace Outcome

variable {ε ε' α β : Type}

/-- Goes on with a value. -/
def bind : Outcome ε α → (α → Outcome ε β) → Outcome ε β
  | .ok a, f => f a
  | .error e, _ => .error e
  | .outOfRange, _ => .outOfRange

instance : Monad (Outcome ε) where
  pure := .ok
  bind := bind

@[simp] theorem pure_eq (a : α) : (pure a : Outcome ε α) = .ok a := rfl
@[simp] theorem ok_bind (a : α) (f : α → Outcome ε β) : (Outcome.ok a >>= f) = f a := rfl
@[simp] theorem error_bind (e : ε) (f : α → Outcome ε β) : (Outcome.error e >>= f) = .error e := rfl
@[simp] theorem outOfRange_bind (f : α → Outcome ε β) :
    ((Outcome.outOfRange : Outcome ε α) >>= f) = .outOfRange := rfl

theorem bind_eq_ok {m : Outcome ε α} {f : α → Outcome ε β} {b : β} (h : (m >>= f) = .ok b) :
    ∃ a, m = .ok a ∧ f a = .ok b := by
  cases m with
  | ok a => exact ⟨a, rfl, h⟩
  | error e => cases h
  | outOfRange => cases h

/-- Restates the error. -/
def mapError (f : ε → ε') : Outcome ε α → Outcome ε' α
  | .ok a => .ok a
  | .error e => .error (f e)
  | .outOfRange => .outOfRange

/-- A result without the third case. -/
def ofExcept : Except ε α → Outcome ε α
  | .ok a => .ok a
  | .error e => .error e

/-- The value, or the given error in its place. -/
def ofOption (e : ε) : Option α → Outcome ε α
  | some a => .ok a
  | none => .error e

end Outcome

end SessionTokens
