import SessionTokens.Token.Issue
import SessionTokens.Token.Verify

/-! # Rotating refresh tokens

A refresh token is exchanged for a new one of the same family. Using up the old token and fencing
its identifier is one script of the store, so of several rotations of one token at most one goes
through. A token that turns out not to be good takes all sessions of its subject with it.
-/

namespace SessionTokens

/-- What the rotation script found. -/
inductive Rotated where
  | done
  | reused
  | invalid
deriving DecidableEq, Repr

/-- What a reply of the rotation script says. -/
def Rotated.ofReply (reply : String) : Except ServiceError Rotated :=
  if reply = MemoryStore.rotated then .ok .done
  else if reply = MemoryStore.reused then .ok .reused
  else if reply = MemoryStore.invalid then .ok .invalid
  else .error (.unexpectedReply reply)

/-- A refresh token that has been used up. -/
structure Retired where
  sub : String
  jti : String
  session : String
  family : String
deriving DecidableEq, Repr

namespace Service

variable (svc : Service)

/-- The lifetime of a fence in seconds: one at least. -/
def fenceSeconds : Nat := (max svc.lifetimes.usedRefresh 1).toNat

/-- The lifetime of a fence as the script takes it. -/
def fenceText : String := toString svc.fenceSeconds

/-- Uses up a refresh token and fences it. -/
def useUp (sub jti session : String) : Action TokenError Rotated := do
  let reply ← store (Store.runScript [Key.refresh sub session, Key.used sub jti] [jti, svc.fenceText])
  Action.lift ((Outcome.ofExcept (Rotated.ofReply reply)).mapError .internal)

/-- Uses up the refresh token of claims that need not be checked yet. -/
def retire (c : Claims) : Action TokenError Retired :=
  match c.sub with
  | none => Action.fail (.rejected .structureInvalid)
  | some sub =>
    match c.jti, c.sessionId, c.family with
    | some jti, some session, some family => do
      if c.mode ≠ some .refresh then svc.sweepAndReject sub .structureInvalid
      else if ← store (Store.contains (Key.family sub family)) then
        match ← svc.useUp sub jti session with
        | .done => return ⟨sub, jti, session, family⟩
        | .reused => svc.sweepAndReject sub .reuseDetected
        | .invalid => svc.sweepAndReject sub .livenessMismatch
      else svc.sweepAndReject sub .familyInvalidated
    | _, _, _ => svc.sweepAndReject sub .structureInvalid

/-- Exchanges a refresh token, given by claims that need not be checked yet, for a new one in a new
session of the same family. -/
def rotate (c : Claims) : Action TokenError Issued := do
  let old ← svc.retire c
  let fresh ← svc.mintId
  svc.issueRefresh old.sub (some fresh) (some old.family)

end Service

end SessionTokens
