import SessionTokens.Service

/-! # Sweeping sessions away

A sweep removes every key of a subject in the four session namespaces. The keys of a namespace are
collected before any of them is removed. A namespace that fails does not keep the others from being
swept; the first failure is what is reported.
-/

namespace SessionTokens

/-- Removes keys so many at a time, at least one, and counts those that were there. -/
def deleteInChunks (size : Nat) : List String → Action ServiceError Nat
  | [] => pure 0
  | key :: keys => do
    let here ← Store.delete (key :: keys.take (size - 1))
    let there ← deleteInChunks size (keys.drop (size - 1))
    return here + there
termination_by keys => keys.length
decreasing_by simp only [List.length_drop, List.length_cons]; omega

/-- What a sweep comes to: how many keys it removed in the namespaces that did not fail, and the
first failure. -/
structure Swept where
  removed : Nat
  failure : Option ServiceError
deriving DecidableEq

/-- The result with that of one more namespace. -/
def Swept.add (s : Swept) : Except ServiceError Nat → Swept
  | .ok n => { s with removed := s.removed + n }
  | .error e => { s with failure := s.failure <|> some e }

namespace Service

variable (svc : Service)

/-- Removes a subject's keys in one namespace. -/
def sweepNamespace (sub : String) (ns : Namespace) : Action ServiceError Nat := do
  let found ← Store.scan (Key.subjectPattern ns.name sub) svc.batch
  deleteInChunks svc.batch (found.filter fun key => Key.belongsTo key ns.name sub)

/-- Removes a subject's keys in the namespaces, one after another. -/
def sweepFrom {ε : Type} (sub : String) (sofar : Swept) : List Namespace → Action ε Swept
  | [] => pure sofar
  | ns :: rest => do
    let here ← (svc.sweepNamespace sub ns).attempt
    sweepFrom sub (sofar.add here) rest

/-- Removes a subject's session keys. -/
def sweep {ε : Type} (sub : String) : Action ε Swept :=
  svc.sweepFrom sub ⟨0, none⟩ Namespace.session

/-- Ends all sessions of a subject, and gives the number of keys removed. -/
def invalidateAll (sub : String) : Action ServiceError Nat := do
  let swept ← svc.sweep sub
  match swept.failure with
  | some e => Action.fail e
  | none => return swept.removed

/-- Ends as many sessions of a subject as the store lets it. -/
def invalidateBestEffort {ε : Type} (sub : String) : Action ε Nat := do
  let swept ← svc.sweep sub
  return swept.removed

/-- Ends one session. -/
def invalidateSession (sub session : String) : Action ServiceError Nat :=
  Store.delete [Key.access sub session, Key.refresh sub session]

/-- Ends all sessions of a subject as far as possible, and turns the token down. -/
def sweepAndReject {α : Type} (sub : String) (why : Rejection) : Action TokenError α := do
  let _ ← svc.invalidateBestEffort sub
  Action.fail (.rejected why)

end Service

end SessionTokens
