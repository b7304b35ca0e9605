import SessionTokens.Store.Requests

/-! # Logs of a store

A store carries out one call at a time, whoever makes it. So however many clients use it at once,
and however their calls come between one another, there is one sequence of calls with their
answers: the log. Between the calls other things may happen in the world, but not to the store.
-/

namespace SessionTokens

/-- A call and its answer. -/
structure Exchange where
  step : StoreStep
  answer : Answered

namespace Exchange

/-- The value has been written to the key: it was set, or it is the fence that the script sets. -/
inductive Writes (x : Exchange) (key value : String) : Prop
  | set {ttl : Nat} : x.step = .set key value ttl → x.answer = .ok .done → Writes x key value
  | setIfAbsent {ttl : Nat} : x.step = .setIfAbsent key value ttl → x.answer = .ok (.flag true) →
      Writes x key value
  | fence {refreshKey : String} {args : List String} :
      x.step = .evalScript [refreshKey, key] args → value = "used" →
      x.answer = .ok (.reply MemoryStore.rotated) → Writes x key value

/-- The script has replied that it has used up this identifier of this refresh key. -/
def Wins (x : Exchange) (key jti : String) : Prop :=
  x.answer = .ok (.reply MemoryStore.rotated) ∧
    ∃ usedKey fence, x.step = .evalScript [key, usedKey] [jti, fence]

end Exchange

/-- The log of the calls that lead from one world to another. What there is in a world besides the
store and what answers for it may change at any time: identifiers are minted, accounts come and go,
calls fail and recover. -/
inductive World.Logs (w : World) : List Exchange → World → Prop
  | start : w.Logs [] w
  | call {log : List Exchange} {w₁ : World} (step : StoreStep) : w.Logs log w₁ →
      w.Logs (log ++ [⟨step, (step.perform w₁).1⟩]) (step.perform w₁).2
  | aside {log : List Exchange} {w₁ w₂ : World} : w.Logs log w₁ → w₂.store = w₁.store →
      w₂.clock = w₁.clock → w₂.forcedReply = w₁.forcedReply → w.Logs log w₂

end SessionTokens
