import SessionTokens.Error
import SessionTokens.Store.Memory

/-! # Opening a store

Which store is used is a setting. A store is ready when it is opened: its script is registered.
-/

namespace SessionTokens.Provider

/-- Opens the store of the given kind: the one in memory, or the external one that a client
connects to at the given address. -/
def openWith (connect : String → Except ServiceError MemoryStore) (provider url : String) :
    Except ServiceError MemoryStore := do
  let store ←
    if provider = "memory" then .ok MemoryStore.empty
    else if provider = "redis" then connect url
    else .error (.unknownProvider provider)
  return store.loadScript

end SessionTokens.Provider
