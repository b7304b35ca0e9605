/-! # Keyspaces

The entries of a store in the order of their keys. The order is part of the type: every operation
is a filter of the entries, or puts one entry between those below and those above it, so it is kept
by construction. Two keyspaces that answer every look-up alike are therefore the same.
-/

namespace SessionTokens

/-- A value and the time from which it is gone. -/
structure Entry where
  value : String
  deadline : Nat
deriving DecidableEq, Repr

/-- The entry is still there at this time. -/
def Entry.isLive (e : Entry) (now : Nat) : Bool := now < e.deadline

/-- Entries by key, in ascending order of the keys. -/
structure Keyspace where
  entries : List (String × Entry)
  sorted : entries.Pairwise fun a b => a.1 < b.1

namespace Keyspace

/-- No entries. -/
def empty : Keyspace := ⟨[], .nil⟩

instance : Inhabited Keyspace := ⟨empty⟩

/-- The keys in their order. -/
def keys (k : Keyspace) : List String := k.entries.map (·.1)

/-- The entry of a key. -/
def get? (k : Keyspace) (key : String) : Option Entry :=
  (k.entries.find? (·.1 = key)).map (·.2)

/-- The entries that pass a test. -/
def filter (p : String × Entry → Bool) (k : Keyspace) : Keyspace :=
  ⟨k.entries.filter p, k.sorted.filter p⟩

/-- All but the entry of a key. -/
def erase (k : Keyspace) (key : String) : Keyspace := k.filter (·.1 ≠ key)

/-- The entries whose keys come after a key. -/
def after (k : Keyspace) (key : String) : Keyspace := k.filter (key < ·.1)

/-- The entries whose keys come before a key. -/
def before (k : Keyspace) (key : String) : Keyspace := k.filter (·.1 < key)

theorem fst_lt_of_mem_before {k : Keyspace} {key : String} {p : String × Entry}
    (h : p ∈ (k.before key).entries) : p.1 < key := by
  simpa using (List.mem_filter.1 h).2

theorem lt_fst_of_mem_after {k : Keyspace} {key : String} {p : String × Entry}
    (h : p ∈ (k.after key).entries) : key < p.1 := by
  simpa using (List.mem_filter.1 h).2

/-- Sets the entry of a key, whether it had one or not. -/
def insert (k : Keyspace) (key : String) (e : Entry) : Keyspace where
  entries := (k.before key).entries ++ (key, e) :: (k.after key).entries
  sorted := by
    refine List.pairwise_append.2 ⟨(k.before key).sorted, ?_, ?_⟩
    · exact List.pairwise_cons.2 ⟨fun p hp => lt_fst_of_mem_after hp, (k.after key).sorted⟩
    · intro p hp q hq
      have hlt := fst_lt_of_mem_before hp
      rcases List.mem_cons.1 hq with rfl | hq
      · exact hlt
      · exact String.lt_trans hlt (lt_fst_of_mem_after hq)

/-- The entries that are there at a time. -/
def live (k : Keyspace) (now : Nat) : Keyspace := k.filter (·.2.isLive now)

/-! ## Lists of entries -/

theorem entries_filter (p : String × Entry → Bool) (k : Keyspace) :
    (k.filter p).entries = k.entries.filter p := rfl

theorem ext_entries {k k' : Keyspace} (h : k.entries = k'.entries) : k = k' := by
  cases k
  cases k'
  cases h
  rfl

@[simp] theorem live_self (k : Keyspace) (now : Nat) : (k.live now).live now = k.live now := by
  apply ext_entries
  rw [live, live, entries_filter, entries_filter, List.filter_filter]
  simp only [Bool.and_self]

theorem after_after {k : Keyspace} {key key' : String} (h : key < key') :
    (k.after key).after key' = k.after key' := by
  apply ext_entries
  rw [after, after, after, entries_filter, entries_filter, entries_filter, List.filter_filter]
  refine List.filter_congr fun p _ => ?_
  by_cases hp : key' < p.1
  · simp [hp, String.lt_trans h hp]
  · simp [hp]

/-- Less comes after one of a keyspace's own keys than is there. -/
theorem length_after_lt {k : Keyspace} {key : String} (h : key ∈ k.keys) :
    (k.after key).entries.length < k.entries.length := by
  obtain ⟨p, hp, rfl⟩ := List.mem_map.mp h
  refine List.length_filter_lt_length_iff_exists.mpr ⟨p, hp, ?_⟩
  simp only [String.lt_irrefl, decide_false, Bool.false_eq_true, not_false_eq_true]

end Keyspace

end SessionTokens
