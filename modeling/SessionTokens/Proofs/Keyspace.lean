import SessionTokens.Store.Keyspace

/-!
# Looking up keys

A keyspace is a sorted list, and everything that is ever said about it is said
through `get?`. Since the keys ascend, a key has one entry at most, so being
the entry of a key and standing in the list are the same thing; every law
below is read off the list along that equivalence, and nothing later looks at
the list again.
-/

namespace SessionTokens.Keyspace

theorem snd_eq_of_mem {l : List (String × Entry)}
    (h : l.Pairwise fun a b => a.1 < b.1) {key : String} {e₁ e₂ : Entry}
    (h₁ : (key, e₁) ∈ l) (h₂ : (key, e₂) ∈ l) : e₁ = e₂ := by
  induction h with
  | nil => cases h₁
  | @cons p l hlt _ ih =>
      rcases List.mem_cons.mp h₁ with rfl | h₁'
      · rcases List.mem_cons.mp h₂ with heq | h₂'
        · exact (Prod.mk.inj heq).2.symm
        · exact absurd (hlt _ h₂') (String.lt_irrefl _)
      · rcases List.mem_cons.mp h₂ with rfl | h₂'
        · exact absurd (hlt _ h₁') (String.lt_irrefl _)
        · exact ih h₁' h₂'

/-- The entry of a key is the one that stands beside it. -/
theorem get?_eq_some {k : Keyspace} {key : String} {e : Entry} :
    k.get? key = some e ↔ (key, e) ∈ k.entries := by
  constructor
  · intro h
    obtain ⟨⟨key', e'⟩, hf, rfl⟩ := Option.map_eq_some_iff.mp h
    have hkey : key' = key := by simpa using List.find?_some hf
    subst hkey
    exact List.mem_of_find?_eq_some hf
  · intro h
    rw [get?]
    cases hf : k.entries.find? (·.1 = key) with
    | none =>
        have hnone := List.find?_eq_none.mp hf _ h
        simp at hnone
    | some p =>
        obtain ⟨key', e'⟩ := p
        have hkey : key' = key := by simpa using List.find?_some hf
        subst hkey
        have hmem := List.mem_of_find?_eq_some hf
        rw [Option.map_some, snd_eq_of_mem k.sorted hmem h]

/-- Two keyspaces that answer every look-up alike are the same. -/
theorem ext_get? {k k' : Keyspace} (h : ∀ key, k.get? key = k'.get? key) :
    k = k' := by
  have hmem : ∀ p, p ∈ k.entries ↔ p ∈ k'.entries := by
    rintro ⟨key, e⟩
    rw [← get?_eq_some, ← get?_eq_some, h]
  have hnodup : ∀ k : Keyspace, k.entries.Nodup := fun k => by
    refine k.sorted.imp fun {a b} hlt heq => ?_
    subst heq
    exact String.lt_irrefl _ hlt
  have hperm : k.entries.Perm k'.entries :=
    (List.perm_ext_iff_of_nodup (hnodup k) (hnodup k')).mpr hmem
  have heq : k.entries = k'.entries :=
    hperm.eq_of_pairwise
      (fun a b _ _ hab hba =>
        absurd (String.lt_trans hab hba) (String.lt_irrefl _))
      k.sorted k'.sorted
  cases k
  cases k'
  cases heq
  rfl

/-! ## Each operation, through `get?` -/

@[simp] theorem get?_empty (key : String) : empty.get? key = none := rfl

theorem get?_filter (p : String × Entry → Bool) (k : Keyspace) (key : String) :
    (k.filter p).get? key = (k.get? key).filter fun e => p (key, e) := by
  ext e
  rw [get?_eq_some, filter, List.mem_filter, Option.filter_eq_some_iff,
    get?_eq_some]

theorem get?_filter_eq_some {p : String × Entry → Bool} {k : Keyspace}
    {key : String} {e : Entry} :
    (k.filter p).get? key = some e ↔ k.get? key = some e ∧ p (key, e) := by
  rw [get?_filter, Option.filter_eq_some_iff]

theorem get?_erase (k : Keyspace) (key key' : String) :
    (k.erase key).get? key' = if key' = key then none else k.get? key' := by
  rw [erase, get?_filter]
  split
  · next heq => subst heq; cases k.get? key' <;> simp
  · next hne => cases k.get? key' <;> simp [hne]

@[simp] theorem get?_erase_self (k : Keyspace) (key : String) :
    (k.erase key).get? key = none := by rw [get?_erase, if_pos rfl]

theorem get?_erase_of_ne {k : Keyspace} {key key' : String} (h : key' ≠ key) :
    (k.erase key).get? key' = k.get? key' := by rw [get?_erase, if_neg h]

theorem get?_insert (k : Keyspace) (key : String) (e : Entry) (key' : String) :
    (k.insert key e).get? key' =
      if key' = key then some e else k.get? key' := by
  ext e'
  rw [get?_eq_some]
  simp only [insert, before, after, filter, List.mem_append, List.mem_cons,
    List.mem_filter, decide_eq_true_eq, Prod.mk.injEq]
  split
  · next heq =>
      subst heq
      simp only [String.lt_irrefl, and_false, false_or, or_false, true_and,
        Option.some.injEq]
      exact eq_comm
  · next hne =>
      have hlt : key' < key ∨ key < key' := by
        rcases Std.lt_trichotomy key' key with h | h | h
        · exact .inl h
        · exact absurd h hne
        · exact .inr h
      rw [get?_eq_some]
      constructor
      · rintro (⟨h, -⟩ | ⟨h, -⟩ | ⟨h, -⟩)
        · exact h
        · exact absurd h hne
        · exact h
      · intro h
        rcases hlt with hlt | hlt
        · exact .inl ⟨h, hlt⟩
        · exact .inr (.inr ⟨h, hlt⟩)

@[simp] theorem get?_insert_self (k : Keyspace) (key : String) (e : Entry) :
    (k.insert key e).get? key = some e := by rw [get?_insert, if_pos rfl]

theorem get?_insert_of_ne {k : Keyspace} {key key' : String} {e : Entry}
    (h : key' ≠ key) : (k.insert key e).get? key' = k.get? key' := by
  rw [get?_insert, if_neg h]

/-! ## What is there at a time -/

theorem get?_live (k : Keyspace) (now : Nat) (key : String) :
    (k.live now).get? key = (k.get? key).filter fun e => e.isLive now :=
  get?_filter ..

theorem get?_live_eq_some {k : Keyspace} {now : Nat} {key : String}
    {e : Entry} :
    (k.live now).get? key = some e ↔
      k.get? key = some e ∧ now < e.deadline := by
  rw [get?_live, Option.filter_eq_some_iff, Entry.isLive, decide_eq_true_eq]

/-- What is dead at a time is dead at every later one. -/
theorem live_live {k : Keyspace} {now now' : Nat} (h : now ≤ now') :
    (k.live now).live now' = k.live now' := by
  refine ext_get? fun key => ?_
  ext e
  rw [get?_live_eq_some, get?_live_eq_some, get?_live_eq_some]
  exact ⟨fun ⟨⟨hk, _⟩, hd⟩ => ⟨hk, hd⟩, fun ⟨hk, hd⟩ => ⟨⟨hk, by omega⟩, hd⟩⟩

@[simp] theorem live_empty (now : Nat) : empty.live now = empty := rfl

/-- Taking keys away does not depend on what is dead. -/
theorem live_filter_key (k : Keyspace) (now : Nat) (p : String → Bool) :
    (k.filter fun x => p x.1).live now =
      (k.live now).filter fun x => p x.1 := by
  refine ext_get? fun key => ?_
  ext e
  simp only [get?_live_eq_some, get?_filter_eq_some]
  exact ⟨fun ⟨⟨hk, hp⟩, hd⟩ => ⟨⟨hk, hd⟩, hp⟩,
    fun ⟨⟨hk, hd⟩, hp⟩ => ⟨⟨hk, hp⟩, hd⟩⟩

theorem live_erase (k : Keyspace) (now : Nat) (key : String) :
    (k.erase key).live now = (k.live now).erase key := by
  simpa [erase] using live_filter_key k now (· ≠ key)

theorem live_insert (k : Keyspace) (now : Nat) (key : String) (e : Entry) :
    (k.insert key e).live now = ((k.live now).insert key e).live now := by
  refine ext_get? fun key' => ?_
  rw [get?_live, get?_live, get?_insert, get?_insert]
  split
  · rfl
  · rw [← get?_live, ← get?_live, live_self]

/-- Setting an entry is seen at its key only, and only while it is there. -/
theorem get?_live_insert (k : Keyspace) (now : Nat) (key : String) (e : Entry)
    (key' : String) :
    ((k.insert key e).live now).get? key' =
      if key' = key then if now < e.deadline then some e else none
      else (k.live now).get? key' := by
  rw [get?_live, get?_insert]
  split
  · simp [Option.filter_some, Entry.isLive]
  · rw [get?_live]

end SessionTokens.Keyspace
