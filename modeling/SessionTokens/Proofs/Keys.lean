import SessionTokens.Key

/-!
# Every key has one owner

Keys are put together from a namespace, a subject and an identifier with
colons between them, and nothing is escaped; a subject may hold colons of its
own. What saves the schema is that the outer two parts do not: a namespace's
name ends at the first colon and an identifier begins after the last one, so
whatever stands between those two colons is the subject. Two plain keys are
therefore equal only part by part, and the test that a sweep puts to a key
asks exactly whether it was made for the subject.
-/

namespace SessionTokens

/-- The namespaces whose entries hold the identifier of a live token. -/
def Namespace.isLiveness : Namespace → Bool
  | .access | .refresh => true
  | .family | .used | .redeemed => false

theorem Namespace.colon_not_mem_name (ns : Namespace) :
    ':' ∉ ns.name.toList := by
  cases ns <;> decide

theorem Namespace.name_injective {ns ns' : Namespace} (h : ns.name = ns'.name) :
    ns = ns' := by
  cases ns <;> cases ns' <;> first | rfl | exact absurd h (by decide)

namespace Key

/-- An identifier as it is minted: something, with no colon in it. -/
def IsPlain (id : String) : Prop := id ≠ "" ∧ ':' ∉ id.toList

instance (id : String) : Decidable (IsPlain id) :=
  inferInstanceAs (Decidable (_ ∧ _))

theorem toList_make (ns subject id : String) :
    (make ns subject id).toList =
      ns.toList ++ ':' :: (subject.toList ++ ':' :: id.toList) := by
  simp [make, lead, String.toList_append]

/-- A list has one first colon. -/
theorem append_colon_inj {a a' b b' : List Char} (ha : ':' ∉ a) (ha' : ':' ∉ a')
    (h : a ++ ':' :: b = a' ++ ':' :: b') : a = a' ∧ b = b' := by
  induction a generalizing a' with
  | nil =>
      cases a' with
      | nil => exact ⟨rfl, (List.cons.inj h).2⟩
      | cons c cs => exact absurd ((List.cons.inj h).1 ▸ List.mem_cons_self) ha'
  | cons c cs ih =>
      cases a' with
      | nil => exact absurd ((List.cons.inj h).1 ▸ List.mem_cons_self) ha
      | cons c' cs' =>
          obtain ⟨rfl, htail⟩ := List.cons.inj h
          obtain ⟨rfl, hb⟩ := ih (fun hm => ha (List.mem_cons_of_mem _ hm))
            (fun hm => ha' (List.mem_cons_of_mem _ hm)) htail
          exact ⟨rfl, hb⟩

/-- Keys of different namespaces differ, whatever their other parts. -/
theorem ns_eq_of_make_eq {ns ns' : Namespace} {sub sub' id id' : String}
    (h : make ns.name sub id = make ns'.name sub' id') : ns = ns' := by
  have hl := congrArg String.toList h
  rw [toList_make, toList_make] at hl
  have hns := append_colon_inj ns.colon_not_mem_name ns'.colon_not_mem_name hl
  exact Namespace.name_injective (String.toList_injective hns.1)

theorem make_ne_of_ns_ne {ns ns' : Namespace} {sub sub' id id' : String}
    (h : ns ≠ ns') : make ns.name sub id ≠ make ns'.name sub' id' :=
  fun heq => h (ns_eq_of_make_eq heq)

/-- The last colon parts the subject from an identifier without one. -/
theorem make_inj_of_no_colon {ns ns' : Namespace} {sub sub' id id' : String}
    (hid : ':' ∉ id.toList) (hid' : ':' ∉ id'.toList)
    (h : make ns.name sub id = make ns'.name sub' id') :
    ns = ns' ∧ sub = sub' ∧ id = id' := by
  have hl := congrArg String.toList h
  rw [toList_make, toList_make] at hl
  have htail :=
    append_colon_inj ns.colon_not_mem_name ns'.colon_not_mem_name hl
  have hrev := congrArg List.reverse htail.2
  simp only [List.reverse_append, List.reverse_cons, List.append_assoc,
    List.singleton_append] at hrev
  obtain ⟨hids, hsubs⟩ :=
    append_colon_inj (by simpa using hid) (by simpa using hid') hrev
  exact ⟨ns_eq_of_make_eq h, String.toList_injective (List.reverse_inj.mp hsubs),
    String.toList_injective (List.reverse_inj.mp hids)⟩

/-- Within a namespace plain keys are equal only part by part. -/
theorem make_injective {ns : Namespace} {sub sub' id id' : String}
    (hid : IsPlain id) (hid' : IsPlain id')
    (h : make ns.name sub id = make ns.name sub' id') :
    sub = sub' ∧ id = id' :=
  (make_inj_of_no_colon hid.2 hid'.2 h).2

/-! ## Ownership -/

/-- A key belongs to a subject in a namespace exactly when it was made for
them with a plain identifier. -/
theorem belongsTo_iff {key ns sub : String} :
    belongsTo key ns sub = true ↔ ∃ id, IsPlain id ∧ key = make ns sub id := by
  simp only [belongsTo, Bool.and_eq_true, List.isPrefixOf_iff_prefix,
    Bool.not_eq_true', List.isEmpty_eq_false_iff, List.contains_eq_mem,
    decide_eq_false_iff_not]
  constructor
  · rintro ⟨⟨rest, hrest⟩, hne, hcolon⟩
    rw [← hrest, List.drop_left] at hne hcolon
    refine ⟨String.ofList rest, ⟨?_, ?_⟩, ?_⟩
    · intro h
      exact hne (by simpa using congrArg String.toList h)
    · simpa using hcolon
    · apply String.toList_injective
      rw [make, String.toList_append, String.toList_ofList, hrest]
  · rintro ⟨id, ⟨hne, hcolon⟩, rfl⟩
    rw [make, String.toList_append, List.drop_left]
    refine ⟨List.prefix_append _ _, ?_, hcolon⟩
    intro h
    exact hne (String.toList_injective (by simpa using h))

theorem belongsTo_make {ns : Namespace} {sub id : String} (h : IsPlain id) :
    belongsTo (make ns.name sub id) ns.name sub = true :=
  belongsTo_iff.mpr ⟨id, h, rfl⟩

/-- The key is one of the subject's session keys. -/
def isSessionKeyOf (sub key : String) : Bool :=
  Namespace.session.any fun ns => belongsTo key ns.name sub

theorem isSessionKeyOf_iff {sub key : String} :
    isSessionKeyOf sub key = true ↔
      ∃ ns ∈ Namespace.session, ∃ id,
        IsPlain id ∧ key = make ns.name sub id := by
  simp only [isSessionKeyOf, List.any_eq_true, belongsTo_iff]

theorem isSessionKeyOf_make {ns : Namespace} {sub id : String}
    (hns : ns ∈ Namespace.session) (h : IsPlain id) :
    isSessionKeyOf sub (make ns.name sub id) = true :=
  isSessionKeyOf_iff.mpr ⟨ns, hns, id, h, rfl⟩

/-- The keys of live tokens are session keys. -/
theorem isSessionKeyOf_of_isLiveness {ns : Namespace} {sub id : String}
    (hns : ns.isLiveness = true) (h : IsPlain id) :
    isSessionKeyOf sub (make ns.name sub id) = true := by
  refine isSessionKeyOf_make ?_ h
  cases ns <;> first | decide | cases hns

/-- A plain key is a session key of no subject but its own. -/
theorem isSessionKeyOf_make_of_ne {ns : Namespace} {sub sub' id : String}
    (hid : IsPlain id) (h : sub' ≠ sub) :
    isSessionKeyOf sub' (make ns.name sub id) = false := by
  rw [Bool.eq_false_iff]
  intro hown
  obtain ⟨ns', _, id', hid', heq⟩ := isSessionKeyOf_iff.mp hown
  have hns := ns_eq_of_make_eq heq
  subst hns
  exact h (make_injective hid hid' heq).1.symm

/-- The mark of a redeemed token is no session key. -/
theorem isSessionKeyOf_redeemed (sub sub' digest : String) :
    isSessionKeyOf sub' (redeemed sub digest) = false := by
  rw [Bool.eq_false_iff]
  intro hown
  obtain ⟨ns', hns', id', _, heq⟩ := isSessionKeyOf_iff.mp hown
  have hns := ns_eq_of_make_eq heq
  subst hns
  exact absurd hns' (by decide)

end Key

end SessionTokens
