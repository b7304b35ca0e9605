import SessionTokens.Proofs.Enumeration

/-!
# Whose key it is

A key is read from both its ends. Its namespace ends at the first colon and its
identifier begins after the last, so what stands between them is its subject,
whatever colons that has of its own: a key has one owner.

The pattern of a subject reads a key from the front only. As everything in the
subject that would mean something else is escaped, it means the keys with the
subject's lead and no others. Among them may be keys of a subject that goes on
with a colon, so whatever is found is asked for its owner before it is removed.
-/

namespace SessionTokens

namespace Key

/-- The key of an entry, by its namespace. -/
def builder : Namespace → String → String → String
  | .access => access
  | .refresh => refresh
  | .family => family
  | .used => used
  | .redeemed => redeemed

theorem builder_eq_make (ns : Namespace) (sub id : String) :
    builder ns sub id = make ns.name sub id := by
  cases ns <;> rfl

/-- A key belongs to nobody else. -/
theorem owner_unique {key sub sub' : String} {ns ns' : Namespace}
    (h : belongsTo key ns.name sub = true)
    (h' : belongsTo key ns'.name sub' = true) : ns' = ns ∧ sub' = sub := by
  obtain ⟨id, hid, rfl⟩ := belongsTo_iff.mp h
  obtain ⟨id', hid', heq⟩ := belongsTo_iff.mp h'
  obtain ⟨hns, hsub, -⟩ := make_inj_of_no_colon hid.2 hid'.2 heq
  exact ⟨hns.symm, hsub.symm⟩

theorem belongsTo_builder_iff {ns ns' : Namespace} {sub sub' id : String}
    (hid : IsPlain id) :
    belongsTo (builder ns sub id) ns'.name sub' = true ↔
      ns' = ns ∧ sub' = sub := by
  have hown : belongsTo (builder ns sub id) ns.name sub = true := by
    rw [builder_eq_make]
    exact belongsTo_make hid
  constructor
  · exact owner_unique hown
  · rintro ⟨rfl, rfl⟩
    exact hown

/-- Whatever colons there are in subjects, keys with plain identifiers are equal
only if they were built alike; such a key belongs to the subject that it was
built for, in the namespace that it was built in, and to no other; and a key
that belongs to anybody at all belongs to one subject in one namespace, and
consists of the two and a plain identifier. -/
theorem one_owner :
    (∀ (ns ns' : Namespace) (sub sub' id id' : String),
      IsPlain id → IsPlain id' → builder ns sub id = builder ns' sub' id' →
      ns = ns' ∧ sub = sub' ∧ id = id') ∧
    (∀ (ns ns' : Namespace) (sub sub' id : String), IsPlain id →
      (belongsTo (builder ns sub id) ns'.name sub' = true ↔
        ns' = ns ∧ sub' = sub)) ∧
    ∀ (key : String) (ns : Namespace) (sub : String),
      belongsTo key ns.name sub = true →
      (∀ (ns' : Namespace) (sub' : String),
        belongsTo key ns'.name sub' = true → ns' = ns ∧ sub' = sub) ∧
      ∃ id, IsPlain id ∧ key = ns.name ++ ":" ++ sub ++ ":" ++ id := by
  refine ⟨fun ns ns' sub sub' id id' hid hid' h => ?_,
    fun ns ns' sub sub' id hid => belongsTo_builder_iff hid,
    fun key ns sub h => ⟨fun ns' sub' => owner_unique h, ?_⟩⟩
  · rw [builder_eq_make, builder_eq_make] at h
    exact make_inj_of_no_colon hid.2 hid'.2 h
  · exact belongsTo_iff.mp h

/-- The subject of this key ends with a colon, and its lead is the lead of a
shorter subject as well. -/
theorem one_owner_of_subject_with_colons :
    let key := refresh "u::" "s"
    IsPlain "s" ∧ belongsTo key "refresh" "u::" = true ∧
      (∀ sub, belongsTo key "refresh" sub = true → sub = "u::") ∧
      (∀ ns' sub' id', IsPlain id' → key = builder ns' sub' id' →
        ns' = .refresh ∧ sub' = "u::" ∧ id' = "s") ∧
      (∀ rest, key = "refresh" ++ ":" ++ "u" ++ ":" ++ rest →
        belongsTo key "refresh" "u" = false) := by
  intro key
  obtain ⟨hinj, hbuilt, hown⟩ := one_owner
  have hs : IsPlain "s" := by decide
  have hkey : belongsTo key "refresh" "u::" = true :=
    (hbuilt .refresh .refresh "u::" "u::" "s" hs).mpr ⟨rfl, rfl⟩
  refine ⟨hs, hkey, fun sub hsub => ?_, fun ns' sub' id' hid' heq => ?_,
    fun rest _ => ?_⟩
  · exact ((hown key .refresh "u::" hkey).1 .refresh sub hsub).2
  · obtain ⟨hns, hsub, hid⟩ :=
      hinj .refresh ns' "u::" sub' "s" id' hs hid' heq
    exact ⟨hns.symm, hsub.symm, hid.symm⟩
  · rw [Bool.eq_false_iff]
    intro h
    exact absurd ((hown key .refresh "u::" hkey).1 .refresh "u" h).2 (by decide)

end Key

/-! ## Finding a subject's keys -/

namespace Enumeration

/-- A subject's pattern matches exactly the keys that start with the subject's
lead, letter by letter, whatever the subject consists of. So an enumeration by
it finds no other keys, and it finds all that are there: in one go, or over
pages with anything in between, if nobody takes its cursor and the numbers for
cursors last. The subject's own keys are always among them. -/
theorem subject_pattern_is_exact (ns : Namespace) (sub : String) :
    let pattern := Key.subjectPattern ns.name sub
    (∀ key, Glob.isMatch pattern key = true ↔
      ∃ rest, key = ns.name ++ ":" ++ sub ++ ":" ++ rest) ∧
    (∀ (w : World) (count : Nat), w.outages .scanPage = none →
      ∃ keys w', Store.scan pattern count w = (.ok keys, w') ∧
        w'.live = w.live ∧
        (∀ key, key ∈ keys ↔ key ∈ w.live.keys ∧
          ∃ rest, key = ns.name ++ ":" ++ sub ++ ":" ++ rest) ∧
        ∀ key ∈ w.live.keys, Key.belongsTo key ns.name sub = true →
          key ∈ keys) ∧
    ∀ (s : MemoryStore) (now : Nat) (turns : List Turn),
      (start s now).Undisturbed pattern turns →
      ((start s now).run pattern turns).handedOut <
        MemoryStore.cursorCount →
      let e := (start s now).run pattern turns
      (∀ key ∈ e.keys, ∃ rest,
        key = ns.name ++ ":" ++ sub ++ ":" ++ rest) ∧
      (e.cursor = none → ∀ key, Key.belongsTo key ns.name sub = true →
        (∀ v ∈ e.served, key ∈ v.live.keys) → key ∈ e.keys) := by
  intro pattern
  have hmatch : ∀ key, Glob.isMatch pattern key = true ↔
      ∃ rest, key = ns.name ++ ":" ++ sub ++ ":" ++ rest := by
    intro key
    refine Glob.isMatch_subjectPattern.trans ⟨?_, ?_⟩
    · rintro ⟨rest, hrest⟩
      refine ⟨String.ofList rest, String.toList_injective ?_⟩
      rw [String.toList_append, String.toList_ofList]
      exact hrest.symm
    · rintro ⟨rest, rfl⟩
      rw [String.toList_append]
      exact List.prefix_append _ _
  refine ⟨hmatch, fun w count hscan => ?_,
    fun s now turns hundisturbed hfew => ?_⟩
  · obtain ⟨w', hfound, hw'⟩ := Store.scan_of_none hscan pattern count
    refine ⟨_, w', hfound, hw'.live, fun key => ?_, fun key hkey hown => ?_⟩
    · rw [List.mem_filter, hmatch]
    · exact List.mem_filter.mpr ⟨hkey, Glob.isMatch_of_belongsTo hown⟩
  · intro e
    obtain ⟨-, hsound⟩ := run_sound (numbered_start s now)
      (sound_start pattern s now) hundisturbed hfew
    refine ⟨fun key hkey => ?_, fun hover key hown hlive => ?_⟩
    · obtain ⟨v, hv, hmem⟩ := List.mem_flatMap.mp hkey
      obtain ⟨page, hreply, hpage⟩ := hsound.replies v hv
      rw [Served.keys, hreply] at hmem
      exact (hmatch key).mp (hpage key hmem).2
    · refine hsound.found key (Glob.isMatch_of_belongsTo hown) hlive ?_
      intro c hc
      cases hover.symm.trans hc

/-- A star in the subject stands for itself, so the last session is left out;
the second is another subject's, and has the same lead. -/
theorem subject_pattern_is_exact_crowded :
    let pattern := Key.subjectPattern "access" "a:*"
    let turns : List Turn :=
      [.page 1, .other (.delete ["access:a:bc:s3"]), .page 5]
    let e := (start World.crowded.store 10).run pattern turns
    World.crowded.outages .scanPage = none ∧
      (∃ keys w', Store.scan pattern 1 .crowded = (.ok keys, w') ∧
        "access:a:*:s1" ∈ keys ∧ "access:a:*:x:s2" ∈ keys ∧
        "access:a:bc:s3" ∉ keys) ∧
      (start World.crowded.store 10).Undisturbed pattern turns ∧
      e.handedOut < MemoryStore.cursorCount ∧ e.cursor = none ∧
      Key.belongsTo "access:a:*:s1" "access" "a:*" = true ∧
      "access:a:*:s1" ∈ e.keys ∧ "access:a:bc:s3" ∉ e.keys := by
  intro pattern turns e
  obtain ⟨-, hscan, hrun⟩ := subject_pattern_is_exact .access "a:*"
  have hother : ¬ ∃ rest,
      "access:a:bc:s3" = "access" ++ ":" ++ "a:*" ++ ":" ++ rest := by
    rintro ⟨rest, h⟩
    have hchar := congrArg (fun text : String => text.toList[9]?) h
    simp at hchar
  have hundisturbed :
      (start World.crowded.store 10).Undisturbed pattern turns :=
    ⟨trivial, fun _ _ _ => nofun, trivial, trivial⟩
  have hfew : e.handedOut < MemoryStore.cursorCount := by decide +kernel
  have hover : e.cursor = none := by decide +kernel
  have hown : Key.belongsTo "access:a:*:s1" "access" "a:*" = true := by
    decide +kernel
  obtain ⟨keys, w', hfound, -, hkeys, -⟩ := hscan .crowded 1 rfl
  obtain ⟨hlead, hall⟩ := hrun World.crowded.store 10 turns hundisturbed hfew
  refine ⟨rfl, ⟨keys, w', hfound, ?_, ?_, ?_⟩, hundisturbed, hfew, hover, hown,
    ?_, fun hmem => hother (hlead _ hmem)⟩
  · exact (hkeys _).mpr ⟨by decide +kernel, "s1", rfl⟩
  · exact (hkeys _).mpr ⟨by decide +kernel, "x:s2", rfl⟩
  · exact fun hmem => hother ((hkeys _).mp hmem).2
  · exact hall hover _ hown (by decide +kernel)

end Enumeration

end SessionTokens
