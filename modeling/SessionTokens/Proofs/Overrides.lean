import SessionTokens.Proofs.Spellings
import SessionTokens.Settings.Load

/-!
# What a variable leaves in a setting

Sources are laid over one another, so a variable that names a setting decides
what is found in its place, whatever the files say and whatever came before.
What comes after it leaves the place alone, unless it names the place itself or
a section around it; or it puts something under the place, and then no text is
found there and nothing is loaded. Variables are visited in no particular order,
so it is chance which of them come after it. If all the others name other
settings, the order makes no difference (`overrides_of_mem_keys`).

So a text setting that is loaded is the text of the variable's value. This is
the value as the variable has it only if the value is written the way the
program writes it back (`WritesBack`): a secret `007` is loaded as `7`, and so
is the secret `7`.
-/

namespace SessionTokens

/-- A setting that is a text. -/
inductive TextSetting where
  | accessSecret | verificationSecret | resetPasswordSecret | algorithm
  | provider | url | keyPrefix
  | level | format
deriving DecidableEq

namespace TextSetting

/-- The names of its sections from the outside and its own name. -/
def path : TextSetting → List String
  | .accessSecret => ["tokens", "access_secret"]
  | .verificationSecret => ["tokens", "verification_secret"]
  | .resetPasswordSecret => ["tokens", "reset_password_secret"]
  | .algorithm => ["tokens", "algorithm"]
  | .provider => ["store", "provider"]
  | .url => ["store", "redis", "url"]
  | .keyPrefix => ["store", "redis", "key_prefix"]
  | .level => ["logging", "level"]
  | .format => ["logging", "format"]

/-- What a variable for it names. -/
def key (t : TextSetting) : String := ".".intercalate t.path

/-- The text in a set of settings. -/
def get (t : TextSetting) (s : Settings) : String :=
  match t with
  | .accessSecret => s.tokens.accessSecret
  | .verificationSecret => s.tokens.verificationSecret
  | .resetPasswordSecret => s.tokens.resetPasswordSecret
  | .algorithm => s.tokens.algorithm
  | .provider => s.store.provider
  | .url => s.store.remote.url
  | .keyPrefix => s.store.remote.keyPrefix
  | .level => s.logging.level
  | .format => s.logging.format

end TextSetting

/-! ## Names -/

namespace Step

/-- The text can be the name of a section or a setting. -/
def IsName (name : String) : Prop :=
  name.toList ≠ [] ∧ ∀ c ∈ name.toList, isNameChar c = true

theorem takeWhile_name {name : String} (h : IsName name) (names : List String) :
    (name.toList ++ names.flatMap fun n => '.' :: n.toList).takeWhile
      isNameChar = name.toList := by
  rw [List.takeWhile_append_of_pos h.2]
  cases names <;> exact List.append_nil _

theorem dropWhile_name {name : String} (h : IsName name) (names : List String) :
    (name.toList ++ names.flatMap fun n => '.' :: n.toList).dropWhile
      isNameChar = names.flatMap fun n => '.' :: n.toList := by
  rw [List.dropWhile_append_of_pos h.2]
  cases names <;> rfl

theorem more?_names {names : List String} (h : ∀ n ∈ names, IsName n) :
    more? (names.flatMap fun n => '.' :: n.toList) =
      some (names.map Step.field) := by
  induction names with
  | nil => rw [List.flatMap_nil, more?]; rfl
  | cons name names ih =>
      have hname := h name List.mem_cons_self
      rw [List.flatMap_cons, List.cons_append, more?, takeWhile_name hname,
        dropWhile_name hname, List.isEmpty_eq_false_iff.mpr hname.1,
        ih fun n hn => h n (List.mem_cons_of_mem name hn), String.ofList_toList]
      rfl

theorem toList_intercalate_point (name : String) (names : List String) :
    (".".intercalate (name :: names)).toList =
      name.toList ++ names.flatMap fun n => '.' :: n.toList := by
  rw [String.toList_intercalate]
  induction names generalizing name with
  | nil => simp
  | cons next names ih =>
      rw [List.map_cons, List.map_cons, List.intercalate_cons_cons,
        ← List.map_cons, ih, List.flatMap_cons, List.append_assoc]
      rfl

/-- A key of names with points between them names the place at the end of their
path. -/
theorem ofKey_intercalate {names : List String} (hne : names ≠ [])
    (h : ∀ n ∈ names, IsName n) :
    ofKey (".".intercalate names) = names.map Step.field := by
  obtain ⟨name, names, rfl⟩ := List.exists_cons_of_ne_nil hne
  have hname := h name List.mem_cons_self
  rw [ofKey, toList_intercalate_point, takeWhile_name hname,
    dropWhile_name hname, List.isEmpty_eq_false_iff.mpr hname.1,
    more?_names fun n hn => h n (List.mem_cons_of_mem name hn),
    String.ofList_toList]
  rfl

end Step

/-! ## Places -/

namespace Given

/-- The value of a field. -/
def field? (name : String) (fields : List (String × Given)) : Option Given :=
  (fields.find? (·.1 = name)).map (·.2)

/-- The value at the end of a path of names. -/
def at? : List String → Given → Option Given
  | [], v => some v
  | name :: names, v => (field? name v.fields).bind (at? names)

theorem field?_alter_self (name : String) (f : Given → Given)
    (fields : List (String × Given)) :
    field? name (alter name f fields) =
      some (f ((field? name fields).getD .null)) := by
  induction fields with
  | nil => simp [alter, field?]
  | cons entry rest ih =>
      obtain ⟨n, v⟩ := entry
      rw [alter]
      by_cases hname : n = name
      · rw [if_pos hname, field?, field?, List.find?_cons_of_pos (by simpa),
          List.find?_cons_of_pos (by simpa)]
        rfl
      · rw [if_neg hname, field?, field?, List.find?_cons_of_neg (by simpa),
          List.find?_cons_of_neg (by simpa)]
        exact ih

theorem field?_alter_of_ne {name other : String} (h : name ≠ other)
    (f : Given → Given) (fields : List (String × Given)) :
    field? name (alter other f fields) = field? name fields := by
  induction fields with
  | nil => simp [alter, field?, Ne.symm h]
  | cons entry rest ih =>
      obtain ⟨n, v⟩ := entry
      rw [alter]
      by_cases hother : n = other
      · have hname : n ≠ name := fun heq => h (heq.symm.trans hother)
        rw [if_pos hother, field?, field?, List.find?_cons_of_neg (by simpa),
          List.find?_cons_of_neg (by simpa)]
      · rw [if_neg hother]
        by_cases hname : n = name
        · rw [field?, field?, List.find?_cons_of_pos (by simpa),
            List.find?_cons_of_pos (by simpa)]
        · rw [field?, field?, List.find?_cons_of_neg (by simpa),
            List.find?_cons_of_neg (by simpa)]
          exact ih

/-- What is changed is found changed. -/
theorem at?_alterAt_self (f : Given → Given) (names : List String)
    (v : Given) :
    ∃ u, at? names (alterAt f (names.map Step.field) v) = some (f u) := by
  induction names generalizing v with
  | nil => exact ⟨v, rfl⟩
  | cons name names ih =>
      obtain ⟨u, hu⟩ := ih ((field? name v.fields).getD .null)
      refine ⟨u, ?_⟩
      rw [List.map_cons, alterAt, at?, fields, field?_alter_self]
      exact hu

/-- The steps lead neither to the end of the path nor to a table on the way,
nor anywhere by position. -/
def Apart : List String → List Step → Prop
  | [], steps => steps ≠ []
  | _ :: _, [] => False
  | name :: names, .field other :: steps => name = other → Apart names steps
  | _ :: _, .item _ :: _ => False

theorem apart_map_field_iff {names others : List String} :
    Apart names (others.map Step.field) ↔ ¬ others <+: names := by
  induction names generalizing others with
  | nil => rw [Apart, List.prefix_nil, Ne, List.map_eq_nil_iff]
  | cons name names ih =>
      cases others with
      | nil => exact iff_of_false id fun h => h List.nil_prefix
      | cons other others =>
          rw [List.map_cons, Apart, ih, List.cons_prefix_cons, not_and,
            eq_comm]

/-- A change in another place leaves a value, or puts something under it. -/
theorem at?_alterAt_of_apart (f : Given → Given) {names : List String}
    {steps : List Step} {v x : Given} (hapart : Apart names steps)
    (hat : at? names v = some x) :
    at? names (alterAt f steps v) = some x ∨
      ∃ y, at? names (alterAt f steps v) = some y ∧ y.asText? = none := by
  induction names generalizing steps v with
  | nil =>
      obtain ⟨step, rest, rfl⟩ := List.exists_cons_of_ne_nil hapart
      cases step with
      | field name => exact .inr ⟨_, rfl, rfl⟩
      | item position => exact .inr ⟨_, rfl, rfl⟩
  | cons name names ih =>
      cases steps with
      | nil => exact hapart.elim
      | cons step rest =>
          cases step with
          | item position => exact hapart.elim
          | field other =>
              rw [alterAt, at?, fields]
              by_cases hname : name = other
              · obtain ⟨u, hu, hx⟩ := Option.bind_eq_some_iff.mp hat
                rw [← hname, field?_alter_self, hu]
                exact ih (hapart hname) hx
              · rw [field?_alter_of_ne hname]
                exact .inl hat

/-- A scalar covers what it is laid over. -/
theorem overlay_of_asText? {v : Given} {s : String} (h : v.asText? = some s)
    (below : Given) : overlay below v = v := by
  cases v with
  | list items => cases h
  | table fields => cases h
  | _ => rfl

/-- At the end of the path there is a value, and it is the given text or no
text. -/
def Holds (names : List String) (s : String) (v : Given) : Prop :=
  ∃ x, at? names v = some x ∧ ∀ r, x.asText? = some r → r = s

theorem holds_overlay (names : List String) (v : String) (below : Given) :
    Holds names (loadedText v)
      (alterAt (fun u => overlay u (ofVariable v)) (names.map Step.field)
        below) := by
  obtain ⟨u, hu⟩ :=
    at?_alterAt_self (fun u => overlay u (ofVariable v)) names below
  have htext := asText?_ofVariable v
  rw [overlay_of_asText? htext] at hu
  refine ⟨_, hu, fun r hr => ?_⟩
  rw [htext] at hr
  exact (Option.some.inj hr).symm

theorem Holds.alterAt {names : List String} {s : String} {steps : List Step}
    {v : Given} (h : Holds names s v) (hapart : Apart names steps)
    (f : Given → Given) : Holds names s (alterAt f steps v) := by
  obtain ⟨x, hx, htext⟩ := h
  rcases at?_alterAt_of_apart f hapart hx with hsame | ⟨y, hy, hnone⟩
  · exact ⟨x, hsame, htext⟩
  · refine ⟨y, hy, fun r hr => ?_⟩
    rw [hnone] at hr
    cases hr

/-- What a later source says in other places does not matter. -/
theorem Holds.addSource {names : List String} {s : String}
    {source : List (String × Given)} {v : Given} (h : Holds names s v)
    (hapart : ∀ entry ∈ source, Apart names (Step.ofKey entry.1)) :
    Holds names s (v.addSource source) := by
  induction source generalizing v with
  | nil => exact h
  | cons entry rest ih =>
      have hhead := hapart entry List.mem_cons_self
      have hrest := fun e he => hapart e (List.mem_cons_of_mem entry he)
      exact ih (h.alterAt hhead _) hrest

theorem addSource_append (v : Given) (source later : List (String × Given)) :
    v.addSource (source ++ later) = (v.addSource source).addSource later :=
  List.foldl_append

end Given

/-! ## Reading -/

namespace Given

theorem at?_cons_eq_some {name : String} {names : List String} {v x : Given}
    (h : at? (name :: names) v = some x) :
    ∃ fields u, v = .table fields ∧ field? name fields = some u ∧
      at? names u = some x := by
  obtain ⟨u, hu, hx⟩ := Option.bind_eq_some_iff.mp h
  cases v with
  | table fields => exact ⟨fields, u, rfl, hu, hx⟩
  | _ => cases hu

theorem at?_pair_eq_some {outer inner : String} {v x : Given}
    (h : at? [outer, inner] v = some x) :
    ∃ fields below, v = .table fields ∧
      field? outer fields = some (.table below) ∧
      field? inner below = some x := by
  obtain ⟨fields, u, hv, hu, h⟩ := at?_cons_eq_some h
  obtain ⟨below, y, rfl, hy, h⟩ := at?_cons_eq_some h
  exact ⟨fields, below, hv, hu, Option.some.inj h ▸ hy⟩

theorem read_of_orDefault {α : Type} {read : Given → Option α} {default r : α}
    {o : Option Given} {x : Given}
    (h : Shape.orDefault read default o = some r) (hx : o = some x) :
    read x = some r := by
  subst hx
  exact h

end Given

open Given

variable {fields : List (String × Given)}

theorem TokenSettings.asText?_of_read? {r : TokenSettings}
    (h : read? Given.shape (.table fields) = some r) (x : Given) :
    (field? "access_secret" fields = some x →
      x.asText? = some r.accessSecret) ∧
    (field? "verification_secret" fields = some x →
      x.asText? = some r.verificationSecret) ∧
    (field? "reset_password_secret" fields = some x →
      x.asText? = some r.resetPasswordSecret) ∧
    (field? "algorithm" fields = some x →
      x.asText? = some r.algorithm) := by
  simp only [read?, Given.shape, record?, names, List.map, Option.bind_eq_bind,
    Option.bind_eq_some_iff, Option.pure_def, Option.some.injEq] at h
  obtain ⟨access, ⟨a, ha, hat⟩, verification, ⟨v, hv, hvt⟩, reset,
    ⟨p, hp, hpt⟩, algorithm, hg, _, -, _, -, _, -, _, -, _, -, _, -, rfl⟩ := h
  refine ⟨fun hx => ?_, fun hx => ?_, fun hx => ?_, fun hx => ?_⟩
  · rwa [Option.some.inj (hx.symm.trans ha)]
  · rwa [Option.some.inj (hx.symm.trans hv)]
  · rwa [Option.some.inj (hx.symm.trans hp)]
  · exact read_of_orDefault hg hx

theorem RemoteStoreSettings.asText?_of_read? {r : RemoteStoreSettings}
    (h : read? Given.shape (.table fields) = some r) (x : Given) :
    (field? "url" fields = some x → x.asText? = some r.url) ∧
    (field? "key_prefix" fields = some x → x.asText? = some r.keyPrefix) := by
  simp only [read?, Given.shape, record?, List.map, Option.bind_eq_bind,
    Option.bind_eq_some_iff, Option.pure_def, Option.some.injEq] at h
  obtain ⟨url, hurl, keyPrefix, hkey, rfl⟩ := h
  exact ⟨read_of_orDefault hurl, read_of_orDefault hkey⟩

theorem StoreSettings.asText?_of_read? {r : StoreSettings}
    (h : read? Given.shape (.table fields) = some r) (x : Given) :
    (field? "provider" fields = some x → x.asText? = some r.provider) ∧
    (field? "redis" fields = some x →
      RemoteStoreSettings.read? Given.shape x = some r.remote) := by
  simp only [read?, record?, Given.shape, List.map, Option.bind_eq_bind,
    Option.bind_eq_some_iff, Option.pure_def, Option.some.injEq] at h
  obtain ⟨provider, hprovider, _, -, _, -, remote, hremote, rfl⟩ := h
  exact ⟨read_of_orDefault hprovider, read_of_orDefault hremote⟩

theorem LoggingSettings.asText?_of_read? {r : LoggingSettings}
    (h : read? Given.shape (.table fields) = some r) (x : Given) :
    (field? "level" fields = some x → x.asText? = some r.level) ∧
    (field? "format" fields = some x → x.asText? = some r.format) := by
  simp only [read?, Given.shape, record?, List.map, Option.bind_eq_bind,
    Option.bind_eq_some_iff, Option.pure_def, Option.some.injEq] at h
  obtain ⟨level, hlevel, format, hformat, rfl⟩ := h
  exact ⟨read_of_orDefault hlevel, read_of_orDefault hformat⟩

theorem Settings.read?_sections {r : Settings}
    (h : read? Given.shape (.table fields) = some r) (x : Given) :
    (field? "tokens" fields = some x →
      TokenSettings.read? Given.shape x = some r.tokens) ∧
    (field? "store" fields = some x →
      StoreSettings.read? Given.shape x = some r.store) ∧
    (field? "logging" fields = some x →
      LoggingSettings.read? Given.shape x = some r.logging) := by
  simp only [read?, record?, Given.shape, List.map, Option.bind_eq_bind,
    Option.bind_eq_some_iff, Option.pure_def, Option.some.injEq] at h
  obtain ⟨tokens, ⟨t, ht, htokens⟩, store, hstore, _, -, logging, hlogging,
    rfl⟩ := h
  refine ⟨fun hx => ?_, read_of_orDefault hstore, read_of_orDefault hlogging⟩
  rwa [Option.some.inj (hx.symm.trans ht)]

/-- The text of a setting is the one found at the end of its path. -/
theorem TextSetting.asText?_of_read? (t : TextSetting) {v x : Given}
    {s : Settings} (h : Settings.read? Given.shape v = some s)
    (hat : at? t.path v = some x) : x.asText? = some (t.get s) := by
  have htokens {name} (hat : at? ["tokens", name] v = some x) : ∃ fields,
      TokenSettings.read? Given.shape (.table fields) = some s.tokens ∧
        field? name fields = some x := by
    obtain ⟨_, below, rfl, hsection, hx⟩ := at?_pair_eq_some hat
    exact ⟨below, (Settings.read?_sections h _).1 hsection, hx⟩
  have hremote {name} (hat : at? ["store", "redis", name] v = some x) :
      ∃ fields, RemoteStoreSettings.read? Given.shape (.table fields) =
        some s.store.remote ∧ field? name fields = some x := by
    obtain ⟨_, u, rfl, hsection, hat⟩ := at?_cons_eq_some hat
    have hstore := (Settings.read?_sections h u).2.1 hsection
    obtain ⟨_, below, rfl, hsection, hx⟩ := at?_pair_eq_some hat
    exact ⟨below, (StoreSettings.asText?_of_read? hstore _).2 hsection, hx⟩
  have hlogging {name} (hat : at? ["logging", name] v = some x) : ∃ fields,
      LoggingSettings.read? Given.shape (.table fields) = some s.logging ∧
        field? name fields = some x := by
    obtain ⟨_, below, rfl, hsection, hx⟩ := at?_pair_eq_some hat
    exact ⟨below, (Settings.read?_sections h _).2.2 hsection, hx⟩
  cases t with
  | accessSecret =>
      obtain ⟨fields, hread, hx⟩ := htokens hat
      exact (TokenSettings.asText?_of_read? hread x).1 hx
  | verificationSecret =>
      obtain ⟨fields, hread, hx⟩ := htokens hat
      exact (TokenSettings.asText?_of_read? hread x).2.1 hx
  | resetPasswordSecret =>
      obtain ⟨fields, hread, hx⟩ := htokens hat
      exact (TokenSettings.asText?_of_read? hread x).2.2.1 hx
  | algorithm =>
      obtain ⟨fields, hread, hx⟩ := htokens hat
      exact (TokenSettings.asText?_of_read? hread x).2.2.2 hx
  | provider =>
      obtain ⟨_, below, rfl, hsection, hx⟩ := at?_pair_eq_some hat
      have hread := (Settings.read?_sections h _).2.1 hsection
      exact (StoreSettings.asText?_of_read? hread x).1 hx
  | url =>
      obtain ⟨fields, hread, hx⟩ := hremote hat
      exact (RemoteStoreSettings.asText?_of_read? hread x).1 hx
  | keyPrefix =>
      obtain ⟨fields, hread, hx⟩ := hremote hat
      exact (RemoteStoreSettings.asText?_of_read? hread x).2 hx
  | level =>
      obtain ⟨fields, hread, hx⟩ := hlogging hat
      exact (LoggingSettings.asText?_of_read? hread x).1 hx
  | format =>
      obtain ⟨fields, hread, hx⟩ := hlogging hat
      exact (LoggingSettings.asText?_of_read? hread x).2 hx

/-! ## Loading -/

namespace Settings

/-- The settings are loaded, for an environment or from a path. -/
def Loaded (settings : Settings) (s : Surroundings) : Prop :=
  (∃ environment, load s environment = .ok settings) ∨
    ∃ path, loadFrom s path = .ok settings

theorem read?_of_finish {s : Surroundings} {files : Given}
    {settings : Settings} (h : s.finish files = .ok settings) :
    read? Given.shape (files.addSource (ofVariables s.environment)) =
      some settings := by
  rw [Surroundings.finish] at h
  split at h
  · cases h
  · next read hread =>
      split at h
      · cases h
      · cases h
        exact hread

/-- Whatever the files are, the variables are laid over them. -/
theorem Loaded.read? {s : Surroundings} {settings : Settings}
    (h : settings.Loaded s) :
    ∃ files : Given, Settings.read? Given.shape
      (files.addSource (ofVariables s.environment)) = some settings := by
  rcases h with ⟨environment, h⟩ | ⟨path, h⟩
  · simp only [load, bind, Except.bind] at h
    split at h
    · cases h
    · split at h
      · cases h
      · exact ⟨_, read?_of_finish h⟩
  · simp only [loadFrom, bind, Except.bind] at h
    split at h
    · cases h
    · exact ⟨_, read?_of_finish h⟩

end Settings

/-- A variable of the environment sets the text: it names the setting, and the
variables that are visited after it name other places. -/
def Overrides (s : Surroundings) (t : TextSetting) (v : String) : Prop :=
  ∃ before name after, s.environment = before ++ (name, v) :: after ∧
    keyOfVariable? name = some t.key ∧
    ∀ w ∈ after, ∀ key, keyOfVariable? w.1 = some key →
      Apart t.path (Step.ofKey key)

/-- The names of all settings and of the sections around them. -/
def settingPaths : List (List String) :=
  TokenSettings.names.map (["tokens", ·]) ++
    [["store", "provider"], ["store", "command_timeout_ms"],
      ["store", "scan_batch_size"], ["store", "redis", "url"],
      ["store", "redis", "key_prefix"], ["password", "min_length"],
      ["logging", "level"], ["logging", "format"]]

theorem ofKey_of_mem_settingPaths {names : List String}
    (h : names ∈ settingPaths) :
    Step.ofKey (".".intercalate names) = names.map Step.field := by
  have hnames : ∀ names ∈ settingPaths, names ≠ [] ∧
      ∀ n ∈ names, n.toList ≠ [] ∧ n.toList.all Step.isNameChar := by
    decide +kernel
  obtain ⟨hne, hall⟩ := hnames names h
  exact Step.ofKey_intercalate hne fun n hn =>
    ⟨(hall n hn).1, List.all_eq_true.mp (hall n hn).2⟩

theorem TextSetting.path_mem_settingPaths (t : TextSetting) :
    t.path ∈ settingPaths := by
  cases t <;> decide +kernel

/-- A variable that names one of the other settings leaves the text alone. -/
theorem apart_of_mem_keys {t : TextSetting} {key : String}
    (hkey : key ∈ Settings.keys) (hne : key ≠ t.key) :
    Apart t.path (Step.ofKey key) := by
  have hkeys : Settings.keys = settingPaths.map (".".intercalate ·) := by
    decide +kernel
  have hwhole : ∀ names ∈ settingPaths, names <+: t.path →
      names = t.path := by
    cases t <;> decide +kernel
  rw [hkeys] at hkey
  obtain ⟨names, hmem, rfl⟩ := List.mem_map.mp hkey
  rw [ofKey_of_mem_settingPaths hmem, apart_map_field_iff]
  intro h
  rw [hwhole names hmem h] at hne
  exact hne rfl

/-- A variable sets the text if the others name other settings, in whatever
order they are visited. -/
theorem overrides_of_mem_keys {s : Surroundings} {t : TextSetting}
    {name v : String} (hmem : (name, v) ∈ s.environment)
    (hname : keyOfVariable? name = some t.key)
    (hothers : ∀ w ∈ s.environment, w ≠ (name, v) →
      ∀ key, keyOfVariable? w.1 = some key →
        key ∈ Settings.keys ∧ key ≠ t.key) : Overrides s t v := by
  -- The last place where the variable stands is the first one from behind.
  obtain ⟨after, before, hreverse, hlast⟩ :=
    List.eq_append_cons_of_mem (List.mem_reverse.mpr hmem)
  have henv : s.environment = before.reverse ++ (name, v) :: after.reverse := by
    rw [← List.reverse_inj, hreverse, List.reverse_append, List.reverse_cons,
      List.reverse_reverse, List.reverse_reverse, List.append_assoc]
    rfl
  refine ⟨before.reverse, name, after.reverse, henv, hname,
    fun w hw key hkey => ?_⟩
  have hne : w ≠ (name, v) := by
    rintro rfl
    exact hlast (List.mem_reverse.mp hw)
  have hw' : w ∈ s.environment := by
    rw [henv]
    exact List.mem_append_right _ (List.mem_cons_of_mem _ hw)
  obtain ⟨hkeys, hother⟩ := hothers w hw' hne key hkey
  exact apart_of_mem_keys hkeys hother

theorem Overrides.holds {s : Surroundings} {t : TextSetting} {v : String}
    (h : Overrides s t v) (files : Given) :
    Holds t.path (loadedText v)
      (files.addSource (ofVariables s.environment)) := by
  obtain ⟨before, name, after, henv, hname, hafter⟩ := h
  have hsplit : ofVariables s.environment =
      ofVariables before ++ [(t.key, ofVariable v)] ++ ofVariables after := by
    rw [henv, ofVariables, List.filterMap_append,
      List.filterMap_cons_some (b := (t.key, ofVariable v))
        (by rw [hname]; rfl), List.append_assoc]
    rfl
  have hown : Holds t.path (loadedText v)
      ((files.addSource (ofVariables before)).addSource
        [(t.key, ofVariable v)]) := by
    rw [addSource, List.foldl_cons, List.foldl_nil, TextSetting.key,
      ofKey_of_mem_settingPaths t.path_mem_settingPaths]
    exact holds_overlay t.path v _
  rw [hsplit, addSource_append, addSource_append]
  refine hown.addSource fun entry hentry => ?_
  obtain ⟨w, hw, hmap⟩ := List.mem_filterMap.mp hentry
  obtain ⟨key, hkey, rfl⟩ := Option.map_eq_some_iff.mp hmap
  exact hafter w hw key hkey

/-- **A text setting that a variable sets is loaded as the text of the
variable's value, and this is the value itself exactly if it is written the way
the program writes it back.** -/
theorem overridden_text {s : Surroundings} {t : TextSetting} {v : String}
    {settings : Settings} (h : Overrides s t v)
    (hload : settings.Loaded s) :
    t.get settings = loadedText v ∧ (t.get settings = v ↔ WritesBack v) := by
  obtain ⟨files, hread⟩ := hload.read?
  obtain ⟨x, hx, htext⟩ := h.holds files
  have hloaded := htext _ (t.asText?_of_read? hread hx)
  exact ⟨hloaded, hloaded ▸ loadedText_eq_self_iff v⟩

/-- A file with three secrets, a variable for the first of them and one for a
number. -/
def overriddenBy (v : String) : Surroundings where
  text? := fun path =>
    if path = "secrets.toml" then
      some ("[tokens]\naccess_secret = \"a\"\nverification_secret = \"b\"\n" ++
        "reset_password_secret = \"c\"\n")
    else none
  environment :=
    [("SESSIONGUARD__TOKENS__ACCESS_SECRET", v),
      ("SESSIONGUARD__STORE__SCAN_BATCH_SIZE", "7")]

theorem overrides_overriddenBy (v : String) :
    Overrides (overriddenBy v) .accessSecret v := by
  have hname : keyOfVariable? "SESSIONGUARD__TOKENS__ACCESS_SECRET" =
      some TextSetting.accessSecret.key := by decide +kernel
  have hbatch : keyOfVariable? "SESSIONGUARD__STORE__SCAN_BATCH_SIZE" =
      some "store.scan_batch_size" := by decide +kernel
  refine overrides_of_mem_keys List.mem_cons_self hname
    fun w hw hne key hkey => ?_
  rcases List.mem_cons.mp hw with rfl | hw
  · exact absurd rfl hne
  · rw [List.mem_singleton.mp hw, hbatch] at hkey
    have heq := Option.some.inj hkey
    subst heq
    exact ⟨by decide +kernel, by decide +kernel⟩

theorem eq_ok_of_toOption {ε α : Type} {e : Except ε α} {a : α}
    (h : e.toOption = some a) : e = .ok a := by
  cases e with
  | error e => cases h
  | ok b => rw [Option.some.inj h]

theorem overridden_text_access_secret :
    Overrides (overriddenBy "from-env") .accessSecret "from-env" ∧
      ∃ settings : Settings, settings.Loaded (overriddenBy "from-env") ∧
        settings.tokens.accessSecret = "from-env" := by
  refine ⟨overrides_overriddenBy "from-env", ?_⟩
  obtain ⟨settings, hsettings⟩ : ∃ settings, (Settings.loadFrom
      (overriddenBy "from-env") "secrets.toml").toOption = some settings :=
    Option.isSome_iff_exists.mp (by decide +kernel)
  have hload : settings.Loaded (overriddenBy "from-env") :=
    .inr ⟨_, eq_ok_of_toOption hsettings⟩
  have hbool : ¬ ("from-env".toLower = "true" ∨
      "from-env".toLower = "false") := by decide +kernel
  have htext := overridden_text (overrides_overriddenBy "from-env") hload
  exact ⟨settings, hload,
    htext.2.mpr (.text hbool (by decide +kernel) (by decide +kernel))⟩

/-- Two secrets, one set of settings. -/
theorem different_secrets_loaded_alike :
    Overrides (overriddenBy "007") .accessSecret "007" ∧
      Overrides (overriddenBy "7") .accessSecret "7" ∧
      ∃ settings : Settings, settings.tokens.accessSecret = "7" ∧
        Settings.loadFrom (overriddenBy "007") "secrets.toml" = .ok settings ∧
        Settings.loadFrom (overriddenBy "7") "secrets.toml" = .ok settings := by
  refine ⟨overrides_overriddenBy "007", overrides_overriddenBy "7", ?_⟩
  have hsame : (Settings.loadFrom (overriddenBy "007")
      "secrets.toml").toOption = (Settings.loadFrom (overriddenBy "7")
        "secrets.toml").toOption := by decide +kernel
  have hsecret : (Settings.loadFrom (overriddenBy "7")
      "secrets.toml").toOption.map (·.tokens.accessSecret) = some "7" := by
    decide +kernel
  obtain ⟨settings, hsettings, hseven⟩ := Option.map_eq_some_iff.mp hsecret
  exact ⟨settings, hseven, eq_ok_of_toOption (hsame.trans hsettings),
    eq_ok_of_toOption hsettings⟩

end SessionTokens
