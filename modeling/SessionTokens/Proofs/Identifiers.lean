import SessionTokens.Proofs.Keys
import SessionTokens.Service

/-!
# Identifiers that are counted

The identifier that is minted as the `n`-th writes `n` in hexadecimal behind a
fixed text. So identifiers are pairwise distinct, whatever their number, and
they are plain: nothing in them can be taken for the colon that parts a key.
These are the two properties of a source of identifiers that anything is ever
proved from.
-/

namespace SessionTokens

namespace Action

/-- The number that a hexadecimal digit stands for. -/
def digitValue (c : Char) : Nat :=
  if c.toNat < 0x3A then c.toNat - 0x30 else c.toNat - 0x57

/-- The number that hexadecimal digits write. -/
def hexValue (cs : List Char) : Nat :=
  cs.foldl (fun n c => n * 16 + digitValue c) 0

theorem digitChar_spec {d : Nat} (h : d < 16) :
    digitValue d.digitChar = d ∧ d.digitChar ≠ ':' := by
  have hall : ∀ d : Fin 16, digitValue (d : Nat).digitChar = d ∧
      (d : Nat).digitChar ≠ ':' := by decide
  exact hall ⟨d, h⟩

theorem hexValue_append_singleton (cs : List Char) (c : Char) :
    hexValue (cs ++ [c]) = hexValue cs * 16 + digitValue c := by
  rw [hexValue, List.foldl_append]
  rfl

theorem hexValue_toDigits (n : Nat) : hexValue (Nat.toDigits 16 n) = n := by
  induction n using Nat.strongRecOn with
  | ind n ih =>
      by_cases h : n < 16
      · rw [Nat.toDigits_of_lt_base h, hexValue, List.foldl_cons,
          List.foldl_nil, (digitChar_spec h).1]
        omega
      · have hlt : n % 16 < 16 := Nat.mod_lt n (by omega)
        rw [Nat.toDigits_of_base_le (by omega) (by omega),
          hexValue_append_singleton, ih (n / 16) (by omega),
          (digitChar_spec hlt).1]
        omega

theorem hexValue_replicate (k : Nat) (cs : List Char) :
    hexValue (List.replicate k '0' ++ cs) = hexValue cs := by
  induction k with
  | zero => rfl
  | succ k ih =>
      rw [List.replicate_succ, List.cons_append, hexValue, List.foldl_cons]
      exact ih

theorem ne_colon_of_mem_toDigits (n : Nat) :
    ∀ c ∈ Nat.toDigits 16 n, c ≠ ':' := by
  induction n using Nat.strongRecOn with
  | ind n ih =>
      by_cases h : n < 16
      · rw [Nat.toDigits_of_lt_base h]
        intro c hc
        rw [List.mem_singleton.mp hc]
        exact (digitChar_spec h).2
      · rw [Nat.toDigits_of_base_le (by omega) (by omega)]
        intro c hc
        rcases List.mem_append.mp hc with hc | hc
        · exact ih (n / 16) (by omega) c hc
        · rw [List.mem_singleton.mp hc]
          exact (digitChar_spec (Nat.mod_lt n (by omega))).2

theorem hexDigits_injective {width n m : Nat}
    (h : hexDigits width n = hexDigits width m) : n = m := by
  have hvalue := congrArg hexValue h
  simp only [hexDigits, hexValue_replicate, hexValue_toDigits] at hvalue
  exact hvalue

theorem ne_colon_of_mem_hexDigits {width n : Nat} :
    ∀ c ∈ hexDigits width n, c ≠ ':' := by
  intro c hc
  rcases List.mem_append.mp hc with hc | hc
  · rw [List.eq_of_mem_replicate hc]
    decide
  · exact ne_colon_of_mem_toDigits n c hc

theorem toList_idText (n : Nat) :
    (idText n).toList =
      ("00000000-0000-4000-8000-" : String).toList ++ hexDigits 12 n := by
  unfold idText
  generalize ("00000000-0000-4000-8000-" : String) = front
  rw [String.toList_append, String.toList_ofList]

/-- Counted identifiers are pairwise distinct. -/
theorem idText_injective {n m : Nat} (h : idText n = idText m) : n = m := by
  have hl := congrArg String.toList h
  rw [toList_idText, toList_idText] at hl
  exact hexDigits_injective (List.append_cancel_left hl)

/-- Counted identifiers have no colon in them. -/
theorem isPlain_idText (n : Nat) : Key.IsPlain (idText n) := by
  have hfront : ':' ∉ ("00000000-0000-4000-8000-" : String).toList := by
    decide +kernel
  constructor
  · intro h
    have hl := toList_idText n
    rw [h] at hl
    have hdigits := (List.append_eq_nil_iff.mp hl.symm).2
    exact Nat.toDigits_ne_nil (List.append_eq_nil_iff.mp hdigits).2
  · rw [toList_idText, List.mem_append, not_or]
    exact ⟨hfront, fun hc => ne_colon_of_mem_hexDigits _ hc rfl⟩

end Action

/-- What a source of identifiers must give: no identifier twice, and none with a
colon in it. -/
structure Service.Distinguishes (svc : Service) : Prop where
  injective : ∀ {n m}, svc.ids n = svc.ids m → n = m
  plain : ∀ n, Key.IsPlain (svc.ids n)

/-! ## A service at work -/

/-- Settings with lifetimes of minutes and a few seconds of leeway. -/
def TokenSettings.trial : TokenSettings where
  accessSecret := "test-access-secret"
  verificationSecret := "test-verification-secret"
  resetPasswordSecret := "test-reset-secret"
  algorithm := "HS256"
  accessTtlMinutes := 15
  refreshTtlMinutes := 60
  verificationTtlMinutes := 30
  resetPasswordTtlMinutes := 10
  usedRefreshTtlSeconds := 600
  leewaySeconds := 5

/-- A phrase of more than ten words is taken for strong. -/
def Password.Policy.trial : Policy where
  minLength := 8
  isStrong password := 10 ≤ password.toList.count ' '

/-- Fourteen words in a row. -/
def Password.trialPhrase : String :=
  "a quiet river bends twice below the old mill where herons wait for rain"

theorem Password.validate_trialPhrase :
    Policy.trial.validate trialPhrase = .ok () := by
  rw [Policy.validate, if_neg (by decide +kernel), if_pos (by decide +kernel)]

/-- The service with these settings, over passwords in the clear. -/
def Service.trial : Service where
  codec := {
    hash := .sha256
    secret := fun
      | .session => "test-access-secret"
      | .verification => "test-verification-secret"
      | .resetPassword => "test-reset-secret"
    leeway := 5 }
  lifetimes := {
    access := 900
    refresh := 3600
    verification := 1800
    resetPassword := 600
    usedRefresh := 600 }
  batchSize := 2
  policy := .trial
  hasher := .plain
  ids := Action.idText

theorem TokenSettings.validate_trial : trial.validate = .ok .sha256 := by
  have hempty : trial.emptySecret? = none := by decide +kernel
  have hcoincide : trial.secretsCoincide = false := by decide +kernel
  have hzero : trial.zeroLifetime? = none := by decide +kernel
  rw [validate, hempty, hcoincide, hzero]
  rfl

theorem Service.assemble_trial :
    assemble .trial 2 .trial .plain Action.idText = .ok trial := by
  rw [assemble, Codec.ofSettings, TokenSettings.validate_trial]
  rfl

theorem Service.trial_distinguishes : Service.trial.Distinguishes :=
  ⟨Action.idText_injective, Action.isPlain_idText⟩

end SessionTokens
