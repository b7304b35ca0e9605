import SessionTokens.Token.Rotation

/-!
# The lifetimes of a service

A service is set up from settings that were checked, and the checks are made so
that the numbers fit: no lifetime is zero, minutes become seconds without
overflow, and a fence is never meant to outlive the token it stands for.
-/

namespace SessionTokens

theorem TokenSettings.seconds_eq_ok {ε : Type} {minutes ttl : UInt64}
    (h : (seconds minutes : Outcome ε UInt64) = .ok ttl) :
    ttl.toNat = minutes.toNat * 60 := by
  unfold seconds at h
  split at h
  · next hlt =>
      cases h
      have hsixty : (60 : UInt64).toNat = 60 := rfl
      rw [UInt64.toNat_mul, hsixty, Nat.mod_eq_of_lt hlt]
  · cases h

/-- In settings that are accepted no lifetime is zero. -/
theorem TokenSettings.ne_zero_of_validate {s : TokenSettings} {f : HashFunction}
    (h : s.validate = .ok f) :
    s.accessTtlMinutes ≠ 0 ∧ s.refreshTtlMinutes ≠ 0 ∧
      s.verificationTtlMinutes ≠ 0 ∧
      s.resetPasswordTtlMinutes ≠ 0 ∧ s.usedRefreshTtlSeconds ≠ 0 := by
  have hzero : s.zeroLifetime? = none := by
    unfold validate at h
    split at h
    · cases h
    · split at h
      · cases h
      · split at h
        · cases h
        · split at h
          · cases h
          · next hnone => exact hnone
  simpa [zeroLifetime?] using hzero

namespace Service

/-- No lifetime is over at once. -/
structure Lives (svc : Service) : Prop where
  access : 0 < svc.lifetimes.access.toNat
  refresh : 0 < svc.lifetimes.refresh.toNat
  verification : 0 < svc.lifetimes.verification.toNat
  resetPassword : 0 < svc.lifetimes.resetPassword.toNat
  usedRefresh : 0 < svc.lifetimes.usedRefresh.toNat

section

variable {tokens : TokenSettings} {batch : Nat}
  {policy : Password.Policy} {hasher : Hasher} {ids : Nat → String}
  {svc : Service}

/-- The fence of a used token is meant to last as long as a setting says, but no
longer than a token lives. -/
theorem usedRefresh_eq_of_assemble
    (h : assemble tokens batch policy hasher ids = .ok svc) :
    svc.lifetimes.usedRefresh.toNat =
      min tokens.usedRefreshTtlSeconds.toNat svc.lifetimes.refresh.toNat := by
  obtain ⟨codec, hcodec, h⟩ := Outcome.bind_eq_ok h
  obtain ⟨lifetimes, hlifetimes, h⟩ := Outcome.bind_eq_ok h
  cases h
  obtain ⟨access, -, h⟩ := Outcome.bind_eq_ok hlifetimes
  obtain ⟨refresh, -, h⟩ := Outcome.bind_eq_ok h
  obtain ⟨verification, -, h⟩ := Outcome.bind_eq_ok h
  obtain ⟨reset, -, h⟩ := Outcome.bind_eq_ok h
  cases h
  show UInt64.toNat
    (if tokens.usedRefreshTtlSeconds ≤ refresh then _ else _) = _
  split
  · next hle => rw [Nat.min_eq_left (UInt64.le_iff_toNat_le.mp hle)]
  · next hgt =>
      rw [UInt64.le_iff_toNat_le, Nat.not_le] at hgt
      rw [Nat.min_eq_right (Nat.le_of_lt hgt)]

theorem usedRefresh_le_of_assemble
    (h : assemble tokens batch policy hasher ids = .ok svc) :
    svc.lifetimes.usedRefresh.toNat ≤ svc.lifetimes.refresh.toNat := by
  rw [usedRefresh_eq_of_assemble h]
  exact Nat.min_le_right ..

theorem lives_of_assemble
    (h : assemble tokens batch policy hasher ids = .ok svc) :
    svc.Lives := by
  have hused := usedRefresh_eq_of_assemble h
  obtain ⟨codec, hcodec, h⟩ := Outcome.bind_eq_ok h
  obtain ⟨lifetimes, hlifetimes, h⟩ := Outcome.bind_eq_ok h
  cases h
  obtain ⟨access, haccess, h⟩ := Outcome.bind_eq_ok hlifetimes
  obtain ⟨refresh, hrefresh, h⟩ := Outcome.bind_eq_ok h
  obtain ⟨verification, hverification, h⟩ := Outcome.bind_eq_ok h
  obtain ⟨reset, hreset, h⟩ := Outcome.bind_eq_ok h
  cases h
  have hvalidate : ∃ f, tokens.validate = .ok f := by
    unfold Codec.ofSettings at hcodec
    split at hcodec
    · cases hcodec
    · next f hf => exact ⟨f, hf⟩
  obtain ⟨f, hf⟩ := hvalidate
  obtain ⟨haccess₀, hrefresh₀, hverification₀, hreset₀, hused₀⟩ :=
    TokenSettings.ne_zero_of_validate hf
  have hpos : ∀ {n : UInt64}, n ≠ 0 → 0 < n.toNat := fun hn =>
    Nat.pos_of_ne_zero fun heq => hn (UInt64.toNat_inj.mp heq)
  have hminutes : ∀ {n ttl : UInt64}, n ≠ 0 →
      (TokenSettings.seconds n : Outcome ServiceError UInt64) = .ok ttl →
      0 < ttl.toNat := by
    intro n ttl hn httl
    have hseconds := TokenSettings.seconds_eq_ok httl
    have hn' := hpos hn
    omega
  refine ⟨hminutes haccess₀ haccess, hminutes hrefresh₀ hrefresh,
    hminutes hverification₀ hverification, hminutes hreset₀ hreset, ?_⟩
  rw [hused]
  exact Nat.lt_min.mpr ⟨hpos hused₀, hminutes hrefresh₀ hrefresh⟩

theorem fenceSeconds_eq (h : 0 < svc.lifetimes.usedRefresh.toNat) :
    svc.fenceSeconds = svc.lifetimes.usedRefresh.toNat := by
  show (if svc.lifetimes.usedRefresh ≤ 1 then (1 : UInt64) else _).toNat = _
  split
  · next hle =>
      have hle' : svc.lifetimes.usedRefresh.toNat ≤ 1 :=
        UInt64.le_iff_toNat_le.mp hle
      show 1 = _
      omega
  · rfl

/-- The fence of a used token ends no later than the token that replaces it. -/
theorem fenceSeconds_le_of_assemble
    (h : assemble tokens batch policy hasher ids = .ok svc) :
    svc.fenceSeconds ≤ svc.lifetimes.refresh.toNat := by
  rw [fenceSeconds_eq (lives_of_assemble h).usedRefresh]
  exact usedRefresh_le_of_assemble h

end

end Service

end SessionTokens
