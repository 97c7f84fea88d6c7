import RemoteQuery.Config.Basic

/-! # Settings with another interval

The interval is kept as a number of milliseconds in 64 bits, while a duration of 64 bits of
seconds has up to a thousand times as many. Below the end of that range the settings stay valid
and a longer interval stays at least as long. A duration beyond it keeps what 64 bits leave of its
milliseconds, which may be nothing.
-/

namespace RemoteQuery

open Calendar (Duration)

namespace Calendar.Duration

/-- A duration of 64 bits of seconds and less than one second more. -/
def ofSeconds (seconds : UInt64) (nanoseconds : Fin (10 ^ 9)) : Duration :=
  seconds.toNat * 10 ^ 9 + nanoseconds.val

theorem toMillis_le_toMillis {shorter longer : Duration} (ordered : shorter ≤ longer) :
    shorter.toMillis ≤ longer.toMillis :=
  Nat.div_le_div_right ordered

theorem toMillis_ofMillis (millis : Nat) : (ofMillis millis).toMillis = millis :=
  Nat.mul_div_cancel millis (by decide)

theorem ofMillis_le_ofMillis_iff {left right : Nat} :
    ofMillis left ≤ ofMillis right ↔ left ≤ right :=
  Nat.mul_le_mul_right_iff (by decide)

theorem ofMillis_inj {left right : Nat} : ofMillis left = ofMillis right ↔ left = right :=
  Nat.mul_left_inj (by decide)

theorem ofMillis_le {millis : Nat} {duration : Duration} (has : millis ≤ duration.toMillis) :
    ofMillis millis ≤ duration :=
  Nat.le_trans (ofMillis_le_ofMillis_iff.mpr has) (Nat.div_mul_le_self duration (10 ^ 6))

end Calendar.Duration

namespace Config

def endOfMillis : Nat := 2 ^ 64

def keptMillis (interval : Duration) : Nat :=
  max interval.toMillis 1 % endOfMillis

/-- An interval has milliseconds, and none of them is kept. -/
def Vanishes (interval : Duration) : Prop :=
  interval.toMillis ≠ 0 ∧ endOfMillis ∣ interval.toMillis
deriving Decidable

variable {config : Config} {interval shorter : Duration}

theorem toNat_pollIntervalMillis (interval : Duration) (config : Config) :
    (config.withPollInterval interval).pollIntervalMillis.toNat = keptMillis interval :=
  UInt64.toNat_ofNat

theorem pollInterval_withPollInterval (interval : Duration) (config : Config) :
    (config.withPollInterval interval).pollInterval = .ofMillis (keptMillis interval) :=
  congrArg Duration.ofMillis (toNat_pollIntervalMillis interval config)

/-! ## Validity -/

theorem keptMillis_eq_zero_iff : keptMillis interval = 0 ↔ Vanishes interval := by
  rw [keptMillis, Vanishes, Nat.dvd_iff_mod_eq_zero, endOfMillis]
  omega

theorem problem?_eq_none_iff :
    config.problem? = none ↔
      config.pollIntervalMillis ≠ 0 ∧ config.maxRowsPerPage ≠ 0 ∧ config.fetchSize ≠ 0 := by
  rw [problem?]
  split
  · simp [*]
  · split
    · simp [*]
    · split <;> simp [*]

theorem problem?_withPollInterval (valid : config.problem? = none) :
    (config.withPollInterval interval).problem? =
      if Vanishes interval then some .zeroPollInterval else none := by
  obtain ⟨_, rows, fetched⟩ := problem?_eq_none_iff.mp valid
  have isZero : (config.withPollInterval interval).pollIntervalMillis = 0 ↔
      Vanishes interval := by
    rw [← UInt64.toNat_inj, toNat_pollIntervalMillis]
    exact keptMillis_eq_zero_iff
  rw [problem?, if_neg (show (config.withPollInterval interval).maxRowsPerPage ≠ 0 from rows),
    if_neg (show (config.withPollInterval interval).fetchSize ≠ 0 from fetched)]
  simp only [isZero]

/-! ## Order -/

theorem keptMillis_of_lt (short : interval.toMillis < endOfMillis) :
    keptMillis interval = max interval.toMillis 1 := by
  rw [endOfMillis] at short
  exact Nat.mod_eq_of_lt (by rw [endOfMillis]; omega)

theorem keptMillis_le_keptMillis (ordered : shorter ≤ interval)
    (together : shorter.toMillis / endOfMillis = interval.toMillis / endOfMillis) :
    keptMillis shorter ≤ keptMillis interval := by
  have inMillis := Duration.toMillis_le_toMillis ordered
  rw [endOfMillis] at together
  rw [keptMillis, keptMillis, endOfMillis]
  omega

theorem keptMillis_le (interval : Duration) : keptMillis interval ≤ endOfMillis - 1 :=
  Nat.le_sub_one_of_lt (Nat.mod_lt _ (by decide))

/-- An interval keeps at least what all shorter ones keep if all its milliseconds fit, and beyond
that only if it keeps the greatest number that there is. -/
theorem forall_keptMillis_le_iff :
    (∀ shorter ≤ interval, keptMillis shorter ≤ keptMillis interval) ↔
      interval.toMillis < endOfMillis ∨ keptMillis interval = endOfMillis - 1 := by
  constructor
  · intro inOrder
    by_cases short : interval.toMillis < endOfMillis
    · exact .inl short
    · have within : Duration.ofMillis (endOfMillis - 1) ≤ interval :=
        Duration.ofMillis_le (by omega)
      have longest : keptMillis (.ofMillis (endOfMillis - 1)) = endOfMillis - 1 := by
        rw [keptMillis, Duration.toMillis_ofMillis]
        decide
      have least := inOrder _ within
      rw [longest] at least
      exact .inr (Nat.le_antisymm (keptMillis_le interval) least)
  · rintro (short | greatest) shorter ordered
    · have inMillis := Duration.toMillis_le_toMillis ordered
      refine keptMillis_le_keptMillis ordered ?_
      rw [Nat.div_eq_of_lt short, Nat.div_eq_of_lt (Nat.lt_of_le_of_lt inMillis short)]
    · rw [greatest]
      exact keptMillis_le shorter

structure TakesInterval (config : Config) (interval : Duration) : Prop where
  /-- Only an interval that vanishes makes them invalid. -/
  problem : (config.withPollInterval interval).problem? =
    if Vanishes interval then some .zeroPollInterval else none
  exact : interval.toMillis < endOfMillis →
    (config.withPollInterval interval).pollInterval = .ofMillis (max interval.toMillis 1)
  /-- Two intervals stay in order where 64 bits leave out the same of both. -/
  inOrder : ∀ shorter ≤ interval,
    shorter.toMillis / endOfMillis = interval.toMillis / endOfMillis →
      (config.withPollInterval shorter).pollInterval ≤
        (config.withPollInterval interval).pollInterval
  alwaysInOrder_iff :
    (∀ shorter ≤ interval, (config.withPollInterval shorter).pollInterval ≤
      (config.withPollInterval interval).pollInterval) ↔
        interval.toMillis < endOfMillis ∨
          (config.withPollInterval interval).pollInterval = .ofMillis (endOfMillis - 1)

/-- Valid settings take an interval as it is while its milliseconds fit, and otherwise what is
left of it. -/
theorem takesInterval (valid : config.problem? = none) (interval : Duration) :
    config.TakesInterval interval where
  problem := problem?_withPollInterval valid
  exact short := by rw [pollInterval_withPollInterval, keptMillis_of_lt short]
  inOrder shorter ordered together := by
    rw [pollInterval_withPollInterval, pollInterval_withPollInterval]
    exact Duration.ofMillis_le_ofMillis_iff.mpr (keptMillis_le_keptMillis ordered together)
  alwaysInOrder_iff := by
    simp only [pollInterval_withPollInterval, Duration.ofMillis_le_ofMillis_iff,
      Duration.ofMillis_inj, forall_keptMillis_le_iff]

/-- The longest interval that is kept, with a rest that is none of its milliseconds. -/
theorem takesInterval_longest :
    let config : Config := {}
    let interval := Duration.ofSeconds 18446744073709551 615999999
    config.problem? = none ∧ interval.toMillis < endOfMillis ∧
      (config.withPollInterval interval).problem? = none ∧
      (config.withPollInterval interval).pollInterval = .ofMillis (2 ^ 64 - 1) ∧
      ∀ shorter ≤ interval, (config.withPollInterval shorter).pollInterval ≤
        (config.withPollInterval interval).pollInterval := by
  have valid : ({} : Config).problem? = none := by decide
  have short : (Duration.ofSeconds 18446744073709551 615999999).toMillis < endOfMillis := by decide
  have takes := takesInterval valid (Duration.ofSeconds 18446744073709551 615999999)
  exact ⟨valid, short, takes.problem.trans (if_neg (by decide)),
    (takes.exact short).trans (by decide), takes.alwaysInOrder_iff.mpr (.inl short)⟩

/-- One nanosecond more, and nothing is left of the interval. -/
theorem longerInterval_vanishes :
    let config : Config := {}
    let interval := Duration.ofSeconds 18446744073709551 616000000
    config.problem? = none ∧
      (config.withPollInterval interval).problem? = some .zeroPollInterval ∧
      Duration.ofMillis 1 ≤ interval ∧
      (config.withPollInterval interval).pollInterval <
        (config.withPollInterval (.ofMillis 1)).pollInterval := by
  decide

end Config

end RemoteQuery
