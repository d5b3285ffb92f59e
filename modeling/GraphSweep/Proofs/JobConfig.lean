import GraphSweep.JobConfig

/-!
# Configured durations

A configuration keeps its durations in whole milliseconds, of which it has room for the
low 64 bits. Up to there durations that are in order stay in order, so that a
configuration made of them is not refused. Beyond, a timeout goes around: what is left of
it may be nothing, or less than what is left of the polling interval.
-/

namespace GraphSweep
namespace Duration

/-- What a word keeps of the whole milliseconds. -/
theorem toNat_millis (duration : Duration) :
    duration.millis.toNat = duration.nanos / perMilli % UInt64.size :=
  UInt64.toNat_ofNat'

@[simp] theorem nanos_ofMillis (millis : UInt64) :
    (ofMillis millis).nanos = millis.toNat * perMilli := rfl

/-- The whole milliseconds are told again exactly if a word has room for them. -/
theorem nanos_ofMillis_millis_eq_iff (duration : Duration) :
    (ofMillis duration.millis).nanos = duration.nanos / perMilli * perMilli ↔
      duration.nanos / perMilli < UInt64.size := by
  rw [nanos_ofMillis, toNat_millis,
    Nat.mul_left_inj (show perMilli ≠ 0 by decide)]
  constructor
  · intro same
    rw [← same]
    exact Nat.mod_lt _ (by decide)
  · exact Nat.mod_eq_of_lt

end Duration

namespace JobConfig

open Duration

/-- Settings with workers and a queue are refused for their durations alone. -/
theorem validate_of_positive
    (config : JobConfig)
    (workers : config.workers ≠ 0)
    (queue : config.queueLength ≠ 0) :
    config.validate =
      if config.timeoutMillis.toNat = 0 then .error (.invalid .noTimeout)
      else if config.timeoutMillis.toNat < config.pollMillis.toNat then
        .error (.invalid
          (.pollExceedsTimeout config.pollMillis config.timeoutMillis))
      else .ok config := by
  have zero : config.timeoutMillis.toNat = 0 ↔ config.timeoutMillis = 0 :=
    UInt64.toNat_inj (b := 0)
  rw [validate, fault?, if_neg workers, if_neg queue]
  simp only [zero, ← UInt64.lt_iff_toNat_lt]
  by_cases none : config.timeoutMillis = 0
  · rw [if_pos none, if_pos none]
  · rw [if_neg none, if_neg none]
    by_cases less : config.timeoutMillis < config.pollMillis
    · rw [if_pos less, if_pos less]
    · rw [if_neg less, if_neg less]

variable
  {config : JobConfig}
  {poll timeout : Duration}

/-- What becomes of durations that are set in order, in settings with workers and a queue.
They are told again in whole milliseconds without what goes beyond 64 bits, and the
settings are refused exactly if nothing is left of the timeout, or less than of the
polling interval. So the settings are accepted and tell both durations in whole
milliseconds exactly if the timeout fits in 64 bits. -/
theorem configured_durations_keep_order_that_fit
    (workers : config.workers ≠ 0)
    (queue : config.queueLength ≠ 0)
    (ordered : poll.nanos ≤ timeout.nanos)
    (positive : perMilli ≤ timeout.nanos) :
    let configured := (config.withPoll poll).withTimeout timeout
    let pollMillis := poll.nanos / perMilli
    let timeoutMillis := timeout.nanos / perMilli
    configured.poll.nanos = pollMillis % UInt64.size * perMilli ∧
    configured.timeout.nanos = timeoutMillis % UInt64.size * perMilli ∧
    (configured.validate =
      if timeoutMillis % UInt64.size = 0 then .error (.invalid .noTimeout)
      else if timeoutMillis % UInt64.size < pollMillis % UInt64.size then
        .error (.invalid (.pollExceedsTimeout poll.millis timeout.millis))
      else .ok configured) ∧
    (configured.validate = .ok configured ∧
        configured.poll.nanos = pollMillis * perMilli ∧
        configured.timeout.nanos = timeoutMillis * perMilli ↔
      timeoutMillis < UInt64.size) := by
  intro configured pollMillis timeoutMillis
  have validated : configured.validate =
      if timeoutMillis % UInt64.size = 0 then .error (.invalid .noTimeout)
      else if timeoutMillis % UInt64.size < pollMillis % UInt64.size then
        .error (.invalid (.pollExceedsTimeout poll.millis timeout.millis))
      else .ok configured := by
    rw [← toNat_millis, ← toNat_millis]
    exact validate_of_positive configured workers queue
  refine ⟨congrArg (· * perMilli) (toNat_millis poll),
    congrArg (· * perMilli) (toNat_millis timeout), validated, ?_⟩
  constructor
  · rintro ⟨-, -, kept⟩
    exact (nanos_ofMillis_millis_eq_iff timeout).1 kept
  · intro fits
    have below : pollMillis ≤ timeoutMillis := Nat.div_le_div_right ordered
    have fitsPoll : pollMillis < UInt64.size := Nat.lt_of_le_of_lt below fits
    have left : timeoutMillis ≠ 0 :=
      Nat.ne_of_gt (Nat.div_pos positive (by decide))
    refine ⟨?_, (nanos_ofMillis_millis_eq_iff poll).2 fitsPoll,
      (nanos_ofMillis_millis_eq_iff timeout).2 fits⟩
    rw [validated, Nat.mod_eq_of_lt fits, Nat.mod_eq_of_lt fitsPoll,
      if_neg left, if_neg (Nat.not_lt.2 below)]

/-- The shortest timeout of which 64 bits of milliseconds keep nothing. -/
def wrappingTimeout : Duration := ⟨UInt64.size * perMilli, by decide⟩

/-- A timeout that goes around is set as none at all, and is refused. -/
theorem wrapping_timeout_is_refused :
    let config := standard 1
    let configured := (config.withPoll (.ofMillis 10)).withTimeout wrappingTimeout
    config.workers ≠ 0 ∧ config.queueLength ≠ 0 ∧
      (ofMillis 10).nanos ≤ wrappingTimeout.nanos ∧
      perMilli ≤ wrappingTimeout.nanos ∧
      configured.validate = .error (.invalid .noTimeout) ∧
      configured.timeout.nanos = 0 := by
  refine ⟨by decide, by decide, by decide, by decide, rfl, rfl⟩

theorem longest_timeout_that_fits_keeps_order :
    let config := standard 1
    let timeout := Duration.ofMillis 18446744073709551615
    let configured := (config.withPoll timeout).withTimeout timeout
    (config.workers ≠ 0 ∧ config.queueLength ≠ 0 ∧ perMilli ≤ timeout.nanos) ∧
      configured.validate = .ok configured ∧
      configured.timeout.nanos = 18446744073709551615 * perMilli := by
  intro config timeout configured
  have workers : config.workers ≠ 0 := by decide
  have queue : config.queueLength ≠ 0 := by decide
  have positive : perMilli ≤ timeout.nanos := by decide
  obtain ⟨-, -, -, kept⟩ := configured_durations_keep_order_that_fit workers queue
    (Nat.le_refl timeout.nanos) positive
  have whole : timeout.nanos / perMilli = 18446744073709551615 := by
    rw [nanos_ofMillis, Nat.mul_div_cancel _ (by decide)]
    rfl
  rw [whole] at kept
  obtain ⟨accepted, -, told⟩ := kept.2 (by decide)
  exact ⟨⟨workers, queue, positive⟩, accepted, told⟩

end JobConfig
end GraphSweep
