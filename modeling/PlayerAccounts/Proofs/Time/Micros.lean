import PlayerAccounts.Proofs.Time.Order
/-!
# Instants as stored timestamps

A stored timestamp counts microseconds and knows no leap seconds. An instant that has no finer parts and
lies in no leap second is told by its microseconds: it is read back, and it keeps its place in the order.
-/
namespace PlayerAccounts.Time.Instant
set_option autoImplicit false

/-- The instant is told by its microseconds. -/
structure IsPrecise (t : Instant) : Prop where
  micros : t.nanos % 1000 = 0
  notLeap : t.nanos < nanosPerSecond

instance (t : Instant) : Decidable t.IsPrecise :=
  decidable_of_iff (t.nanos % 1000 = 0 ∧ t.nanos < nanosPerSecond)
    ⟨fun h => ⟨h.1, h.2⟩, fun h => ⟨h.micros, h.notLeap⟩⟩

variable {a b : Instant}

theorem IsPrecise.toMicros_eq (h : a.IsPrecise) :
    a.toMicros = (a.second - storageOrigin) * 1000000 + (a.nanos / 1000 : Nat) := by
  have hnanos : a.nanos = 1000 * (a.nanos / 1000) := by
    have hzero := h.micros
    omega
  have hwhole : (a.second - storageOrigin) * nanosPerSecond + a.nanos =
      1000 * ((a.second - storageOrigin) * 1000000 + (a.nanos / 1000 : Nat)) := by
    unfold nanosPerSecond
    omega
  rw [toMicros, hwhole, Int.mul_tdiv_cancel_left _ (by decide)]

theorem IsPrecise.ofMicros?_toMicros (h : a.IsPrecise) : ofMicros? a.toMicros = some a := by
  have hnanos := h.micros
  have hlt := h.notLeap
  unfold nanosPerSecond at hlt
  have hsecond : a.toMicros / 1000000 + storageOrigin = a.second := by
    rw [h.toMicros_eq]
    omega
  have hrest : (a.toMicros % 1000000).toNat * 1000 = a.nanos := by
    rw [h.toMicros_eq]
    omega
  rw [ofMicros?, hsecond, hrest, ofParts?,
    dif_pos ⟨⟨a.first_le, a.le_last⟩, a.nanos_lt, a.leap_at_59⟩]

theorem IsPrecise.toMicros_le (ha : a.IsPrecise) (hb : b.IsPrecise) (hle : a ≤ b) :
    a.toMicros ≤ b.toMicros := by
  have hlt := ha.notLeap
  unfold nanosPerSecond at hlt
  rw [le_def] at hle
  rw [ha.toMicros_eq, hb.toMicros_eq]
  omega

end PlayerAccounts.Time.Instant
