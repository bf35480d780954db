import WorkQueue.Memory.Store

/-!
Windows that are counted back from an instant. A window that is too long has no deadline, and one
that goes back behind the first instant ends there.
-/

namespace WorkQueue.Memory

section Deadline

variable {now s time : Instant} {d : Duration}

theorem le_first_iff : s ≤ Instant.first ↔ s = Instant.first :=
  ⟨fun h => Instant.ext (Int.le_antisymm h s.lower), fun h => h ▸ Int.le_refl _⟩

theorem not_lt_first : ¬s < Instant.first := Int.not_lt.2 s.lower

theorem clamp_nanos {n : Int} (hlower : Instant.first.nanos ≤ n) (hupper : n ≤ Instant.last.nanos) :
    (Instant.clamp n).nanos = n := by
  have hlower' : ¬n < -8334601228800000000000 := Int.not_lt.2 hlower
  have hupper' : ¬8210266876799999999999 < n := Int.not_lt.2 hupper
  rw [Instant.clamp, dif_neg hlower', dif_neg hupper']

theorem clamp_of_lt {n : Int} (h : n < Instant.first.nanos) : Instant.clamp n = Instant.first :=
  dif_pos h

theorem nanos_earlier (h : Instant.first.nanos + d.nanos ≤ now.nanos) :
    (now.earlier d).nanos = now.nanos - d.nanos := by
  have hupper := now.upper
  apply clamp_nanos
  · omega
  · change _ ≤ (8210266876799999999999 : Int)
    omega

theorem isWindow_iff : d.isWindow = true ↔ d.nanos ≤ Duration.longestWindow := decide_eq_true_iff

theorem deadline_ok (h : deadline now d = .ok time) : time = now.earlier d := by
  rw [deadline] at h
  split at h
  · exact (Except.ok.inj h).symm
  · cases h

theorem deadline_eq_error_iff {e : StoreError} :
    deadline now d = .error e ↔ Duration.longestWindow < d.nanos ∧ e = .windowTooLong := by
  rw [deadline, ← Nat.not_le, ← isWindow_iff]
  cases d.isWindow <;> simp [eq_comm]

theorem deadline_early (hwindow : d.nanos ≤ Duration.longestWindow)
    (hearly : now.nanos < Instant.first.nanos + d.nanos) : deadline now d = .ok .first := by
  rw [deadline, if_pos (isWindow_iff.2 hwindow), Instant.earlier, clamp_of_lt (by omega)]

theorem deadline_of_le (h : s.nanos + d.nanos ≤ now.nanos) :
    ∃ time, deadline now d = .ok time ∧ time.nanos = now.nanos - d.nanos := by
  have hlower := s.lower
  have hupper := now.upper
  have hwindow : d.isWindow = true := by
    apply decide_eq_true
    change d.nanos ≤ 9223372036854775807000000
    omega
  refine ⟨now.earlier d, if_pos hwindow, nanos_earlier ?_⟩
  change (-8334601228800000000000 : Int) + _ ≤ _
  omega

theorem lt_of_lt_deadline (h : deadline now d = .ok time) (hlt : s < time) :
    s.nanos + d.nanos < now.nanos := by
  rw [deadline_ok h] at hlt
  replace hlt : s.nanos < (now.earlier d).nanos := hlt
  by_cases hrange : Instant.first.nanos + d.nanos ≤ now.nanos
  · rw [nanos_earlier hrange] at hlt
    omega
  · have hfirst : now.earlier d = Instant.first := clamp_of_lt (by omega)
    rw [hfirst] at hlt
    exact absurd s.lower (Int.not_le.2 hlt)

theorem le_of_le_deadline (h : deadline now d = .ok time) (hle : s ≤ time)
    (hrange : Instant.first.nanos + d.nanos ≤ now.nanos) : s.nanos + d.nanos ≤ now.nanos := by
  rw [deadline_ok h] at hle
  replace hle : s.nanos ≤ (now.earlier d).nanos := hle
  rw [nanos_earlier hrange] at hle
  omega

theorem le_of_first_lt (h : deadline now d = .ok time) (hle : s ≤ time)
    (hfirst : Instant.first.nanos < s.nanos) : s.nanos + d.nanos ≤ now.nanos := by
  refine le_of_le_deadline h hle (Int.not_lt.1 fun hrange => ?_)
  rw [deadline_ok h, Instant.earlier, clamp_of_lt (by omega)] at hle
  exact absurd hfirst (Int.not_lt.2 hle)

theorem nanos_visibleAt (h : visibleAt now d = .ok time)
    (hrange : now.nanos + d.nanos ≤ Instant.last.nanos) : time.nanos = now.nanos + d.nanos := by
  rw [visibleAt] at h
  split at h
  · cases h
    have hlower := now.lower
    apply clamp_nanos
    · change (-8334601228800000000000 : Int) ≤ _
      omega
    · exact hrange
  · cases h

/-- At `now` it is at least `d` since `s`. A window that goes back behind the first instant is over
at `now` for what was in the first instant. -/
structure Expired (now : Instant) (d : Duration) (s : Instant) : Prop where
  inTime : ∃ time, deadline now d = .ok time ∧ s ≤ time
  aged : Instant.first.nanos + d.nanos ≤ now.nanos → s.nanos + d.nanos ≤ now.nanos
  early : now.nanos < Instant.first.nanos + d.nanos → s = .first

theorem Expired.of_deadline (h : deadline now d = .ok time) (hle : s ≤ time) :
    Expired now d s where
  inTime := ⟨time, h, hle⟩
  aged := le_of_le_deadline h hle
  early hearly := by
    rw [deadline_ok h, Instant.earlier, clamp_of_lt (by omega)] at hle
    exact le_first_iff.1 hle

end Deadline

end WorkQueue.Memory
