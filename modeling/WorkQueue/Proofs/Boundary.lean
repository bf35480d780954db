import WorkQueue.Proofs.Delivery

namespace WorkQueue.Sql

open Queue Operation

structure FirstMisfit (numbers : List Crossing) (v : Crossing) : Prop where
  first : ∃ before after, numbers = before ++ v :: after ∧ ∀ w ∈ before, w.fits = true
  misfit : v.fits = false

section Fits

end Fits

theorem FirstMisfit.isSpared {call : StoreCall} {v : Crossing} (h : FirstMisfit call.outbound v) :
    call.isSpared = false := by
  obtain ⟨⟨before, after, hsplit, -⟩, -⟩ := h
  have hsome : call.outbound ≠ [] := by
    rw [hsplit]
    exact List.append_ne_nil_of_right_ne_nil _ (List.cons_ne_nil _ _)
  cases call with
  | insert l | recordFailures l | purge l =>
    cases l with
    | nil => exact absurd rfl hsome
    | cons => rfl
  | _ => rfl

namespace Connection

variable {k : Connection} {call : StoreCall}

end Connection

section Calls

variable {X : Effects} {app : (r : X.Request) → Connection → X.Answer r × Connection}

open Connection

variable {hook : Hook X} {c : Call} {k k₀ k₁ : Connection}

end Calls

end WorkQueue.Sql
