import CodeExecution.Proofs.OrderlyRuns

/-! Terminal statuses: what keeps them, and the failure that does not. -/

namespace CodeExecution

/-- A step gives a closed job no dead-letter result. -/
theorem Orderly.step_deadLetterResult {state next : Platform} {label : Label}
    (orderly : Orderly state) (stepped : platform.step state label = some next) {jobId : JobId}
    (closed : (state.store.recordOf jobId).IsClosed)
    (later : next.store.hasDeadLetterResult jobId = true) :
    state.store.hasDeadLetterResult jobId = true := by
  -- A dead-letter result comes of a transaction that ends the job.
  obtain ⟨⟨now, lock, same, _⟩, _⟩ := Platform.step_effect stepped
  have made : ((state.effect label).apply state.store).hasDeadLetterResult jobId = true := by
    rw [same] at later
    exact later
  rcases Effect.deadLetterResult made with earlier | ⟨letter, commits, rfl⟩
  · exact earlier
  · exact absurd (by rw [commits]; rfl) (orderly.effect_unfinished closed label)

/-! ## The guarantee -/

instance (state : Platform) (label : Label) : Decidable (cleanlySupervised state label) :=
  inferInstanceAs (Decidable (_ ∧ _))

end CodeExecution
