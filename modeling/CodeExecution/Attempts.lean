import CodeExecution.Contracts
import CodeExecution.Library.Machine

/-! The attempts at one job: an abstract machine that counts sandbox starts and crashes. -/

namespace CodeExecution

/-- Where one job stands between two attempts, with the retry count of its only live element. -/
inductive Attempt where
  /-- The handler has not pushed it yet. -/
  | unsent
  /-- Its element is on the pending list. -/
  | waiting (retryCount : Nat)
  /-- A live worker has its element, and may have started its sandbox. -/
  | taken (retryCount : Nat) (started : Bool)
  /-- A crashed worker has its element. -/
  | orphaned (retryCount : Nat)
  /-- It is over. -/
  | ended
  /-- It is over because too many workers crashed. -/
  | buried
  deriving DecidableEq, Repr

/-- What happens to the job. -/
inductive AttemptEvent where
  | send
  | take
  | start
  | crash
  | finish
  | requeue
  | bury
  deriving DecidableEq, Repr

/-- The attempt after an event, where the event is possible. -/
def Attempt.step : Attempt → AttemptEvent → Option Attempt
  | .unsent, .send => some (.waiting 0)
  | .waiting retryCount, .take => some (.taken retryCount false)
  | .taken retryCount false, .start => some (.taken retryCount true)
  | .taken retryCount _, .crash => some (.orphaned retryCount)
  | .taken _ true, .finish => some .ended
  -- Only a job with retries left is requeued, and only one without is buried.
  | .orphaned retryCount, .requeue =>
    if retryCount + 1 ≤ maxRetryCount then some (.waiting (retryCount + 1)) else none
  | .orphaned retryCount, .bury => if maxRetryCount < retryCount + 1 then some .buried else none
  -- A worker may still crash before it removes the element of a finished job.
  | .ended, .crash => some .ended
  | _, _ => none

/-- The attempts at a job as a labelled machine. -/
def attempts : Machine Attempt AttemptEvent where
  step := Attempt.step

/-- The sandbox starts an event counts for. -/
def AttemptEvent.starts : AttemptEvent → Nat
  | .start => 1
  | _ => 0

/-- The crashes an event counts for. -/
def AttemptEvent.crashes : AttemptEvent → Nat
  | .crash => 1
  | _ => 0

/-- How the counts relate to where the job stands. -/
def Attempt.Balanced (starts crashes : Nat) : Attempt → Prop
  | .unsent => starts = 0 ∧ crashes = 0
  | .waiting retryCount =>
    crashes = retryCount ∧ starts ≤ retryCount ∧ retryCount ≤ maxRetryCount
  | .taken retryCount started =>
    crashes = retryCount ∧ starts ≤ retryCount + (if started then 1 else 0) ∧
      retryCount ≤ maxRetryCount
  | .orphaned retryCount =>
    crashes = retryCount + 1 ∧ starts ≤ retryCount + 1 ∧ retryCount ≤ maxRetryCount
  | .ended => starts ≤ crashes + 1 ∧ starts ≤ maxRetryCount + 1
  | .buried => crashes = maxRetryCount + 1 ∧ starts ≤ maxRetryCount + 1

/-- Every event keeps the counts balanced. -/
theorem Attempt.Balanced.step {starts crashes : Nat} {attempt next : Attempt}
    {event : AttemptEvent} (balanced : attempt.Balanced starts crashes)
    (stepped : attempts.step attempt event = some next) :
    next.Balanced (starts + event.starts) (crashes + event.crashes) := by
  -- The cases are the rows of the transition table.
  change Attempt.step attempt event = some next at stepped
  unfold Attempt.step at stepped
  split at stepped
  · obtain rfl := Option.some.inj stepped
    simp only [Attempt.Balanced, AttemptEvent.starts, AttemptEvent.crashes] at balanced ⊢
    omega
  · obtain rfl := Option.some.inj stepped
    simp only [Attempt.Balanced, AttemptEvent.starts, AttemptEvent.crashes] at balanced ⊢
    simpa using balanced
  · obtain rfl := Option.some.inj stepped
    simp only [Attempt.Balanced, AttemptEvent.starts, AttemptEvent.crashes] at balanced ⊢
    simp only [Bool.false_eq_true, if_false, if_true] at balanced ⊢
    omega
  · next retryCount started =>
    obtain rfl := Option.some.inj stepped
    simp only [Attempt.Balanced, AttemptEvent.starts, AttemptEvent.crashes] at balanced ⊢
    cases started <;> simp only [Bool.false_eq_true, if_false, if_true] at balanced <;> omega
  · obtain rfl := Option.some.inj stepped
    simp only [Attempt.Balanced, AttemptEvent.starts, AttemptEvent.crashes] at balanced ⊢
    simp only [if_true] at balanced
    omega
  · split at stepped
    · obtain rfl := Option.some.inj stepped
      simp only [Attempt.Balanced, AttemptEvent.starts, AttemptEvent.crashes] at balanced ⊢
      omega
    · simp at stepped
  · split at stepped
    · obtain rfl := Option.some.inj stepped
      simp only [Attempt.Balanced, AttemptEvent.starts, AttemptEvent.crashes] at balanced ⊢
      omega
    · simp at stepped
  · obtain rfl := Option.some.inj stepped
    simp only [Attempt.Balanced, AttemptEvent.starts, AttemptEvent.crashes] at balanced ⊢
    omega
  · simp at stepped

/-- Balanced counts are bounded, wherever the job stands. -/
theorem Attempt.Balanced.bounded {starts crashes : Nat} {attempt : Attempt}
    (balanced : attempt.Balanced starts crashes) :
    starts ≤ 1 + crashes ∧ starts ≤ maxRetryCount + 1 := by
  -- At most one start belongs to the attempt that has not crashed yet.
  cases attempt with
  | taken retryCount started =>
    simp only [Attempt.Balanced] at balanced
    cases started <;> simp only [Bool.false_eq_true, if_false, if_true] at balanced <;> omega
  | _ =>
    simp only [Attempt.Balanced] at balanced
    omega

/-- The sandbox starts along a list of events. -/
def startsIn (events : List AttemptEvent) : Nat :=
  events.foldl (fun counted event => counted + event.starts) 0

/-- The crashes along a list of events. -/
def crashesIn (events : List AttemptEvent) : Nat :=
  events.foldl (fun counted event => counted + event.crashes) 0

/-- Along every run of attempts, the counts are balanced. -/
theorem Attempt.Balanced.reached {allowed : Attempt → AttemptEvent → Prop}
    {events : List AttemptEvent} {attempt : Attempt}
    (run : attempts.Runs allowed .unsent events attempt) :
    attempt.Balanced (startsIn events) (crashesIn events) := by
  -- Nothing has been counted at first, and each event adds its own counts.
  refine run.preserves_trace
    (fun earlier reached => reached.Balanced (startsIn earlier) (crashesIn earlier)) ⟨rfl, rfl⟩ ?_
  intro earlier reached event after _ balanced _ stepped
  simpa [startsIn, crashesIn] using balanced.step stepped

end CodeExecution
