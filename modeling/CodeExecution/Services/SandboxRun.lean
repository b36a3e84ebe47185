import CodeExecution.Services.Printing

/-! One call of `runInSandbox` from its first line to its last: the child, the timer, and the promise. -/

namespace CodeExecution

/-- `performance.now()`, in nanoseconds. -/
abbrev Instant := Nat

/-- `Math.round` of a time in milliseconds. -/
def roundMs (nanoseconds : Nat) : Nat :=
  -- A half is rounded up.
  (nanoseconds + 500000) / 1000000

/-- The default of `timeoutMs`, in nanoseconds. -/
def sandboxTimeout : Nat := 5000 * 1000000

/-- The argument of `killContainer`. -/
inductive KillReason where
  | timeout
  | streamOutputLimit
  deriving DecidableEq, Repr

/-- `timeoutTimer` -/
inductive TimeoutTimer where
  /-- The call has not come to `setTimeout` yet. -/
  | unset
  | armed (due : Instant)
  | fired
  | cleared
  deriving DecidableEq, Repr

/-- `clearTimeout`, which does nothing to a timer that has fired. -/
def TimeoutTimer.clear : TimeoutTimer → TimeoutTimer
  | .armed _ => .cleared
  | timer => timer

/-- What `runInSandbox` resolves with. -/
structure SandboxResolution where
  exitCode : Option Int
  /-- The variables that the output handlers write. -/
  output : SandboxOutput
  timedOut : Bool
  oomKilled : Bool
  executionTimeMs : Nat
  containerInitMs : Nat
  codeRuntimeMs : Nat
  deriving DecidableEq, Repr

/-- The promise that the caller awaits. -/
inductive SandboxPromise where
  | pending
  | resolved (resolution : SandboxResolution)
  | rejected
  deriving DecidableEq, Repr

/-- A promise that has settled stays so. -/
def SandboxPromise.settle (promise next : SandboxPromise) : SandboxPromise :=
  match promise with
  | .pending => next
  | settled => settled

/-- What the `close` listener has computed before it awaits `publishQueue`. -/
structure Closing where
  exitCode : Option Int
  executionTimeMs : Nat
  containerInitMs : Nat
  codeRuntimeMs : Nat
  /-- The links that `publishQueue` consists of. -/
  awaited : Nat
  deriving DecidableEq, Repr

/-- What happens between the removal of a stale container and the first event of the child. -/
inductive SpawnOutcome where
  /-- `spawn` itself throws. -/
  | throws
  /-- The process has no file descriptors left, so the child has no `stdout` to listen to. -/
  | withoutPipes
  /-- The code is written to the child's stdin. -/
  | writes
  /-- The write throws, and no `close` listener is added. -/
  | writeThrows
  deriving DecidableEq, Repr

/-- One call of `runInSandbox`. -/
structure SandboxRun where
  now : Instant
  startTime : Instant
  /-- Nothing while `removeStaleContainer` is awaited. -/
  spawnIssuedAt : Option Instant
  /-- The child has its pipes, and the listeners that the call adds to them and to the child. -/
  piped : Bool
  firstOutputAt : Option Instant
  output : SandboxOutput
  timer : TimeoutTimer
  timedOut : Bool
  oomKilled : Bool
  /-- The calls of `killContainer`, in their order. -/
  kills : List KillReason
  /-- The `close` listener has been added. -/
  listening : Bool
  /-- The child has emitted its `close` event. -/
  childClosed : Bool
  closing : Option Closing
  /-- How many links of `publishQueue` have settled. -/
  settledLinks : Nat
  promise : SandboxPromise
  deriving DecidableEq, Repr

/-- One event that the call reacts to. -/
inductive SandboxEvent where
  /-- The clock is read later. -/
  | clock (now : Instant)
  /-- `docker rm -f` has ended, whatever its exit code, and the child is spawned. -/
  | spawn (outcome : SpawnOutcome)
  /-- A `data` event of the child. -/
  | data (event : OutputEvent)
  /-- The timeout fires. -/
  | timeout
  /-- An `error` event of the child. -/
  | error
  /-- The `close` event of the child, which comes once and behind all `data` events. -/
  | close (exitCode : Option Int)
  /-- The first link of `publishQueue` that is left settles, which it does even where a call rejects. -/
  | link
  /-- The `close` listener goes on behind `await publishQueue`. -/
  | resume
  deriving DecidableEq

namespace SandboxRun

/-- The call awaits `removeStaleContainer`. -/
def start (now : Instant) : SandboxRun where
  now := now
  startTime := now
  spawnIssuedAt := none
  piped := false
  firstOutputAt := none
  output := .initial
  timer := .unset
  timedOut := false
  oomKilled := false
  kills := []
  listening := false
  childClosed := false
  closing := none
  settledLinks := 0
  promise := .pending

variable (run : SandboxRun)

/-- The body from `spawnIssuedAt` to its `return`. -/
def spawn : SpawnOutcome → SandboxRun
  | .throws => { run with spawnIssuedAt := some run.now, promise := run.promise.settle .rejected }
  -- `child.stdout.on` throws behind `setTimeout`, and nobody clears the timer.
  | .withoutPipes => { run with
      spawnIssuedAt := some run.now
      timer := .armed (run.now + sandboxTimeout)
      promise := run.promise.settle .rejected }
  | .writes => { run with
      spawnIssuedAt := some run.now
      piped := true
      timer := .armed (run.now + sandboxTimeout)
      listening := true }
  | .writeThrows => { run with
      spawnIssuedAt := some run.now
      piped := true
      timer := .cleared
      promise := run.promise.settle .rejected }

/-- The callback of the timeout. -/
def onTimeout : SandboxRun :=
  { run with timer := .fired, timedOut := true, kills := run.kills ++ [.timeout] }

/-- The two `data` listeners. -/
def onData (event : OutputEvent) : SandboxRun :=
  let output := run.output.handleOutput event
  { run with
    firstOutputAt := run.firstOutputAt.or (some run.now)
    output
    kills := run.kills ++
      List.replicate (output.kills - run.output.kills) .streamOutputLimit }

/-- The `error` listener. -/
def onError : SandboxRun :=
  { run with timer := run.timer.clear, promise := run.promise.settle .rejected }

/-- The times that the `close` listener computes. -/
def closingAt (spawnIssuedAt : Instant) (exitCode : Option Int) : Closing where
  exitCode := exitCode
  executionTimeMs := roundMs (run.now - run.startTime)
  containerInitMs :=
    match run.firstOutputAt with
    | some first => roundMs (first - spawnIssuedAt)
    -- Without any output, the whole time counts as the container's start.
    | none => roundMs (run.now - run.startTime)
  codeRuntimeMs :=
    match run.firstOutputAt with
    | some first => roundMs (run.now - first)
    | none => 0
  awaited := run.output.published.length

theorem closingAt_executionTimeMs (spawnIssuedAt : Instant) (exitCode : Option Int) :
    (run.closingAt spawnIssuedAt exitCode).executionTimeMs = roundMs (run.now - run.startTime) := rfl

/-- The `close` listener, up to its `await`. -/
def onClose (spawnIssuedAt : Instant) (exitCode : Option Int) : SandboxRun :=
  { run with
    timer := run.timer.clear
    oomKilled := run.oomKilled ||
      (exitCode = some 137 ∧ ¬ run.timedOut ∧ ¬ run.output.streamOutputLimitExceeded)
    closing := some (run.closingAt spawnIssuedAt exitCode) }

/-- What the `close` listener resolves with. -/
def resolution (closing : Closing) : SandboxResolution where
  exitCode := closing.exitCode
  output := run.output
  timedOut := run.timedOut
  oomKilled := run.oomKilled
  executionTimeMs := closing.executionTimeMs
  containerInitMs := closing.containerInitMs
  codeRuntimeMs := closing.codeRuntimeMs

/-- The child has been spawned with its pipes, and has not closed. -/
def childOpen : Bool := run.piped ∧ run.timer ≠ .unset ∧ !run.childClosed

/-- One step, where the event is possible. -/
def step : SandboxEvent → Option SandboxRun
  | .clock now => if run.now ≤ now then some { run with now } else none
  | .spawn outcome => if run.spawnIssuedAt = none then some (run.spawn outcome) else none
  | .data event => if run.childOpen then some (run.onData event) else none
  | .timeout =>
    match run.timer with
    | .armed due => if due ≤ run.now then some run.onTimeout else none
    | _ => none
  -- Without a listener the event ends the worker's process instead.
  | .error => if run.piped then some run.onError else none
  | .close exitCode =>
    if run.childOpen then
      match run.spawnIssuedAt, run.listening with
      | some spawnIssuedAt, true =>
        some { run.onClose spawnIssuedAt exitCode with childClosed := true }
      | _, _ => some { run with childClosed := true }
    else none
  | .link =>
    if run.settledLinks < run.output.published.length then
      some { run with settledLinks := run.settledLinks + 1 }
    else none
  | .resume =>
    match run.closing with
    | some closing =>
      if closing.awaited ≤ run.settledLinks then
        some { run with promise := run.promise.settle (.resolved (run.resolution closing)) }
      else none
    | none => none

end SandboxRun

/-- `runInSandbox` as a labelled machine. -/
def runInSandbox : Machine SandboxRun SandboxEvent where
  step := SandboxRun.step

/--
The result that the worker sees of a resolution.

There is none if the last memory report is so large that `parseInt` makes it Infinity.
-/
structure SandboxResolution.Gives (resolution : SandboxResolution) (result : SandboxResult) : Prop where
  exitCode : result.exitCode = resolution.exitCode
  stdout : result.stdout = String.ofList resolution.output.stdout
  stderr : result.stderr = String.ofList resolution.output.stderr
  timedOut : result.timedOut = resolution.timedOut
  oomKilled : result.oomKilled = resolution.oomKilled
  outputTruncated : result.outputTruncated = resolution.output.outputTruncated
  streamOutputLimitExceeded :
    result.streamOutputLimitExceeded = resolution.output.streamOutputLimitExceeded
  executionTimeMs : result.executionTimeMs = resolution.executionTimeMs
  memoryUsedBytes : result.memoryUsedBytes.map .finite = resolution.output.memoryUsedBytes

end CodeExecution
