import CodeExecution.Web.Submission

/-! The job history of the web client: `useJobHistory`, and the effect of `App` that writes to it. -/

namespace CodeExecution

/-- A status as the history spells it. -/
def UiStatus.text : UiStatus → String
  | .idle => "idle"
  | .submitting => "submitting"
  | .submitError => "submit_error"
  | .job .pending => "PENDING"
  | .job .running => "RUNNING"
  | .job .completed => "COMPLETED"
  | .job .failed => "FAILED"
  | .job .timeout => "TIMEOUT"

/-- One entry of the history; what was stored may hold any text as its status. -/
structure JobHistoryEntry where
  jobId : JobId
  language : Language
  status : String
  submittedAt : Timestamp
  deriving DecidableEq, Repr

/-- `MAX_ENTRIES` -/
def maxEntries : Nat := 10

/-- `addEntry` -/
def addEntry (entries : List JobHistoryEntry) (jobId : JobId) (language : Language)
    (now : Timestamp) : List JobHistoryEntry :=
  (⟨jobId, language, "PENDING", now⟩ :: entries).take maxEntries

/-- `updateStatus` -/
def updateStatus (entries : List JobHistoryEntry) (jobId : JobId) (status : UiStatus) :
    List JobHistoryEntry :=
  entries.map fun entry => if entry.jobId = jobId then { entry with status := status.text } else entry

/-- The hook and the history that `App` calls, and what it has rendered. -/
structure App where
  submission : SubmissionHook
  entries : List JobHistoryEntry
  /-- The job and the status of the last render, which are the dependencies of the effect. -/
  rendered : Option JobId × UiStatus

/-- One event of the hook, or a render. -/
inductive AppLabel where
  | hook (label : HookLabel) (now : Timestamp)
  | render
  deriving DecidableEq, Repr

namespace App

/-- The first render, with the entries that were stored. -/
def initial (stored : List JobHistoryEntry) : App where
  submission := .initial
  entries := stored
  rendered := (none, .idle)

variable (app : App)

/-- The effect writes a status. -/
def settled (status : UiStatus) : Bool :=
  status = .submitError ∨ status.isTerminal

/-- What the effect passes to `updateStatus` if `App` renders now. -/
def effect : Option (JobId × UiStatus) :=
  -- The effect runs only where one of its dependencies has changed.
  if (app.submission.jobId, app.submission.status) = app.rendered then none
  else app.submission.jobId.bind fun jobId =>
    if settled app.submission.status then some (jobId, app.submission.status) else none

/-- A render, and the effect behind it. -/
def render : App :=
  { app with
    entries := match app.effect with
      | some (jobId, status) => updateStatus app.entries jobId status
      | none => app.entries
    rendered := (app.submission.jobId, app.submission.status) }

/-- The entry that `onSubmitted` adds, which has the language of its request. -/
def submittedEntry (label : HookLabel) : Option (JobId × Language) :=
  match label with
  | .submitted index jobId => app.submission.posts[index]?.map fun request => (jobId, request.language)
  | _ => none

/-- One step, where the label is enabled. -/
def step : AppLabel → Option App
  | .hook label now =>
    -- The run button is disabled by the status that was rendered last.
    if (match label with | .run _ => app.rendered.2.isBusy | _ => false) then none
    else (app.submission.step label).map fun submission =>
      { app with
        submission
        entries := match app.submittedEntry label with
          | some (jobId, language) => addEntry app.entries jobId language now
          | none => app.entries }
  | .render => some app.render

end App

/-- The client as a labelled machine. -/
def webApp : Machine App AppLabel where
  step := App.step

end CodeExecution
