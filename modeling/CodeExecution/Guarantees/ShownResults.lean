import CodeExecution.Proofs.Session

/-! What the browser shows of a job, compared with what the services have stored of it. -/

namespace CodeExecution

variable {state : Session} {trace : List SessionLabel}

/-- A reply is about a program of the user, as it was stored, and a final one is the reply of now. -/
def OnRecord (trace : List SessionLabel) (state : Session) (detail : SubmissionDetail) : Prop :=
  (∃ request, .browser (.run request) ∈ trace ∧
    detail.sourceCode = Utf16.toWellFormed request.code ∧ detail.language = request.language) ∧
  (detail.status.isTerminal = true → getSubmission state.server.store detail.jobId = .ok detail)

/-- Such a reply is one that is still true. -/
theorem Briefed.stored (told : Briefed trace state) {detail : SubmissionDetail}
    (answered : Answered state detail) : OnRecord trace state detail := by
  obtain ⟨known, now, read, code, language, final⟩ := answered
  refine ⟨?_, fun terminal => by rw [read, final terminal]⟩
  -- The row that is read has the program that its job was submitted with.
  obtain ⟨request, isAsked⟩ := Option.ne_none_iff_exists'.mp (told.known _ known).2
  obtain ⟨ran, asked⟩ := told.asked _ request isAsked
  obtain ⟨row, found, isNow⟩ := getSubmission_ok read
  obtain ⟨rowCode, rowLanguage⟩ := asked.stored row found
  refine ⟨request, ran, ?_, ?_⟩
  · rw [← code, isNow]
    exact rowCode
  · rw [← language, isNow]
    exact rowLanguage

/-- Labels of the platform, in a session. -/
def onServer (labels : List Label) : List SessionLabel :=
  labels.map fun label => .server (.platform label)

/-- What is replied about a job that has ended well. -/
def completedDetail : SubmissionDetail :=
  { detailOf "job" .completed with
    exitCode := some 0
    stdout := some ""
    stderr := some ""
    executionTimeMs := some 1 }

/-- The user runs a program, a worker completes it, and the browser asks for it once the socket has closed. -/
private def sessionRun : List SessionLabel :=
  [.browser (.run ⟨oneLiner, .python⟩), .arrives ⟨oneLiner, .python⟩ "job"] ++
    onServer (List.replicate 3 (.gateway "job" .resolves)) ++
    [.browser (.submitted 0 "job"), .browser (.opened "job")] ++
    onServer (takingUp "w" ++ .sandbox "w" (some cleanExit) :: workerCalls "w" 9) ++
    [.browser (.closed "job"), .browser (.read 0 completedDetail), .browser (.replied 0)]

end CodeExecution
