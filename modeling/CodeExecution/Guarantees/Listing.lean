import CodeExecution.Services.Listing
import CodeExecution.Settings

/-! The listing of submissions page by page, and how it compares with that of the dead letters. -/

namespace CodeExecution

variable {store : Store} {status : Option SubmissionStatus} {limit page : Nat} {rows : List SubmissionRow}

/-- A number within its bounds is taken as it is. -/
theorem parsePositiveInteger_within {number fallback max : Nat} (least : 1 ≤ number) (most : number ≤ max) :
    parsePositiveInteger (some number) fallback max = some number := by
  rw [parsePositiveInteger, if_neg (by omega), Int.toNat_natCast]

/-- A number beyond its bound is refused. -/
theorem parsePositiveInteger_beyond {number fallback max : Nat} (beyond : max < number) :
    parsePositiveInteger (some number) fallback max = none := by
  rw [parsePositiveInteger, if_pos (by omega)]

/-! ## Pages of submissions -/

/-- The submissions of one page; a refused query shows none. -/
def listedOn (store : Store) (status : Option SubmissionStatus) (limit page : Nat)
    (rows : List SubmissionRow) : List ListedSubmission :=
  match listSubmissions store { page := some page, limit := some limit, status } rows with
  | .ok reply => reply.submissions
  | .error _ => []

/-- How many pages there are. -/
def Store.pages (store : Store) (status : Option SubmissionStatus) (limit : Nat) : Nat :=
  totalPages (store.matching status).length limit

/-- The pages show every matching submission once, and nothing comes behind the last one. -/
structure Partitioned (store : Store) (status : Option SubmissionStatus) (limit : Nat)
    (orders : Nat → List SubmissionRow) : Prop where
  once : ((List.range' 1 (store.pages status limit)).flatMap fun page =>
    listedOn store status limit page (orders page)).Perm ((store.matching status).map listedSubmission)
  later : ∀ page, store.pages status limit < page → listedOn store status limit page (orders page) = []

/-- A page that may be asked for shows the rows at its offset. -/
theorem listedOn_eq (least : 1 ≤ limit) (most : limit ≤ 100) {index : Nat} (safe : index < maxSafeInteger) :
    listedOn store status limit (index + 1) rows = (Pages.page limit index rows).map listedSubmission := by
  unfold listedOn listSubmissions
  rw [parsePositiveInteger_within (Nat.le_add_left 1 index) safe, parsePositiveInteger_within least most]
  rfl

/-- No page with a larger number may be asked for. -/
theorem listedOn_unsafe (beyond : maxSafeInteger < page) : listedOn store status limit page rows = [] := by
  unfold listedOn listSubmissions
  rw [parsePositiveInteger_beyond beyond]

/-- The last page is the one that has the last row. -/
theorem totalPages_le_iff {total count : Nat} (positive : 0 < limit) :
    totalPages total limit ≤ count ↔ total ≤ count * limit := by
  rw [totalPages, Pages.pageCount, ← Nat.lt_succ_iff, Nat.div_lt_iff_lt_mul positive, Nat.succ_mul]
  omega

/-- The pages up to a number that may be asked for. -/
theorem listed_pages (least : 1 ≤ limit) (most : limit ≤ 100) (orders : Nat → List SubmissionRow)
    {count : Nat} (safe : count ≤ maxSafeInteger) :
    ((List.range' 1 count).flatMap fun page => listedOn store status limit page (orders page)) =
      (Pages.firstPages limit count fun index => orders (index + 1)).map listedSubmission := by
  rw [List.range'_eq_map_range, List.flatMap_map, Pages.firstPages, List.map_flatMap]
  refine List.flatMap_congr fun index member => ?_
  rw [Nat.add_comm 1 index]
  exact listedOn_eq least most (lt_of_lt_of_le (List.mem_range.mp member) safe)

/-- Different rows are listed as different submissions. -/
theorem listed_nodup (store : Store) (status : Option SubmissionStatus) :
    ((store.matching status).map listedSubmission).Nodup := by
  -- The key of a row is shown.
  refine List.Nodup.of_map ListedSubmission.jobId ?_
  rw [List.map_map]
  exact store.submissions.keysNodup.sublist (List.filter_sublist.map _)

/-- The pages that may be asked for have room for all rows where they show each of them. -/
theorem pages_safe_of_partitioned {order : List SubmissionRow} (least : 1 ≤ limit) (most : limit ≤ 100)
    (partitioned : Partitioned store status limit fun _ => order) :
    store.pages status limit ≤ maxSafeInteger := by
  by_contra beyond
  have whole := partitioned.once.length_eq
  obtain ⟨rest, split⟩ := Nat.exists_eq_add_of_le (le_of_lt (not_le.mp beyond))
  -- The pages behind the safe ones are refused.
  have refused : ((List.range' (1 + maxSafeInteger) rest).flatMap fun page =>
      listedOn store status limit page order) = [] := by
    refine List.flatMap_eq_nil_iff.mpr fun page member => listedOn_unsafe ?_
    have from_ := (List.mem_range'_1.mp member).1
    omega
  have less : (store.matching status).length ≤ maxSafeInteger * limit := by
    rw [split, ← List.range'_append_1, List.flatMap_append, refused, List.append_nil,
      listed_pages least most _ (le_refl _), List.length_map, List.length_map] at whole
    rw [← whole]
    have first := Pages.firstPages_take limit maxSafeInteger order
    rw [first, List.length_take]
    exact Nat.min_le_left _ _
  exact beyond ((totalPages_le_iff least).mpr less)

/-- Pages that show every row once, whatever their orders, are cut beside the ties. -/
theorem clean_of_partitioned (least : 1 ≤ limit) (most : limit ≤ 100)
    (safe : store.pages status limit ≤ maxSafeInteger)
    (partitioned : ∀ orders, (∀ page, store.newestFirst status (orders page)) →
      Partitioned store status limit orders) (boundary : Nat) :
    Pages.Clean SubmissionRow.createdAt (store.matching status) (boundary * limit) := by
  by_contra tied
  cases boundary with
  | zero => exact tied fun value cut => absurd cut.1 (by simp)
  | succ index =>
    have inside : index + 1 < store.pages status limit := by
      by_contra last
      have few := (totalPages_le_iff least).mp (not_lt.mp last)
      refine tied fun value cut => ?_
      have most := List.countP_le_length (p := fun row : SubmissionRow => value ≤ row.createdAt)
        (l := store.matching status)
      omega
    -- One row would be shown on both sides of the boundary.
    obtain ⟨orders, each, repeats⟩ := Pages.repeats_of_tied least tied inside
    refine repeats (List.Nodup.of_map listedSubmission ?_)
    have once := (partitioned (fun page => orders (page - 1)) fun page => each _).once
    rw [listed_pages least most _ safe] at once
    exact once.nodup_iff.mpr (listed_nodup store status)

/-- Pages that are cut beside the ties show every row once, and those behind them none. -/
theorem partitioned_of_clean {orders : Nat → List SubmissionRow} (least : 1 ≤ limit)
    (most : limit ≤ 100) (safe : store.pages status limit ≤ maxSafeInteger)
    (clean : ∀ boundary, Pages.Clean SubmissionRow.createdAt (store.matching status) (boundary * limit))
    (each : ∀ page, store.newestFirst status (orders page)) : Partitioned store status limit orders := by
  have fit : (store.matching status).length ≤ store.pages status limit * limit :=
    (totalPages_le_iff least).mp (le_refl _)
  refine ⟨?_, fun page later => ?_⟩
  · rw [listed_pages least most _ safe]
    refine List.Perm.map _ ?_
    have first := Pages.firstPages_perm (each 0) (fun index => each (index + 1))
      (store.pages status limit) clean
    rw [List.take_of_length_le] at first
    · exact first.trans (each 0).1
    · rwa [(each 0).1.length_eq]
  · -- A page that may not be asked for shows nothing either.
    by_cases asked : page ≤ maxSafeInteger
    · obtain ⟨index, rfl⟩ : ∃ index, page = index + 1 :=
        ⟨page - 1, (Nat.sub_add_cancel (by omega)).symm⟩
      rw [listedOn_eq least most asked, Pages.page_beyond, List.map_nil]
      rw [(each _).1.length_eq]
      exact (totalPages_le_iff least).mp (Nat.lt_succ_iff.mp later)
    · exact listedOn_unsafe (not_le.mp asked)

/--
The pages partition the submissions, however Postgres orders ties, just if no boundary is inside a tie.

The numbers of all pages must be safe integers too, which no table of Postgres can violate.
-/
theorem listing_partitions_iff (store : Store) (status : Option SubmissionStatus) (limit : Nat)
    (least : 1 ≤ limit) (most : limit ≤ 100) :
    (∀ orders, (∀ page, store.newestFirst status (orders page)) → Partitioned store status limit orders) ↔
      (∀ boundary, Pages.Clean SubmissionRow.createdAt (store.matching status) (boundary * limit)) ∧
        store.pages status limit ≤ maxSafeInteger := by
  constructor
  -- Every order of the ties is possible, so one of them shows a tie at a boundary.
  · intro partitioned
    obtain ⟨order, sorted⟩ := Pages.exists_sorted SubmissionRow.createdAt (store.matching status)
    have safe := pages_safe_of_partitioned least most (partitioned (fun _ => order) fun _ => sorted)
    exact ⟨clean_of_partitioned least most safe partitioned, safe⟩
  · rintro ⟨clean, safe⟩ orders each
    exact partitioned_of_clean least most safe clean each

/-- Two submissions of different times are listed on two pages of one. -/
theorem listing_partitions_example : ∃ state,
    platform.Runs (fun _ _ => True) .initial
      (submission "job" ++ .clock 1 :: submission "other") state ∧
    ∀ orders, (∀ page, state.store.newestFirst none (orders page)) →
      Partitioned state.store none 1 orders := by
  have executed : (platform.guardedRun (fun _ _ => True) .initial
      (submission "job" ++ .clock 1 :: submission "other")).map
        (fun state => (state.store.matching none).map SubmissionRow.createdAt) = some [0, 1] := by decide
  obtain ⟨state, run, times⟩ := Machine.runs_of_guardedRun platform _ _ _ _ _ executed
  refine ⟨state, run, (listing_partitions_iff state.store none 1 (by decide) (by decide)).mpr ⟨?_, ?_⟩⟩
  · intro boundary value cut
    -- At each time there is one submission at most.
    have larger : ∀ large : Nat → Bool,
        (state.store.matching none).countP (fun row => large row.createdAt) = [0, 1].countP large := by
      intro large
      rw [← times, List.countP_map]
      rfl
    rw [larger fun time => value < time, larger fun time => value ≤ time] at cut
    rcases value with _ | _ | value <;> simp at cut <;> omega
  · have two : (state.store.matching none).length = 2 := by
      simpa using congrArg List.length times
    rw [Store.pages, two]
    decide

/-- Of two submissions of one millisecond, one may be listed twice, and the other one not at all. -/
theorem listing_repeats_submission : ∃ state orders,
    platform.Runs (fun _ _ => True) .initial (submission "job" ++ submission "other") state ∧
    (∀ page, state.store.newestFirst none (orders page)) ∧
    ((List.range' 1 (state.store.pages none 1)).flatMap fun page =>
      (listedOn state.store none 1 page (orders page)).map ListedSubmission.jobId) = ["job", "job"] ∧
    ¬ Partitioned state.store none 1 orders := by
  have executed : (platform.guardedRun (fun _ _ => True) .initial
      (submission "job" ++ submission "other")).map (fun state => state.store.matching none) =
      some [submissionRow (submittedPayload "job"), submissionRow (submittedPayload "other")] := by decide
  obtain ⟨state, run, rows⟩ := Machine.runs_of_guardedRun platform _ _ _ _ _ executed
  -- The second query has the two rows the other way round.
  refine ⟨state, fun page => if page = 1 then [submissionRow (submittedPayload "job"),
    submissionRow (submittedPayload "other")] else [submissionRow (submittedPayload "other"),
    submissionRow (submittedPayload "job")], run, fun page => ?_, ?_⟩
  · rw [Store.newestFirst, rows]
    dsimp only
    split
    · exact ⟨by decide, by decide⟩
    · exact ⟨by decide, by decide⟩
  · refine and_iff_left_of_imp (fun twice partitioned => ?_) |>.mpr ?_
    · have names := partitioned.once.map ListedSubmission.jobId
      rw [List.map_flatMap, twice, rows] at names
      exact absurd names (by decide)
    · rw [Store.pages, rows]
      rfl

/-! ## Pages of dead letters -/

/-- The letters of one page; a refused query shows none. -/
def lettersOn (store : Store) (limit page : Nat) : List DLQPayload :=
  match listDeadLetters store (some page) (some limit) with
  | .ok reply => reply.items
  | .error _ => []

/-- A page that may be asked for shows the letters at its offset. -/
theorem lettersOn_eq (store : Store) (least : 1 ≤ limit) (most : limit ≤ 100) {index : Nat}
    (safe : index < maxSafeInteger) :
    lettersOn store limit (index + 1) = Pages.page limit index store.deadLetter := by
  -- The second position of the LRANGE is included.
  have stop : index * limit + limit - 1 + 1 - index * limit = limit := by omega
  unfold lettersOn listDeadLetters
  rw [parsePositiveInteger_within (Nat.le_add_left 1 index) safe, parsePositiveInteger_within least most]
  dsimp only
  rw [lrange, Nat.add_sub_cancel, stop, Pages.page]

end CodeExecution
