import OpenWind.Files.Uploads

/-!
# Scan jobs of uploads

The upload routes call `saveUpload` inside a transaction of their own.  It adds the scan job before
it returns, so the job may run before the row of the file is committed; a job that finds no row
has nothing to do and completes.
-/

open List Option Function

namespace OpenWind

open Runs

inductive UploadTx
  | absent
  | opened (upload : Upload)
  /-- It holds the tenant's row. -/
  | locked (upload : Upload)
  | inserted (row : FileRow)
  /-- The bytes are on disk. -/
  | stored (row : FileRow)
  | returned (row : FileRow)
  | committed
  | failed
  deriving DecidableEq

inductive ScanPhase
  | waiting
  | running
  /-- It has read a pending row. -/
  | scanning
  | delayed
  | completed
  | failed
  deriving DecidableEq

structure ScanJob where
  attemptsMade : Nat := 0
  phase : ScanPhase := .waiting
  deriving DecidableEq

structure ScanWorld where
  now : Time
  files : List FileRow
  lock : Option Id
  uploads : Id → UploadTx
  jobs : Id → Option ScanJob

inductive ScanLabel
  | tick (time : Nat)
  | upload (upload : Upload)
  | go (fileId : Id)
  /-- The upload throws, and its transaction is rolled back. -/
  | fail (fileId : Id)
  | start (fileId : Id)
  | look (fileId : Id)
  | verdict (fileId : Id) (infected : Bool)
  | throws (fileId : Id)
  /-- The handler of the last failed attempt. -/
  | exhaust (fileId : Id)

def UploadTx.row : UploadTx → Option FileRow
  | .inserted row => some row
  | .stored row => some row
  | .returned row => some row
  | _ => none

def UploadTx.isOpen : UploadTx → Bool
  | .absent => false
  | .committed => false
  | .failed => false
  | _ => true

namespace ScanWorld

def put (w : ScanWorld) (fileId : Id) (tx : UploadTx) : ScanWorld :=
  { w with uploads := Function.update w.uploads fileId tx }

def setJob (w : ScanWorld) (fileId : Id) (job : ScanJob) : ScanWorld :=
  { w with jobs := Function.update w.jobs fileId (some job) }

def file (w : ScanWorld) (fileId : Id) : Option FileRow := w.files.find? (·.id == fileId)

def mark (w : ScanWorld) (fileId : Id) (status : ScanStatus) : ScanWorld :=
  { w with files := w.files.map fun row =>
      if row.id = fileId then { row with scanStatus := status, updatedAt := w.now } else row }

def release (w : ScanWorld) (fileId : Id) : ScanWorld :=
  { w with lock := if w.lock = some fileId then none else w.lock }

/-- A job that is there is not added again. -/
def enqueue (w : ScanWorld) (fileId : Id) : ScanWorld :=
  match w.jobs fileId with
  | some _ => w
  | none => w.setJob fileId {}

/-- The next step of an upload. -/
def advance (env : FileEnv) (w : ScanWorld) (fileId : Id) : UploadTx → Option ScanWorld
  | .opened upload =>
    if w.lock = none then some ({ w with lock := some fileId }.put fileId (.locked upload)) else none
  | .locked upload =>
    if env.quotaBytes < (getTenantUsedBytes w.files : Rat) + upload.sizeBytes then none
    else some (w.put fileId
      (.inserted ⟨fileId, upload.mimeType, upload.sizeBytes, .pending, w.now, w.now⟩))
  | .inserted row => some (w.put fileId (.stored row))
  | .stored row =>
    if env.SKIP_AV_SCAN then
      some (w.put fileId (.returned { row with scanStatus := .clean, updatedAt := w.now }))
    else some ((w.enqueue fileId).put fileId (.returned row))
  | .returned row =>
    some (({ w with files := w.files ++ [row] }.release fileId).put fileId .committed)
  | _ => none

def look (w : ScanWorld) (fileId : Id) (job : ScanJob) : ScanWorld :=
  match w.file fileId with
  | none => w.setJob fileId { job with phase := .completed }
  | some row =>
    w.setJob fileId
      { job with phase := if row.scanStatus ≠ .pending then .completed else .scanning }

def failAttempt (w : ScanWorld) (fileId : Id) (job : ScanJob) : ScanWorld :=
  let attemptsMade := job.attemptsMade + 1
  w.setJob fileId ⟨attemptsMade,
    if FileStore.SCAN_ATTEMPTS ≤ attemptsMade then .failed else .delayed⟩

def jobStep (w : ScanWorld) (fileId : Id) (phases : List ScanPhase) (next : ScanJob → ScanWorld) :
    Option ScanWorld :=
  match w.jobs fileId with
  | some job => if job.phase ∈ phases then some (next job) else none
  | none => none

def step (env : FileEnv) (w : ScanWorld) : ScanLabel → Option ScanWorld
  | .tick time => some { w with now := w.now + time }
  | .upload upload =>
    if FileStore.MAX_FILE_BYTES < upload.sizeBytes ∨
        FileStore.getMimeSizeLimit upload.mimeType < upload.sizeBytes then none
    else if w.uploads upload.fileId = .absent ∧ w.file upload.fileId = none then
      some (w.put upload.fileId (.opened upload))
    else none
  | .go fileId => w.advance env fileId (w.uploads fileId)
  | .fail fileId =>
    if (w.uploads fileId).isOpen then some ((w.release fileId).put fileId .failed) else none
  | .start fileId =>
    w.jobStep fileId [.waiting, .delayed] fun job => w.setJob fileId { job with phase := .running }
  | .look fileId => w.jobStep fileId [.running] (w.look fileId)
  | .verdict fileId infected =>
    w.jobStep fileId [.scanning] fun job =>
      (w.mark fileId (if infected then .quarantined else .clean)).setJob fileId
        { job with phase := .completed }
  | .throws fileId => w.jobStep fileId [.running, .scanning] (w.failAttempt fileId)
  | .exhaust fileId => w.jobStep fileId [.failed] fun _ => w.mark fileId .scanFailed

/-- No upload, and no job. -/
def idle (now : Time) (files : List FileRow) : ScanWorld :=
  ⟨now, files, none, fun _ => .absent, fun _ => none⟩

/-! ## The property and its condition -/

def EveryScanned (w : ScanWorld) : Prop :=
  ∀ fileId row, w.uploads fileId = .committed → w.file fileId = some row →
    row.scanStatus = .pending → ∃ job, w.jobs fileId = some job ∧ job.phase ≠ .completed

def CommitsFirst (w : ScanWorld) : ScanLabel → Prop
  | .go fileId => ∀ row job, w.uploads fileId = .returned row → row.scanStatus = .pending →
      w.jobs fileId = some job → job.phase ≠ .completed
  | _ => True

/-! ## The invariant -/

structure Sound (w : ScanWorld) : Prop where
  unborn : ∀ fileId, (w.uploads fileId).isOpen = true → w.file fileId = none
  named : ∀ fileId row, (w.uploads fileId).row = some row → row.id = fileId
  queued : ∀ fileId row, w.uploads fileId = .returned row → row.scanStatus = .pending →
    ∃ job, w.jobs fileId = some job

variable {env : FileEnv} {w w' : ScanWorld}

theorem Sound.idle (now : Time) (files : List FileRow) : (ScanWorld.idle now files).Sound :=
  ⟨nofun, nofun, nofun⟩

theorem file_mark (fileId other : Id) (status : ScanStatus) :
    (w.mark fileId status).file other = (w.file other).map fun row =>
      if row.id = fileId then { row with scanStatus := status, updatedAt := w.now } else row := by
  unfold file mark
  apply Rows.find?_updated
  intro row
  split
  · rfl
  · rfl

variable {fileId : Id} {status : ScanStatus} {tx : UploadTx} {label : ScanLabel}

theorem file_mark_pending {fileId other : Id} {row : FileRow} (closed : status ≠ .pending)
    (found : (w.mark fileId status).file other = some row) (pending : row.scanStatus = .pending) :
    other ≠ fileId ∧ w.file other = some row := by
  rw [file_mark] at found
  obtain ⟨before, was, rfl⟩ := map_eq_some_iff.mp found
  have named : before.id = other := by simpa using find?_some was
  by_cases same : before.id = fileId
  · rw [if_pos same] at pending
    exact absurd pending closed
  · rw [if_neg same]
    exact ⟨fun eq => same (named.trans eq), was⟩

theorem EveryScanned.of_kept (scanned : w.EveryScanned)
    (committed : ∀ fileId, w'.uploads fileId = .committed → w.uploads fileId = .committed)
    (files : ∀ fileId row, w'.file fileId = some row → row.scanStatus = .pending →
      ∃ before, w.file fileId = some before ∧ before.scanStatus = .pending)
    (jobs : ∀ fileId job row, w.jobs fileId = some job → job.phase ≠ .completed →
      w'.file fileId = some row → row.scanStatus = .pending →
        ∃ job', w'.jobs fileId = some job' ∧ job'.phase ≠ .completed) : w'.EveryScanned := by
  intro fileId row done found pending
  obtain ⟨before, was, still⟩ := files fileId row found pending
  obtain ⟨job, queued, open'⟩ := scanned fileId before (committed fileId done) was still
  exact jobs fileId job row queued open' found pending

theorem EveryScanned.put (scanned : w.EveryScanned) (fileId : Id) {tx : UploadTx}
    (uncommitted : tx ≠ .committed) : (w.put fileId tx).EveryScanned := by
  refine scanned.of_kept ?_ (fun _ row found pending => ⟨row, found, pending⟩)
    fun _ job _ queued open' _ _ => ⟨job, queued, open'⟩
  intro other done
  change Function.update w.uploads fileId tx other = .committed at done
  by_cases same : other = fileId
  · rw [same, update_self] at done
    exact absurd done uncommitted
  · rwa [update_of_ne same] at done

theorem EveryScanned.setJob (scanned : w.EveryScanned) {fileId : Id} {job : ScanJob}
    (open' : job.phase = .completed → ∀ row, w.file fileId = some row → row.scanStatus ≠ .pending) :
    (w.setJob fileId job).EveryScanned := by
  refine scanned.of_kept (fun _ done => done) (fun _ row found pending => ⟨row, found, pending⟩) ?_
  intro other job' row queued phase found pending
  change ∃ job', Function.update w.jobs fileId (some job) other = some job' ∧ _
  by_cases same : other = fileId
  · subst same
    rw [update_self]
    exact ⟨job, rfl, fun completed => open' completed row found pending⟩
  · rw [update_of_ne same]
    exact ⟨job', queued, phase⟩

theorem EveryScanned.mark (scanned : w.EveryScanned) (fileId : Id) {status : ScanStatus}
    (closed : status ≠ .pending) : (w.mark fileId status).EveryScanned := by
  refine scanned.of_kept (fun _ done => done) ?_
    fun _ job _ queued open' _ _ => ⟨job, queued, open'⟩
  intro other row found pending
  exact ⟨row, (file_mark_pending closed found pending).2, pending⟩

theorem file_mark_self {row : FileRow} (closed : status ≠ .pending)
    (found : (w.mark fileId status).file fileId = some row) : row.scanStatus ≠ .pending := fun pending =>
  (file_mark_pending closed found pending).1 rfl

theorem enqueue_queues (w : ScanWorld) (fileId : Id) :
    ∃ job, (w.enqueue fileId).jobs fileId = some job := by
  unfold enqueue
  split
  · next job queued => exact ⟨job, queued⟩
  · exact ⟨_, update_self ..⟩

theorem EveryScanned.enqueue (scanned : w.EveryScanned) (fileId : Id) :
    (w.enqueue fileId).EveryScanned := by
  unfold ScanWorld.enqueue
  split
  · exact scanned
  · exact scanned.setJob nofun

theorem commit_scanned_iff (sound : w.Sound) (scanned : w.EveryScanned) {row : FileRow}
    (returned : w.uploads fileId = .returned row) :
    (({ w with files := w.files ++ [row] }.release fileId).put fileId .committed).EveryScanned ↔
      (row.scanStatus = .pending → ∀ job, w.jobs fileId = some job → job.phase ≠ .completed) := by
  have unborn : w.file fileId = none := sound.unborn fileId (by rw [returned]; rfl)
  have named : row.id = fileId := sound.named fileId row (by rw [returned]; rfl)
  have files : ∀ other, (w.files ++ [row]).find? (·.id == other) =
      (w.file other).or (if other = fileId then some row else none) := by
    intro other
    rw [find?_append]
    congr 1
    by_cases same : other = fileId
    · rw [if_pos same, find?_singleton, if_pos (by simp [named, same])]
    · rw [if_neg same, find?_singleton, if_neg (by simpa [named] using Ne.symm same)]
  constructor
  · intro after pending job queued completed
    have found : (w.files ++ [row]).find? (·.id == fileId) = some row := by
      rw [files, unborn, if_pos rfl, none_or]
    obtain ⟨job', queued', open'⟩ := after fileId row (update_self ..) found pending
    rw [Option.some.inj (queued.symm.trans queued')] at completed
    exact open' completed
  · intro first other row' done found pending
    change (w.files ++ [row]).find? (·.id == other) = some row' at found
    change Function.update w.uploads fileId .committed other = .committed at done
    rw [files] at found
    by_cases same : other = fileId
    · subst same
      rw [unborn, if_pos rfl, none_or, Option.some.injEq] at found
      subst found
      obtain ⟨job, queued⟩ := sound.queued other row returned pending
      exact ⟨job, queued, first pending job queued⟩
    · rw [if_neg same, or_none] at found
      rw [update_of_ne same] at done
      exact scanned other row' done found pending

/-! ### Steps -/

theorem Sound.put (sound : w.Sound) {fileId : Id} {tx : UploadTx}
    (unborn : tx.isOpen → w.file fileId = none)
    (named : ∀ row, tx.row = some row → row.id = fileId)
    (queued : ∀ row, tx = .returned row → row.scanStatus = .pending →
      ∃ job, w.jobs fileId = some job) : (w.put fileId tx).Sound := by
  refine ⟨fun other => ?_, fun other row => ?_, fun other row => ?_⟩
  · change (Function.update w.uploads fileId tx other).isOpen = true → w.file other = none
    by_cases same : other = fileId
    · rw [same, update_self]
      exact unborn
    · rw [update_of_ne same]
      exact sound.unborn other
  · change (Function.update w.uploads fileId tx other).row = some row → row.id = other
    by_cases same : other = fileId
    · rw [same, update_self]
      exact named row
    · rw [update_of_ne same]
      exact sound.named other row
  · change Function.update w.uploads fileId tx other = .returned row → _
    by_cases same : other = fileId
    · rw [same, update_self]
      exact queued row
    · rw [update_of_ne same]
      exact sound.queued other row

theorem Sound.setJob (sound : w.Sound) (fileId : Id) (job : ScanJob) :
    (w.setJob fileId job).Sound := by
  refine ⟨sound.unborn, sound.named, fun other row returned pending => ?_⟩
  change ∃ job', Function.update w.jobs fileId (some job) other = some job'
  by_cases same : other = fileId
  · rw [same, update_self]
    exact ⟨job, rfl⟩
  · rw [update_of_ne same]
    exact sound.queued other row returned pending

theorem Sound.mark (sound : w.Sound) (fileId : Id) (status : ScanStatus) :
    (w.mark fileId status).Sound := by
  refine ⟨fun other open' => ?_, sound.named, sound.queued⟩
  rw [file_mark, sound.unborn other open', map_none]

theorem Sound.enqueue (sound : w.Sound) (fileId : Id) : (w.enqueue fileId).Sound := by
  unfold ScanWorld.enqueue
  split
  · exact sound
  · exact sound.setJob fileId {}

theorem enqueue_file (fileId other : Id) : (w.enqueue fileId).file other = w.file other := by
  unfold enqueue
  split
  · rfl
  · rfl

theorem Sound.commit (sound : w.Sound) {fileId : Id} {row : FileRow}
    (returned : w.uploads fileId = .returned row) :
    Sound (({ w with files := w.files ++ [row] }.release fileId).put fileId .committed) := by
  have named : row.id = fileId := sound.named fileId row (by rw [returned]; rfl)
  refine ⟨fun other open' => ?_, fun other row' => ?_, fun other row' => ?_⟩
  · change (Function.update w.uploads fileId .committed other).isOpen = true at open'
    change (w.files ++ [row]).find? (·.id == other) = none
    by_cases same : other = fileId
    · rw [same, update_self] at open'
      cases open'
    · rw [update_of_ne same] at open'
      have absent : w.files.find? (·.id == other) = none := sound.unborn other open'
      rw [find?_append, absent, none_or, find?_singleton,
        if_neg (by simpa [named] using Ne.symm same)]
  · change (Function.update w.uploads fileId .committed other).row = some row' → row'.id = other
    by_cases same : other = fileId
    · rw [same, update_self]
      exact nofun
    · rw [update_of_ne same]
      exact sound.named other row'
  · change Function.update w.uploads fileId .committed other = .returned row' → _
    by_cases same : other = fileId
    · rw [same, update_self]
      exact nofun
    · rw [update_of_ne same]
      exact sound.queued other row'

theorem Sound.advance (sound : w.Sound) (here : w.uploads fileId = tx)
    (advanced : w.advance env fileId tx = some w') : w'.Sound := by
  have unborn : tx.isOpen → w.file fileId = none := by
    rw [← here]
    exact sound.unborn fileId
  have named : ∀ row, tx.row = some row → row.id = fileId := by
    rw [← here]
    exact sound.named fileId
  revert advanced
  fun_cases ScanWorld.advance env w fileId tx <;> intro advanced <;> cases advanced
  · have held : Sound { w with lock := some fileId } := ⟨sound.unborn, sound.named, sound.queued⟩
    exact held.put (fun _ => unborn rfl) nofun nofun
  · refine sound.put (fun _ => unborn rfl) ?_ nofun
    intro row inserted
    rw [← Option.some.inj inserted]
  · exact sound.put (fun _ => unborn rfl) named nofun
  · next row _ =>
    refine sound.put (fun _ => unborn rfl) ?_ ?_
    · intro row' inserted
      rw [← Option.some.inj inserted]
      exact named row rfl
    · intro row' same pending
      rw [← UploadTx.returned.inj same] at pending
      cases pending
  · refine (sound.enqueue fileId).put ?_ named fun _ _ _ => enqueue_queues w fileId
    intro _
    rw [enqueue_file]
    exact unborn rfl
  · exact sound.commit here

theorem advance_uncommitted (scanned : w.EveryScanned) (early : ∀ row, tx ≠ .returned row)
    (advanced : w.advance env fileId tx = some w') : w'.EveryScanned := by
  revert advanced
  fun_cases advance env w fileId tx <;> intro advanced <;> cases advanced
  case case7.refl => exact (scanned.enqueue fileId).put fileId nofun
  case case8.refl row => exact absurd rfl (early row)
  all_goals exact scanned.put fileId nofun

theorem Sound.look (sound : w.Sound) (fileId : Id) (job : ScanJob) : (w.look fileId job).Sound := by
  unfold ScanWorld.look
  split
  · exact sound.setJob _ _
  · exact sound.setJob _ _

theorem look_kept (scanned : w.EveryScanned) (fileId : Id) (job : ScanJob) :
    (w.look fileId job).EveryScanned := by
  unfold look
  split
  · next absent =>
    refine scanned.setJob fun _ row found => ?_
    rw [absent] at found
    cases found
  · next row present =>
    refine scanned.setJob fun completed row' found => ?_
    rw [← Option.some.inj (present.symm.trans found)]
    intro pending
    rw [if_neg (not_not.mpr pending)] at completed
    cases completed

theorem failAttempt_kept (scanned : w.EveryScanned) (fileId : Id) (job : ScanJob) :
    (w.failAttempt fileId job).EveryScanned := by
  refine scanned.setJob fun completed => ?_
  dsimp only at completed
  split at completed
  · cases completed
  · cases completed

theorem jobStep_some {phases : List ScanPhase} {next : ScanJob → ScanWorld}
    (stepped : w.jobStep fileId phases next = some w') :
    ∃ job, w.jobs fileId = some job ∧ job.phase ∈ phases ∧ w' = next job := by
  unfold jobStep at stepped
  split at stepped
  · next job queued =>
    split at stepped
    · next phase =>
      cases stepped
      exact ⟨job, queued, phase, rfl⟩
    · cases stepped
  · cases stepped

theorem files_advance (advanced : w.advance env fileId tx = some w') :
    w'.files = w.files ∨ ∃ row, tx = .returned row ∧ w'.files = w.files ++ [row] := by
  revert advanced
  fun_cases advance env w fileId tx <;> intro advanced <;> cases advanced
  case case7.refl =>
    refine .inl ?_
    unfold enqueue
    split
    · rfl
    · rfl
  case case8.refl row => exact .inr ⟨row, rfl, rfl⟩
  all_goals exact .inl rfl

theorem files_step (stepped : w.step env label = some w') :
    w'.files = w.files ∨
      (∃ fileId infected, label = .verdict fileId infected ∧
        w'.files = (w.mark fileId (if infected then .quarantined else .clean)).files) ∨
      (∃ fileId, label = .exhaust fileId ∧ w'.files = (w.mark fileId .scanFailed).files) ∨
      ∃ fileId row, label = .go fileId ∧ w.uploads fileId = .returned row ∧
        w'.files = w.files ++ [row] := by
  revert stepped
  fun_cases step env w label <;> intro stepped <;> try cases stepped
  case case5 fileId =>
    rcases files_advance stepped with same | ⟨row, returned, added⟩
    · exact .inl same
    · exact .inr (.inr (.inr ⟨fileId, row, rfl, returned, added⟩))
  case case8 | case11 =>
    obtain ⟨job, -, -, rfl⟩ := jobStep_some stepped
    exact .inl rfl
  case case9 =>
    obtain ⟨job, -, -, rfl⟩ := jobStep_some stepped
    refine .inl ?_
    unfold look
    split
    · rfl
    · rfl
  case case10 fileId infected =>
    obtain ⟨job, -, -, rfl⟩ := jobStep_some stepped
    exact .inr (.inl ⟨fileId, infected, rfl, rfl⟩)
  case case12 fileId =>
    obtain ⟨job, -, -, rfl⟩ := jobStep_some stepped
    exact .inr (.inr (.inl ⟨fileId, rfl, rfl⟩))
  all_goals exact .inl rfl

theorem Sound.next (sound : w.Sound) (stepped : w.step env label = some w') : w'.Sound := by
  revert stepped
  fun_cases step env w label <;> intro stepped <;> try cases stepped
  case case1.refl => exact ⟨sound.unborn, sound.named, sound.queued⟩
  case case3.refl free => exact sound.put (fun _ => free.2) nofun nofun
  case case5 fileId => exact sound.advance rfl stepped
  case case6.refl fileId _ =>
    have released : (w.release fileId).Sound := ⟨sound.unborn, sound.named, sound.queued⟩
    exact released.put nofun nofun nofun
  case case8 | case11 =>
    obtain ⟨job, -, -, rfl⟩ := jobStep_some stepped
    exact sound.setJob _ _
  case case9 fileId =>
    obtain ⟨job, -, -, rfl⟩ := jobStep_some stepped
    exact sound.look fileId job
  case case10 =>
    obtain ⟨job, -, -, rfl⟩ := jobStep_some stepped
    exact (sound.mark _ _).setJob _ _
  case case12 =>
    obtain ⟨job, -, -, rfl⟩ := jobStep_some stepped
    exact sound.mark _ _

theorem EveryScanned.next (scanned : w.EveryScanned) (stepped : w.step env label = some w')
    (early : ∀ fileId row, label = .go fileId → w.uploads fileId ≠ .returned row) :
    w'.EveryScanned := by
  revert stepped
  fun_cases step env w label <;> intro stepped <;> try cases stepped
  case case1.refl => exact scanned
  case case3.refl => exact scanned.put _ nofun
  case case5 fileId => exact advance_uncommitted scanned (early fileId · rfl) stepped
  case case6.refl fileId _ => exact scanned.put fileId nofun
  case case8 =>
    obtain ⟨job, -, -, rfl⟩ := jobStep_some stepped
    exact scanned.setJob nofun
  case case9 fileId =>
    obtain ⟨job, -, -, rfl⟩ := jobStep_some stepped
    exact look_kept scanned fileId job
  case case10 fileId infected =>
    obtain ⟨job, -, -, rfl⟩ := jobStep_some stepped
    have closed : (if infected then ScanStatus.quarantined else .clean) ≠ .pending := by
      split
      · exact nofun
      · exact nofun
    exact (scanned.mark fileId closed).setJob fun _ row found => file_mark_self closed found
  case case11 fileId =>
    obtain ⟨job, -, -, rfl⟩ := jobStep_some stepped
    exact failAttempt_kept scanned fileId job
  case case12 fileId =>
    obtain ⟨job, -, -, rfl⟩ := jobStep_some stepped
    exact scanned.mark fileId nofun

theorem commitsFirst_iff (sound : w.Sound) (scanned : w.EveryScanned) (label : ScanLabel) :
    w.CommitsFirst label ↔ ∀ w', w.step env label = some w' → w'.EveryScanned := by
  by_cases commit : ∃ fileId row, label = .go fileId ∧ w.uploads fileId = .returned row
  · obtain ⟨fileId, row, rfl, returned⟩ := commit
    have exact := commit_scanned_iff sound scanned returned
    constructor
    · intro first w' stepped
      simp only [step, returned] at stepped
      cases stepped
      exact exact.mpr fun pending job queued => first row job returned pending queued
    · intro after row' job same pending queued
      have eq : row = row' := UploadTx.returned.inj (returned.symm.trans same)
      have committed := after _ (by simp only [step, returned]; rfl)
      exact exact.mp committed (by rw [eq]; exact pending) job queued
  · have early : ∀ fileId row, label = .go fileId → w.uploads fileId ≠ .returned row :=
      fun fileId row go returned => commit ⟨fileId, row, go, returned⟩
    constructor
    · exact fun _ w' stepped => scanned.next stepped early
    · intro _
      cases label with
      | go fileId => exact fun row job returned => absurd returned (early fileId row rfl)
      | _ => trivial

/-- In every state of a run a file that is committed as pending has a scan job that has not
completed, exactly when no upload commits after its scan job has completed. -/
theorem uploads_scanned_iff (env : FileEnv) (now : Time) (files : List FileRow)
    (labels : List ScanLabel) :
    Always (step env) EveryScanned (idle now files) labels ↔
      Guarded (step env) CommitsFirst (idle now files) labels :=
  guarded_iff (I := Sound) (fun sound _ stepped _ => sound.next stepped)
    (fun sound scanned => commitsFirst_iff sound scanned _) (.idle now files) nofun

end ScanWorld

/-! ## A job that runs before the commit -/

namespace ScanSample

def env : FileEnv := ⟨[], false⟩

def early : List ScanLabel :=
  [.upload ⟨7, "image/png", 10⟩, .go 7, .go 7, .go 7, .go 7, .start 7, .look 7, .go 7]

end ScanSample

open ScanSample ScanWorld in
/-- The job finds no row and completes, and the file is committed as pending. -/
theorem upload_never_scanned : ¬ Always (step env) EveryScanned (idle 0 []) early := by
  intro always
  have unscanned : (run (step env) (idle 0 []) early).any (fun w =>
      decide (w.uploads 7 = .committed) && (w.file 7).any (·.scanStatus == .pending) &&
        (w.jobs 7).all (·.phase == .completed)) = true := by
    decide +kernel
  obtain ⟨w, ran, unscanned⟩ := (Option.any_eq_true _ _).mp unscanned
  obtain ⟨committed, completed⟩ := Bool.and_eq_true_iff.mp unscanned
  obtain ⟨committed, pending⟩ := Bool.and_eq_true_iff.mp committed
  obtain ⟨row, found, pending⟩ := (Option.any_eq_true _ _).mp pending
  obtain ⟨job, queued, open'⟩ :=
    always.last ran 7 row (of_decide_eq_true committed) found (eq_of_beq pending)
  exact open' (eq_of_beq ((Option.all_eq_true _ _).mp completed job queued))

end OpenWind
