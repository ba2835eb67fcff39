import OpenWind.Files.ScanJobs

/-!
# Rows of files and their bytes

The rows of files are in the database and their bytes on disk.  `saveUpload` writes the bytes in
the transaction of its caller; `deleteFile` removes them after a transaction of its own, but each
of its callers has another one around it that commits later; the cleanup removes the bytes of the
rows that it has picked, and then the rows; the reset of a sandbox deletes all rows, and later
removes the directory of the tenant.
-/

open List Option Function

namespace OpenWind

open Runs

inductive FileDeletion
  | called (fileId : Id)
  /-- It has read a row that is not deleted. -/
  | found (fileId : Id)
  /-- The row is marked as deleted, and locked. -/
  | marked (fileId : Id)
  /-- The bytes are removed. -/
  | unlinked (fileId : Id)
  | ended
  deriving DecidableEq

def FileDeletion.about (fileId : Id) : FileDeletion → Bool
  | .found read => read == fileId
  | .marked read => read == fileId
  | .unlinked read => read == fileId
  | _ => false

def FileDeletion.holds (fileId : Id) : FileDeletion → Bool
  | .marked held => held == fileId
  | .unlinked held => held == fileId
  | _ => false

/-- What the cleanup reads of a row. -/
structure StaleFile where
  id : Id
  scanStatus : ScanStatus
  deriving DecidableEq

structure FileCleanup where
  staleFiles : List StaleFile
  /-- The bytes of the first one are removed. -/
  unlinked : Bool := false
  deriving DecidableEq

structure BytesWorld where
  scans : ScanWorld
  disk : List Id
  /-- The files whose scan has opened their bytes. -/
  opened : List Id := []
  deletions : List FileDeletion := []
  cleanups : List FileCleanup := []
  /-- The reset has deleted the rows, and is not done. -/
  resetting : Bool := false
  since : List Id := []

inductive BytesLabel
  | scan (label : ScanLabel)
  /-- The scan job opens the bytes of its file. -/
  | opens (fileId : Id)
  | delete (fileId : Id)
  /-- The next step of a deletion, at last the commit around it; `ok` is for the disk. -/
  | deletes (i : Nat) (ok : Bool)
  /-- The transaction around a deletion is rolled back. -/
  | deleteThrows (i : Nat)
  | cleanup (cutoff : Time) (staleFiles : List StaleFile)
  | purges (i : Nat) (ok : Bool)
  | purgeThrows (i : Nat)
  /-- The reset deletes the rows. -/
  | wipe
  /-- It removes the bytes of one of the files in the directory of the tenant. -/
  | removes (fileId : Id)
  | resetDone

def ScanWorld.scanning (w : ScanWorld) (fileId : Id) : Bool :=
  (w.jobs fileId).any (·.phase == .scanning)

namespace BytesWorld

def locked (w : BytesWorld) (fileId : Id) : Bool := w.deletions.any (·.holds fileId)

/-- `unlink`, which may fail. -/
def unlink (w : BytesWorld) (fileId : Id) (ok : Bool) : BytesWorld :=
  { w with disk := if ok then w.disk.filter (· ≠ fileId) else w.disk }

def setDeletion (w : BytesWorld) (i : Nat) (deletion : FileDeletion) : BytesWorld :=
  { w with deletions := w.deletions.set i deletion }

def setCleanup (w : BytesWorld) (i : Nat) (cleanup : FileCleanup) : BytesWorld :=
  { w with cleanups := w.cleanups.set i cleanup }

/-! ## Steps -/

def judging (w : BytesWorld) (fileId : Id) : Bool :=
  w.scans.scanning fileId && w.opened.contains fileId && !w.locked fileId

/-- Nothing that is under way names the identifier. -/
def unheard (w : BytesWorld) (fileId : Id) : Bool :=
  !w.deletions.any (·.about fileId) && !w.scans.scanning fileId &&
    !w.cleanups.any fun cleanup => cleanup.staleFiles.any (·.id == fileId)

def allows (w : BytesWorld) : ScanLabel → Bool
  | .upload upload => w.unheard upload.fileId
  | .verdict fileId _ => w.judging fileId
  | .exhaust fileId => !w.locked fileId
  | _ => true

def written (w : BytesWorld) : ScanLabel → List Id
  | .go fileId =>
    match w.scans.uploads fileId with
    | .inserted row => [row.id]
    | _ => []
  | _ => []

def committed (w : BytesWorld) : ScanLabel → List Id
  | .go fileId =>
    match w.scans.uploads fileId with
    | .returned row => [row.id]
    | _ => []
  | _ => []

/-- What stays open. -/
def stillOpen (w : BytesWorld) : ScanLabel → List Id
  | .verdict fileId _ => w.opened.filter (· ≠ fileId)
  | .throws fileId => w.opened.filter (· ≠ fileId)
  | _ => w.opened

/-- The rows that the cleanup picks. -/
def stale (w : BytesWorld) (cutoff : Time) : List StaleFile :=
  (w.scans.files.filter (·.isStale cutoff)).map fun file => ⟨file.id, file.scanStatus⟩

/-- A step of an upload or of a scan job. -/
def scan (w : BytesWorld) (label : ScanLabel) (scans : ScanWorld) : BytesWorld :=
  { w with
    scans
    disk := w.written label ++ w.disk
    opened := w.stillOpen label
    since := w.committed label ++ w.since }

def deletionStep (w : BytesWorld) (i : Nat) (ok : Bool) : FileDeletion → Option BytesWorld
  | .called fileId =>
    match w.scans.file fileId with
    | none => some (w.setDeletion i .ended)
    | some file =>
      some (w.setDeletion i (if file.scanStatus = .deleted then .ended else .found fileId))
  | .found fileId => if w.locked fileId then none else some (w.setDeletion i (.marked fileId))
  | .marked fileId => some ((w.unlink fileId ok).setDeletion i (.unlinked fileId))
  | .unlinked fileId => some ({ w with scans := w.scans.mark fileId .deleted }.setDeletion i .ended)
  | .ended => none

def cleanupStep (w : BytesWorld) (i : Nat) (ok : Bool) : FileCleanup → Option BytesWorld
  | ⟨[], _⟩ => none
  | ⟨file :: rest, false⟩ => some ((w.unlink file.id ok).setCleanup i ⟨file :: rest, true⟩)
  | ⟨file :: rest, true⟩ =>
    if w.locked file.id then none
    else
      let files := w.scans.files.filter (·.id ≠ file.id)
      some ({ w with scans := { w.scans with files } }.setCleanup i ⟨rest, false⟩)

def step (env : FileEnv) (w : BytesWorld) : BytesLabel → Option BytesWorld
  | .scan label =>
    if w.allows label then (w.scans.step env label).map (w.scan label) else none
  | .opens fileId =>
    if w.scans.scanning fileId ∧ fileId ∈ w.disk then
      some { w with opened := fileId :: w.opened }
    else none
  | .delete fileId => some { w with deletions := w.deletions ++ [.called fileId] }
  | .deletes i ok => w.deletions[i]?.bind (w.deletionStep i ok)
  | .deleteThrows i => w.deletions[i]?.map fun _ => w.setDeletion i .ended
  | .cleanup cutoff staleFiles =>
    if cutoff + FileStore.STALE_AFTER_HOURS * 60 * 60 * 1000 ≤ w.scans.now ∧
        staleFiles ⊆ w.stale cutoff ∧ staleFiles.Nodup ∧
        staleFiles.length = min (w.stale cutoff).length FileStore.BATCH_LIMIT then
      some { w with cleanups := w.cleanups ++ [⟨staleFiles, false⟩] }
    else none
  | .purges i ok => w.cleanups[i]?.bind (w.cleanupStep i ok)
  | .purgeThrows i =>
    w.cleanups[i]?.bind fun cleanup =>
      if cleanup.unlinked then some (w.setCleanup i ⟨cleanup.staleFiles.tail, false⟩) else none
  | .wipe =>
    if w.resetting ∨ w.scans.files.any (w.locked ·.id) then none
    else some { w with scans := { w.scans with files := [] }, resetting := true, since := [] }
  | .removes fileId => if w.resetting then some (w.unlink fileId true) else none
  | .resetDone => if w.resetting then some { w with resetting := false } else none

def start (now : Time) (files : List FileRow) (disk : List Id) : BytesWorld :=
  { scans := .idle now files, disk }

/-! ## The property and its condition -/

def LiveBytes (w : BytesWorld) : Prop :=
  ∀ file ∈ w.scans.files, file.scanStatus = .clean → file.id ∈ w.disk

def RowNot (w : BytesWorld) (fileId : Id) (status : ScanStatus) : Prop :=
  ∀ file ∈ w.scans.files, file.id = fileId → file.scanStatus ≠ status

instance (w : BytesWorld) (fileId : Id) (status : ScanStatus) :
    Decidable (w.RowNot fileId status) :=
  inferInstanceAs (Decidable (∀ file ∈ w.scans.files, _))

def StillStale (w : BytesWorld) (stale : StaleFile) : Prop :=
  (∀ file ∈ w.scans.files, file.id = stale.id → file.scanStatus = stale.scanStatus) ∧
    (stale.scanStatus = .pending → stale.id ∉ w.opened)

instance (w : BytesWorld) (stale : StaleFile) : Decidable (w.StillStale stale) :=
  inferInstanceAs (Decidable (_ ∧ _))

def Careful (w : BytesWorld) : BytesLabel → Prop
  | .scan (.verdict fileId false) => w.RowNot fileId .deleted
  | .deletes i _ =>
    match w.deletions[i]? with
    | some (.found fileId) => w.RowNot fileId .clean
    | _ => True
  | .deleteThrows i =>
    match w.deletions[i]? with
    | some (.unlinked fileId) => fileId ∈ w.opened → fileId ∈ w.disk
    | _ => True
  | .purges i true =>
    match w.cleanups[i]? with
    | some ⟨stale :: _, false⟩ => w.StillStale stale
    | _ => True
  | .removes fileId => fileId ∉ w.since ∧ (w.scans.uploads fileId).isOpen = false
  | _ => True

end BytesWorld

/-! ## What a step of an upload or of a scan job does -/

namespace ScanWorld

variable {env : FileEnv} {w w' : ScanWorld} {label : ScanLabel} {fileId : Id}

inductive UploadStep (w : ScanWorld) (fileId : Id) : ScanLabel → UploadTx → Prop
  | begun {upload : Upload} (own : upload.fileId = fileId) :
    UploadStep w fileId (.upload upload) (.opened upload)
  | went {tx : UploadTx} (was : (w.uploads fileId).isOpen = true)
    (stored : ∀ row, tx = .stored row → w.uploads fileId = .inserted row)
    (returned : ∀ row, tx = .returned row → ∃ before, w.uploads fileId = .stored before) :
    UploadStep w fileId (.go fileId) tx
  | failed : UploadStep w fileId (.fail fileId) .failed

theorem uploads_advance {tx : UploadTx} (here : w.uploads fileId = tx)
    (advanced : w.advance env fileId tx = some w') :
    ∃ tx', w'.uploads = Function.update w.uploads fileId tx' ∧
      w.UploadStep fileId (.go fileId) tx' := by
  have was : ∀ tx', tx = tx' → tx'.isOpen = true → (w.uploads fileId).isOpen = true := by
    rintro tx' rfl isOpen
    rw [here]
    exact isOpen
  revert advanced
  fun_cases advance env w fileId tx <;> intro advanced <;> cases advanced
  case case1.refl | case4.refl | case8.refl =>
    refine ⟨_, rfl, .went (was _ rfl rfl) (fun _ same => ?_) fun _ same => ?_⟩
    · cases same
    · cases same
  case case5.refl row =>
    refine ⟨_, rfl, .went (was _ rfl rfl) (fun row' same => ?_) fun _ same => ?_⟩
    · rw [here, UploadTx.stored.inj same]
    · cases same
  case case6.refl row _ =>
    refine ⟨_, rfl, .went (was _ rfl rfl) (fun _ same => ?_) fun _ _ => ⟨row, here⟩⟩
    cases same
  case case7.refl row _ =>
    refine ⟨.returned row, ?_, .went (was _ rfl rfl) (fun _ same => ?_) fun _ _ => ⟨row, here⟩⟩
    · unfold put enqueue
      split
      · rfl
      · rfl
    · cases same

theorem uploads_step (stepped : w.step env label = some w') :
    w'.uploads = w.uploads ∨ ∃ fileId tx, w'.uploads = Function.update w.uploads fileId tx ∧
      w.UploadStep fileId label tx := by
  revert stepped
  fun_cases step env w label <;> intro stepped <;> try cases stepped
  case case1.refl => exact .inl rfl
  case case3.refl upload _ _ => exact .inr ⟨_, _, rfl, .begun rfl⟩
  case case5 fileId =>
    obtain ⟨tx, uploads, went⟩ := uploads_advance rfl stepped
    exact .inr ⟨fileId, tx, uploads, went⟩
  case case6.refl fileId _ => exact .inr ⟨fileId, _, rfl, .failed⟩
  case case9 fileId =>
    obtain ⟨job, -, -, rfl⟩ := jobStep_some stepped
    refine .inl ?_
    unfold look
    split
    · rfl
    · rfl
  all_goals
    obtain ⟨job, -, -, rfl⟩ := jobStep_some stepped
    exact .inl rfl

theorem isOpen_step (stepped : w.step env label = some w')
    (isOpen : (w'.uploads fileId).isOpen = true) :
    (w.uploads fileId).isOpen = true ∨ ∃ upload, label = .upload upload ∧ upload.fileId = fileId := by
  rcases uploads_step stepped with same | ⟨other, tx, uploads, made⟩
  · rw [same] at isOpen
    exact .inl isOpen
  · rw [uploads] at isOpen
    by_cases own : fileId = other
    · subst own
      cases made with
      | begun own => exact .inr ⟨_, rfl, own⟩
      | went was => exact .inl was
      | failed =>
        rw [update_self] at isOpen
        cases isOpen
    · rw [update_of_ne own] at isOpen
      exact .inl isOpen

inductive JobStep (w : ScanWorld) (fileId : Id) : ScanLabel → ScanPhase → Prop
  | queued (none : w.jobs fileId = none) : JobStep w fileId (.go fileId) .waiting
  | started {job : ScanJob} (here : w.jobs fileId = some job) (early : job.phase ≠ .scanning) :
    JobStep w fileId (.start fileId) .running
  | looked {job : ScanJob} {phase : ScanPhase} (here : w.jobs fileId = some job)
    (early : job.phase ≠ .scanning)
    (present : phase = .scanning → (w.file fileId).isSome = true) :
    JobStep w fileId (.look fileId) phase
  | judged {infected : Bool} : JobStep w fileId (.verdict fileId infected) .completed
  | threw {phase : ScanPhase} (past : phase ≠ .scanning) : JobStep w fileId (.throws fileId) phase

theorem jobs_step (stepped : w.step env label = some w') :
    w'.jobs = w.jobs ∨ ∃ fileId attemptsMade phase,
      w'.jobs = Function.update w.jobs fileId (some ⟨attemptsMade, phase⟩) ∧
      w.JobStep fileId label phase := by
  revert stepped
  fun_cases step env w label <;> intro stepped <;> try cases stepped
  case case5 fileId =>
    revert stepped
    fun_cases advance env w fileId (w.uploads fileId) <;> intro stepped <;> cases stepped
    case case7.refl =>
      unfold put enqueue
      split
      · exact .inl rfl
      · next none => exact .inr ⟨fileId, _, _, rfl, .queued none⟩
    all_goals exact .inl rfl
  case case8 fileId =>
    obtain ⟨job, here, phase, rfl⟩ := jobStep_some stepped
    refine .inr ⟨fileId, _, _, rfl, .started here fun scanning => ?_⟩
    rw [scanning] at phase
    exact absurd phase (by decide)
  case case9 fileId =>
    obtain ⟨job, here, phase, rfl⟩ := jobStep_some stepped
    have early : job.phase ≠ .scanning := by
      rw [mem_singleton.mp phase]
      decide
    unfold look
    split
    · refine .inr ⟨fileId, _, _, rfl, .looked here early fun scanning => ?_⟩
      cases scanning
    · next present =>
      exact .inr ⟨fileId, _, _, rfl, .looked here early fun _ => by rw [present]; rfl⟩
  case case10 fileId infected =>
    obtain ⟨job, here, phase, rfl⟩ := jobStep_some stepped
    exact .inr ⟨fileId, _, _, rfl, .judged⟩
  case case11 fileId =>
    obtain ⟨job, here, phase, rfl⟩ := jobStep_some stepped
    refine .inr ⟨fileId, _, _, rfl, .threw ?_⟩
    split
    · decide
    · decide
  case case12 fileId =>
    obtain ⟨job, here, phase, rfl⟩ := jobStep_some stepped
    exact .inl rfl
  all_goals exact .inl rfl

theorem scanning_iff : w.scanning fileId = true ↔
    ∃ job, w.jobs fileId = some job ∧ job.phase = .scanning := by
  unfold scanning
  rw [Option.any_eq_true]
  exact exists_congr fun job => and_congr_right fun _ => beq_iff_eq

theorem scanning_step (stepped : w.step env label = some w') (scanning : w'.scanning fileId = true) :
    w.scanning fileId = true ∨ (label = .look fileId ∧ (w.file fileId).isSome = true) := by
  obtain ⟨job, here, phase⟩ := scanning_iff.mp scanning
  rcases jobs_step stepped with same | ⟨other, attemptsMade, phase', jobs, made⟩
  · rw [same] at here
    exact .inl (scanning_iff.mpr ⟨job, here, phase⟩)
  · rw [jobs] at here
    by_cases own : fileId = other
    · subst own
      rw [update_self] at here
      cases here
      cases made with
      | looked here early present => exact .inr ⟨rfl, present phase⟩
      | threw past => exact absurd phase past
      | queued | started | judged => cases phase
    · rw [update_of_ne own] at here
      exact .inl (scanning_iff.mpr ⟨job, here, phase⟩)

theorem scanning_kept (stepped : w.step env label = some w') (scanning : w.scanning fileId = true)
    (judges : ∀ infected, label ≠ .verdict fileId infected) (throws : label ≠ .throws fileId) :
    w'.scanning fileId = true := by
  obtain ⟨job, here, phase⟩ := scanning_iff.mp scanning
  rcases jobs_step stepped with same | ⟨other, attemptsMade, phase', jobs, made⟩
  · exact scanning_iff.mpr ⟨job, by rw [same]; exact here, phase⟩
  · by_cases own : fileId = other
    · subst own
      cases made with
      | queued none => exact absurd (none.symm.trans here) nofun
      | started here' early | looked here' early =>
        cases here.symm.trans here'
        exact absurd phase early
      | judged => exact absurd rfl (judges _)
      | threw => exact absurd rfl throws
    · exact scanning_iff.mpr ⟨job, by rw [jobs, update_of_ne own]; exact here, phase⟩

theorem exhaust_failed (stepped : w.step env (.exhaust fileId) = some w') :
    w.scanning fileId = false := by
  obtain ⟨job, here, failed, -⟩ := jobStep_some stepped
  rw [Bool.eq_false_iff]
  intro scanning
  obtain ⟨job', here', phase⟩ := scanning_iff.mp scanning
  cases here.symm.trans here'
  rw [mem_singleton.mp failed] at phase
  cases phase

end ScanWorld

namespace BytesWorld

variable {env : FileEnv} {w w' : BytesWorld} {fileId : Id} {i : Nat} {ok : Bool}

/-! ## The invariant -/

def Closed (w : BytesWorld) (fileId : Id) : Prop := (w.scans.uploads fileId).isOpen = false

def Withdrawn (w : BytesWorld) (fileId : Id) : Prop :=
  ∀ file ∈ w.scans.files, file.id = fileId → file.scanStatus = .deleted

def Readable (w : BytesWorld) (fileId : Id) : Prop :=
  fileId ∈ w.disk ∨ w.Withdrawn fileId ∨ .unlinked fileId ∈ w.deletions

structure Sound (w : BytesWorld) : Prop where
  scans : w.scans.Sound
  live : w.LiveBytes
  stored : ∀ fileId row, w.scans.uploads fileId = .stored row ∨
    w.scans.uploads fileId = .returned row → fileId ∈ w.disk
  read : ∀ deletion ∈ w.deletions, ∀ fileId, deletion.about fileId = true → w.Closed fileId
  held : ∀ deletion ∈ w.deletions, ∀ fileId, deletion.holds fileId = true → w.RowNot fileId .clean
  picked : ∀ cleanup ∈ w.cleanups, ∀ stale ∈ cleanup.staleFiles, w.Closed stale.id ∧
    (stale.scanStatus = .pending ∨ stale.scanStatus = .deleted)
  scanned : ∀ fileId, w.scans.scanning fileId = true → w.Closed fileId
  opened : ∀ fileId ∈ w.opened, w.scans.scanning fileId = true ∧ w.Readable fileId
  wiped : w.resetting = true → ∀ file ∈ w.scans.files, file.id ∈ w.since

theorem Sound.start {now : Time} {files : List FileRow} {disk : List Id}
    (live : (start now files disk).LiveBytes) : (start now files disk).Sound :=
  ⟨.idle now files, live, nofun, nofun, nofun, nofun, nofun, nofun, nofun⟩

theorem Sound.closed (sound : w.Sound) (present : (w.scans.file fileId).isSome = true) :
    w.Closed fileId := by
  unfold Closed
  rw [Bool.eq_false_iff]
  intro isOpen
  rw [sound.scans.unborn fileId isOpen] at present
  cases present

theorem closed_of_mem (sound : w.Sound) {file : FileRow} (mem : file ∈ w.scans.files) :
    w.Closed file.id :=
  sound.closed (find?_isSome.mpr ⟨file, mem, beq_self_eq_true _⟩)

theorem locked_iff : w.locked fileId = true ↔
    ∃ deletion ∈ w.deletions, deletion.holds fileId = true :=
  List.any_eq_true

theorem FileDeletion.about_of_holds {deletion : FileDeletion}
    (holds : deletion.holds fileId = true) : deletion.about fileId = true := by
  cases deletion with
  | marked | unlinked => exact holds
  | _ => cases holds

theorem mem_mark {scans : ScanWorld} {status : ScanStatus} {file : FileRow}
    (mem : file ∈ (scans.mark fileId status).files) :
    ∃ before ∈ scans.files, before.id = file.id ∧
      file.scanStatus = if before.id = fileId then status else before.scanStatus := by
  obtain ⟨before, was, rfl⟩ := List.mem_map.mp mem
  refine ⟨before, was, ?_⟩
  split
  · exact ⟨rfl, rfl⟩
  · exact ⟨rfl, rfl⟩

theorem unlink_subset {other : Id} (there : other ∈ w.disk) (others : other ≠ fileId) :
    other ∈ (w.unlink fileId ok).disk := by
  cases ok with
  | false => exact there
  | true => exact mem_filter.mpr ⟨there, decide_eq_true others⟩

/-! ### Uploads and scans -/

theorem row_cases {label : ScanLabel} {scans : ScanWorld}
    (stepped : w.scans.step env label = some scans) {file : FileRow} (mem : file ∈ scans.files) :
    (∃ before ∈ w.scans.files, before.id = file.id ∧ before.scanStatus = file.scanStatus) ∨
      (∃ before ∈ w.scans.files, before.id = file.id ∧ ∃ infected,
        label = .verdict file.id infected ∧
          file.scanStatus = if infected then .quarantined else .clean) ∨
      ((∃ before ∈ w.scans.files, before.id = file.id) ∧ label = .exhaust file.id ∧
        file.scanStatus = .scanFailed) ∨
      ∃ fileId, label = .go fileId ∧ w.scans.uploads fileId = .returned file := by
  rcases ScanWorld.files_step stepped with same | ⟨fileId, infected, rfl, marked⟩ |
    ⟨fileId, rfl, marked⟩ | ⟨fileId, row, rfl, returned, added⟩
  · rw [same] at mem
    exact .inl ⟨file, mem, rfl, rfl⟩
  · rw [marked] at mem
    obtain ⟨before, was, same, status⟩ := mem_mark mem
    by_cases own : before.id = fileId
    · rw [if_pos own] at status
      rw [← own, same]
      exact .inr (.inl ⟨before, was, same, infected, rfl, status⟩)
    · rw [if_neg own] at status
      exact .inl ⟨before, was, same, status.symm⟩
  · rw [marked] at mem
    obtain ⟨before, was, same, status⟩ := mem_mark mem
    by_cases own : before.id = fileId
    · rw [if_pos own] at status
      rw [← own, same]
      exact .inr (.inr (.inl ⟨⟨before, was, same⟩, rfl, status⟩))
    · rw [if_neg own] at status
      exact .inl ⟨before, was, same, status.symm⟩
  · rw [added] at mem
    rcases mem_append.mp mem with old | new
    · exact .inl ⟨file, old, rfl, rfl⟩
    · cases mem_singleton.mp new
      exact .inr (.inr (.inr ⟨fileId, rfl, returned⟩))

section Scan

variable {label : ScanLabel} {scans : ScanWorld} (sound : w.Sound)
  (allowed : w.allows label = true) (stepped : w.scans.step env label = some scans)

include sound in
theorem Sound.returned {file : FileRow} (returned : w.scans.uploads fileId = .returned file) :
    file.id = fileId ∧ fileId ∈ w.disk :=
  ⟨sound.scans.named fileId file (by rw [returned]; rfl), sound.stored fileId file (.inr returned)⟩

include sound allowed in
theorem Sound.judged {infected : Bool} (own : label = .verdict fileId infected) :
    fileId ∈ w.disk ∨ w.Withdrawn fileId := by
  subst own
  simp only [allows, judging, Bool.and_eq_true, Bool.not_eq_true'] at allowed
  obtain ⟨⟨-, isOpen⟩, free⟩ := allowed
  rcases (sound.opened fileId (contains_iff_mem.mp isOpen)).2 with there | gone | unlinked
  · exact .inl there
  · exact .inr gone
  · have holds : FileDeletion.holds fileId (.unlinked fileId) = true := beq_self_eq_true fileId
    rw [locked_iff.mpr ⟨_, unlinked, holds⟩] at free
    cases free

include sound allowed stepped in
theorem Sound.live_scan (careful : w.Careful (.scan label)) : (w.scan label scans).LiveBytes := by
  have disk : w.disk ⊆ w.written label ++ w.disk := subset_append_right _ _
  intro file mem clean
  refine disk ?_
  rcases row_cases stepped mem with ⟨before, was, same, status⟩ |
    ⟨before, was, same, infected, verdict, status⟩ | ⟨-, -, status⟩ | ⟨fileId, -, returned⟩
  · rw [← same]
    exact sound.live before was (status.trans clean)
  · cases infected with
    | true => cases status.symm.trans clean
    | false =>
      rcases sound.judged allowed verdict with there | gone
      · exact there
      · rw [verdict] at careful
        exact absurd (gone before was same) (careful before was same)
  · cases status.symm.trans clean
  · obtain ⟨own, there⟩ := sound.returned returned
    rw [own]
    exact there

include sound stepped in
theorem Sound.stored_scan (fileId : Id) (row : FileRow)
    (stored : scans.uploads fileId = .stored row ∨ scans.uploads fileId = .returned row) :
    fileId ∈ (w.scan label scans).disk := by
  have disk : w.disk ⊆ w.written label ++ w.disk := subset_append_right _ _
  rcases ScanWorld.uploads_step stepped with same | ⟨other, tx, uploads, made⟩
  · rw [same] at stored
    exact disk (sound.stored fileId row stored)
  · rw [uploads] at stored
    by_cases own : fileId = other
    · subst own
      rw [update_self] at stored
      cases made with
      | begun | failed =>
        rcases stored with now | now
        · cases now
        · cases now
      | went was inserted returned =>
        rcases stored with now | now
        · have before := inserted row now
          have named := sound.scans.named fileId row (by rw [before]; rfl)
          refine mem_append_left _ ?_
          simp only [written, before, named]
          exact mem_singleton_self _
        · obtain ⟨before, was⟩ := returned row now
          exact disk (sound.stored fileId before (.inl was))
    · rw [update_of_ne own] at stored
      exact disk (sound.stored fileId row stored)

include stepped in
theorem closed_scan (closed : w.Closed fileId)
    (heard : ∀ upload, label = .upload upload → upload.fileId ≠ fileId) :
    (w.scan label scans).Closed fileId := by
  unfold Closed at closed ⊢
  rw [Bool.eq_false_iff]
  intro isOpen
  rcases ScanWorld.isOpen_step stepped isOpen with before | ⟨upload, begun, own⟩
  · rw [closed] at before
    cases before
  · exact heard upload begun own

include allowed in
theorem unheard_of_allowed {upload : Upload} (begun : label = .upload upload) :
    (∀ deletion ∈ w.deletions, deletion.about upload.fileId = false) ∧
      w.scans.scanning upload.fileId = false ∧
      ∀ cleanup ∈ w.cleanups, ∀ stale ∈ cleanup.staleFiles, stale.id ≠ upload.fileId := by
  subst begun
  simp only [allows, unheard, Bool.and_eq_true, Bool.not_eq_true', List.any_eq_false, beq_iff_eq,
    Bool.not_eq_true] at allowed
  exact ⟨allowed.1.1, allowed.1.2, allowed.2⟩

include sound stepped in
theorem Sound.row_kept (closed : w.Closed fileId)
    (judges : ∀ infected, label ≠ .verdict fileId infected) (exhausts : label ≠ .exhaust fileId)
    {file : FileRow} (mem : file ∈ scans.files) (own : file.id = fileId) :
    ∃ before ∈ w.scans.files, before.id = fileId ∧ before.scanStatus = file.scanStatus := by
  subst own
  rcases row_cases stepped mem with kept | ⟨-, -, -, infected, verdict, -⟩ | ⟨-, exhausted, -⟩ |
    ⟨fileId, -, returned⟩
  · exact kept
  · exact absurd verdict (judges infected)
  · exact absurd exhausted exhausts
  · rw [(sound.returned returned).1] at closed
    unfold Closed at closed
    rw [returned] at closed
    cases closed

include sound allowed stepped in
theorem Sound.held_scan (deletion : FileDeletion) (mem : deletion ∈ w.deletions) (fileId : Id)
    (holds : deletion.holds fileId = true) : (w.scan label scans).RowNot fileId .clean := by
  intro file there own clean
  rcases row_cases stepped there with ⟨before, was, same, status⟩ |
    ⟨before, was, same, infected, verdict, -⟩ | ⟨-, -, status⟩ | ⟨other, -, returned⟩
  · exact sound.held deletion mem fileId holds before was (same.trans own) (status.trans clean)
  · rw [own] at verdict
    subst verdict
    have free := (Bool.and_eq_true_iff.mp allowed).2
    have locked : w.locked fileId = true := locked_iff.mpr ⟨deletion, mem, holds⟩
    rw [locked] at free
    cases free
  · cases status.symm.trans clean
  · have closed := sound.read deletion mem fileId (FileDeletion.about_of_holds holds)
    obtain rfl : other = fileId := (sound.returned returned).1.symm.trans own
    unfold Closed at closed
    rw [returned] at closed
    cases closed

include sound allowed stepped in
theorem Sound.scanned_scan (fileId : Id) (scanning : scans.scanning fileId = true) :
    (w.scan label scans).Closed fileId := by
  have closed : w.Closed fileId := by
    rcases ScanWorld.scanning_step stepped scanning with before | ⟨-, present⟩
    · exact sound.scanned fileId before
    · exact sound.closed present
  refine closed_scan stepped closed ?_
  rintro upload rfl rfl
  rcases ScanWorld.scanning_step stepped scanning with before | ⟨look, -⟩
  · rw [(unheard_of_allowed allowed rfl).2.1] at before
    cases before
  · cases look

theorem opened_of_stillOpen (isOpen : fileId ∈ w.stillOpen label) :
    fileId ∈ w.opened ∧ (∀ infected, label ≠ .verdict fileId infected) ∧
      label ≠ .throws fileId := by
  unfold stillOpen at isOpen
  split at isOpen
  · obtain ⟨was, other⟩ := mem_filter.mp isOpen
    refine ⟨was, fun infected same => ?_, nofun⟩
    cases same
    exact of_decide_eq_true other rfl
  · obtain ⟨was, other⟩ := mem_filter.mp isOpen
    refine ⟨was, nofun, fun same => ?_⟩
    cases same
    exact of_decide_eq_true other rfl
  · next judges throws =>
    exact ⟨isOpen, fun infected same => judges _ _ same, fun same => throws _ same⟩

include sound stepped in
theorem Sound.opened_scan (fileId : Id) (isOpen : fileId ∈ w.stillOpen label) :
    scans.scanning fileId = true ∧ (w.scan label scans).Readable fileId := by
  obtain ⟨was, judges, throws⟩ := opened_of_stillOpen isOpen
  obtain ⟨scanning, readable⟩ := sound.opened fileId was
  refine ⟨ScanWorld.scanning_kept stepped scanning judges throws, ?_⟩
  rcases readable with there | gone | unlinked
  · exact .inl (mem_append_right _ there)
  · refine .inr (.inl fun file mem own => ?_)
    have exhausts : label ≠ .exhaust fileId := by
      rintro rfl
      rw [ScanWorld.exhaust_failed stepped] at scanning
      cases scanning
    obtain ⟨before, before', same, status⟩ := sound.row_kept stepped
      (sound.scanned fileId scanning) judges exhausts mem own
    exact status.symm.trans (gone before before' same)
  · exact .inr (.inr unlinked)

include sound stepped in
theorem Sound.wiped_scan (resetting : w.resetting = true) (file : FileRow)
    (mem : file ∈ scans.files) : file.id ∈ w.committed label ++ w.since := by
  have kept {before : FileRow} (was : before ∈ w.scans.files) (same : before.id = file.id) :
      file.id ∈ w.committed label ++ w.since := by
    rw [← same]
    exact mem_append_right _ (sound.wiped resetting before was)
  rcases row_cases stepped mem with ⟨before, was, same, -⟩ | ⟨before, was, same, -⟩ |
    ⟨⟨before, was, same⟩, -⟩ | ⟨fileId, rfl, returned⟩
  · exact kept was same
  · exact kept was same
  · exact kept was same
  · refine mem_append_left _ ?_
    simp only [committed, returned]
    exact mem_singleton_self _

include sound allowed stepped in
theorem Sound.scan (careful : w.Careful (.scan label)) : (w.scan label scans).Sound := by
  have unheard {upload : Upload} (begun : label = .upload upload) :=
    unheard_of_allowed allowed begun
  refine ⟨sound.scans.next stepped, sound.live_scan allowed stepped careful,
    sound.stored_scan stepped, fun deletion mem fileId about => ?_, sound.held_scan allowed stepped,
    fun cleanup mem stale picked => ?_, sound.scanned_scan allowed stepped, sound.opened_scan stepped,
    sound.wiped_scan stepped⟩
  · refine closed_scan stepped (sound.read deletion mem fileId about) ?_
    rintro upload begun rfl
    rw [(unheard begun).1 deletion mem] at about
    cases about
  · refine ⟨closed_scan stepped (sound.picked cleanup mem stale picked).1 ?_,
      (sound.picked cleanup mem stale picked).2⟩
    exact fun upload begun same => (unheard begun).2.2 cleanup mem stale picked same.symm

end Scan

/-! ### Removals -/

theorem Sound.unlink (sound : w.Sound) (unclean : w.RowNot fileId .clean) (closed : w.Closed fileId)
    (opened : fileId ∈ w.opened → w.Withdrawn fileId ∨ .unlinked fileId ∈ w.deletions) :
    (w.unlink fileId ok).Sound := by
  refine ⟨sound.scans, fun file mem clean => ?_, fun other row stored => ?_, sound.read, sound.held,
    sound.picked, sound.scanned, fun other isOpen => ?_, sound.wiped⟩
  · exact unlink_subset (sound.live file mem clean) fun own => unclean file mem own clean
  · refine unlink_subset (sound.stored other row stored) ?_
    rintro rfl
    unfold Closed at closed
    change w.scans.uploads other = _ ∨ w.scans.uploads other = _ at stored
    rcases stored with now | now
    · rw [now] at closed
      cases closed
    · rw [now] at closed
      cases closed
  · obtain ⟨scanning, readable⟩ := sound.opened other isOpen
    refine ⟨scanning, ?_⟩
    by_cases own : other = fileId
    · subst own
      exact .inr (opened isOpen)
    · exact readable.imp_left (unlink_subset · own)

theorem Sound.setDeletion (sound : w.Sound) {old new : FileDeletion}
    (here : w.deletions[i]? = some old)
    (read : ∀ fileId, new.about fileId = true → w.Closed fileId)
    (held : ∀ fileId, new.holds fileId = true → w.RowNot fileId .clean)
    (opened : ∀ fileId ∈ w.opened, old = .unlinked fileId → fileId ∈ w.disk ∨ w.Withdrawn fileId) :
    (w.setDeletion i new).Sound := by
  refine ⟨sound.scans, sound.live, sound.stored, Calls.forall_replaced sound.read read,
    Calls.forall_replaced sound.held held, sound.picked, sound.scanned, fun fileId isOpen => ?_,
    sound.wiped⟩
  obtain ⟨scanning, there | gone | unlinked⟩ := sound.opened fileId isOpen
  · exact ⟨scanning, .inl there⟩
  · exact ⟨scanning, .inr (.inl gone)⟩
  · rcases Calls.mem_replaced here unlinked with was | still
    · exact ⟨scanning, (opened fileId isOpen was.symm).imp_right .inl⟩
    · exact ⟨scanning, .inr (.inr still)⟩

theorem Sound.markDeleted (sound : w.Sound) (fileId : Id) :
    Sound { w with scans := w.scans.mark fileId .deleted } := by
  have unclean {file : FileRow} (mem : file ∈ (w.scans.mark fileId .deleted).files)
      (clean : file.scanStatus = .clean) :
      ∃ before ∈ w.scans.files, before.id = file.id ∧ before.scanStatus = .clean := by
    obtain ⟨before, was, same, status⟩ := mem_mark mem
    refine ⟨before, was, same, ?_⟩
    split at status
    · cases status.symm.trans clean
    · exact status.symm.trans clean
  refine ⟨sound.scans.mark _ _, fun file mem clean => ?_, sound.stored, sound.read,
    fun deletion mem other holds file there own clean => ?_, sound.picked, sound.scanned,
    fun other isOpen => ?_, fun resetting file mem => ?_⟩
  · obtain ⟨before, was, same, clean'⟩ := unclean mem clean
    rw [← same]
    exact sound.live before was clean'
  · obtain ⟨before, was, same, clean'⟩ := unclean there clean
    exact sound.held deletion mem other holds before was (same.trans own) clean'
  · obtain ⟨scanning, readable⟩ := sound.opened other isOpen
    refine ⟨scanning, readable.imp_right (Or.imp_left fun gone file mem own => ?_)⟩
    obtain ⟨before, was, same, status⟩ := mem_mark mem
    rw [status]
    split
    · rfl
    · exact gone before was (same.trans own)
  · obtain ⟨before, was, same, -⟩ := mem_mark mem
    rw [← same]
    exact sound.wiped resetting before was

theorem withdrawn_mark : Withdrawn { w with scans := w.scans.mark fileId .deleted } fileId := by
  intro file mem own
  obtain ⟨before, -, same, status⟩ := mem_mark mem
  rw [status, if_pos (same.trans own)]

theorem Sound.deletion (sound : w.Sound) (careful : w.Careful (.deletes i ok))
    {deletion : FileDeletion} (here : w.deletions[i]? = some deletion)
    (stepped : w.deletionStep i ok deletion = some w') : w'.Sound := by
  have mem : deletion ∈ w.deletions := mem_of_getElem? here
  revert stepped
  fun_cases deletionStep w i ok deletion <;> intro stepped <;> cases stepped
  · exact sound.setDeletion here nofun nofun fun _ _ same => nomatch same
  · next fileId file found =>
    have closed : w.Closed fileId := sound.closed (by rw [found]; rfl)
    refine sound.setDeletion here (fun other about => ?_) (fun other holds => ?_)
      fun _ _ same => nomatch same
    · split at about
      · cases about
      · rw [← eq_of_beq about]
        exact closed
    · split at holds
      · cases holds
      · cases holds
  · next fileId free =>
    refine sound.setDeletion here (fun other about => sound.read (.found fileId) mem other about)
      (fun other holds => ?_) fun _ _ same => nomatch same
    rw [← eq_of_beq holds]
    dsimp only [Careful] at careful
    rw [here] at careful
    exact careful
  · next fileId =>
    have own : FileDeletion.holds fileId (.marked fileId) = true := beq_self_eq_true fileId
    have after : Sound (w.setDeletion i (.unlinked fileId)) := sound.setDeletion here
      (fun other about => sound.read (.marked fileId) mem other about)
      (fun other holds => sound.held (.marked fileId) mem other holds)
      fun _ _ same => nomatch same
    exact after.unlink (sound.held _ mem fileId own) (sound.read _ mem fileId own) fun _ =>
      .inr (Calls.mem_replacement here)
  · next fileId =>
    refine (sound.markDeleted fileId).setDeletion here nofun nofun fun other _ same => ?_
    cases same
    exact .inr withdrawn_mark

theorem Sound.setCleanup (sound : w.Sound) {old new : FileCleanup}
    (here : w.cleanups[i]? = some old) (left : new.staleFiles ⊆ old.staleFiles) :
    (w.setCleanup i new).Sound :=
  ⟨sound.scans, sound.live, sound.stored, sound.read, sound.held,
    Calls.forall_replaced sound.picked fun stale mem =>
      sound.picked old (mem_of_getElem? here) stale (left mem),
    sound.scanned, sound.opened, sound.wiped⟩

theorem Sound.purge (sound : w.Sound) {files : List FileRow} (left : files ⊆ w.scans.files)
    (unborn : ∀ fileId, w.scans.file fileId = none →
      ({ w.scans with files } : ScanWorld).file fileId = none) :
    Sound { w with scans := { w.scans with files } } := by
  refine ⟨⟨fun fileId isOpen => unborn fileId (sound.scans.unborn fileId isOpen), sound.scans.named,
    sound.scans.queued⟩, fun file mem => sound.live file (left mem), sound.stored, sound.read,
    fun deletion mem fileId holds file there => sound.held deletion mem fileId holds file (left there),
    sound.picked, sound.scanned, fun fileId isOpen => ?_,
    fun resetting file mem => sound.wiped resetting file (left mem)⟩
  obtain ⟨scanning, readable⟩ := sound.opened fileId isOpen
  exact ⟨scanning, readable.imp_right (Or.imp_left fun gone file mem => gone file (left mem))⟩

theorem Sound.cleanup (sound : w.Sound) (careful : w.Careful (.purges i ok))
    {cleanup : FileCleanup} (here : w.cleanups[i]? = some cleanup)
    (stepped : w.cleanupStep i ok cleanup = some w') : w'.Sound := by
  revert stepped
  fun_cases cleanupStep w i ok cleanup <;> intro stepped <;> cases stepped
  · next stale rest =>
    obtain ⟨closed, status⟩ := sound.picked _ (mem_of_getElem? here) stale mem_cons_self
    have kept : Sound (w.setCleanup i ⟨stale :: rest, true⟩) :=
      sound.setCleanup here (Subset.refl _)
    cases ok with
    | false => exact kept
    | true =>
      dsimp only [Careful] at careful
      rw [here] at careful
      obtain ⟨same, free⟩ := careful
      change Sound ((w.setCleanup i ⟨stale :: rest, true⟩).unlink stale.id true)
      refine kept.unlink (fun file mem own clean => ?_) closed fun isOpen => .inl ?_
      · rw [same file mem own] at clean
        rw [clean] at status
        rcases status with pending | deleted
        · cases pending
        · cases deleted
      · have deleted : stale.scanStatus = .deleted :=
          status.resolve_left fun pending => free pending isOpen
        exact fun file mem own => (same file mem own).trans deleted
  · next stale rest _ _ =>
    have purged : Sound { w with
        scans := { w.scans with files := w.scans.files.filter (·.id ≠ stale.id) } } := by
      refine sound.purge (filter_sublist.subset) fun fileId none => ?_
      exact find?_eq_none.mpr fun file mem => find?_eq_none.mp none file (mem_filter.mp mem).1
    exact purged.setCleanup here (subset_cons_self _ _)

/-! ### Runs -/

theorem Sound.request (sound : w.Sound) (fileId : Id) :
    Sound { w with deletions := w.deletions ++ [.called fileId] } := by
  have added {deletion : FileDeletion} (mem : deletion ∈ w.deletions ++ [.called fileId]) :
      deletion ∈ w.deletions ∨ deletion = .called fileId :=
    (mem_append.mp mem).imp_right mem_singleton.mp
  refine ⟨sound.scans, sound.live, sound.stored, fun deletion mem => ?_, fun deletion mem => ?_,
    sound.picked, sound.scanned, fun other isOpen => ?_, sound.wiped⟩
  · rcases added mem with old | rfl
    · exact sound.read deletion old
    · exact nofun
  · rcases added mem with old | rfl
    · exact sound.held deletion old
    · exact nofun
  · obtain ⟨scanning, readable⟩ := sound.opened other isOpen
    exact ⟨scanning, readable.imp_right (Or.imp_right (mem_append_left _))⟩

theorem Sound.pick (sound : w.Sound) {cutoff : Time} {staleFiles : List StaleFile}
    (picks : staleFiles ⊆ w.stale cutoff) :
    Sound { w with cleanups := w.cleanups ++ [⟨staleFiles, false⟩] } := by
  refine ⟨sound.scans, sound.live, sound.stored, sound.read, sound.held, fun cleanup mem => ?_,
    sound.scanned, sound.opened, sound.wiped⟩
  rcases mem_append.mp mem with old | new
  · exact sound.picked cleanup old
  · cases mem_singleton.mp new
    intro stale picked
    obtain ⟨file, chosen, rfl⟩ := List.mem_map.mp (picks picked)
    obtain ⟨there, isStale⟩ := mem_filter.mp chosen
    refine ⟨closed_of_mem sound there, ?_⟩
    unfold FileRow.isStale at isStale
    rw [Bool.or_eq_true, decide_eq_true_eq, decide_eq_true_eq] at isStale
    exact isStale.imp_left And.left

theorem Sound.next (sound : w.Sound) {label : BytesLabel} (careful : w.Careful label)
    (stepped : w.step env label = some w') : w'.Sound := by
  revert stepped
  fun_cases step env w label <;> intro stepped <;> try cases stepped
  case case1 allowed =>
    obtain ⟨scans, stepped', rfl⟩ := map_eq_some_iff.mp stepped
    exact sound.scan allowed stepped' careful
  case case3.refl fileId opens =>
    refine ⟨sound.scans, sound.live, sound.stored, sound.read, sound.held, sound.picked,
      sound.scanned, fun other isOpen => ?_, sound.wiped⟩
    rcases mem_cons.mp isOpen with rfl | was
    · exact ⟨opens.1, .inl opens.2⟩
    · exact sound.opened other was
  case case5.refl fileId => exact sound.request fileId
  case case6 i ok =>
    obtain ⟨deletion, here, stepped'⟩ := bind_eq_some_iff.mp stepped
    exact sound.deletion careful here stepped'
  case case7 i =>
    obtain ⟨deletion, here, rfl⟩ := map_eq_some_iff.mp stepped
    refine sound.setDeletion here nofun nofun fun fileId isOpen was => .inl ?_
    dsimp only [Careful] at careful
    rw [here, was] at careful
    exact careful isOpen
  case case8.refl cutoff staleFiles picks => exact sound.pick picks.2.1
  case case10 i ok =>
    obtain ⟨cleanup, here, stepped'⟩ := bind_eq_some_iff.mp stepped
    exact sound.cleanup careful here stepped'
  case case11 i =>
    obtain ⟨cleanup, here, stepped'⟩ := bind_eq_some_iff.mp stepped
    split at stepped'
    · cases stepped'
      exact sound.setCleanup here fun _ => mem_of_mem_tail
    · cases stepped'
  case case13.refl =>
    have purged := sound.purge (nil_subset _) fun _ _ => rfl
    exact ⟨purged.scans, purged.live, purged.stored, purged.read, purged.held, purged.picked,
      purged.scanned, purged.opened, nofun⟩
  case case14.refl fileId resetting =>
    obtain ⟨early, closed⟩ := careful
    have gone (file : FileRow) (mem : file ∈ w.scans.files) : file.id ≠ fileId := by
      rintro rfl
      exact early (sound.wiped resetting file mem)
    exact sound.unlink (fun file mem own => absurd own (gone file mem)) closed fun _ =>
      .inl fun file mem own => absurd own (gone file mem)
  case case16.refl =>
    exact ⟨sound.scans, sound.live, sound.stored, sound.read, sound.held, sound.picked,
      sound.scanned, sound.opened, nofun⟩

/-- In a run whose steps meet the condition the clean files have their bytes, whatever uploads,
scans, deletions, cleanups and a reset have done, and in whatever order. -/
theorem live_bytes (env : FileEnv) (now : Time) (files : List FileRow) (disk : List Id)
    (labels : List BytesLabel) (live : (start now files disk).LiveBytes)
    (careful : Guarded (step env) Careful (start now files disk) labels) :
    Always (step env) LiveBytes (start now files disk) labels :=
  careful.always (fun sound careful stepped => sound.next careful stepped) Sound.live (.start live)

end BytesWorld

/-! ## Runs -/

namespace BytesSample

open BytesWorld

def env : FileEnv := ⟨[], false⟩

def steps (labels : List ScanLabel) : List BytesLabel := labels.map .scan

/-- An upload and its commit. -/
def upload (fileId : Id) : List BytesLabel :=
  steps [.upload ⟨fileId, "image/png", 10⟩, .go fileId, .go fileId, .go fileId, .go fileId,
    .go fileId]

def opening (fileId : Id) : List BytesLabel :=
  steps [.start fileId, .look fileId] ++ [.opens fileId]

def deletion (fileId : Id) : List BytesLabel :=
  [.delete fileId, .deletes 0 true, .deletes 0 true, .deletes 0 true, .deletes 0 true]

def purging : List BytesLabel :=
  upload 7 ++ opening 7 ++ steps [.verdict 7 false] ++ upload 9 ++ deletion 9 ++ upload 8 ++
    steps [.tick (25 * 60 * 60 * 1000)] ++
    [.cleanup 1000 [⟨9, .deleted⟩, ⟨8, .pending⟩], .purges 0 true, .purges 0 true, .purges 0 true,
      .purges 0 true] ++
    [.wipe] ++ upload 10 ++ [.removes 7, .resetDone]

/-- The file is deleted while its scan goes on. -/
def overtaken : List BytesLabel :=
  upload 7 ++ opening 7 ++ deletion 7 ++ steps [.verdict 7 false]

/-- `Careful`, evaluated. -/
def careful (w : BytesWorld) : BytesLabel → Bool
  | .scan (.verdict fileId false) => w.RowNot fileId .deleted
  | .deletes i _ =>
    match w.deletions[i]? with
    | some (.found fileId) => w.RowNot fileId .clean
    | _ => true
  | .deleteThrows _ => false
  | .purges i true =>
    match w.cleanups[i]? with
    | some ⟨stale :: _, false⟩ => w.StillStale stale
    | _ => true
  | .removes fileId => !w.since.contains fileId && !(w.scans.uploads fileId).isOpen
  | _ => true

theorem careful_sound {w : BytesWorld} {label : BytesLabel} (checked : careful w label) :
    w.Careful label := by
  revert checked
  fun_cases careful w label <;> intro checked
  case case1 fileId =>
    have unlike : w.RowNot fileId .deleted := of_decide_eq_true checked
    exact unlike
  case case2 here => simpa only [Careful, here] using of_decide_eq_true checked
  case case3 other =>
    dsimp only [Careful]
    split
    · next here => exact absurd here (other _)
    · trivial
  case case4 => cases checked
  case case5 here => simpa only [Careful, here] using of_decide_eq_true checked
  case case6 other =>
    dsimp only [Careful]
    split
    · next here => exact absurd here (other _ _)
    · trivial
  case case7 =>
    obtain ⟨early, closed⟩ := Bool.and_eq_true_iff.mp checked
    exact ⟨by simpa using early, by simpa using closed⟩
  case case8 verdict deletes throws purges removes =>
    unfold Careful
    split
    · exact (verdict _ rfl).elim
    · exact (deletes _ _ rfl).elim
    · exact (throws _ rfl).elim
    · exact (purges _ rfl).elim
    · exact (removes _ rfl).elim
    · trivial

end BytesSample

open BytesSample BytesWorld in
/-- The deletion, the cleanup and the reset leave the clean files their bytes. -/
theorem clean_file_outlives_cleanup : Always (step env) LiveBytes (start 0 [] []) purging :=
  live_bytes env 0 [] [] purging nofun (.of_check careful_sound (by decide +kernel))

open BytesSample BytesWorld in
/-- The verdict makes the deleted file clean, whose bytes are gone. -/
theorem deleted_file_turns_clean : ¬ Always (step env) LiveBytes (start 0 [] []) overtaken := by
  intro always
  have bare : (run (step env) (start 0 [] []) overtaken).any (fun w =>
      w.disk.isEmpty && w.scans.files.any (·.scanStatus == .clean)) = true := by
    decide +kernel
  obtain ⟨w, ran, bare⟩ := (Option.any_eq_true _ _).mp bare
  obtain ⟨empty, clean⟩ := Bool.and_eq_true_iff.mp bare
  obtain ⟨file, mem, clean⟩ := List.any_eq_true.mp clean
  have there : file.id ∈ w.disk := always.last ran file mem (eq_of_beq clean)
  rw [List.isEmpty_iff.mp empty] at there
  cases there

end OpenWind
