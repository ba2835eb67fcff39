import OpenWind.Schema
import OpenWind.Lib.Runs
import OpenWind.Lib.Calls
import OpenWind.Lib.Rows
import Mathlib.Algebra.Order.Ring.Rat
import Mathlib.Algebra.GroupWithZero.Nat

/-!
# Uploads, scans and quota

A file is a row of `files` with a status.  An upload inserts it as `pending` while it holds the
tenant's row, a scan job reads the status, scans the bytes and writes its verdict, the handler of
the last failed attempt writes `scan_failed`, a deletion writes `deleted` and a cleanup removes
rows.  Of these writes only the upload's is made under a lock.
-/

open List Option

namespace OpenWind

open Runs

/-! ## Files -/

inductive ScanStatus
  | pending | clean | quarantined | scanFailed | deleted
  deriving DecidableEq

/-- A row of `files`, with the columns that the operations read. -/
structure FileRow where
  id : Id
  mimeType : String
  sizeBytes : Nat
  scanStatus : ScanStatus := .pending
  createdAt : Time
  updatedAt : Time
  deriving DecidableEq

/-- The row is one that the cleanup picks. -/
def FileRow.isStale (file : FileRow) (cutoff : Time) : Bool :=
  decide (file.scanStatus = .pending ∧ file.createdAt < cutoff) ||
    decide (file.scanStatus = .deleted)

structure Upload where
  fileId : Id
  mimeType : String
  sizeBytes : Nat
  deriving DecidableEq

namespace FileStore

def MAX_FILE_BYTES : Nat := 100 * 1024 * 1024

def DEFAULT_QUOTA_MB : Rat := 5120

def STALE_AFTER_HOURS : Nat := 24

/-- The most rows of one cleanup. -/
def BATCH_LIMIT : Nat := 500

def SCAN_ATTEMPTS : Nat := 5

def getMimeSizeLimit (mimeType : String) : Nat :=
  if startsWith mimeType "image/" then 10 * 1024 * 1024
  else if startsWith mimeType "text/" || mimeType == "application/json" then 5 * 1024 * 1024
  else if mimeType == "application/zip" || mimeType == "application/x-zip-compressed" then
    MAX_FILE_BYTES
  else 50 * 1024 * 1024

end FileStore

/-- What does not change: the tenant's `config` and the environment. -/
structure FileEnv where
  config : Fields
  SKIP_AV_SCAN : Bool

def FileEnv.quotaBytes (env : FileEnv) : Rat :=
  let quotaMb :=
    match env.config.get "storage_quota_mb" with
    | some (.num quota) => quota
    | _ => FileStore.DEFAULT_QUOTA_MB
  quotaMb * 1024 * 1024

def getTenantUsedBytes (files : List FileRow) : Nat :=
  ((files.filter fun file => decide (file.scanStatus ≠ .deleted)).map FileRow.sizeBytes).sum

/-! ## The operations -/

/-- How far an operation has come. -/
inductive FileSection
  /-- `saveUpload`, within the limits of a file. -/
  | uploading (upload : Upload)
  /-- It holds the tenant's row. -/
  | locked (upload : Upload)
  | counted (upload : Upload) (usedBytes : Nat)
  | inserted (upload : Upload)
  /-- The bytes are on disk. -/
  | stored (upload : Upload)
  | deleting (fileId : Id)
  /-- It has read a row that is not deleted. -/
  | found (fileId : Id)
  /-- A delivery of the scan job. -/
  | delivered (fileId : Id)
  /-- It has read a pending row. -/
  | scanning (fileId : Id)
  /-- The handler of the last failed attempt. -/
  | exhausted (fileId : Id)
  | cleaning (cutoff : Time)
  | purging (stale : List Id)
  | ended

/-- A job of the queue `av-scan`. -/
structure AvScanJob where
  fileId : Id
  attemptsMade : Nat := 0

structure FileStore where
  now : Time
  files : List FileRow
  /-- The upload that holds the tenant's row. -/
  lock : Option Nat
  jobs : List AvScanJob
  sections : List FileSection

inductive FileLabel
  | tick (time : Nat)
  | upload (upload : Upload)
  | delete (fileId : Id)
  | deliver (fileId : Id)
  | cleanup
  /-- The operation takes its next step. -/
  | go (i : Nat)
  /-- The scanner answers. -/
  | verdict (i : Nat) (infected : Bool)
  /-- The attempt throws. -/
  | throws (i : Nat)
  /-- The cleanup reads the stale rows in this order. -/
  | select (i : Nat) (ordered : List FileRow)
  /-- The operation ends here: it fails, or its worker does. -/
  | abandon (i : Nat)

namespace FileStore

def begin (w : FileStore) (s : FileSection) : FileStore := { w with sections := w.sections ++ [s] }

def put (w : FileStore) (i : Nat) (s : FileSection) : FileStore :=
  { w with sections := w.sections.set i s }

def mark (w : FileStore) (fileId : Id) (status : ScanStatus) : FileStore :=
  { w with files := w.files.map fun file =>
      if file.id = fileId then { file with scanStatus := status, updatedAt := w.now } else file }

def remove (w : FileStore) (fileId : Id) : FileStore :=
  { w with files := w.files.filter fun file => decide (file.id ≠ fileId) }

def select (w : FileStore) (fileId : Id) : Option FileRow :=
  w.files.find? fun file => file.id == fileId

def release (w : FileStore) (i : Nat) : FileStore :=
  { w with lock := if w.lock = some i then none else w.lock }

/-- A job that is queued already is not added. -/
def enqueue (w : FileStore) (fileId : Id) : FileStore :=
  { w with jobs := if w.jobs.any (·.fileId == fileId) then w.jobs else w.jobs ++ [{ fileId }] }

/-- The rows that a cleanup removes. -/
def stale (w : FileStore) (cutoff : Time) : List FileRow := w.files.filter (·.isStale cutoff)

def failAttempt (w : FileStore) (i : Nat) (fileId : Id) : FileStore :=
  let jobs := w.jobs.map fun job =>
    if job.fileId = fileId then { job with attemptsMade := job.attemptsMade + 1 } else job
  let isFinalAttempt := jobs.any fun job =>
    job.fileId == fileId && decide (SCAN_ATTEMPTS ≤ job.attemptsMade)
  { w with jobs }.put i (if isFinalAttempt then .exhausted fileId else .ended)

def advance (env : FileEnv) (w : FileStore) (i : Nat) : FileSection → Option FileStore
  | .uploading upload =>
    if w.lock = none then some ({ w with lock := some i }.put i (.locked upload)) else none
  | .locked upload => some (w.put i (.counted upload (getTenantUsedBytes w.files)))
  | .counted upload usedBytes =>
    if env.quotaBytes < (usedBytes : Rat) + upload.sizeBytes then none
    else if upload.fileId ∈ w.files.map FileRow.id then none
    else
      let row : FileRow :=
        ⟨upload.fileId, upload.mimeType, upload.sizeBytes, .pending, w.now, w.now⟩
      some (({ w with files := w.files ++ [row] }.release i).put i (.inserted upload))
  | .inserted upload => some (w.put i (.stored upload))
  | .stored upload =>
    if env.SKIP_AV_SCAN then some ((w.mark upload.fileId .clean).put i .ended)
    else some ((w.enqueue upload.fileId).put i .ended)
  | .deleting fileId =>
    (w.select fileId).map fun file =>
      w.put i (if file.scanStatus = .deleted then .ended else .found fileId)
  | .found fileId => some ((w.mark fileId .deleted).put i .ended)
  | .delivered fileId =>
    match w.select fileId with
    | none => some (w.put i .ended)
    | some file => some (w.put i (if file.scanStatus ≠ .pending then .ended else .scanning fileId))
  | .exhausted fileId => some ((w.mark fileId .scanFailed).put i .ended)
  | .purging (fileId :: rest) => some ((w.remove fileId).put i (.purging rest))
  | _ => none

def step (env : FileEnv) (w : FileStore) : FileLabel → Option FileStore
  | .tick time => some { w with now := w.now + time }
  | .upload upload =>
    if MAX_FILE_BYTES < upload.sizeBytes ∨ getMimeSizeLimit upload.mimeType < upload.sizeBytes then
      none
    else some (w.begin (.uploading upload))
  | .delete fileId => some (w.begin (.deleting fileId))
  | .deliver fileId =>
    if w.jobs.any (·.fileId == fileId) then some (w.begin (.delivered fileId)) else none
  | .cleanup => some (w.begin (.cleaning (w.now - STALE_AFTER_HOURS * 60 * 60 * 1000)))
  | .go i => w.sections[i]?.bind (w.advance env i)
  | .verdict i infected =>
    match w.sections[i]? with
    | some (.scanning fileId) =>
      some ((w.mark fileId (if infected then .quarantined else .clean)).put i .ended)
    | _ => none
  | .throws i =>
    match w.sections[i]? with
    | some (.delivered fileId) => some (w.failAttempt i fileId)
    | some (.scanning fileId) => some (w.failAttempt i fileId)
    | _ => none
  | .select i ordered =>
    match w.sections[i]? with
    | some (.cleaning cutoff) =>
      if ordered.Perm (w.stale cutoff) then
        some (w.put i (.purging ((ordered.take BATCH_LIMIT).map FileRow.id)))
      else none
    | _ => none
  | .abandon i => w.sections[i]?.map fun _ => (w.release i).put i .ended

/-- No file, and no operation under way. -/
def empty (now : Time) : FileStore := ⟨now, [], none, [], []⟩

/-! ## The used bytes -/

/-- What the file takes of the quota. -/
def charged (file : FileRow) : Nat := if file.scanStatus = .deleted then 0 else file.sizeBytes

theorem usedBytes_cons (file : FileRow) (files : List FileRow) :
    getTenantUsedBytes (file :: files) = charged file + getTenantUsedBytes files := by
  unfold getTenantUsedBytes charged
  by_cases deleted : file.scanStatus = .deleted
  · rw [filter_cons_of_neg (by simp [deleted]), if_pos deleted, Nat.zero_add]
  · rw [filter_cons_of_pos (by simp [deleted]), if_neg deleted, map_cons, sum_cons]

theorem usedBytes_append (files : List FileRow) (file : FileRow) :
    getTenantUsedBytes (files ++ [file]) = getTenantUsedBytes files + charged file := by
  induction files with
  | nil => rw [nil_append, usedBytes_cons, Nat.add_comm]
  | cons first files ih =>
    rw [cons_append, usedBytes_cons, usedBytes_cons, ih, Nat.add_assoc]

theorem usedBytes_map_le {f : FileRow → FileRow} {files : List FileRow}
    (less : ∀ file ∈ files, charged (f file) ≤ charged file) :
    getTenantUsedBytes (files.map f) ≤ getTenantUsedBytes files := by
  induction files with
  | nil => exact Nat.le_refl _
  | cons file files ih =>
    rw [forall_mem_cons] at less
    rw [map_cons, usedBytes_cons, usedBytes_cons]
    exact Nat.add_le_add less.1 (ih less.2)

theorem usedBytes_filter_le (p : FileRow → Bool) (files : List FileRow) :
    getTenantUsedBytes (files.filter p) ≤ getTenantUsedBytes files := by
  induction files with
  | nil => exact Nat.le_refl _
  | cons file files ih =>
    rw [usedBytes_cons, filter_cons]
    split
    · rw [usedBytes_cons]
      omega
    · omega

/-! ## Statuses and quota -/

def Settles (w w' : FileStore) : Prop :=
  ∀ file ∈ w.files, ∀ file' ∈ w'.files, file'.id = file.id →
    (file.scanStatus = .deleted → file'.scanStatus = .deleted) ∧
    (file.scanStatus = .quarantined → file'.scanStatus = .quarantined ∨ file'.scanStatus = .deleted)

def WithinQuota (env : FileEnv) (w : FileStore) : Prop :=
  (getTenantUsedBytes w.files : Rat) ≤ env.quotaBytes

def Keeps (env : FileEnv) (w : FileStore) (label : FileLabel) : Prop :=
  ∀ w', w.step env label = some w' → w.Settles w' ∧ (w'.files ≠ w.files → w'.WithinQuota env)

def scanWrite (env : FileEnv) (w : FileStore) : FileLabel → Option (Id × ScanStatus)
  | .go i =>
    match w.sections[i]? with
    | some (.stored upload) => if env.SKIP_AV_SCAN then some (upload.fileId, .clean) else none
    | some (.exhausted fileId) => some (fileId, .scanFailed)
    | _ => none
  | .verdict i infected =>
    match w.sections[i]? with
    | some (.scanning fileId) => some (fileId, if infected then .quarantined else .clean)
    | _ => none
  | _ => none

def WritesOpen (env : FileEnv) (w : FileStore) (label : FileLabel) : Prop :=
  ∀ fileId status, w.scanWrite env label = some (fileId, status) →
    ∀ file ∈ w.files, file.id = fileId →
      file.scanStatus ≠ .deleted ∧ (file.scanStatus = .quarantined → status = .quarantined)

/-! ## What a step does -/

end FileStore

def FileSection.holdsTenant : FileSection → Bool
  | .locked _ => true
  | .counted _ _ => true
  | _ => false

namespace FileStore

def Frees (w w' : FileStore) : Prop :=
  ∀ j s, w'.sections[j]? = some s → s.holdsTenant = true →
    w.sections[j]? = some s ∧ (w.lock = some j → w'.lock = some j)

inductive Change (env : FileEnv) (w : FileStore) (label : FileLabel) : FileStore → Prop
  | none {w' : FileStore} (same : w'.files = w.files) (frees : w.Frees w')
    (quiet : w.scanWrite env label = none) : Change env w label w'
  | locked {i : Nat} {upload : Upload} (free : w.lock = none)
    (quiet : w.scanWrite env label = none) :
    Change env w label ({ w with lock := some i }.put i (.locked upload))
  | counted {i : Nat} {upload : Upload} (here : w.sections[i]? = some (.locked upload))
    (quiet : w.scanWrite env label = none) :
    Change env w label (w.put i (.counted upload (getTenantUsedBytes w.files)))
  | inserted {i : Nat} {upload : Upload} {usedBytes : Nat} {file : FileRow}
    (here : w.sections[i]? = some (.counted upload usedBytes))
    (fits : ¬env.quotaBytes < (usedBytes : Rat) + upload.sizeBytes)
    (fresh : file.id ∉ w.files.map FileRow.id) (size : charged file = upload.sizeBytes)
    (quiet : w.scanWrite env label = none) :
    Change env w label (({ w with files := w.files ++ [file] }.release i).put i (.inserted upload))
  | scanned {w' : FileStore} {fileId : Id} {status : ScanStatus}
    (writes : w.scanWrite env label = some (fileId, status)) (live : status ≠ .deleted)
    (files : w'.files = (w.mark fileId status).files) (frees : w.Frees w') : Change env w label w'
  | deleted {w' : FileStore} {fileId : Id} (files : w'.files = (w.mark fileId .deleted).files)
    (frees : w.Frees w') (quiet : w.scanWrite env label = none) : Change env w label w'
  | removed {w' : FileStore} {fileId : Id} (files : w'.files = (w.remove fileId).files)
    (frees : w.Frees w') (quiet : w.scanWrite env label = none) : Change env w label w'

section Changes

variable {env : FileEnv} {w w' : FileStore} {label : FileLabel}

variable {s : FileSection} {i : Nat}

theorem frees_begin (idle : s.holdsTenant = false) : w.Frees (w.begin s) := by
  intro j other found holds
  rcases Calls.getElem?_began found with ⟨-, rfl⟩ | old
  · rw [idle] at holds
    cases holds
  · exact ⟨old, fun lock => lock⟩

theorem frees_put {old s : FileSection} {lock : Option Nat} {files : List FileRow}
    {jobs : List AvScanJob} (here : w.sections[i]? = some old) (idle : s.holdsTenant = false)
    (kept : lock = w.lock ∨ lock = (w.release i).lock) :
    w.Frees ({ w with files, jobs, lock }.put i s) := by
  intro j other found holds
  rcases Calls.getElem?_replaced here found with ⟨-, rfl⟩ | ⟨apart, before⟩
  · rw [idle] at holds
    cases holds
  · refine ⟨before, fun held => ?_⟩
    rcases kept with rfl | rfl
    · exact held
    · have other' : w.lock ≠ some i := by
        rw [held]
        exact fun same => apart (Option.some.inj same)
      change (if w.lock = some i then none else w.lock) = some j
      rw [if_neg other']
      exact held

theorem advance_change (here : w.sections[i]? = some s) (advanced : w.advance env i s = some w') :
    Change env w (.go i) w' := by
  revert advanced
  fun_cases advance env w i s <;> intro advanced <;> try cases advanced
  case case1.refl free => exact .locked free (by simp only [scanWrite, here])
  case case3.refl => exact .counted here (by simp only [scanWrite, here])
  case case6.refl fits fresh _ =>
    exact .inserted here fits fresh rfl (by simp only [scanWrite, here])
  case case8.refl skip =>
    exact .scanned (by simp only [scanWrite, here, if_pos skip]) (by decide) rfl
      (frees_put here rfl (.inl rfl))
  case case9.refl scan =>
    exact .none rfl (frees_put here rfl (.inl rfl)) (by simp only [scanWrite, here, if_neg scan])
  case case10 =>
    obtain ⟨file, -, rfl⟩ := map_eq_some_iff.mp advanced
    refine .none rfl (frees_put here ?_ (.inl rfl)) (by simp only [scanWrite, here])
    split
    · rfl
    · rfl
  case case11.refl =>
    exact .deleted rfl (frees_put here rfl (.inl rfl)) (by simp only [scanWrite, here])
  case case13.refl =>
    refine .none rfl (frees_put here ?_ (.inl rfl)) (by simp only [scanWrite, here])
    split
    · rfl
    · rfl
  case case14.refl =>
    exact .scanned (by simp only [scanWrite, here]) (by decide) rfl (frees_put here rfl (.inl rfl))
  case case15.refl =>
    exact .removed rfl (frees_put here rfl (.inl rfl)) (by simp only [scanWrite, here])
  all_goals exact .none rfl (frees_put here rfl (.inl rfl)) (by simp only [scanWrite, here])

theorem failAttempt_change (here : w.sections[i]? = some s) (fileId : Id) :
    Change env w (.throws i) (w.failAttempt i fileId) := by
  refine .none rfl (frees_put here ?_ (.inl rfl)) rfl
  split
  · rfl
  · rfl

theorem step_change (stepped : w.step env label = some w') : Change env w label w' := by
  revert stepped
  fun_cases step env w label <;> intro stepped <;> try cases stepped
  case case1.refl => exact .none rfl (fun j s found _ => ⟨found, fun lock => lock⟩) rfl
  case case8 =>
    obtain ⟨s, here, advanced⟩ := bind_eq_some_iff.mp stepped
    exact advance_change here advanced
  case case9.refl infected fileId here =>
    refine .scanned (by simp only [scanWrite, here]) ?_ rfl (frees_put here rfl (.inl rfl))
    cases infected
    · decide
    · decide
  case case11.refl fileId here => exact failAttempt_change here fileId
  case case12.refl fileId here => exact failAttempt_change here fileId
  case case14.refl here _ => exact .none rfl (frees_put here rfl (.inl rfl)) rfl
  case case17 =>
    obtain ⟨s, here, rfl⟩ := map_eq_some_iff.mp stepped
    exact .none rfl (frees_put here rfl (.inr rfl)) rfl
  -- a new operation
  all_goals exact .none rfl (frees_begin rfl) rfl

end Changes

/-! ## The invariant -/

structure Sound (env : FileEnv) (w : FileStore) : Prop where
  ids : (w.files.map FileRow.id).Nodup
  holder : ∀ (i : Nat) (s : FileSection),
    w.sections[i]? = some s → s.holdsTenant = true → w.lock = some i
  counted : ∀ (i : Nat) (upload : Upload) (usedBytes : Nat),
    w.sections[i]? = some (FileSection.counted upload usedBytes) →
    getTenantUsedBytes w.files ≤ usedBytes
  quota : w.files = [] ∨ w.WithinQuota env

variable {env : FileEnv} {w w' : FileStore} {label : FileLabel}

theorem Sound.shrunk (sound : w.Sound env) (frees : w.Frees w')
    (ids : (w'.files.map FileRow.id).Nodup) (empty : w.files = [] → w'.files = [])
    (used : getTenantUsedBytes w'.files ≤ getTenantUsedBytes w.files) : w'.Sound env where
  ids := ids
  holder j s found holds := by
    obtain ⟨before, kept⟩ := frees j s found holds
    exact kept (sound.holder j s before holds)
  counted j upload usedBytes found := by
    obtain ⟨before, -⟩ := frees j _ found rfl
    exact used.trans (sound.counted j upload usedBytes before)
  quota := by
    rcases sound.quota with none' | within
    · exact .inl (empty none')
    · refine .inr (le_trans ?_ within)
      exact_mod_cast used

theorem mark_ids (fileId : Id) (status : ScanStatus) :
    (w.mark fileId status).files.map FileRow.id = w.files.map FileRow.id := by
  apply Rows.keys_updated
  intro file
  split
  · rfl
  · rfl

variable {fileId : Id} {status : ScanStatus}

theorem mark_used
    (closed : status = .deleted ∨ ∀ file ∈ w.files, file.id = fileId → file.scanStatus ≠ .deleted) :
    getTenantUsedBytes (w.mark fileId status).files ≤ getTenantUsedBytes w.files := by
  apply usedBytes_map_le
  intro file mem
  split
  · next named =>
    rcases closed with rfl | live
    · exact Nat.zero_le _
    · unfold charged
      rw [if_neg (live file mem named)]
      split
      · exact Nat.zero_le _
      · exact Nat.le_refl _
  · exact Nat.le_refl _

theorem Sound.marked (sound : w.Sound env) (files : w'.files = (w.mark fileId status).files)
    (frees : w.Frees w')
    (closed : status = .deleted ∨ ∀ file ∈ w.files, file.id = fileId → file.scanStatus ≠ .deleted) :
    w'.Sound env := by
  refine sound.shrunk frees ?_ ?_ ?_
  · rw [files, mark_ids]
    exact sound.ids
  · intro none'
    rw [files, mark, none']
    rfl
  · rw [files]
    exact mark_used closed

theorem Sound.inserted (sound : w.Sound env) {i : Nat} {upload : Upload} {usedBytes : Nat}
    {file : FileRow} (here : w.sections[i]? = some (.counted upload usedBytes))
    (fits : ¬env.quotaBytes < (usedBytes : Rat) + upload.sizeBytes)
    (fresh : file.id ∉ w.files.map FileRow.id) (size : charged file = upload.sizeBytes) :
    Sound env (({ w with files := w.files ++ [file] }.release i).put i (.inserted upload)) := by
  have held := sound.holder i _ here rfl
  have alone : ∀ (j : Nat) (s : FileSection),
      ((w.sections.set i (.inserted upload))[j]? = some s) → s.holdsTenant = false := by
    intro j s found
    rcases Calls.getElem?_replaced here found with ⟨-, rfl⟩ | ⟨apart, before⟩
    · rfl
    · by_contra holds
      have lock := sound.holder j s before (by simpa using holds)
      exact apart (Option.some.inj (lock.symm.trans held))
  refine ⟨Rows.nodup_append sound.ids fresh, ?_, ?_, .inr ?_⟩
  · intro j s found holds
    rw [alone j s found] at holds
    cases holds
  · intro j upload' usedBytes' found
    cases alone j _ found
  · have count := sound.counted i upload usedBytes here
    unfold WithinQuota
    refine le_trans ?_ (not_lt.mp fits)
    change ((getTenantUsedBytes (w.files ++ [file]) : Nat) : Rat) ≤ _
    rw [usedBytes_append, size]
    exact_mod_cast Nat.add_le_add_right count upload.sizeBytes

theorem Sound.step (sound : w.Sound env) (open' : w.WritesOpen env label)
    (stepped : w.step env label = some w') : w'.Sound env := by
  cases step_change stepped with
  | none same frees =>
    refine sound.shrunk frees ?_ ?_ ?_
    · rw [same]
      exact sound.ids
    · exact same.trans
    · rw [same]
  | @locked i upload free =>
    have free' : ∀ (j : Nat) (s : FileSection), w.sections[j]? = some s → s.holdsTenant = false := by
      intro j s found
      by_contra holds
      have lock := sound.holder j s found (by simpa using holds)
      rw [free] at lock
      cases lock
    refine ⟨sound.ids, ?_, ?_, sound.quota⟩
    · intro j s found holds
      by_cases same : j = i
      · rw [same]
        rfl
      · change (w.sections.set i _)[j]? = some s at found
        rw [getElem?_set_ne (Ne.symm same)] at found
        rw [free' j s found] at holds
        cases holds
    · intro j upload' usedBytes found
      by_cases same : j = i
      · subst same
        change (w.sections.set j _)[j]? = _ at found
        rw [getElem?_set] at found
        simp at found
      · change (w.sections.set i _)[j]? = _ at found
        rw [getElem?_set_ne (Ne.symm same)] at found
        exact sound.counted j upload' usedBytes found
  | counted here =>
    refine ⟨sound.ids, ?_, ?_, sound.quota⟩
    · intro j s found holds
      rcases Calls.getElem?_replaced here found with ⟨rfl, -⟩ | ⟨-, before⟩
      · exact sound.holder j _ here rfl
      · exact sound.holder j s before holds
    · intro j upload' usedBytes found
      rcases Calls.getElem?_replaced here found with ⟨-, same⟩ | ⟨-, before⟩
      · cases same
        exact Nat.le_refl _
      · exact sound.counted j upload' usedBytes before
  | inserted here fits fresh size => exact sound.inserted here fits fresh size
  | scanned writes live files frees =>
    exact sound.marked files frees (.inr fun file mem named =>
      (open' _ _ writes file mem named).1)
  | deleted files frees => exact sound.marked files frees (.inl rfl)
  | @removed _ fileId files frees =>
    refine sound.shrunk frees ?_ ?_ ?_
    · rw [files]
      exact sound.ids.sublist (filter_sublist.map _)
    · intro none'
      rw [files, remove, none']
      rfl
    · rw [files]
      exact usedBytes_filter_le _ _

/-! ## The condition is exact -/

theorem mark_settles_iff (ids : (w.files.map FileRow.id).Nodup) (live : status ≠ .deleted)
    (files : w'.files = (w.mark fileId status).files) :
    w.Settles w' ↔ ∀ file ∈ w.files, file.id = fileId →
      file.scanStatus ≠ .deleted ∧ (file.scanStatus = .quarantined → status = .quarantined) := by
  constructor
  · intro settles file mem named
    have written : { file with scanStatus := status, updatedAt := w.now } ∈ w'.files := by
      rw [files]
      exact List.mem_map.mpr ⟨file, mem, if_pos named⟩
    obtain ⟨deleted, quarantined⟩ := settles file mem _ written rfl
    refine ⟨fun gone => live (deleted gone), fun held => ?_⟩
    rcases quarantined held with same | gone
    · exact same
    · exact absurd gone live
  · intro opened file mem file' mem' same
    rw [files] at mem'
    obtain ⟨before, member, rfl⟩ := List.mem_map.mp mem'
    by_cases named : before.id = fileId
    · rw [if_pos named] at same ⊢
      obtain rfl := Rows.eq_of_key ids member mem same
      obtain ⟨kept, held⟩ := opened before member named
      exact ⟨fun gone => absurd gone kept, fun quarantined => .inl (held quarantined)⟩
    · rw [if_neg named] at same ⊢
      obtain rfl := Rows.eq_of_key ids member mem same
      exact ⟨fun gone => gone, fun held => .inl held⟩

theorem settles_of_kept (ids : (w.files.map FileRow.id).Nodup)
    (kept : ∀ file' ∈ w'.files, file'.scanStatus = .deleted ∨ file' ∈ w.files ∨
      file'.id ∉ w.files.map FileRow.id) : w.Settles w' := by
  intro file mem file' mem' same
  rcases kept file' mem' with gone | old | fresh
  · exact ⟨fun _ => gone, fun _ => .inr gone⟩
  · obtain rfl := Rows.eq_of_key ids old mem same
    exact ⟨fun gone => gone, fun held => .inl held⟩
  · rw [same] at fresh
    exact absurd (List.mem_map_of_mem mem) fresh

theorem Sound.within (sound : w.Sound env) (sound' : w'.Sound env)
    (changed : w'.files ≠ w.files) : w'.WithinQuota env := by
  rcases sound'.quota with none' | within
  · rcases sound.quota with empty | before
    · exact absurd (none'.trans empty.symm) changed
    · unfold WithinQuota
      rw [none']
      refine le_trans ?_ before
      exact_mod_cast Nat.zero_le _
  · exact within

theorem scanWrite_enabled (writes : w.scanWrite env label = some (fileId, status)) :
    (w.step env label).isSome := by
  cases label with
  | go i =>
    rw [scanWrite] at writes
    split at writes
    · next upload here =>
      split at writes
      · next skip => simp only [step, here, bind_some, advance, if_pos skip, Option.isSome]
      · cases writes
    · next fileId here => simp only [step, here, bind_some, advance, Option.isSome]
    · cases writes
  | verdict i infected =>
    rw [scanWrite] at writes
    split at writes
    · next fileId here => simp only [step, here, Option.isSome]
    · cases writes
  | tick | upload | delete | deliver | cleanup | throws | select | abandon => cases writes

theorem keeps_iff (sound : w.Sound env) : w.Keeps env label ↔ w.WritesOpen env label := by
  constructor
  · intro keeps fileId status writes
    obtain ⟨w', stepped⟩ := isSome_iff_exists.mp (scanWrite_enabled writes)
    obtain ⟨settles, -⟩ := keeps w' stepped
    cases step_change stepped with
    | scanned writes' live files =>
      cases writes.symm.trans writes'
      exact (mark_settles_iff sound.ids live files).mp settles
    | none _ _ quiet | locked _ quiet | counted _ quiet | inserted _ _ _ _ quiet
    | deleted _ _ quiet | removed _ _ quiet =>
      rw [quiet] at writes
      cases writes
  · intro open' w' stepped
    refine ⟨?_, sound.within (sound.step open' stepped)⟩
    cases step_change stepped with
    | none same =>
      apply settles_of_kept sound.ids
      intro file mem
      rw [same] at mem
      exact .inr (.inl mem)
    | locked | counted =>
      apply settles_of_kept sound.ids
      exact fun file mem => .inr (.inl mem)
    | inserted here fits fresh =>
      apply settles_of_kept sound.ids
      intro file mem
      rcases mem_append.mp mem with old | new
      · exact .inr (.inl old)
      · rw [mem_singleton.mp new]
        exact .inr (.inr fresh)
    | scanned writes live files =>
      exact (mark_settles_iff sound.ids live files).mpr (open' _ _ writes)
    | @deleted _ fileId files =>
      apply settles_of_kept sound.ids
      intro file mem
      rw [files] at mem
      obtain ⟨before, member, rfl⟩ := List.mem_map.mp mem
      split
      · exact .inl rfl
      · exact .inr (.inl member)
    | removed files =>
      apply settles_of_kept sound.ids
      intro file mem
      rw [files] at mem
      exact .inr (.inl (mem_filter.mp mem).1)

end FileStore

open FileStore in
/-- Every step leaves a deleted file deleted and a quarantined one quarantined or deleted, and
every commit is within the quota, exactly when no write of a scan finds a row that is deleted, or
quarantined unless that is what it writes. -/
theorem file_statuses_settle_iff (env : FileEnv) (now : Time) (labels : List FileLabel) :
    Guarded (step env) (Keeps env) (.empty now) labels ↔
      Guarded (step env) (WritesOpen env) (.empty now) labels := by
  have start : (FileStore.empty now).Sound env := by
    refine ⟨nodup_nil, ?_, ?_, .inl rfl⟩
    · intro i s found
      cases found
    · intro i upload usedBytes found
      cases found
  constructor
  · intro keeps
    exact keeps.under (fun sound here stepped => sound.step ((keeps_iff sound).mp here) stepped)
      (fun sound here => (keeps_iff sound).mp here) start
  · intro opens
    exact opens.under (fun sound here stepped => sound.step here stepped)
      (fun sound here => (keeps_iff sound).mpr here) start

/-! ## A deleted file that is found clean -/

namespace FileSample

/-- A tenant with one megabyte. -/
def tenant : FileEnv := ⟨[("storage_quota_mb", .num 1)], false⟩

def replacedDuringScan : List FileLabel :=
  [.upload ⟨1, "image/png", 1048576⟩, .go 0, .go 0, .go 0, .go 0, .go 0, .deliver 1, .go 1,
    .delete 1, .go 2, .go 2, .upload ⟨2, "image/png", 1048576⟩, .go 3, .go 3, .go 3]

end FileSample

open FileStore FileSample in
/-- The scan of a deleted file writes its verdict: the file is available again, and the files
take twice the quota. -/
theorem deleted_file_revived :
    ∃ w w', run (step tenant) (.empty 0) replacedDuringScan = some w ∧
      step tenant w (.verdict 1 false) = some w' ∧ ¬w.Settles w' ∧
      w'.files ≠ w.files ∧ ¬w'.WithinQuota tenant := by
  have revived : ((run (step tenant) (.empty 0) replacedDuringScan).bind fun w =>
      (step tenant w (.verdict 1 false)).map fun w' => (w, w')).any (fun both =>
        both.1.files.any (fun file => file.id == 1 && decide (file.scanStatus = .deleted)) &&
        both.2.files.any (fun file => file.id == 1 && decide (file.scanStatus = .clean)) &&
        decide (both.2.files ≠ both.1.files) &&
        decide (tenant.quotaBytes < (getTenantUsedBytes both.2.files : Rat))) = true := by
    decide +kernel
  obtain ⟨both, reached, facts⟩ := (Option.any_eq_true _ _).mp revived
  obtain ⟨w, ran, last⟩ := bind_eq_some_iff.mp reached
  obtain ⟨w', stepped, rfl⟩ := map_eq_some_iff.mp last
  simp only [Bool.and_eq_true, decide_eq_true_eq] at facts
  obtain ⟨⟨⟨before, after⟩, changed⟩, beyond⟩ := facts
  obtain ⟨file, mem, named⟩ := List.any_eq_true.mp before
  obtain ⟨file', mem', named'⟩ := List.any_eq_true.mp after
  simp only [Bool.and_eq_true, beq_iff_eq, decide_eq_true_eq] at named named'
  refine ⟨w, w', ran, stepped, fun settles => ?_, changed, not_le.mpr beyond⟩
  have kept := (settles file mem file' mem' (named'.1.trans named.1.symm)).1 named.2
  rw [named'.2] at kept
  cases kept

end OpenWind
