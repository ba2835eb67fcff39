import OpenWind.Files.Uploads

/-!
# Upload slots

A presigned attachment is a slot for one file.  A request claims the slot, saves the file and then
names it in the slot, each in a transaction of its own; when the slot has expired meanwhile it
deletes the file, and after an exception it gives the slot back.  A sweep marks a slot as expired
and removes it later.
-/

open List Option

namespace OpenWind

open Runs

inductive AttachmentStatus
  | pending | uploading | uploaded | expired
  deriving DecidableEq

structure UploadSlot where
  declaredSizeBytes : Nat
  declaredMimeType : String
  uploadExpiresAt : Time
  filesId : Option Id := none
  status : AttachmentStatus := .pending
  updatedAt : Time
  deriving DecidableEq

def EXPIRED_GRACE_HOURS : Nat := 1

/-- How far a `PUT` has come. -/
inductive SlotRequest
  | arrived
  /-- The slot that it has read is pending and has not expired. -/
  | checked (attachment : UploadSlot)
  | claimed (attachment : UploadSlot)
  /-- The bytes have the declared length. -/
  | saving (attachment : UploadSlot)
  /-- The file is committed. -/
  | saved (fileId : Id)
  /-- The slot is no longer `uploading`. -/
  | discarding (fileId : Id)
  /-- The claim is given back. -/
  | releasing
  | ended
  deriving DecidableEq

/-- How far a sweep has come that began at a time. -/
inductive SlotSweep
  | started (now : Time)
  /-- It has found the slot stale, or not. -/
  | selected (now : Time) (stale : Bool)
  | ended
  deriving DecidableEq

structure SlotWorld where
  now : Time
  slot : Option UploadSlot
  files : List FileRow
  requests : List SlotRequest
  sweeps : List SlotSweep
  deriving DecidableEq

inductive SlotLabel
  | tick (time : Nat)
  | request
  /-- The request takes its next step. -/
  | go (i : Nat)
  | receive (i : Nat) (sizeBytes : Nat)
  /-- `saveUpload` commits the file under this identifier. -/
  | save (i : Nat) (fileId : Id)
  /-- The request throws. -/
  | throws (i : Nat)
  | sweep
  /-- The sweep reads its batch, which may leave the slot out. -/
  | select (i : Nat) (within : Bool)
  | commit (i : Nat)

def SlotRequest.holds : SlotRequest → Option Id
  | .saved fileId => some fileId
  | .discarding fileId => some fileId
  | _ => none

/-- The row is abandoned, for the sweep. -/
def UploadSlot.isStale (slot : UploadSlot) (now : Time) : Bool :=
  (slot.status == .pending || slot.status == .uploading) && decide (slot.uploadExpiresAt < now)

namespace SlotWorld

def put (w : SlotWorld) (i : Nat) (request : SlotRequest) : SlotWorld :=
  { w with requests := w.requests.set i request }

def transition (w : SlotWorld) (i : Nat) (status : AttachmentStatus)
    (change : UploadSlot → UploadSlot) (changed unchanged : SlotRequest) : SlotWorld :=
  match w.slot with
  | none => w.put i unchanged
  | some slot =>
    if slot.status = status then
      { w with slot := some { change slot with updatedAt := w.now } }.put i changed
    else w.put i unchanged

/-- The row that the request has read lets it go on. -/
def check (w : SlotWorld) (i : Nat) : SlotWorld :=
  match w.slot with
  | none => w.put i .ended
  | some attachment =>
    if attachment.status = .uploaded ∨ attachment.status = .uploading then w.put i .ended
    else if attachment.status = .expired ∨ attachment.uploadExpiresAt < w.now then w.put i .ended
    else w.put i (.checked attachment)

/-- `deleteFile` -/
def discard (w : SlotWorld) (i : Nat) (fileId : Id) : SlotWorld :=
  match w.files.find? (·.id == fileId) with
  | none => w.put i .releasing
  | some _ =>
    let delete : FileRow → FileRow := fun file =>
      if file.id = fileId then { file with scanStatus := .deleted, updatedAt := w.now } else file
    { w with files := w.files.map delete }.put i .ended

def advance (w : SlotWorld) (i : Nat) : SlotRequest → Option SlotWorld
  | .arrived => some (w.check i)
  | .checked attachment =>
    some (w.transition i .pending (fun slot => { slot with status := .uploading })
      (.claimed attachment) .ended)
  | .saved fileId =>
    some (w.transition i .uploading
      (fun slot => { slot with status := .uploaded, filesId := some fileId })
      .ended (.discarding fileId))
  | .discarding fileId => some (w.discard i fileId)
  | .releasing =>
    some (w.transition i .uploading (fun slot => { slot with status := .pending }) .ended .ended)
  | _ => none

def save (w : SlotWorld) (i : Nat) (attachment : UploadSlot) (fileId : Id) : Option SlotWorld :=
  if FileStore.MAX_FILE_BYTES < attachment.declaredSizeBytes ∨
      FileStore.getMimeSizeLimit attachment.declaredMimeType < attachment.declaredSizeBytes then
    none
  else if fileId ∈ w.files.map FileRow.id then none
  else
    let row : FileRow := ⟨fileId, attachment.declaredMimeType, attachment.declaredSizeBytes,
      .pending, w.now, w.now⟩
    some ({ w with files := w.files ++ [row] }.put i (.saved fileId))

def catches : SlotRequest → SlotRequest
  | .saving _ => .releasing
  | .saved _ => .releasing
  | .discarding _ => .releasing
  | _ => .ended

def sweepSlot (w : SlotWorld) (now : Time) (stale : Bool) : Option UploadSlot :=
  let marked := w.slot.map fun slot =>
    if stale && (slot.status == .pending || slot.status == .uploading) then
      { slot with status := .expired, updatedAt := w.now }
    else slot
  marked.filter fun slot =>
    !(slot.status == .expired &&
      decide (slot.updatedAt < now - EXPIRED_GRACE_HOURS * 60 * 60 * 1000))

def step (w : SlotWorld) : SlotLabel → Option SlotWorld
  | .tick time => some { w with now := w.now + time }
  | .request => some { w with requests := w.requests ++ [.arrived] }
  | .go i => w.requests[i]?.bind (w.advance i)
  | .receive i sizeBytes =>
    match w.requests[i]? with
    | some (.claimed attachment) =>
      some (w.put i (if sizeBytes ≠ attachment.declaredSizeBytes then .releasing
        else .saving attachment))
    | _ => none
  | .save i fileId =>
    match w.requests[i]? with
    | some (.saving attachment) => w.save i attachment fileId
    | _ => none
  | .throws i => w.requests[i]?.map fun request => w.put i (catches request)
  | .sweep => some { w with sweeps := w.sweeps ++ [.started w.now] }
  | .select i within =>
    match w.sweeps[i]? with
    | some (.started now) =>
      let stale := within && w.slot.any (·.isStale now)
      some { w with sweeps := w.sweeps.set i (.selected now stale) }
    | _ => none
  | .commit i =>
    match w.sweeps[i]? with
    | some (.selected now stale) =>
      some { w with slot := w.sweepSlot now stale, sweeps := w.sweeps.set i .ended }
    | _ => none

/-- A slot that was just made. -/
def presigned (slot : UploadSlot) (now : Time) : SlotWorld := ⟨now, some slot, [], [], []⟩

/-! ## The properties and the condition -/

def OneFile (w : SlotWorld) : Prop :=
  (∀ request ∈ w.requests, request = .ended) →
    (∀ file ∈ w.files, file.scanStatus ≠ .deleted → ∃ slot ∈ w.slot, slot.filesId = some file.id) ∧
    ∀ file ∈ w.files, ∀ other ∈ w.files, file.scanStatus ≠ .deleted →
      other.scanStatus ≠ .deleted → file = other

def StaysExpired (w w' : SlotWorld) : Prop :=
  w.slot.all (·.status == .expired) = true → w'.slot.all (·.status == .expired) = true

def ThrowsEmptyHanded (w : SlotWorld) : SlotLabel → Prop
  | .throws i => ∀ request, w.requests[i]? = some request → request.holds = none
  | _ => True

/-! ## The invariant -/

def Covered (w : SlotWorld) (fileId : Id) : Prop :=
  (∃ slot ∈ w.slot, slot.filesId = some fileId) ∨
    ∃ request ∈ w.requests, request.holds = some fileId

structure Sound (w : SlotWorld) : Prop where
  ids : (w.files.map FileRow.id).Nodup
  named : ∀ slot ∈ w.slot, slot.filesId ≠ none → slot.status = .uploaded
  covered : ∀ file ∈ w.files, file.scanStatus ≠ .deleted → w.Covered file.id

variable {w w' : SlotWorld}

theorem Sound.presigned {slot : UploadSlot} {now : Time} (unnamed : slot.filesId = none) :
    (SlotWorld.presigned slot now).Sound := by
  refine ⟨nodup_nil, ?_, nofun⟩
  intro other same named
  rw [← Option.some.inj same, unnamed] at named
  exact absurd rfl named

theorem Sound.oneFile (sound : w.Sound) : w.OneFile := by
  intro quiet
  have named : ∀ file ∈ w.files, file.scanStatus ≠ .deleted →
      ∃ slot ∈ w.slot, slot.filesId = some file.id := by
    intro file member live
    rcases sound.covered file member live with named | ⟨request, running, holds⟩
    · exact named
    · rw [quiet request running] at holds
      cases holds
  refine ⟨named, ?_⟩
  intro file member other member' live live'
  obtain ⟨slot, current, name⟩ := named file member live
  obtain ⟨slot', current', name'⟩ := named other member' live'
  have same : slot = slot' := Option.some.inj (mem_def.mp current ▸ current')
  rw [← same, name] at name'
  exact Rows.eq_of_key sound.ids member member' (Option.some.inj name')

theorem Covered.put {i : Nat} {old request : SlotRequest} {fileId : Id}
    (here : w.requests[i]? = some old)
    (onward : old.holds = some fileId → request.holds = some fileId) (covered : w.Covered fileId) :
    (w.put i request).Covered fileId := by
  rcases covered with named | ⟨other, member, holds⟩
  · exact .inl named
  · rcases Calls.mem_replaced here member with rfl | stays
    · exact .inr ⟨request, Calls.mem_replacement here, onward holds⟩
    · exact .inr ⟨other, stays, holds⟩

theorem Sound.put (sound : w.Sound) {i : Nat} {old request : SlotRequest}
    (here : w.requests[i]? = some old)
    (onward : ∀ fileId, old.holds = some fileId → request.holds = some fileId) :
    (w.put i request).Sound :=
  ⟨sound.ids, sound.named, fun file member live =>
    (sound.covered file member live).put here (onward file.id)⟩

theorem Sound.idle (sound : w.Sound) {i : Nat} {old request : SlotRequest}
    (here : w.requests[i]? = some old) (empty : old.holds = none) : (w.put i request).Sound := by
  refine sound.put here fun fileId holds => ?_
  rw [empty] at holds
  cases holds

theorem Sound.restatus (sound : w.Sound) {slot slot' : UploadSlot} (current : w.slot = some slot)
    (open' : slot.status ≠ .uploaded) (unnamed : slot'.filesId = slot.filesId) :
    Sound { w with slot := some slot' } := by
  have none' : slot.filesId = none := by
    by_contra named
    exact open' (sound.named slot current named)
  refine ⟨sound.ids, ?_, ?_⟩
  · intro other same named
    rw [← Option.some.inj same, unnamed, none'] at named
    exact absurd rfl named
  · intro file member live
    rcases sound.covered file member live with ⟨other, same, name⟩ | held
    · rw [← Option.some.inj (current.symm.trans same), none'] at name
      cases name
    · exact .inr held

theorem Sound.transition (sound : w.Sound) {i : Nat} {old changed unchanged : SlotRequest}
    {status : AttachmentStatus} {change : UploadSlot → UploadSlot}
    (here : w.requests[i]? = some old) (empty : old.holds = none) (open' : status ≠ .uploaded)
    (unnamed : ∀ slot, (change slot).filesId = slot.filesId) :
    (w.transition i status change changed unchanged).Sound := by
  unfold SlotWorld.transition
  split
  · exact sound.idle here empty
  · next slot current =>
    split
    · next same =>
      have restatus : Sound { w with slot := some { change slot with updatedAt := w.now } } :=
        sound.restatus current (by rw [same]; exact open') (unnamed slot)
      exact restatus.idle here empty
    · exact sound.idle here empty

variable {slot' : UploadSlot} {i : Nat} {label : SlotLabel}

theorem Sound.finalize (sound : w.Sound) {fileId : Id}
    (here : w.requests[i]? = some (.saved fileId)) :
    (w.transition i .uploading
      (fun slot => { slot with status := .uploaded, filesId := some fileId })
      .ended (.discarding fileId)).Sound := by
  unfold SlotWorld.transition
  split
  · exact sound.put here fun _ holds => holds
  · next slot current =>
    split
    · next same =>
      have unnamed : slot.filesId = none := by
        by_contra named
        have uploaded := sound.named slot current named
        rw [same] at uploaded
        cases uploaded
      refine ⟨sound.ids, ?_, ?_⟩
      · intro other is named
        rw [← Option.some.inj is]
      · intro file member live
        rcases sound.covered file member live with ⟨other, is, name⟩ | ⟨request, running, holds⟩
        · rw [← Option.some.inj (current.symm.trans is), unnamed] at name
          cases name
        · rcases Calls.mem_replaced here running with rfl | stays
          · exact .inl ⟨_, rfl, holds⟩
          · exact .inr ⟨request, stays, holds⟩
    · exact sound.put here fun _ holds => holds

theorem Sound.discard (sound : w.Sound) {i : Nat} {fileId : Id}
    (here : w.requests[i]? = some (.discarding fileId)) : (w.discard i fileId).Sound := by
  unfold SlotWorld.discard
  split
  · next absent =>
    refine ⟨sound.ids, sound.named, ?_⟩
    intro file member live
    refine (sound.covered file member live).put here fun holds => ?_
    have other := find?_eq_none.mp absent file member
    exact absurd (beq_iff_eq.mpr (Option.some.inj holds).symm) other
  · dsimp only
    refine ⟨?_, sound.named, ?_⟩
    · change ((w.files.map _).map FileRow.id).Nodup
      rw [Rows.keys_updated fun file => by split <;> rfl]
      exact sound.ids
    · intro file member live
      obtain ⟨before, was, rfl⟩ := List.mem_map.mp member
      by_cases gone : before.id = fileId
      · rw [if_pos gone] at live
        exact absurd rfl live
      · rw [if_neg gone] at live ⊢
        refine (sound.covered before was live).put here fun holds => ?_
        exact absurd (Option.some.inj holds).symm gone

theorem Sound.save (sound : w.Sound) {i : Nat} {attachment : UploadSlot} {fileId : Id}
    (here : w.requests[i]? = some (.saving attachment))
    (saved : w.save i attachment fileId = some w') : w'.Sound := by
  unfold SlotWorld.save at saved
  split at saved
  · cases saved
  · split at saved
    · cases saved
    · next fresh =>
      cases saved
      refine ⟨Rows.nodup_append sound.ids fresh, sound.named, ?_⟩
      intro file member live
      rcases mem_append.mp member with old | new
      · have kept : (w.put i (.saved fileId)).Covered file.id :=
          (sound.covered file old live).put here (by rintro ⟨⟩)
        exact kept
      · rw [mem_singleton.mp new]
        exact .inr ⟨_, Calls.mem_replacement here, rfl⟩

theorem mem_sweepSlot {now : Time} {stale : Bool} (left : slot' ∈ w.sweepSlot now stale) :
    ∃ slot ∈ w.slot, slot'.filesId = slot.filesId ∧
      (slot' = slot ∨ slot.status ≠ .uploaded ∧ slot'.status = .expired) := by
  unfold SlotWorld.sweepSlot at left
  obtain ⟨marked, -⟩ := mem_filter_iff.mp left
  obtain ⟨slot, current, rfl⟩ := map_eq_some_iff.mp marked
  refine ⟨slot, current, ?_⟩
  split
  · next open' =>
    refine ⟨rfl, .inr ⟨fun uploaded => ?_, rfl⟩⟩
    rw [uploaded] at open'
    simp at open'
  · exact ⟨rfl, .inl rfl⟩

theorem sweepSlot_uploaded {slot : UploadSlot} (current : slot ∈ w.slot)
    (uploaded : slot.status = .uploaded) (now : Time) (stale : Bool) :
    slot ∈ w.sweepSlot now stale := by
  unfold SlotWorld.sweepSlot
  rw [mem_def.mp current]
  simp [uploaded, Option.filter]

theorem Sound.sweepSlot (sound : w.Sound) (now : Time) (stale : Bool) (sweeps : List SlotSweep) :
    Sound { w with slot := w.sweepSlot now stale, sweeps } := by
  refine ⟨sound.ids, ?_, ?_⟩
  · intro slot' left named
    obtain ⟨slot, current, name, same | ⟨open', -⟩⟩ := mem_sweepSlot left
    · rw [same] at named ⊢
      exact sound.named slot current named
    · rw [name] at named
      exact absurd (sound.named slot current named) open'
  · intro file member live
    rcases sound.covered file member live with ⟨slot, current, name⟩ | held
    · have named : slot.filesId ≠ none := by
        rw [name]
        exact some_ne_none _
      exact .inl ⟨slot, sweepSlot_uploaded current (sound.named slot current named) now stale, name⟩
    · exact .inr held

theorem Sound.advance (sound : w.Sound) {i : Nat} {request : SlotRequest}
    (here : w.requests[i]? = some request) (advanced : w.advance i request = some w') :
    w'.Sound := by
  cases request with
  | arrived =>
    cases advanced
    unfold SlotWorld.check
    split
    · exact sound.idle here rfl
    · split
      · exact sound.idle here rfl
      · split
        · exact sound.idle here rfl
        · exact sound.idle here rfl
  | checked | releasing =>
    cases advanced
    exact sound.transition here rfl nofun fun _ => rfl
  | saved fileId =>
    cases advanced
    exact sound.finalize here
  | discarding fileId =>
    cases advanced
    exact sound.discard here
  | claimed | saving | ended => cases advanced

theorem Sound.next (sound : w.Sound) {label : SlotLabel} (empty : w.ThrowsEmptyHanded label)
    (stepped : w.step label = some w') : w'.Sound := by
  revert stepped
  fun_cases step w label <;> intro stepped <;> try cases stepped
  case case2.refl =>
    refine ⟨sound.ids, sound.named, fun file member live => ?_⟩
    rcases sound.covered file member live with named | ⟨request, running, holds⟩
    · exact .inl named
    · exact .inr ⟨request, mem_append_left _ running, holds⟩
  case case3 =>
    obtain ⟨request, here, advanced⟩ := bind_eq_some_iff.mp stepped
    exact sound.advance here advanced
  case case4.refl here => exact sound.idle here rfl
  case case6 here => exact sound.save here stepped
  case case8 =>
    obtain ⟨request, here, rfl⟩ := map_eq_some_iff.mp stepped
    exact sound.idle here (empty request here)
  case case12.refl => exact sound.sweepSlot _ _ _
  -- a sweep that has not committed leaves the rows alone
  all_goals exact ⟨sound.ids, sound.named, sound.covered⟩

/-! ## Expired slots -/

theorem staysExpired_transition {status : AttachmentStatus} {change : UploadSlot → UploadSlot}
    {changed unchanged : SlotRequest} (open' : status ≠ .expired) :
    w.StaysExpired (w.transition i status change changed unchanged) := by
  intro expired
  unfold transition
  split
  · exact expired
  · next slot current =>
    rw [current] at expired
    split
    · next same =>
      have both : slot.status = .expired := by simpa using expired
      exact absurd (same.symm.trans both) open'
    · simpa [put, current] using expired

theorem staysExpired_advance {request : SlotRequest} (advanced : w.advance i request = some w') :
    w.StaysExpired w' := by
  cases request with
  | arrived =>
    cases advanced
    intro expired
    unfold check
    split
    · exact expired
    · split
      · exact expired
      · split
        · exact expired
        · exact expired
  | checked | saved | releasing =>
    cases advanced
    exact staysExpired_transition nofun
  | discarding fileId =>
    cases advanced
    intro expired
    unfold discard
    split
    · exact expired
    · exact expired
  | claimed _ => cases advanced
  | saving _ => cases advanced
  | ended => cases advanced

theorem staysExpired_step (stepped : w.step label = some w') : w.StaysExpired w' := by
  revert stepped
  fun_cases step w label <;> intro stepped <;> try cases stepped
  case case3 =>
    obtain ⟨request, -, advanced⟩ := bind_eq_some_iff.mp stepped
    exact staysExpired_advance advanced
  case case6 i fileId attachment _ =>
    revert stepped
    fun_cases save w i attachment fileId <;> intro stepped <;> cases stepped
    exact fun expired => expired
  case case8 =>
    obtain ⟨request, -, rfl⟩ := map_eq_some_iff.mp stepped
    exact fun expired => expired
  case case12.refl =>
    intro expired
    rw [Option.all_eq_true] at expired ⊢
    intro slot' left
    obtain ⟨slot, current, -, same | ⟨-, marked⟩⟩ := mem_sweepSlot left
    · rw [same]
      exact expired slot current
    · exact beq_iff_eq.mpr marked
  all_goals exact fun expired => expired

/-- In a run in which no request throws while it holds a file, a slot has one file at most when
no request is running, the one that it names.  In every run a slot that is expired stays so. -/
theorem upload_slots_hold_one_file (slot : UploadSlot) (now : Time) (labels : List SlotLabel)
    (unnamed : slot.filesId = none)
    (empty : Guarded step ThrowsEmptyHanded (presigned slot now) labels) :
    Always step OneFile (presigned slot now) labels ∧
      ∀ first second mid last, run step (presigned slot now) first = some mid →
        run step mid second = some last → mid.StaysExpired last := by
  refine ⟨empty.always (fun sound empty stepped => sound.next empty stepped) Sound.oneFile
    (.presigned unnamed), ?_⟩
  intro first second mid last _ ran
  exact run_mono (R := StaysExpired) (fun _ expired => expired)
    (fun before after expired => after (before expired)) staysExpired_step ran

/-- `ThrowsEmptyHanded`, checked. -/
def throwsEmptyHanded (w : SlotWorld) : SlotLabel → Bool
  | .throws i => w.requests[i]?.all fun request => request.holds.isNone
  | _ => true

theorem throwsEmptyHanded_sound (checked : w.throwsEmptyHanded label) :
    w.ThrowsEmptyHanded label := by
  cases label with
  | throws i =>
    intro request here
    simp only [throwsEmptyHanded] at checked
    rw [here, all_some, isNone_iff_eq_none] at checked
    exact checked
  | _ => trivial

end SlotWorld

/-! ## A file that is saved and never named -/

namespace SlotSample

def slot : UploadSlot :=
  { declaredSizeBytes := 10, declaredMimeType := "image/png", uploadExpiresAt := 300000,
    updatedAt := 0 }

def start : SlotWorld := .presigned slot 0

def saves (i : Nat) (fileId : Id) : List SlotLabel :=
  [.request, .go i, .go i, .receive i 10, .save i fileId]

def retried : List SlotLabel :=
  [.request, .go 0, .go 0, .receive 0 10, .throws 0, .go 0] ++ saves 1 7 ++ [.go 1]

def orphaned : List SlotLabel :=
  saves 0 7 ++ [.throws 0, .go 0] ++ saves 1 8 ++ [.go 1]

end SlotSample

open SlotSample SlotWorld in
theorem retried_slot_holds_one_file :
    Always step OneFile start retried ∧
      ∀ first second mid last, run step start first = some mid →
        run step mid second = some last → mid.StaysExpired last :=
  upload_slots_hold_one_file slot 0 retried rfl
    (Guarded.of_check throwsEmptyHanded_sound (by decide +kernel))

open SlotSample SlotWorld in
/-- No request is running, and of two files that are not deleted the slot names the second. -/
theorem slot_file_orphaned : ¬ Always step OneFile start orphaned := by
  intro always
  have orphan : (run step start orphaned).any (fun w =>
      w.requests.all (· == .ended) && w.files.any fun file =>
        file.scanStatus != .deleted && w.slot.all (·.filesId != some file.id)) = true := by
    decide +kernel
  obtain ⟨w, ran, orphan⟩ := (Option.any_eq_true _ _).mp orphan
  obtain ⟨quiet, orphan⟩ := Bool.and_eq_true_iff.mp orphan
  obtain ⟨file, member, orphan⟩ := List.any_eq_true.mp orphan
  obtain ⟨live, unnamed⟩ := Bool.and_eq_true_iff.mp orphan
  have ended : ∀ request ∈ w.requests, request = .ended := fun request running =>
    eq_of_beq (List.all_eq_true.mp quiet request running)
  obtain ⟨slot, current, name⟩ := (always.last ran ended).1 file member (bne_iff_ne.mp live)
  have other := (Option.all_eq_true _ _).mp unnamed slot current
  rw [name, bne_self_eq_false] at other
  cases other

end OpenWind
