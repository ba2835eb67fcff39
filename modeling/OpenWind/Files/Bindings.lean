import OpenWind.Entity.Listings
import OpenWind.Files.Uploads

/-!
# Files that are bound to records

A file is bound to a record when it is uploaded, when it is attached to the record or when it is
attached to a comment of the record.  An upload does not look at the record that it names; the two
attachments look at the record and at the file, but not at who has uploaded it, and the binding is
an update without a condition.  A download looks at the record of a file that is bound, and at the
uploader of one that is not.
-/

open List Option

namespace OpenWind

open Runs

/-! ## Callers and records -/

structure Caller where
  userId : String
  roles : List String
  deriving DecidableEq

def Caller.isPrivileged (caller : Caller) : Bool := isPrivilegedRole caller.roles

/-- What a file is attached to. -/
inductive AttachTarget
  | record (id : Id)
  | comment (id eventId : Id)
  deriving DecidableEq

def AttachTarget.recordId : AttachTarget → Id
  | .record id => id
  | .comment id _ => id

namespace Caller

variable (db : Db) (tenantId : Id) (caller : Caller)

def administers (instance_ : EntityInstance) : Option Bool :=
  match instance_.workflowId with
  | none => some false
  | some workflowId => (db.getWorkflow tenantId workflowId).map (·.isAdmin caller.userId)

def canAttach (instance_ : EntityInstance) : Option Bool :=
  if caller.isPrivileged then some true
  else if instance_.isOwn caller.userId ||
      accessLevel instance_.fields caller.userId == some (.str "read_write") then some true
  else caller.administers db tenantId instance_

def canAttachToComment (instance_ : EntityInstance) (event : WorkflowEvent) : Option Bool :=
  if caller.isPrivileged || event.actorId == some caller.userId then some true
  else caller.administers db tenantId instance_

def passes (target : AttachTarget) : Bool :=
  match db.entityInstances.find? (EntityInstance.isOf tenantId target.recordId) with
  | none => false
  | some instance_ =>
    match target with
    | .record _ => caller.canAttach db tenantId instance_ == some true
    | .comment id eventId =>
      match db.workflowEvents.find? fun event =>
        event.id == eventId && event.instanceId == id && event.tenantId == tenantId with
      | none => false
      | some event => event.metadata.get "type" == some (.str "comment") &&
          caller.canAttachToComment db tenantId instance_ event == some true

def mayAttach (recordId : Id) : Prop :=
  ∃ target : AttachTarget, target.recordId = recordId ∧ caller.passes db tenantId target = true

def opens (recordId : Id) : Bool :=
  match db.entityInstances.find? (EntityInstance.isOf tenantId recordId) with
  | none => false
  | some instance_ => hasEntityAccess db tenantId instance_ caller.userId caller.roles == some true

end Caller

/-! ## Files and requests -/

/-- A row of `files`, with the columns that bindings and downloads read. -/
structure StoredFile where
  id : Id
  uploadedBy : String
  entityId : Option Id := none
  scanStatus : ScanStatus := .pending
  deriving DecidableEq

def Caller.isRightful (caller : Caller) (file : StoredFile) : Bool :=
  caller.isPrivileged || file.uploadedBy == caller.userId

def StoredFile.isFor (file : StoredFile) (recordId : Id) : Bool :=
  file.scanStatus == .clean && (file.entityId.isNone || file.entityId == some recordId)

/-- How far a request has come. -/
inductive FileRequest
  | attaching (caller : Caller) (target : AttachTarget) (fileId : Id)
  /-- The caller may attach files to the record. -/
  | allowed (caller : Caller) (target : AttachTarget) (fileId : Id)
  /-- The file that it has read is not bound. -/
  | binding (caller : Caller) (target : AttachTarget) (fileId : Id)
  | downloading (caller : Caller) (fileId : Id)
  /-- The download is allowed for the row that it has read, or for want of one. -/
  | cleared (caller : Caller) (fileId : Id) (found : Bool)
  | ended
  deriving DecidableEq

/-- What the requests have done. -/
inductive FileEvent
  /-- The file is bound to the record when the request succeeds. -/
  | bound (caller : Caller) (fileId recordId : Id)
  /-- The caller gets the bytes. -/
  | served (caller : Caller) (fileId : Id)
  deriving DecidableEq

structure BindingWorld where
  files : List StoredFile
  requests : List FileRequest
  log : List FileEvent
  deriving DecidableEq

inductive BindingLabel
  | upload (caller : Caller) (entityId : Option Id) (fileId : Id)
  | mark (fileId : Id) (status : ScanStatus)
  | attach (caller : Caller) (target : AttachTarget) (fileId : Id)
  | download (caller : Caller) (fileId : Id)
  /-- The request takes its next step. -/
  | go (i : Nat)
  | throws (i : Nat)

namespace BindingWorld

def file (w : BindingWorld) (fileId : Id) : Option StoredFile := w.files.find? (·.id == fileId)

def put (w : BindingWorld) (i : Nat) (request : FileRequest) : BindingWorld :=
  { w with requests := w.requests.set i request }

def record (w : BindingWorld) (event : FileEvent) : BindingWorld :=
  { w with log := w.log ++ [event] }

def modify (w : BindingWorld) (fileId : Id) (f : StoredFile → StoredFile) : BindingWorld :=
  { w with files := w.files.map fun file => if file.id = fileId then f file else file }

def upload (w : BindingWorld) (caller : Caller) (entityId : Option Id) (fileId : Id) :
    Option BindingWorld :=
  if fileId ∈ w.files.map StoredFile.id then none
  else
    let row : StoredFile := { id := fileId, uploadedBy := caller.userId, entityId }
    let log := w.log ++ entityId.toList.map (.bound caller fileId)
    some { w with files := w.files ++ [row], log }

/-- The next step of a request. -/
def advance (db : Db) (tenantId : Id) (w : BindingWorld) (i : Nat) :
    FileRequest → Option BindingWorld
  | .attaching caller target fileId =>
    some (w.put i (if caller.passes db tenantId target then .allowed caller target fileId
      else .ended))
  | .allowed caller target fileId =>
    match w.file fileId with
    | none => some (w.put i .ended)
    | some file =>
      if !file.isFor target.recordId then some (w.put i .ended)
      else if file.entityId.isNone then some (w.put i (.binding caller target fileId))
      else some ((w.put i .ended).record (.bound caller fileId target.recordId))
  | .binding caller target fileId =>
    some (((w.put i .ended).modify fileId fun file =>
      { file with entityId := some target.recordId }).record (.bound caller fileId target.recordId))
  | .downloading caller fileId =>
    match w.file fileId with
    | none => some (w.put i (.cleared caller fileId false))
    | some file =>
      let allowed :=
        match file.entityId with
        | some recordId => caller.opens db tenantId recordId
        | none => caller.isRightful file
      some (w.put i (if allowed then .cleared caller fileId true else .ended))
  | .cleared caller fileId _ =>
    match w.file fileId with
    | none => some (w.put i .ended)
    | some file =>
      if file.scanStatus = .clean then some ((w.put i .ended).record (.served caller fileId))
      else some (w.put i .ended)
  | .ended => none

def step (db : Db) (tenantId : Id) (w : BindingWorld) : BindingLabel → Option BindingWorld
  | .upload caller entityId fileId => w.upload caller entityId fileId
  | .mark fileId status => some (w.modify fileId fun file => { file with scanStatus := status })
  | .attach caller target fileId =>
    some { w with requests := w.requests ++ [.attaching caller target fileId] }
  | .download caller fileId =>
    some { w with requests := w.requests ++ [.downloading caller fileId] }
  | .go i => w.requests[i]?.bind (w.advance db tenantId i)
  | .throws i => w.requests[i]?.map fun _ => w.put i .ended

/-- Files that are not bound, and no request. -/
def start (files : List StoredFile) : BindingWorld := ⟨files, [], []⟩

/-! ## The properties and the condition -/

def HasRightful (w : BindingWorld) (caller : Caller) (fileId : Id) : Prop :=
  ∃ file ∈ w.files, file.id = fileId ∧ caller.isRightful file = true

def RightlyBound (w : BindingWorld) (fileId : Id) : Prop :=
  ∃ caller recordId, .bound caller fileId recordId ∈ w.log ∧ w.HasRightful caller fileId

end BindingWorld

def FileEvent.Rightful (db : Db) (tenantId : Id) (w : BindingWorld) : FileEvent → Prop
  | .bound caller fileId recordId =>
    caller.mayAttach db tenantId recordId ∧ w.HasRightful caller fileId
  | .served caller fileId => w.HasRightful caller fileId ∨ w.RightlyBound fileId

namespace BindingWorld

def Rightful (db : Db) (tenantId : Id) (w : BindingWorld) : Prop :=
  ∀ event ∈ w.log, event.Rightful db tenantId w

def StaysBound (w w' : BindingWorld) : Prop :=
  ∀ file ∈ w.files, ∃ file' ∈ w'.files, file'.id = file.id ∧ file'.uploadedBy = file.uploadedBy ∧
    ∀ recordId, file.entityId = some recordId → file'.entityId = some recordId

def Warranted (db : Db) (tenantId : Id) (w : BindingWorld) : BindingLabel → Prop
  | .upload caller entityId _ => ∀ recordId ∈ entityId, caller.mayAttach db tenantId recordId
  | .go i =>
    match w.requests[i]? with
    | some (.allowed caller target fileId) => ∀ file ∈ w.file fileId,
        file.isFor target.recordId = true → caller.isRightful file = true
    | some (.binding _ target fileId) => ∀ file ∈ w.file fileId,
        file.entityId = none ∨ file.entityId = some target.recordId
    | some (.cleared caller fileId false) => ∀ file ∈ w.file fileId,
        file.scanStatus = .clean → file.entityId = none → caller.isRightful file = true
    | _ => True
  | _ => True

end BindingWorld

/-! ## What stays -/

section Invariant

variable {db : Db} {tenantId : Id} {w w' : BindingWorld}

namespace BindingWorld

structure Grows (w w' : BindingWorld) : Prop where
  files : ∀ file ∈ w.files, ∃ file' ∈ w'.files, file'.id = file.id ∧
    file'.uploadedBy = file.uploadedBy
  log : w.log ⊆ w'.log

theorem grows_of_subset (files : w.files ⊆ w'.files) (log : w.log ⊆ w'.log) : Grows w w' :=
  ⟨fun file mem => ⟨file, files mem, rfl, rfl⟩, log⟩

theorem Grows.hasRightful (grows : Grows w w') {caller : Caller} {fileId : Id}
    (has : w.HasRightful caller fileId) : w'.HasRightful caller fileId := by
  obtain ⟨file, mem, named, rightful⟩ := has
  obtain ⟨file', mem', id', uploader⟩ := grows.files file mem
  refine ⟨file', mem', id'.trans named, ?_⟩
  unfold Caller.isRightful at rightful ⊢
  rwa [uploader]

theorem Grows.rightlyBound (grows : Grows w w') {fileId : Id} (bound : w.RightlyBound fileId) :
    w'.RightlyBound fileId := by
  obtain ⟨caller, recordId, logged, has⟩ := bound
  exact ⟨caller, recordId, grows.log logged, grows.hasRightful has⟩

theorem Grows.rightful (grows : Grows w w') {event : FileEvent}
    (rightful : event.Rightful db tenantId w) : event.Rightful db tenantId w' := by
  cases event with
  | bound caller fileId recordId => exact ⟨rightful.1, grows.hasRightful rightful.2⟩
  | served caller fileId => exact rightful.imp grows.hasRightful grows.rightlyBound

end BindingWorld

def FileRequest.Knows (db : Db) (tenantId : Id) (w : BindingWorld) : FileRequest → Prop
  | .allowed caller target _ => caller.passes db tenantId target = true
  | .binding caller target fileId =>
    caller.passes db tenantId target = true ∧ w.HasRightful caller fileId
  | .cleared caller fileId true => w.HasRightful caller fileId ∨ w.RightlyBound fileId
  | _ => True

namespace BindingWorld

theorem Grows.knows (grows : Grows w w') {request : FileRequest}
    (knows : request.Knows db tenantId w) : request.Knows db tenantId w' := by
  cases request with
  | binding caller target fileId => exact ⟨knows.1, grows.hasRightful knows.2⟩
  | cleared caller fileId found =>
    cases found with
    | true => exact knows.imp grows.hasRightful grows.rightlyBound
    | false => trivial
  | _ => exact knows

/-- The invariant. -/
structure Sound (db : Db) (tenantId : Id) (w : BindingWorld) : Prop where
  ids : (w.files.map StoredFile.id).Nodup
  bound : ∀ file ∈ w.files, file.entityId ≠ none → w.RightlyBound file.id
  rightful : w.Rightful db tenantId
  knows : ∀ request ∈ w.requests, request.Knows db tenantId w

theorem Sound.start {files : List StoredFile} (ids : (files.map StoredFile.id).Nodup)
    (unbound : ∀ file ∈ files, file.entityId = none) : (start files).Sound db tenantId :=
  ⟨ids, fun file mem bound => absurd (unbound file mem) bound, nofun, nofun⟩

theorem Sound.grow (sound : w.Sound db tenantId) (grows : Grows w w')
    (ids : (w'.files.map StoredFile.id).Nodup)
    (bound : ∀ file ∈ w'.files, file.entityId ≠ none →
      (∃ old ∈ w.files, old.id = file.id ∧ old.entityId ≠ none) ∨ w'.RightlyBound file.id)
    (log : ∀ event ∈ w'.log, event ∈ w.log ∨ event.Rightful db tenantId w')
    (requests : ∀ request ∈ w'.requests, request ∈ w.requests ∨ request.Knows db tenantId w') :
    w'.Sound db tenantId := by
  refine ⟨ids, fun file mem filed => ?_, fun event mem => ?_, fun request mem => ?_⟩
  · rcases bound file mem filed with ⟨old, was, same, filed'⟩ | now
    · rw [← same]
      exact grows.rightlyBound (sound.bound old was filed')
    · exact now
  · rcases log event mem with old | new
    · exact grows.rightful (sound.rightful event old)
    · exact new
  · rcases requests request mem with old | new
    · exact grows.knows (sound.knows request old)
    · exact new

theorem Sound.begin (sound : w.Sound db tenantId) {request : FileRequest}
    (knows : ∀ w : BindingWorld, request.Knows db tenantId w) :
    { w with requests := w.requests ++ [request] }.Sound db tenantId := by
  refine sound.grow (grows_of_subset (Subset.refl _) (Subset.refl _)) sound.ids
    (fun file mem filed => .inl ⟨file, mem, rfl, filed⟩) (fun event mem => .inl mem)
    fun other mem => ?_
  rcases Calls.of_mem_began mem with rfl | old
  · exact .inr (knows _)
  · exact .inl old

theorem Sound.put (sound : w.Sound db tenantId) {i : Nat} {request : FileRequest}
    (knows : request.Knows db tenantId w) : (w.put i request).Sound db tenantId := by
  have grows : Grows w (w.put i request) :=
    grows_of_subset (Subset.refl _) (Subset.refl _)
  refine sound.grow grows sound.ids (fun file mem filed => .inl ⟨file, mem, rfl, filed⟩)
    (fun event mem => .inl mem) fun other mem => ?_
  rcases Calls.of_mem_replaced mem with rfl | old
  · exact .inr (grows.knows knows)
  · exact .inl old

theorem Sound.record (sound : w.Sound db tenantId) {event : FileEvent}
    (rightful : event.Rightful db tenantId w) : (w.record event).Sound db tenantId := by
  have grows : Grows w (w.record event) :=
    grows_of_subset (Subset.refl _) (subset_append_left _ _)
  refine sound.grow grows sound.ids (fun file mem filed => .inl ⟨file, mem, rfl, filed⟩)
    (fun other mem => ?_) fun request mem => .inl mem
  rcases Calls.of_mem_began mem with rfl | old
  · exact .inr (grows.rightful rightful)
  · exact .inl old

variable {fileId : Id} {f : StoredFile → StoredFile} {caller : Caller} {i : Nat}

theorem grows_modify (ids : ∀ file, (f file).id = file.id)
    (uploaders : ∀ file, (f file).uploadedBy = file.uploadedBy) : Grows w (w.modify fileId f) := by
  refine ⟨fun file mem => ⟨_, List.mem_map_of_mem mem, ?_, ?_⟩, fun event mem => mem⟩
  · split
    · exact ids file
    · rfl
  · split
    · exact uploaders file
    · rfl

theorem Sound.ids_modify (sound : w.Sound db tenantId) (ids : ∀ file, (f file).id = file.id) :
    ((w.modify fileId f).files.map StoredFile.id).Nodup := by
  have same : (w.modify fileId f).files.map StoredFile.id = w.files.map StoredFile.id := by
    refine Rows.keys_updated fun file => ?_
    split
    · exact ids file
    · rfl
  rw [same]
  exact sound.ids

theorem Sound.mark (sound : w.Sound db tenantId) (fileId : Id) (status : ScanStatus) :
    (w.modify fileId fun file => { file with scanStatus := status }).Sound db tenantId := by
  refine sound.grow (grows_modify (fun _ => rfl) fun _ => rfl) (sound.ids_modify fun _ => rfl)
    (fun file mem filed => ?_) (fun event mem => .inl mem) fun request mem => .inl mem
  · obtain ⟨old, was, rfl⟩ := List.mem_map.mp mem
    refine .inl ⟨old, was, ?_, ?_⟩
    · split
      · rfl
      · rfl
    · split at filed
      · exact filed
      · exact filed

theorem Sound.bind (sound : w.Sound db tenantId) {fileId recordId : Id}
    (may : caller.mayAttach db tenantId recordId) (has : w.HasRightful caller fileId) :
    ((w.modify fileId fun file => { file with entityId := some recordId }).record
      (.bound caller fileId recordId)).Sound db tenantId := by
  have grows : Grows w ((w.modify fileId fun file => { file with entityId := some recordId }).record
      (.bound caller fileId recordId)) := by
    have modified : Grows w (w.modify fileId fun file => { file with entityId := some recordId }) :=
      grows_modify (fun _ => rfl) fun _ => rfl
    exact ⟨modified.files, subset_append_left _ _⟩
  refine sound.grow grows (sound.ids_modify fun _ => rfl) (fun file mem filed => ?_)
    (fun event mem => ?_) fun request mem => .inl mem
  · obtain ⟨old, was, rfl⟩ := List.mem_map.mp mem
    by_cases same : old.id = fileId
    · rw [if_pos same]
      refine .inr ⟨caller, recordId, ?_, ?_⟩
      · rw [show ({ old with entityId := some recordId } : StoredFile).id = fileId from same]
        exact mem_append_right _ mem_cons_self
      · rw [show ({ old with entityId := some recordId } : StoredFile).id = fileId from same]
        exact grows.hasRightful has
    · rw [if_neg same] at filed ⊢
      exact .inl ⟨old, was, rfl, filed⟩
  · rcases Calls.of_mem_began mem with rfl | old
    · exact .inr ⟨may, grows.hasRightful has⟩
    · exact .inl old

theorem mem_file {file : StoredFile} (found : w.file fileId = some file) :
    file ∈ w.files ∧ file.id = fileId := by
  have named := find?_some found
  exact ⟨mem_of_find?_eq_some found, eq_of_beq named⟩

theorem Sound.upload (sound : w.Sound db tenantId) {caller : Caller} {entityId : Option Id}
    {fileId : Id} (warranted : ∀ recordId ∈ entityId, caller.mayAttach db tenantId recordId)
    (uploaded : w.upload caller entityId fileId = some w') : w'.Sound db tenantId := by
  unfold BindingWorld.upload at uploaded
  split at uploaded
  · cases uploaded
  · next fresh =>
    cases uploaded
    have grows : Grows w { w with
        files := w.files ++ [{ id := fileId, uploadedBy := caller.userId, entityId }]
        log := w.log ++ entityId.toList.map (.bound caller fileId) } :=
      grows_of_subset (subset_append_left _ _) (subset_append_left _ _)
    have has : HasRightful { w with
        files := w.files ++ [{ id := fileId, uploadedBy := caller.userId, entityId }]
        log := w.log ++ entityId.toList.map (.bound caller fileId) } caller fileId := by
      refine ⟨_, mem_append_right _ mem_cons_self, rfl, ?_⟩
      unfold Caller.isRightful
      rw [beq_self_eq_true, Bool.or_true]
    refine sound.grow grows (Rows.nodup_append sound.ids fresh) (fun file mem filed => ?_)
      (fun event mem => ?_) fun request mem => .inl mem
    · rcases Calls.of_mem_began mem with rfl | old
      · obtain ⟨recordId, named⟩ := ne_none_iff_exists'.mp filed
        refine .inr ⟨caller, recordId, mem_append_right _ ?_, has⟩
        rw [show entityId = some recordId from named]
        exact mem_cons_self
      · exact .inl ⟨file, old, rfl, filed⟩
    · rcases mem_append.mp mem with old | new
      · exact .inl old
      · obtain ⟨recordId, named, rfl⟩ := List.mem_map.mp new
        exact .inr ⟨warranted recordId (mem_toList.mp named), has⟩

theorem Sound.look (sound : w.Sound db tenantId) {target : AttachTarget}
    (here : w.requests[i]? = some (.allowed caller target fileId))
    (warranted : ∀ file ∈ w.file fileId, file.isFor target.recordId → caller.isRightful file)
    (advanced : w.advance db tenantId i (.allowed caller target fileId) = some w') :
    w'.Sound db tenantId := by
  have passes := sound.knows _ (mem_of_getElem? here)
  simp only [advance] at advanced
  split at advanced
  · cases advanced
    exact sound.put trivial
  · next file found =>
    obtain ⟨mem, named⟩ := mem_file found
    split at advanced
    · cases advanced
      exact sound.put trivial
    · next isFor =>
      have rightful := warranted file found (by simpa using isFor)
      have has : w.HasRightful caller fileId := ⟨file, mem, named, rightful⟩
      split at advanced
      · cases advanced
        exact sound.put ⟨passes, has⟩
      · cases advanced
        have ended : (w.put i .ended).Sound db tenantId := sound.put trivial
        exact ended.record ⟨⟨target, rfl, passes⟩, has⟩

theorem Sound.clear (sound : w.Sound db tenantId)
    (advanced : w.advance db tenantId i (.downloading caller fileId) = some w') :
    w'.Sound db tenantId := by
  simp only [advance] at advanced
  split at advanced
  · cases advanced
    exact sound.put trivial
  · next file found =>
    cases advanced
    obtain ⟨mem, named⟩ := mem_file found
    refine sound.put ?_
    cases filed : file.entityId with
    | some recordId =>
      have bound := sound.bound file mem (by rw [filed]; exact some_ne_none _)
      rw [named] at bound
      dsimp only
      split
      · exact .inr bound
      · trivial
    | none =>
      dsimp only
      split
      · next allowed => exact .inl ⟨file, mem, named, allowed⟩
      · trivial

theorem Sound.serve (sound : w.Sound db tenantId) {found : Bool}
    (here : w.requests[i]? = some (.cleared caller fileId found))
    (warranted : found = false → ∀ file ∈ w.file fileId, file.scanStatus = .clean →
      file.entityId = none → caller.isRightful file)
    (advanced : w.advance db tenantId i (.cleared caller fileId found) = some w') :
    w'.Sound db tenantId := by
  have knows := sound.knows _ (mem_of_getElem? here)
  simp only [advance] at advanced
  split at advanced
  · cases advanced
    exact sound.put trivial
  · next file present =>
    obtain ⟨mem, named⟩ := mem_file present
    split at advanced
    · next clean =>
      cases advanced
      have ended : (w.put i .ended).Sound db tenantId := sound.put trivial
      refine ended.record ?_
      cases found with
      | true => exact knows
      | false =>
        by_cases unbound : file.entityId = none
        · exact .inl ⟨file, mem, named, warranted rfl file present clean unbound⟩
        · rw [← named]
          exact .inr (sound.bound file mem unbound)
    · cases advanced
      exact sound.put trivial

theorem Sound.next {label : BindingLabel} (sound : w.Sound db tenantId)
    (warranted : w.Warranted db tenantId label) (stepped : w.step db tenantId label = some w') :
    w'.Sound db tenantId := by
  cases label with
  | upload caller entityId fileId => exact sound.upload warranted stepped
  | mark fileId status =>
    cases stepped
    exact sound.mark fileId status
  | attach | download =>
    cases stepped
    exact sound.begin fun _ => trivial
  | go i =>
    obtain ⟨request, here, advanced⟩ := bind_eq_some_iff.mp stepped
    simp only [Warranted, here] at warranted
    cases request with
    | attaching caller target fileId =>
      cases advanced
      refine sound.put ?_
      split
      · next passes => exact passes
      · trivial
    | allowed caller target fileId => exact sound.look here warranted advanced
    | binding caller target fileId =>
      cases advanced
      have knows := sound.knows _ (mem_of_getElem? here)
      have bound := sound.bind ⟨target, rfl, knows.1⟩ knows.2
      exact Sound.put bound trivial
    | downloading caller fileId => exact sound.clear advanced
    | cleared caller fileId found =>
      refine sound.serve here (fun absent => ?_) advanced
      subst absent
      exact warranted
    | ended => cases advanced
  | throws i =>
    obtain ⟨_, -, rfl⟩ := map_eq_some_iff.mp stepped
    exact sound.put trivial

/-! ## A bound file stays with its record -/

theorem StaysBound.refl (w : BindingWorld) : w.StaysBound w :=
  fun file mem => ⟨file, mem, rfl, rfl, fun _ bound => bound⟩

theorem StaysBound.trans {w w' w'' : BindingWorld} (first : w.StaysBound w')
    (second : w'.StaysBound w'') : w.StaysBound w'' := by
  intro file mem
  obtain ⟨file', mem', id', uploader', kept'⟩ := first file mem
  obtain ⟨file'', mem'', id'', uploader'', kept''⟩ := second file' mem'
  exact ⟨file'', mem'', id''.trans id', uploader''.trans uploader',
    fun recordId bound => kept'' recordId (kept' recordId bound)⟩

theorem staysBound_of_subset (files : w.files ⊆ w'.files) : w.StaysBound w' :=
  fun file mem => ⟨file, files mem, rfl, rfl, fun _ bound => bound⟩

theorem staysBound_modify (ids : ∀ file, (f file).id = file.id)
    (uploaders : ∀ file, (f file).uploadedBy = file.uploadedBy)
    (kept : ∀ file ∈ w.files, file.id = fileId → ∀ recordId, file.entityId = some recordId →
      (f file).entityId = some recordId) : w.StaysBound (w.modify fileId f) := by
  intro file mem
  refine ⟨_, List.mem_map_of_mem mem, ?_⟩
  by_cases named : file.id = fileId
  · rw [if_pos named]
    exact ⟨ids file, uploaders file, kept file mem named⟩
  · rw [if_neg named]
    exact ⟨rfl, rfl, fun _ bound => bound⟩

theorem files_advance {request : FileRequest}
    (other : ∀ caller target fileId, request ≠ .binding caller target fileId)
    (advanced : w.advance db tenantId i request = some w') : w'.files = w.files := by
  revert advanced
  fun_cases advance db tenantId w i request <;> intro advanced <;> cases advanced
  case case6 => exact absurd rfl (other _ _ _)
  all_goals rfl

theorem Sound.staysBound {label : BindingLabel} (sound : w.Sound db tenantId)
    (warranted : w.Warranted db tenantId label) (stepped : w.step db tenantId label = some w') :
    w.StaysBound w' := by
  cases label with
  | upload caller entityId fileId =>
    simp only [step, BindingWorld.upload] at stepped
    split at stepped
    · cases stepped
    · cases stepped
      exact staysBound_of_subset (subset_append_left _ _)
  | mark fileId status =>
    cases stepped
    exact staysBound_modify (fun _ => rfl) (fun _ => rfl) fun _ _ _ _ bound => bound
  | attach | download =>
    cases stepped
    exact staysBound_of_subset (Subset.refl _)
  | go i =>
    obtain ⟨request, here, advanced⟩ := bind_eq_some_iff.mp stepped
    by_cases other : ∀ caller target fileId, request ≠ .binding caller target fileId
    · have same := files_advance other advanced
      exact staysBound_of_subset (by rw [same]; exact Subset.refl _)
    · push Not at other
      obtain ⟨caller, target, fileId, rfl⟩ := other
      simp only [Warranted, here] at warranted
      cases advanced
      refine staysBound_modify (fun _ => rfl) (fun _ => rfl) fun file mem named recordId bound => ?_
      have found : w.file fileId = some file :=
        (Rows.find?_iff sound.ids fun _ => beq_iff_eq).mpr ⟨mem, named⟩
      rcases warranted file found with unbound | same
      · rw [bound] at unbound
        cases unbound
      · exact same.symm.trans bound
  | throws i =>
    obtain ⟨_, -, rfl⟩ := map_eq_some_iff.mp stepped
    exact staysBound_of_subset (Subset.refl _)

end BindingWorld

/-- In a run whose uploads and attachments are made by the callers who may make them, and whose
bindings find the file as it was read, files are bound and downloaded by those who may, and a file
that is bound stays with its record. -/
theorem bound_by_rightful_callers (db : Db) (tenantId : Id) (files : List StoredFile)
    (labels : List BindingLabel) (ids : (files.map StoredFile.id).Nodup)
    (unbound : ∀ file ∈ files, file.entityId = none)
    (guarded : Guarded (BindingWorld.step db tenantId) (BindingWorld.Warranted db tenantId)
      (BindingWorld.start files) labels) :
    Always (BindingWorld.step db tenantId) (BindingWorld.Rightful db tenantId)
        (BindingWorld.start files) labels ∧
      ∀ first second, labels = first ++ second → ∀ w w',
        run (BindingWorld.step db tenantId) (BindingWorld.start files) first = some w →
        run (BindingWorld.step db tenantId) w second = some w' → w.StaysBound w' := by
  have sound : (BindingWorld.start files).Sound db tenantId := BindingWorld.Sound.start ids unbound
  refine ⟨guarded.always BindingWorld.Sound.next BindingWorld.Sound.rightful sound, ?_⟩
  intro first second split w w' ran later
  subst split
  exact guarded.between BindingWorld.StaysBound.refl BindingWorld.StaysBound.trans
    BindingWorld.Sound.next BindingWorld.Sound.staysBound sound ran later

end Invariant

namespace BindingWorld

/-! ## Runs -/

/-- One record, of `ben`. -/
def bens : Db where
  entityInstances := [{ id := 10, entityTypeId := 7, tenantId := 1, createdBy := some "ben"
                        createdAt := 0, updatedAt := 0 }]

def ana : Caller := ⟨"ana", ["user"]⟩

def ben : Caller := ⟨"ben", ["user"]⟩

def taking (uploader caller : Caller) : List BindingLabel :=
  [.upload uploader none 1, .mark 1 .clean, .attach caller (.record 10) 1, .go 0, .go 0, .go 0,
    .download caller 1, .go 1, .go 1]

def warranted (w : BindingWorld) : BindingLabel → Bool
  | .upload _ entityId _ => entityId.isNone
  | .go i =>
    match w.requests[i]? with
    | some (.allowed caller target fileId) => (w.file fileId).all fun file =>
        !file.isFor target.recordId || caller.isRightful file
    | some (.binding _ target fileId) => (w.file fileId).all fun file =>
        file.entityId.isNone || file.entityId == some target.recordId
    | some (.cleared _ _ false) => false
    | _ => true
  | _ => true

theorem warranted_sound {db : Db} {tenantId : Id} {w : BindingWorld} {label : BindingLabel}
    (checked : w.warranted label) : w.Warranted db tenantId label := by
  cases label with
  | upload caller entityId fileId =>
    intro recordId named
    simp only [warranted, isNone_iff_eq_none] at checked
    rw [checked] at named
    cases named
  | go i =>
    cases here : w.requests[i]? with
    | none => simp only [Warranted, here]
    | some request =>
      simp only [warranted, here] at checked
      simp only [Warranted, here]
      cases request with
      | allowed caller target fileId =>
        intro file found isFor
        rw [Option.all_eq_true] at checked
        simpa [isFor] using checked file found
      | binding caller target fileId =>
        intro file found
        rw [Option.all_eq_true] at checked
        simpa using checked file found
      | cleared caller fileId found =>
        cases found with
        | true => trivial
        | false => cases checked
      | _ => trivial
  | _ => trivial

end BindingWorld

/-- `ben` uploads a file, attaches it to his record and downloads it. -/
theorem own_file_bound :
    Always (BindingWorld.step BindingWorld.bens 1) (BindingWorld.Rightful BindingWorld.bens 1)
      (BindingWorld.start []) (BindingWorld.taking BindingWorld.ben BindingWorld.ben) :=
  (bound_by_rightful_callers BindingWorld.bens 1 [] _ nodup_nil nofun
    (Guarded.of_check BindingWorld.warranted_sound (by decide +kernel))).1

/-- `ben` attaches to his record a file of `ana`'s, which is not bound, and downloads it. -/
theorem foreign_file_bound :
    ¬ ∀ (db : Db) (tenantId : Id) (files : List StoredFile) (labels : List BindingLabel),
      (files.map StoredFile.id).Nodup → (∀ file ∈ files, file.entityId = none) →
      Always (BindingWorld.step db tenantId) (BindingWorld.Rightful db tenantId)
        (BindingWorld.start files) labels := by
  intro rightful
  have always := rightful BindingWorld.bens 1 []
    (BindingWorld.taking BindingWorld.ana BindingWorld.ben) nodup_nil nofun
  have taken : (run (BindingWorld.step BindingWorld.bens 1) (BindingWorld.start [])
      (BindingWorld.taking BindingWorld.ana BindingWorld.ben)).any (fun w =>
        w.log.contains (.bound BindingWorld.ben 1 10) &&
          !w.files.any fun file => BindingWorld.ben.isRightful file) = true := by
    decide +kernel
  obtain ⟨w, ran, found⟩ := (Option.any_eq_true _ _).mp taken
  rw [Bool.and_eq_true, Bool.not_eq_true', List.any_eq_false] at found
  obtain ⟨-, file, mem, -, isRightful⟩ := always.last ran _ (contains_iff_mem.mp found.1)
  exact found.2 file mem isRightful

end OpenWind
