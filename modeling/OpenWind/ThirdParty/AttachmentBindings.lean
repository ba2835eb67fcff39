import OpenWind.Lib.Pool
import OpenWind.ThirdParty.UploadSlots

/-!
# Attachment bindings

A ticket is created with the attachments that it references, and so is a comment.  The reference
checks the attachments that it has read, and binds those that are not bound yet one by one, each
under the condition that it still is not.
-/

open List Option

namespace OpenWind

open Txn Runs

def MAX_ATTACHMENTS_PER_TICKET : Nat := 10

structure AttachmentReferenceError where
  status : Nat
  error : String
  message : String
  deriving DecidableEq

namespace AttachmentReferenceError

def validation : AttachmentReferenceError :=
  ⟨400, "VALIDATION_ERROR", "Request validation failed"⟩

def tooMany : AttachmentReferenceError :=
  ⟨422, "TOO_MANY_ATTACHMENTS",
    s!"A ticket may reference at most {MAX_ATTACHMENTS_PER_TICKET} attachments"⟩

def notFound : AttachmentReferenceError := ⟨404, "NOT_FOUND", "Record not found"⟩

def notReady : AttachmentReferenceError :=
  ⟨422, "ATTACHMENT_NOT_READY", "This attachment's upload has not completed"⟩

def alreadyBound : AttachmentReferenceError :=
  ⟨422, "ATTACHMENT_ALREADY_BOUND", "This attachment is already attached to a different ticket"⟩

def mismatch : AttachmentReferenceError :=
  ⟨422, "ATTACHMENT_TICKET_MISMATCH", "This attachment was presigned for a different ticket"⟩

/-- The identifier of the new ticket is taken. -/
def conflict : AttachmentReferenceError := ⟨500, "INTERNAL_ERROR", "duplicate key"⟩

end AttachmentReferenceError

/-- A row of `attachments`, with the columns that a reference reads and writes. -/
structure Attachment where
  id : Id
  tenantId : Id
  ticketId : Option Id := none
  boundAt : Option Time := none
  actingPersonId : Id
  status : AttachmentStatus := .uploaded
  updatedAt : Time
  deriving DecidableEq

structure Ticket where
  id : Id
  tenantId : Id
  deriving DecidableEq

structure TicketStore where
  tickets : List Ticket
  attachments : List Attachment
  deriving DecidableEq

inductive TicketKey
  | ticket (id : Id)
  | attachment (id : Id)
  deriving DecidableEq

namespace TicketStore

def ticketRows : Table TicketStore TicketKey Ticket where
  rows := tickets
  put db rows := { db with tickets := rows }
  key row := .ticket row.id
  rows_put _ _ := rfl

def attachmentRows : Table TicketStore TicketKey Attachment where
  rows := attachments
  put db rows := { db with attachments := rows }
  key row := .attachment row.id
  rows_put _ _ := rfl

end TicketStore

/-! ## References -/

structure Reference where
  tenantId : Id
  ticketId : Id
  attachmentIds : List Id
  actingPersonId : Id
  now : Time

abbrev TicketTx := Prog TicketStore TicketKey AttachmentReferenceError

def Attachment.bind (row : Attachment) (ticketId : Id) (now : Time) : Attachment :=
  { row with ticketId := some ticketId, boundAt := some now, updatedAt := now }

namespace Reference

def uniqueIds (reference : Reference) : List Id := reference.attachmentIds.eraseDups

def check (reference : Reference) : Option Attachment → Except AttachmentReferenceError Bool
  | none => .error .notFound
  | some row =>
    if row.status ≠ .uploaded then .error .notReady
    else if row.boundAt.isSome then
      if row.ticketId ≠ some reference.ticketId then .error .alreadyBound else .ok false
    else if row.actingPersonId ≠ reference.actingPersonId then .error .notFound
    else if row.ticketId.isSome ∧ row.ticketId ≠ some reference.ticketId then .error .mismatch
    else .ok true

def toBind (reference : Reference) (rows : List Attachment) :
    List Id → Except AttachmentReferenceError (List Id)
  | [] => .ok []
  | id :: rest =>
    match reference.check (rows.find? (·.id == id)) with
    | .error e => .error e
    | .ok binds =>
      match reference.toBind rows rest with
      | .error e => .error e
      | .ok ids => .ok (if binds then id :: ids else ids)

def claims (reference : Reference) (id : Id) (row : Attachment) : Bool :=
  row.id == id && row.tenantId == reference.tenantId && row.boundAt.isNone

def claim (reference : Reference) (id : Id) : TicketTx Unit :=
  TicketStore.attachmentRows.updateOr .alreadyBound (reference.claims id)
    fun row => row.bind reference.ticketId reference.now

end Reference

/-- `doReferenceAttachments` -/
def referenceAttachments (reference : Reference) : TicketTx Unit :=
  if reference.attachmentIds.isEmpty then .ret ()
  else do
    Prog.require (reference.uniqueIds.length ≤ MAX_ATTACHMENTS_PER_TICKET) .tooMany
    let rows ← TicketStore.attachmentRows.filter fun row =>
      reference.uniqueIds.contains row.id && row.tenantId == reference.tenantId
    match reference.toBind rows reference.uniqueIds with
    | .error e => .fail e
    | .ok ids => Prog.forEach ids reference.claim

inductive TicketCall
  | createTicket (reference : Reference)
  | comment (reference : Reference)

def TicketCall.reference : TicketCall → Reference
  | .createTicket reference => reference
  | .comment reference => reference

def TicketCall.program (call : TicketCall) : TicketTx Unit := do
  Prog.require (call.reference.attachmentIds.length ≤ MAX_ATTACHMENTS_PER_TICKET) .validation
  match call with
  | .createTicket reference =>
    TicketStore.ticketRows.insert .conflict [⟨reference.ticketId, reference.tenantId⟩]
    referenceAttachments reference
  | .comment reference =>
    let ticket ← TicketStore.ticketRows.find fun row =>
      row.id == reference.ticketId && row.tenantId == reference.tenantId
    let _ ← Prog.getOr ticket .notFound
    referenceAttachments reference

/-! ## The properties and the condition -/

def Attachment.isBoundTo (ticketId : Id) (row : Attachment) : Bool :=
  row.boundAt.isSome && row.ticketId == some ticketId

def TicketStore.Bounded (db : TicketStore) : Prop :=
  ∀ ticketId, db.attachments.countP (·.isBoundTo ticketId) ≤ MAX_ATTACHMENTS_PER_TICKET

def TicketStore.Final (db db' : TicketStore) : Prop :=
  ∀ row ∈ db.attachments, ∃ row' ∈ db'.attachments, row'.id = row.id ∧
    (row.boundAt ≠ none → row'.boundAt = row.boundAt ∧ row'.ticketId = row.ticketId) ∧
    ∀ ticketId, row.ticketId = some ticketId → row'.ticketId = some ticketId

def BindsOwn (f : Finished TicketCall TicketStore AttachmentReferenceError Unit) : Prop :=
  ∀ row ∈ f.before.attachments, row.boundAt = none →
    ∃ row' ∈ f.after.attachments, row'.id = row.id ∧ (row'.boundAt ≠ none →
      row.actingPersonId = f.call.reference.actingPersonId ∧
      row'.ticketId = some f.call.reference.ticketId)

def WithinLimit (call : TicketCall) (_ : Unit) (db : TicketStore) : Prop :=
  db.attachments.countP (fun row => row.isBoundTo call.reference.ticketId ||
    row.boundAt.isNone && row.tenantId == call.reference.tenantId &&
      call.reference.attachmentIds.contains row.id) ≤ MAX_ATTACHMENTS_PER_TICKET

/-! ## What may become of an attachment -/

def Attachment.Onward (row row' : Attachment) : Prop :=
  row' = row ∨ row.boundAt = none ∧ ∃ ticketId now,
    (row.ticketId = none ∨ row.ticketId = some ticketId) ∧ row' = row.bind ticketId now

theorem Attachment.Onward.refl (row : Attachment) : row.Onward row := .inl rfl

theorem Attachment.Onward.trans {a b c : Attachment} (first : a.Onward b) (second : b.Onward c) :
    a.Onward c := by
  rcases first with rfl | ⟨unbound, ticketId, now, ticket, rfl⟩
  · exact second
  · rcases second with rfl | ⟨unbound', -⟩
    · exact .inr ⟨unbound, ticketId, now, ticket, rfl⟩
    · cases unbound'

theorem Attachment.Onward.id {row row' : Attachment} (onward : row.Onward row') :
    row'.id = row.id := by
  rcases onward with rfl | ⟨-, _, _, -, rfl⟩
  · rfl
  · rfl

theorem Attachment.Onward.unbound {row row' : Attachment} (onward : row.Onward row')
    (unbound : row'.boundAt = none) : row' = row := by
  rcases onward with same | ⟨-, _, _, -, rfl⟩
  · exact same
  · cases unbound

namespace TicketStore

def Onward (db db' : TicketStore) : Prop :=
  ∃ g : Attachment → Attachment, db'.attachments = db.attachments.map g ∧
    ∀ row ∈ db.attachments, row.Onward (g row)

variable {db db' : TicketStore}

theorem Onward.refl (db : TicketStore) : db.Onward db :=
  ⟨_, (List.map_id _).symm, fun row _ => .refl row⟩

theorem Onward.trans {a b c : TicketStore} (first : a.Onward b) (second : b.Onward c) :
    a.Onward c := by
  obtain ⟨g, rows, each⟩ := first
  obtain ⟨h, rows', each'⟩ := second
  refine ⟨h ∘ g, by rw [rows', rows, List.map_map], ?_⟩
  intro row mem
  refine (each row mem).trans (each' (g row) ?_)
  rw [rows]
  exact List.mem_map_of_mem mem

theorem Onward.final (onward : db.Onward db') : db.Final db' := by
  obtain ⟨g, rows, each⟩ := onward
  intro row mem
  refine ⟨g row, by rw [rows]; exact List.mem_map_of_mem mem, (each row mem).id, ?_⟩
  rcases each row mem with same | ⟨unbound, ticketId, now, ticket, bound⟩
  · rw [same]
    exact ⟨fun _ => ⟨rfl, rfl⟩, fun _ presigned => presigned⟩
  · refine ⟨fun bound' => absurd unbound bound', ?_⟩
    intro ticketId' presigned
    rw [bound]
    rcases ticket with none' | some'
    · rw [none'] at presigned
      cases presigned
    · exact some'.symm.trans presigned

def Keyed (db : TicketStore) : Prop := (db.attachments.map Attachment.id).Nodup

theorem Onward.keyed (onward : db.Onward db') (keyed : db.Keyed) : db'.Keyed := by
  obtain ⟨g, rows, each⟩ := onward
  have same : db'.attachments.map Attachment.id = db.attachments.map Attachment.id := by
    rw [rows, List.map_map]
    exact map_congr_left fun row mem => (each row mem).id
  unfold Keyed
  rw [same]
  exact keyed

end TicketStore

/-! ## What a request changes -/

namespace Reference

variable {reference : Reference} {claimed : List Id} {db db' : TicketStore}

def bound (reference : Reference) (claimed : List Id) (row : Attachment) : Attachment :=
  if claimed.contains row.id && row.tenantId == reference.tenantId && row.boundAt.isNone then
    row.bind reference.ticketId reference.now
  else row

def MayBind (reference : Reference) (db : TicketStore) (id : Id) : Prop :=
  ∀ row ∈ db.attachments, row.id = id → row.boundAt = none →
    row.actingPersonId = reference.actingPersonId ∧
    (row.ticketId = none ∨ row.ticketId = some reference.ticketId)

theorem MayBind.onward {id : Id} (may : reference.MayBind db id) (onward : db.Onward db') :
    reference.MayBind db' id := by
  obtain ⟨g, rows, each⟩ := onward
  intro row' mem' named unbound
  rw [rows] at mem'
  obtain ⟨row, mem, rfl⟩ := List.mem_map.mp mem'
  have same := (each row mem).unbound unbound
  rw [same] at named unbound ⊢
  exact may row mem named unbound

structure Claims (reference : Reference) (claimed : List Id) (before after : TicketStore) :
    Prop where
  listed : ∀ id ∈ claimed, id ∈ reference.attachmentIds
  rows : after.attachments = before.attachments.map (reference.bound claimed)
  may : ∀ id ∈ claimed, reference.MayBind before id

theorem bound_cases (reference : Reference) (claimed : List Id) (row : Attachment) :
    reference.bound claimed row = row ∨ (row.id ∈ claimed ∧ row.tenantId = reference.tenantId ∧
      row.boundAt = none ∧
      reference.bound claimed row = row.bind reference.ticketId reference.now) := by
  unfold bound
  split
  · next claims =>
    simp only [Bool.and_eq_true, contains_iff_mem, beq_iff_eq, isNone_iff_eq_none] at claims
    exact .inr ⟨claims.1.1, claims.1.2, claims.2, rfl⟩
  · exact .inl rfl

theorem Claims.onward (claims : reference.Claims claimed db db') : db.Onward db' := by
  refine ⟨reference.bound claimed, claims.rows, ?_⟩
  intro row mem
  rcases reference.bound_cases claimed row with same | ⟨listed, -, unbound, bound⟩
  · exact .inl same
  · have ticket := (claims.may row.id listed row mem rfl unbound).2
    exact .inr ⟨unbound, reference.ticketId, reference.now, ticket, bound⟩

theorem check_binds {row : Attachment} (binds : reference.check (some row) = .ok true) :
    row.actingPersonId = reference.actingPersonId ∧
      (row.ticketId = none ∨ row.ticketId = some reference.ticketId) := by
  simp only [check] at binds
  split at binds
  · cases binds
  · split at binds
    · split at binds
      · cases binds
      · cases binds
    · split at binds
      · cases binds
      · next person =>
        split at binds
        · cases binds
        · next presigned =>
          refine ⟨not_not.mp person, ?_⟩
          cases ticket : row.ticketId with
          | none => exact .inl rfl
          | some ticketId =>
            rw [ticket] at presigned
            exact .inr (not_not.mp fun other => presigned ⟨rfl, other⟩)

theorem mem_toBind {rows : List Attachment} {ids selected : List Id} {id : Id}
    (checked : reference.toBind rows ids = .ok selected) (mem : id ∈ selected) :
    id ∈ ids ∧ ∃ row, rows.find? (·.id == id) = some row ∧
      row.actingPersonId = reference.actingPersonId ∧
      (row.ticketId = none ∨ row.ticketId = some reference.ticketId) := by
  induction ids generalizing selected with
  | nil =>
    cases checked
    cases mem
  | cons first rest ih =>
    unfold toBind at checked
    split at checked
    · cases checked
    · next binds passed =>
      split at checked
      · cases checked
      · next later selects =>
        cases checked
        have inRest : id ∈ later → id ∈ first :: rest ∧ ∃ row, rows.find? (·.id == id) = some row ∧
            row.actingPersonId = reference.actingPersonId ∧
            (row.ticketId = none ∨ row.ticketId = some reference.ticketId) := by
          intro mem
          obtain ⟨listed, found⟩ := ih selects mem
          exact ⟨mem_cons_of_mem _ listed, found⟩
        cases binds with
        | false => exact inRest mem
        | true =>
          rcases mem_cons.mp mem with rfl | mem
          · cases found : rows.find? (·.id == id) with
            | none =>
              rw [found] at passed
              cases passed
            | some row =>
              rw [found] at passed
              exact ⟨mem_cons_self, row, rfl, check_binds passed⟩
          · exact inRest mem

theorem mayBind_of_toBind {ids selected : List Id} {id : Id} (keyed : db.Keyed)
    (checked : reference.toBind (db.attachments.filter fun row =>
      reference.uniqueIds.contains row.id && row.tenantId == reference.tenantId) ids = .ok selected)
    (mem : id ∈ selected) : reference.MayBind db id := by
  obtain ⟨-, row, found, person, ticket⟩ := mem_toBind checked mem
  have named : row.id = id := by simpa using find?_some found
  have listed := (mem_filter.mp (mem_of_find?_eq_some found)).1
  intro other member same _
  rw [Rows.eq_of_key keyed member listed (same.trans named.symm)]
  exact ⟨person, ticket⟩

end Reference

/-! ## Safety -/

/-- What requests rely on, whatever they have locked. -/
def ticketRely : Rely TicketStore TicketKey := .steady TicketStore.Onward .refl .trans

def ticketContract : Contract TicketCall TicketStore AttachmentReferenceError Unit where
  failed _ _ _ := True
  returned call _ before after _ := ∃ claimed, call.reference.Claims claimed before after

section Safety

variable {reference : Reference} {held : List TicketKey} {patch : TicketStore → TicketStore}
  {db : TicketStore}

structure Reference.Patches (reference : Reference) (claimed : List Id)
    (patch : TicketStore → TicketStore) (db : TicketStore) : Prop where
  listed : ∀ id ∈ claimed, id ∈ reference.attachmentIds
  rows : ∀ db, (patch db).attachments = db.attachments.map (reference.bound claimed)
  may : ∀ id ∈ claimed, reference.MayBind db id

theorem Reference.Patches.onward {claimed : List Id} {db' : TicketStore}
    (patches : reference.Patches claimed patch db) (onward : db.Onward db') :
    reference.Patches claimed patch db' :=
  ⟨patches.listed, patches.rows, fun id mem => (patches.may id mem).onward onward⟩

theorem Reference.bound_cons (claimed : List Id) (id : Id) (row : Attachment) :
    (if reference.claims id (reference.bound claimed row) then
      (reference.bound claimed row).bind reference.ticketId reference.now
    else reference.bound claimed row) = reference.bound (id :: claimed) row := by
  unfold Reference.claims Reference.bound Attachment.bind
  grind

theorem Reference.Patches.claim {claimed : List Id} {id : Id} {view : TicketStore}
    (patches : reference.Patches claimed patch db) (listed : id ∈ reference.attachmentIds)
    (may : reference.MayBind db id)
    (found : (TicketStore.attachmentRows.rows view).any (reference.claims id)) :
    reference.Patches (id :: claimed)
      (TicketStore.attachmentRows.modify
        (TicketStore.attachmentRows.selected (reference.claims id) view)
        (fun row => row.bind reference.ticketId reference.now) ∘ patch) db := by
  refine ⟨?_, ?_, ?_⟩
  · intro other mem
    rcases mem_cons.mp mem with rfl | mem
    · exact listed
    · exact patches.listed other mem
  · intro store
    have one : ∀ v r, reference.claims id v → reference.claims id r →
        TicketStore.attachmentRows.key v = TicketStore.attachmentRows.key r := by
      intro v r selects selects'
      have named : v.id = r.id := by
        simp only [Reference.claims, Bool.and_eq_true, beq_iff_eq] at selects selects'
        exact selects.1.1.trans selects'.1.1.symm
      exact congrArg TicketKey.attachment named
    rw [Table.selected_one _ one found]
    change (patch store).attachments.map _ = _
    rw [patches.rows, List.map_map]
    exact map_congr_left fun row _ => reference.bound_cons claimed id row
  · intro other mem
    rcases mem_cons.mp mem with rfl | mem
    · exact may
    · exact patches.may other mem

theorem safe_claims {ids claimed : List Id} (patches : reference.Patches claimed patch db)
    (listed : ∀ id ∈ ids, id ∈ reference.attachmentIds)
    (may : ∀ id ∈ ids, reference.MayBind db id) :
    Safe ticketRely TicketStore.Keyed (fun _ => True)
      (fun _ _ patch db => ∃ claimed, reference.Patches claimed patch db)
      (Prog.forEach ids reference.claim) held patch db := by
  induction ids generalizing claimed held patch db with
  | nil => exact Safe.ret fun later onward _ => ⟨claimed, patches.onward onward⟩
  | cons id rest ih =>
    refine Safe.writeChecked trivial fun later onward _ found => ?_
    apply ih
    · exact (patches.onward onward).claim (listed id mem_cons_self)
        ((may id mem_cons_self).onward onward) found
    · exact fun other mem => listed other (mem_cons_of_mem _ mem)
    · exact fun other mem => (may other (mem_cons_of_mem _ mem)).onward onward

theorem safe_reference (reference : Reference)
    (alone : ∀ db, (patch db).attachments = db.attachments) :
    Safe ticketRely TicketStore.Keyed (fun _ => True)
      (fun _ _ patch db => ∃ claimed, reference.Patches claimed patch db)
      (referenceAttachments reference) held patch db := by
  have none' : ∀ db, reference.Patches [] patch db := by
    intro db
    refine ⟨nofun, fun store => ?_, nofun⟩
    rw [alone]
    exact (List.map_id _).symm
  unfold referenceAttachments
  split
  · exact Safe.ret fun later _ _ => ⟨[], none' later⟩
  · refine Safe.require (fun _ => trivial) fun _ => ?_
    refine Safe.read fun later onward keyed => ?_
    split
    · exact Safe.fail trivial
    · next ids checked =>
      change reference.toBind ((patch later).attachments.filter _) _ = _ at checked
      rw [alone] at checked
      refine safe_claims (none' later) (fun id mem => ?_) fun id mem => ?_
      · exact mem_eraseDups.mp (Reference.mem_toBind checked mem).1
      · exact Reference.mayBind_of_toBind keyed checked mem

theorem safe_request (call : TicketCall) (db : TicketStore) :
    Safe ticketRely TicketStore.Keyed (ticketContract.failed call db)
      (ticketContract.Commits ticketRely TicketStore.Keyed call db) call.program [] id db := by
  have commits : ∀ (_ : Unit) (held : List TicketKey) patch db, TicketStore.Keyed db →
      (∃ claimed, call.reference.Patches claimed patch db) →
      ticketContract.Commits ticketRely TicketStore.Keyed call db () held patch db := by
    intro _ held patch db keyed patched
    obtain ⟨claimed, patches⟩ := patched
    have claims : call.reference.Claims claimed db (patch db) :=
      ⟨patches.listed, patches.rows db, patches.may⟩
    exact ⟨claims.onward.keyed keyed, fun _ _ => claims.onward, claimed, claims⟩
  refine Safe.require (fun _ => trivial) fun _ => ?_
  cases call with
  | createTicket reference =>
    refine Safe.writeChecked trivial fun later onward _ _ => ?_
    refine (safe_reference reference ?_).mono (fun _ _ => trivial) commits
    exact fun _ => rfl
  | comment reference =>
    refine Safe.read fun later onward _ => ?_
    refine Safe.getOr (fun _ => trivial) fun ticket _ => ?_
    refine (safe_reference reference ?_).mono (fun _ _ => trivial) commits
    exact fun _ => rfl

end Safety

/-! ## The runs -/

theorem bounded_of_claims {call : TicketCall} {claimed : List Id} {before after : TicketStore}
    (within : WithinLimit call () before) (bounded : before.Bounded)
    (claims : call.reference.Claims claimed before after) : after.Bounded := by
  intro ticketId
  rw [claims.rows, countP_map]
  by_cases own : ticketId = call.reference.ticketId
  · refine le_trans (countP_mono_left fun row _ isBound => ?_) within
    rw [Function.comp] at isBound
    rcases call.reference.bound_cases claimed row with same | ⟨listed, tenant, unbound, -⟩
    · rw [same, own] at isBound
      rw [isBound, Bool.true_or]
    · have inCall := claims.listed row.id listed
      simp [unbound, tenant, inCall]
  · refine le_trans (countP_mono_left fun row _ isBound => ?_) (bounded ticketId)
    rw [Function.comp] at isBound
    rcases call.reference.bound_cases claimed row with same | ⟨-, -, -, bound⟩
    · rwa [same] at isBound
    · rw [bound] at isBound
      simp only [Attachment.isBoundTo, Attachment.bind, isSome_some, Bool.true_and,
        beq_iff_eq, Option.some.injEq] at isBound
      exact absurd isBound.symm own

theorem bindsOwn_of_met {f : Finished TicketCall TicketStore AttachmentReferenceError Unit}
    (met : ticketContract.Met ticketRely f) : BindsOwn f := by
  obtain ⟨-, ended⟩ := met
  intro row mem unbound
  cases result : f.result with
  | error e =>
    rw [result] at ended
    refine ⟨row, by rw [ended.2]; exact mem, rfl, fun bound => absurd unbound bound⟩
  | ok _ =>
    rw [result] at ended
    obtain ⟨claimed, claims⟩ := ended
    refine ⟨f.call.reference.bound claimed row, ?_, ?_⟩
    · rw [claims.rows]
      exact List.mem_map_of_mem mem
    · rcases f.call.reference.bound_cases claimed row with same | ⟨listed, -, -, bound⟩
      · rw [same]
        exact ⟨rfl, fun bound => absurd unbound bound⟩
      · rw [bound]
        exact ⟨rfl, fun _ => ⟨(claims.may row.id listed row mem rfl unbound).1, rfl⟩⟩

/-- In a run whose requests stay within the limit of their ticket, no ticket has more attachments
than that.  In every run an attachment that is bound keeps its ticket, one that was presigned for a
ticket is for no other, and the requests that bind attachments are those of their uploaders. -/
theorem attachments_bounded_and_final (db : TicketStore) (labels : List (Label TicketCall))
    (keyed : (db.attachments.map Attachment.id).Nodup) (bounded : db.Bounded)
    (within : Guarded (Pool.next TicketCall.program) (Pool.CommitsUnder WithinLimit)
      (Pool.init db) labels) :
    Always (Pool.next TicketCall.program) (fun pool => pool.db.Bounded) (Pool.init db) labels ∧
      ∀ first second mid last, run (Pool.next TicketCall.program) (Pool.init db) first = some mid →
        run (Pool.next TicketCall.program) mid second = some last →
        mid.db.Final last.db ∧ Linked db last.log last.db ∧ ∀ f ∈ last.log, BindsOwn f := by
  have safe := fun (call : TicketCall) (store : TicketStore) (_ : store.Keyed) =>
    safe_request call store
  refine ⟨Pool.always safe ?_ keyed bounded within, ?_⟩
  · intro call start before after _ under bounded' returned
    obtain ⟨claimed, claims⟩ := returned
    exact bounded_of_claims under bounded' claims
  · intro first second mid last ran ran'
    have sound := Pool.sound safe keyed ran
    have sound' : Pool.Sound ticketContract ticketRely TicketStore.Keyed db last :=
      run_invariant (fun sound stepped => sound.next safe stepped) sound ran'
    refine ⟨(sound.onward safe ran').final, sound'.linked, ?_⟩
    exact fun f mem => bindsOwn_of_met (sound'.met f mem)

/-! ## A ticket with too many attachments -/

namespace BindingSample

def uploaded (id : Id) : Attachment := { id, tenantId := 0, actingPersonId := 5, updatedAt := 0 }

def start : TicketStore := ⟨[⟨1, 0⟩], (range 12).map uploaded⟩

def comment (ids : List Id) : TicketCall := .comment ⟨0, 1, ids, 5, 7⟩

def comments (t : Nat) (ids : List Id) (binds : Nat) : List (Label TicketCall) :=
  .begin t (comment ids) :: replicate (2 + binds) (.step t) ++ [.finish t]

/-- Two comments, the second of which repeats an attachment of the first. -/
def few : List (Label TicketCall) := comments 0 [0, 1, 1] 2 ++ comments 1 [1, 2] 1

/-- Two comments with six attachments each. -/
def many : List (Label TicketCall) :=
  comments 0 [0, 1, 2, 3, 4, 5] 6 ++ comments 1 [6, 7, 8, 9, 10, 11] 6

end BindingSample

/-- `WithinLimit`, checked. -/
def withinLimit (call : TicketCall) (_ : Unit) (db : TicketStore) : Bool :=
  decide (db.attachments.countP (fun row => row.isBoundTo call.reference.ticketId ||
    row.boundAt.isNone && row.tenantId == call.reference.tenantId &&
      call.reference.attachmentIds.contains row.id) ≤ MAX_ATTACHMENTS_PER_TICKET)

open BindingSample in
theorem repeated_comment_binds_once :
    Always (Pool.next TicketCall.program) (fun pool => pool.db.Bounded) (Pool.init start) few ∧
      ∀ first second mid last,
        run (Pool.next TicketCall.program) (Pool.init start) first = some mid →
        run (Pool.next TicketCall.program) mid second = some last →
        mid.db.Final last.db ∧ Linked start last.log last.db ∧ ∀ f ∈ last.log, BindsOwn f := by
  refine attachments_bounded_and_final start few (by decide +kernel) ?_ ?_
  · intro ticketId
    have unbound : ∀ row ∈ start.attachments, row.boundAt = none := by decide +kernel
    rw [countP_eq_zero.mpr fun row mem => by simp [Attachment.isBoundTo, unbound row mem]]
    exact Nat.zero_le _
  · exact Guarded.of_check (Pool.commitsCheck_sound (g := withinLimit) of_decide_eq_true)
      (by decide +kernel)

open BindingSample in
/-- The limit is counted for each request: the ticket has twelve attachments. -/
theorem ticket_attachments_exceed :
    ¬ Always (Pool.next TicketCall.program) (fun pool => pool.db.Bounded) (Pool.init start)
      many := by
  intro always
  have exceeds : (run (Pool.next TicketCall.program) (Pool.init start) many).any (fun pool =>
      pool.db.attachments.countP (·.isBoundTo 1) == 12) = true := by
    decide +kernel
  obtain ⟨pool, ran, twelve⟩ := (Option.any_eq_true _ _).mp exceeds
  have bounded := always.last ran 1
  rw [eq_of_beq twelve] at bounded
  exact absurd bounded (by decide)

end OpenWind
