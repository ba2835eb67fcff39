import OpenWind.Entity.AccessEdits
import OpenWind.Lib.Runs

/-!
# Requests for access

A person asks for access to a record, and an owner or an administrator approves or rejects it.  Both
calls read in one transaction and write in another: asking again writes the new level to the request
that it has found pending, and deciding writes where the request still is.
-/

open List Runs

namespace OpenWind

namespace AccessRequests

inductive RequestStatus
  | pending | approved | rejected
  deriving DecidableEq

/-- A row of `access_requests`. -/
structure AccessRequest where
  id : Id
  requestedLevel : AccessLevel
  status : RequestStatus := .pending
  resolvedBy : Option Id := none
  resolvedAt : Option Time := none
  updatedAt : Time

def AccessRequest.isPending (request : AccessRequest) : Bool := request.status == .pending

inductive ResolveAction
  | approve | reject
  deriving DecidableEq

def ResolveAction.status : ResolveAction → RequestStatus
  | .approve => .approved
  | .reject => .rejected

/-- A decision as it is committed. -/
structure Resolution where
  reqId : Id
  action : ResolveAction
  grantedLevel : AccessLevel

/-- A call between its transactions. -/
inductive Call
  /-- A request, with the pending one that it has found. -/
  | request (requestedLevel : AccessLevel) (pendingRow : Option Id)
  /-- A decision on a request that was found pending, with the level to grant. -/
  | resolve (reqId userId : Id) (action : ResolveAction) (grantedLevel : AccessLevel)

structure World where
  now : Time := 0
  requests : List AccessRequest := []
  access : Option AccessLevel := none
  /-- History: the decisions that have been committed, the last one first. -/
  resolutions : List Resolution := []
  calls : List Call := []

inductive Label
  | requestAccess (requestedLevel : AccessLevel)
  | resolveAccessRequest (reqId userId : Id) (action : ResolveAction) (level : Option AccessLevel)
  | write (i : Nat) (newId : Id)
  | tick (time : Time)

/-! ## Transactions -/

def AccessRequest.relevel (requestId : Id) (requestedLevel : AccessLevel) (now : Time)
    (request : AccessRequest) : AccessRequest :=
  if request.id = requestId then { request with requestedLevel, updatedAt := now } else request

def AccessRequest.resolve (reqId userId : Id) (action : ResolveAction) (now : Time)
    (request : AccessRequest) : AccessRequest :=
  if request.id = reqId ∧ request.isPending then { request with
    status := action.status
    resolvedBy := some userId, resolvedAt := some now, updatedAt := now }
  else request

def World.insert (newId : Id) (requestedLevel : AccessLevel) (world : World) : World :=
  if world.requests.any AccessRequest.isPending then world
  else { world with
    requests := world.requests ++ [{ id := newId, requestedLevel, updatedAt := world.now }] }

def World.resolve (reqId userId : Id) (action : ResolveAction) (grantedLevel : AccessLevel)
    (world : World) : World :=
  if world.requests.any fun request => request.id = reqId ∧ request.isPending then
    { world with
      requests := world.requests.map (AccessRequest.resolve reqId userId action world.now)
      access := if action = .approve then some grantedLevel else world.access
      resolutions := ⟨reqId, action, grantedLevel⟩ :: world.resolutions }
  else world

def World.write (world : World) (newId : Id) : Call → World
  | .request requestedLevel (some requestId) => { world with
      requests := world.requests.map (AccessRequest.relevel requestId requestedLevel world.now) }
  | .request requestedLevel none => world.insert newId requestedLevel
  | .resolve reqId userId action grantedLevel => world.resolve reqId userId action grantedLevel

def step (world : World) : Label → Option World
  | .requestAccess requestedLevel =>
    let pendingRow := world.requests.find? AccessRequest.isPending
    some { world with calls := world.calls ++ [.request requestedLevel (pendingRow.map (·.id))] }
  | .resolveAccessRequest reqId userId action level =>
    (world.requests.find? (·.id == reqId)).map fun request =>
      if request.isPending then { world with
        calls := world.calls ++ [.resolve reqId userId action (level.getD request.requestedLevel)] }
      else world
  | .write i newId =>
    if newId ∈ world.requests.map (·.id) then none
    else (world.calls[i]?).map fun call =>
      World.write { world with calls := world.calls.eraseIdx i } newId call
  | .tick time => some { world with now := world.now + time }

/-! ## The properties and the condition -/

structure Settled (world : World) : Prop where
  onePending : world.requests.countP AccessRequest.isPending ≤ 1
  decided : ∀ request ∈ world.requests, ∀ action : ResolveAction,
    request.status = action.status ↔
      ∃ resolution ∈ world.resolutions, resolution.reqId = request.id ∧ resolution.action = action
  once : (world.resolutions.map (·.reqId)).Nodup
  access : world.access =
    (world.resolutions.find? (·.action = .approve)).map (·.grantedLevel)

/-- What is resolved stays as it is. -/
def Keeps (world world' : World) : Prop :=
  ∀ request ∈ world.requests, request.status ≠ .pending → request ∈ world'.requests

def isCurrent (world : World) : Label → Bool
  | .write i _ =>
    match world.calls[i]? with
    | some (.request _ (some requestId)) =>
      world.requests.all fun request => request.id != requestId || request.isPending
    | _ => true
  | _ => true

def Current (world : World) (label : Label) : Prop := isCurrent world label = true

/-! ## Safety -/

structure Sound (world : World) : Prop extends Settled world where
  keyed : (world.requests.map (·.id)).Nodup
  listed : ∀ resolution ∈ world.resolutions, resolution.reqId ∈ world.requests.map (·.id)

variable {world world' : World} {label : Label} {request : AccessRequest} {reqId userId newId : Id}
  {action : ResolveAction} {level : AccessLevel} {now : Time} {call : Call}

theorem status_inj {action other : ResolveAction} (same : action.status = other.status) :
    action = other := by
  cases action <;> cases other <;> first | rfl | cases same

theorem isPending_iff : request.isPending ↔ request.status = .pending := beq_iff_eq

theorem relevel_id : (request.relevel reqId level now).id = request.id := by
  unfold AccessRequest.relevel
  split <;> rfl

theorem relevel_status : (request.relevel reqId level now).status = request.status := by
  unfold AccessRequest.relevel
  split <;> rfl

theorem resolve_id : (request.resolve reqId userId action now).id = request.id := by
  unfold AccessRequest.resolve
  split <;> rfl

theorem resolve_resolved (resolved : request.status ≠ .pending) :
    request.resolve reqId userId action now = request :=
  if_neg fun both => resolved (isPending_iff.mp both.2)

theorem resolve_isPending (pending : (request.resolve reqId userId action now).isPending) :
    request.isPending := by
  unfold AccessRequest.resolve at pending
  split at pending
  · next both => exact both.2
  · exact pending

theorem map_ids {f : AccessRequest → AccessRequest} (same : ∀ request, (f request).id = request.id)
    (requests : List AccessRequest) : (requests.map f).map (·.id) = requests.map (·.id) := by
  rw [map_map]
  exact map_congr_left fun request _ => same request

section

variable (sound : Sound world)

include sound

theorem Sound.relevel : Sound { world with
    requests := world.requests.map (AccessRequest.relevel reqId level world.now) } := by
  have ids : (world.requests.map (AccessRequest.relevel reqId level world.now)).map (·.id) =
    world.requests.map (·.id) := map_ids (fun _ => relevel_id) _
  refine ⟨⟨?_, ?_, sound.once, sound.access⟩, ?_, ?_⟩
  · rw [countP_map]
    refine Nat.le_trans (countP_mono_left fun request _ pending => ?_) sound.onePending
    exact isPending_iff.mpr (relevel_status.symm.trans (isPending_iff.mp pending))
  · refine forall_mem_map.mpr fun request mem => ?_
    rw [relevel_status, relevel_id]
    exact sound.decided request mem
  · exact ids ▸ sound.keyed
  · exact ids ▸ sound.listed

theorem Sound.insert (fresh : newId ∉ world.requests.map (·.id)) :
    Sound (world.insert newId level) := by
  unfold World.insert
  split
  · exact sound
  · next none' =>
    have none' : world.requests.countP AccessRequest.isPending = 0 :=
      countP_eq_zero.mpr fun request mem pending => none' (any_eq_true.mpr ⟨request, mem, pending⟩)
    have undecided (action : ResolveAction) : RequestStatus.pending = action.status ↔
        ∃ resolution ∈ world.resolutions, resolution.reqId = newId ∧ resolution.action = action := by
      refine ⟨fun same => ?_, fun ⟨resolution, mem, of, _⟩ => ?_⟩
      · cases action <;> cases same
      · exact absurd (of ▸ sound.listed resolution mem) fresh
    refine ⟨⟨?_, forall_mem_append.mpr ⟨sound.decided, forall_mem_singleton.mpr undecided⟩, sound.once,
      sound.access⟩, ?_, fun resolution mem => ?_⟩
    · rw [countP_append, none']
      exact Nat.le_refl 1
    · rw [map_append, map_singleton, ← concat_eq_append]
      exact sound.keyed.concat fresh
    · rw [map_append]
      exact mem_append_left _ (sound.listed resolution mem)

theorem Sound.undecided (mem : request ∈ world.requests) (waits : request.status = .pending)
    {resolution : Resolution} (made : resolution ∈ world.resolutions) :
    resolution.reqId ≠ request.id := by
  intro of
  have decided := (sound.decided request mem resolution.action).mpr ⟨resolution, made, of, rfl⟩
  rw [waits] at decided
  cases action : resolution.action <;> rw [action] at decided <;> cases decided

theorem Sound.resolve : Sound (world.resolve reqId userId action level) := by
  unfold World.resolve
  split
  · next found =>
    obtain ⟨pending, mem, found⟩ := any_eq_true.mp found
    obtain ⟨isIt, waits⟩ := of_decide_eq_true found
    have waits := isPending_iff.mp waits
    have ids : (world.requests.map (AccessRequest.resolve reqId userId action world.now)).map
      (·.id) = world.requests.map (·.id) := map_ids (fun _ => resolve_id) _
    refine ⟨⟨?_, forall_mem_map.mpr fun request mem' other => ?_, ?_, ?_⟩, ids ▸ sound.keyed, ?_⟩
    · rw [countP_map]
      exact Nat.le_trans (countP_mono_left fun request _ => resolve_isPending) sound.onePending
    · rw [resolve_id]
      by_cases same : request.id = reqId
      · have is := inj_on_of_nodup_map sound.keyed mem' mem (same.trans isIt.symm)
        have decided : (request.resolve reqId userId action world.now).status = action.status := by
          rw [AccessRequest.resolve, if_pos ⟨same, is ▸ isPending_iff.mpr waits⟩]
        rw [decided]
        refine Iff.trans ?_ (exists_mem_cons_iff _ _ _).symm
        refine ⟨fun status => .inl ⟨same.symm, status_inj status⟩, ?_⟩
        rintro (⟨-, rfl⟩ | ⟨resolution, made, of, -⟩)
        · rfl
        · exact absurd (of.trans (same.trans isIt.symm)) (sound.undecided mem waits made)
      · have kept : request.resolve reqId userId action world.now = request :=
          if_neg fun both => same both.1
        rw [kept, sound.decided request mem' other]
        refine Iff.trans ?_ (exists_mem_cons_iff _ _ _).symm
        exact (or_iff_right fun first => same first.1.symm).symm
    · refine nodup_cons.mpr ⟨fun again => ?_, sound.once⟩
      obtain ⟨resolution, made, of⟩ := mem_map.mp again
      exact sound.undecided mem waits made (of.trans isIt.symm)
    · dsimp only
      cases action with
      | approve => rfl
      | reject => exact sound.access
    · rw [ids]
      exact forall_mem_cons.mpr ⟨mem_map.mpr ⟨pending, mem, isIt⟩, sound.listed⟩
  · exact sound

theorem Sound.write (fresh : newId ∉ world.requests.map (·.id)) :
    Sound (world.write newId call) := by
  unfold World.write
  split
  · exact sound.relevel
  · exact sound.insert fresh
  · exact sound.resolve

theorem Sound.elsewhere (now : Time) (calls : List Call) : Sound { world with now, calls } :=
  ⟨⟨sound.onePending, sound.decided, sound.once, sound.access⟩, sound.keyed, sound.listed⟩

theorem Sound.step (stepped : step world label = some world') : Sound world' := by
  cases label with
  | requestAccess | tick =>
    cases stepped
    exact sound.elsewhere _ _
  | resolveAccessRequest reqId userId action level =>
    obtain ⟨request, -, rfl⟩ := Option.map_eq_some_iff.mp stepped
    split
    · exact sound.elsewhere _ _
    · exact sound
  | write i newId =>
    obtain ⟨fresh, stepped⟩ := Option.ite_none_left_eq_some.mp stepped
    obtain ⟨call, -, rfl⟩ := Option.map_eq_some_iff.mp stepped
    exact (sound.elsewhere _ _).write fresh

end

theorem Keeps.trans {first second third : World} (before : Keeps first second)
    (after : Keeps second third) : Keeps first third :=
  fun request mem resolved => after request (before request mem resolved) resolved

theorem Keeps.map {f : AccessRequest → AccessRequest}
    (same : world'.requests = world.requests.map f)
    (kept : ∀ request ∈ world.requests, request.status ≠ .pending → f request = request) :
    Keeps world world' := by
  intro request mem resolved
  rw [same]
  exact mem_map.mpr ⟨request, mem, kept request mem resolved⟩

theorem Keeps.write (world : World) (current : ∀ requestedLevel requestId,
      call = .request requestedLevel (some requestId) →
      ∀ request ∈ world.requests, request.id = requestId → request.status = .pending) :
    Keeps world (world.write newId call) := by
  unfold World.write
  split
  · next level requestId =>
    refine Keeps.map rfl fun request mem resolved => if_neg fun same => resolved ?_
    exact current level requestId rfl request mem same
  · unfold World.insert
    split
    · exact fun _ mem _ => mem
    · exact fun _ mem _ => mem_append_left _ mem
  · unfold World.resolve
    split
    · exact Keeps.map rfl fun _ _ resolved => resolve_resolved resolved
    · exact fun _ mem _ => mem

theorem Keeps.step (current : Current world label) (stepped : step world label = some world') :
    Keeps world world' := by
  cases label with
  | requestAccess | tick =>
    cases stepped
    exact fun _ mem _ => mem
  | resolveAccessRequest reqId userId action level =>
    obtain ⟨request, -, rfl⟩ := Option.map_eq_some_iff.mp stepped
    split <;> exact fun _ mem _ => mem
  | write i newId =>
    obtain ⟨-, stepped⟩ := Option.ite_none_left_eq_some.mp stepped
    obtain ⟨call, found, rfl⟩ := Option.map_eq_some_iff.mp stepped
    refine Keeps.write { world with calls := world.calls.eraseIdx i } ?_
    rintro level requestId rfl request mem same
    unfold Current isCurrent at current
    dsimp only at current
    rw [found] at current
    have known := all_eq_true.mp current request mem
    rw [same, bne_self_eq_false, Bool.false_or] at known
    exact isPending_iff.mp known

end AccessRequests

open AccessRequests in
/-- At any time at most one request is pending, each one has been decided at most once, and the
access is that of the last approval; and in a run in which every new level is written to a request
that is still pending, a request that is resolved stays as it is. -/
theorem access_requests_settle (first second : List Label) (mid last : AccessRequests.World)
    (ran : run AccessRequests.step {} first = some mid)
    (later : run AccessRequests.step mid second = some last) :
    (AccessRequests.Settled mid ∧ AccessRequests.Settled last) ∧
      (Guarded AccessRequests.step Current {} (first ++ second) →
        AccessRequests.Keeps mid last) := by
  have start : AccessRequests.Sound {} :=
    ⟨⟨Nat.zero_le _, forall_mem_nil _, nodup_nil, rfl⟩, nodup_nil, forall_mem_nil _⟩
  have sound : AccessRequests.Sound mid := run_invariant AccessRequests.Sound.step start ran
  refine ⟨⟨sound.toSettled, (run_invariant Sound.step sound later).toSettled⟩, fun current => ?_⟩
  refine Guarded.between (I := AccessRequests.Sound) (R := AccessRequests.Keeps)
    (fun _ _ mem _ => mem) AccessRequests.Keeps.trans ?_ ?_ current start ran later
  · exact fun sound _ stepped => sound.step stepped
  · exact fun _ current stepped => AccessRequests.Keeps.step current stepped

namespace AccessRequests

def inTurn : List Label :=
  [.requestAccess .readOnly, .write 0 1, .requestAccess .readWrite, .write 0 0,
    .resolveAccessRequest 1 9 .reject none, .write 0 0]

def askAgain : List Label :=
  [.requestAccess .readWrite, .write 0 2, .resolveAccessRequest 2 9 .approve none, .write 0 0]

def overtaken : List Label :=
  [.requestAccess .readOnly, .write 0 1, .requestAccess .readWrite,
    .resolveAccessRequest 1 9 .reject none, .write 1 0]

end AccessRequests

open AccessRequests in
theorem access_requests_settle_in_turn :
    ∃ mid last, run AccessRequests.step {} inTurn = some mid ∧
      run AccessRequests.step mid askAgain = some last ∧ AccessRequests.Keeps mid last := by
  refine ⟨_, _, rfl, rfl, (access_requests_settle inTurn askAgain _ _ rfl rfl).2 ?_⟩
  exact Guarded.of_check (fun current => current) (by decide)

open AccessRequests in
/-- The level of the rejected request is changed. -/
theorem rejected_request_changed :
    ¬ ∀ (first second : List Label) (mid last : AccessRequests.World),
      run AccessRequests.step {} first = some mid → run AccessRequests.step mid second = some last →
      (AccessRequests.Settled mid ∧ AccessRequests.Settled last) ∧
        AccessRequests.Keeps mid last := by
  intro always
  have kept := (always overtaken [.tick 1, .write 0 0] _ _ rfl rfl).2
  have changed := kept _ mem_cons_self nofun
  cases mem_singleton.mp changed

end OpenWind
