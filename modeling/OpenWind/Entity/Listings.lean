import OpenWind.Entity.Calls
import OpenWind.Entity.RelationPages
import OpenWind.Workflow.Crud
import Mathlib.Algebra.Order.Ring.Unbundled.Rat

/-!
# Who may open a record, and who finds it in a list

`hasEntityAccess` decides who may open a record: by role, as its creator or assignee, by a
level under `__accessUsers` in its fields, or as an admin of its workflow.  The listings have
conditions of their own: the search has none, `listEntities` looks for the user's identifier
under `__accessUsers` whatever stands there, and an admin of the workflow of a type lists every
record of the type.
-/

open List Option

namespace OpenWind

open EntityInstance

/-! ## Access to a record -/

/-- The position in a list that a key stands for. -/
def arrayIndex (length : Nat) (key : String) : Option Nat :=
  (range length).find? fun i => toString i == key

def Json.property (key : String) : Json → Option Json
  | .obj entries => Fields.get entries key
  | .arr items => (arrayIndex items.length key).bind (items[·]?)
  | _ => none

def accessLevel (fields : Fields) (userId : String) : Option Json :=
  ((fields.get "__accessUsers").bind (Json.property userId)).bind fun
    | .obj entry => Fields.get entry "level"
    | _ => none

/-- The levels of a grant. -/
def recognized (level : Option Json) : Bool :=
  level == some (.str "read_only") || level == some (.str "read_comment") ||
    level == some (.str "read_write")

def EntityInstance.isOwn (row : EntityInstance) (userId : String) : Bool :=
  row.createdBy == some userId || row.assignedTo == some userId

def isPrivilegedRole (roles : List String) : Bool :=
  roles.contains "admin" || roles.contains "agent"

def hasEntityReadAccess (row : EntityInstance) (userId : String) (roles : List String) : Bool :=
  isPrivilegedRole roles || row.isOwn userId || recognized (accessLevel row.fields userId)

def Workflow.visibleTo (tenantId : Id) (workflow : Workflow) : Bool :=
  workflow.tenantId.all (· == tenantId)

def Workflow.isAdmin (workflow : Workflow) (userId : String) : Bool :=
  isWorkflowAdmin userId workflow.createdBy (workflow.assignedTo.getD [])

/-- `getWorkflow`; none when it is not found. -/
def Db.getWorkflow (db : Db) (tenantId workflowId : Id) : Option Workflow :=
  db.workflows.find? fun workflow => workflow.id == workflowId && workflow.visibleTo tenantId

def hasEntityAccess (db : Db) (tenantId : Id) (row : EntityInstance) (userId : String)
    (roles : List String) : Option Bool :=
  if hasEntityReadAccess row userId roles then some true
  else match row.workflowId with
    | none => some false
    | some workflowId => (db.getWorkflow tenantId workflowId).map (·.isAdmin userId)

inductive Opens (db : Db) (tenantId : Id) (userId : String) (roles : List String)
    (row : EntityInstance) : Prop
  | role : isPrivilegedRole roles = true → Opens db tenantId userId roles row
  | own : row.isOwn userId = true → Opens db tenantId userId roles row
  | granted : recognized (accessLevel row.fields userId) = true → Opens db tenantId userId roles row
  | administers {workflowId : Id} {workflow : Workflow} : row.workflowId = some workflowId →
    db.getWorkflow tenantId workflowId = some workflow → workflow.isAdmin userId = true →
    Opens db tenantId userId roles row

theorem hasEntityAccess_iff {db : Db} {tenantId : Id} {row : EntityInstance} {userId : String}
    {roles : List String} :
    hasEntityAccess db tenantId row userId roles = some true ↔
      Opens db tenantId userId roles row := by
  unfold hasEntityAccess
  by_cases read : hasEntityReadAccess row userId roles = true
  · rw [if_pos read]
    refine ⟨fun _ => ?_, fun _ => rfl⟩
    unfold hasEntityReadAccess at read
    simp only [Bool.or_eq_true] at read
    rcases read with (role | own) | granted
    · exact .role role
    · exact .own own
    · exact .granted granted
  · rw [if_neg read]
    unfold hasEntityReadAccess at read
    simp only [Bool.or_eq_true, not_or] at read
    constructor
    · intro admin
      cases filed : row.workflowId with
      | none =>
        rw [filed] at admin
        cases admin
      | some workflowId =>
        rw [filed] at admin
        obtain ⟨workflow, found, admin⟩ := map_eq_some_iff.mp admin
        exact .administers filed found admin
    · rintro (role | own | granted | ⟨filed, found, admin⟩)
      · exact absurd role read.1.1
      · exact absurd own read.1.2
      · exact absurd granted read.2
      · rw [filed]
        exact map_eq_some_iff.mpr ⟨_, found, admin⟩

/-! ## The listings -/

structure ListEnv where
  /-- `search_vector @@ plainto_tsquery(…)`. -/
  finds : String → EntityInstance → Bool
  /-- `ts_rank`. -/
  rank : String → EntityInstance → Rat
  /-- Some tag of the record has the text. -/
  tagged : String → EntityInstance → Bool
  /-- `fields @> filters`. -/
  hasFields : Fields → Fields → Bool
  resolved : EntityInstance → Fields
  /-- No field of a type has a reserved name. -/
  resolved_access : ∀ row, (resolved row).get "__accessUsers" = row.fields.get "__accessUsers"

inductive OriginFilter
  | internal | external | redirected

def OriginFilter.admits : OriginFilter → Option String → Bool
  | .internal, mechanism => mechanism.isNone
  | .external, mechanism => mechanism == some "api"
  | .redirected, mechanism => mechanism == some "handoff"

structure ListEntitiesQuery where
  entityTypeId : Id
  state : Option String := none
  assignedTo : Option String := none
  unassigned : Bool := false
  severity : List String := []
  origin : Option OriginFilter := none
  tag : Option String := none
  fieldFilters : Fields := []
  includeDeleted : Bool := false
  rootOnly : Bool := false
  cursor : Option (ℕ ×ₗ ℕ) := none
  limit : Option PageSize := none

structure ListEntitiesInput extends ListEntitiesQuery where
  scopeToUserId : Option String := none

def Json.hasKey (text : String) : Json → Bool
  | .obj entries => (Fields.get entries text).isSome
  | .arr items => items.any (·.strictEq (.str text))
  | .str s => s == text
  | _ => false

def EntityInstance.namesUser (row : EntityInstance) (userId : String) : Bool :=
  (row.fields.get "__accessUsers").any (Json.hasKey userId)

/-- `buildUserScopeFilter`. -/
def EntityInstance.inScope (row : EntityInstance) (userId : String) : Bool :=
  row.isOwn userId || row.namesUser userId

/-- A record that is nobody's child. -/
def Db.isRoot (db : Db) (tenantId : Id) (row : EntityInstance) : Bool :=
  !db.entityRelations.any fun r => r.tenantId == tenantId && r.fromInstanceId == row.id &&
    decide (r.relationType = .childOf) && r.deletedAt.isNone

/-- The conditions of `listEntities`, the cursor's apart. -/
def ListEntitiesInput.selects (input : ListEntitiesInput) (env : ListEnv) (db : Db) (tenantId : Id)
    (row : EntityInstance) : Bool :=
  row.tenantId == tenantId && row.entityTypeId == input.entityTypeId &&
    (input.includeDeleted || row.deletedAt.isNone) &&
    input.state.all (row.currentState == ·) &&
    input.assignedTo.all (row.assignedTo == some ·) &&
    (!input.unassigned || row.assignedTo.isNone) &&
    (input.severity.isEmpty || row.severity.any input.severity.contains) &&
    input.origin.all (·.admits row.originMechanism) &&
    input.tag.all (env.tagged · row) &&
    input.scopeToUserId.all row.inScope &&
    (input.fieldFilters.isEmpty || env.hasFields row.fields input.fieldFilters) &&
    (!input.rootOnly || db.isRoot tenantId row)

def EntityInstance.listKey (row : EntityInstance) : ℕ ×ₗ ℕ := toLex (row.createdAt, row.id)

def Db.listRows (db : Db) (env : ListEnv) (tenantId : Id) (input : ListEntitiesInput) :
    List EntityInstance × Option (ℕ ×ₗ ℕ) :=
  Keyset.page EntityInstance.listKey EntityInstance.listKey (PageSize.applied input.limit)
    input.cursor (db.entityInstances.filter (input.selects env db tenantId))

def listEntities (env : ListEnv) (db : Db) (tenantId : Id) (input : ListEntitiesInput) :
    List EntityInstance × Option (ℕ ×ₗ ℕ) :=
  let page := db.listRows env tenantId input
  (page.1.map fun row => { row with fields := env.resolved row }, page.2)

def Db.getWorkflowByEntityTypeId (db : Db) (tenantId entityTypeId : Id) : Option Workflow :=
  db.workflows.find? fun workflow =>
    workflow.entityTypeId == entityTypeId && workflow.tenantId == some tenantId

def Db.listsAll (db : Db) (tenantId entityTypeId : Id) (userId : String) (roles : List String) :
    Bool :=
  isPrivilegedRole roles ||
    (db.getWorkflowByEntityTypeId tenantId entityTypeId).any (·.isAdmin userId)

def listEntitiesHandler (env : ListEnv) (db : Db) (tenantId : Id) (userId : String)
    (roles : List String) (query : ListEntitiesQuery) : List EntityInstance :=
  let isPrivileged := db.listsAll tenantId query.entityTypeId userId roles
  (listEntities env db tenantId
    { query with
      assignedTo := if isPrivileged then query.assignedTo else none
      scopeToUserId := if isPrivileged then none else some userId }).1

abbrev SearchText := { q : String // 1 ≤ textLength q ∧ textLength q ≤ 500 }

structure SearchQuery where
  type : Id
  q : SearchText
  limit : Option PageSize := none
  cursor : Option (Rat ×ₗ ℕ)ᵒᵈ := none

def EntityInstance.searchKey (env : ListEnv) (q : String) (row : EntityInstance) : (Rat ×ₗ ℕ)ᵒᵈ :=
  .toDual (toLex (env.rank q row, row.id))

def searchEntities (env : ListEnv) (db : Db) (tenantId : Id) (query : SearchQuery) :
    List EntityInstance :=
  let key := EntityInstance.searchKey env query.q.val
  (Keyset.page key key (PageSize.applied query.limit) query.cursor
    (db.entityInstances.filter fun row => row.tenantId == tenantId &&
      row.entityTypeId == query.type && row.deletedAt.isNone && env.finds query.q.val row)).1

structure MyTicketsQuery where
  workflowId : Option Id := none
  severity : List String := []
  tag : Option String := none
  origin : Option OriginFilter := none

def MyTicketsQuery.selects (query : MyTicketsQuery) (env : ListEnv) (tenantId : Id)
    (userId : String) (row : EntityInstance) : Bool :=
  row.tenantId == tenantId && row.deletedAt.isNone && row.inScope userId &&
    query.workflowId.all (row.workflowId == some ·) &&
    (query.severity.isEmpty || row.severity.any query.severity.contains) &&
    query.origin.all (·.admits row.originMechanism) && query.tag.all (env.tagged · row)

def Db.parentOf (db : Db) (tenantId : Id) (row : EntityInstance) : Option Id :=
  ((db.entityRelations.filter fun r => r.tenantId == tenantId && r.fromInstanceId == row.id &&
    decide (r.relationType = .childOf) && r.deletedAt.isNone).getLast?).map (·.toInstanceId)

def Db.parentArchived (db : Db) (tenantId : Id) (row : EntityInstance) : Bool :=
  (db.parentOf tenantId row).any fun parentId =>
    (db.entityInstances.find? fun p => p.id == parentId && p.tenantId == tenantId).any
      (·.deletedAt.isSome)

def myTickets (env : ListEnv) (db : Db) (tenantId : Id) (userId : String) (roles : List String)
    (query : MyTicketsQuery) : List EntityInstance :=
  if ["admin", "agent", "user", "superadmin"].any roles.contains then
    let accessibleRows := ((db.entityInstances.filter
      (query.selects env tenantId userId)).insertionSort fun a b => b.createdAt ≤ a.createdAt).take
        maxPageSize
    accessibleRows.filter fun row => !db.parentArchived tenantId row
  else []

structure ThirdPartyQuery where
  state : Option String := none
  cursor : Option (ℕ ×ₗ ℕ) := none
  limit : Option PageSize := none

def passesListGetParity (row : EntityInstance) (actingPersonId : String) : Bool :=
  row.isOwn actingPersonId || recognized (accessLevel row.fields actingPersonId)

def listThirdPartyTickets (env : ListEnv) (db : Db) (tenantId workflowId : Id)
    (actingPersonId : String) (query : ThirdPartyQuery) : List EntityInstance :=
  match db.getWorkflow tenantId workflowId with
  | none => []
  | some workflow =>
    let admin := workflow.isAdmin actingPersonId
    let page := listEntities env db tenantId
      { entityTypeId := workflow.entityTypeId
        state := query.state
        scopeToUserId := if admin then none else some actingPersonId
        limit := query.limit
        cursor := query.cursor }
    if admin then page.1 else page.1.filter (passesListGetParity · actingPersonId)

/-! ## What a caller is shown -/

structure ListCaller where
  userId : String
  roles : List String

inductive ListingCall
  | list (query : ListEntitiesQuery)
  | search (query : SearchQuery)
  | myTickets (query : MyTicketsQuery)
  | thirdParty (workflowId : Id) (query : ThirdPartyQuery)

/-- An acting person has no roles. -/
def ListingCall.roles (caller : ListCaller) : ListingCall → List String
  | .thirdParty _ _ => []
  | _ => caller.roles

def ListingCall.records (env : ListEnv) (db : Db) (tenantId : Id) (caller : ListCaller) :
    ListingCall → List EntityInstance
  | .list query => listEntitiesHandler env db tenantId caller.userId caller.roles query
  | .search query => searchEntities env db tenantId query
  | .myTickets query => OpenWind.myTickets env db tenantId caller.userId caller.roles query
  | .thirdParty workflowId query =>
    listThirdPartyTickets env db tenantId workflowId caller.userId query

def Contained (env : ListEnv) (db : Db) (tenantId : Id) (caller : ListCaller) : Prop :=
  ∀ call : ListingCall, ∀ row ∈ call.records env db tenantId caller,
    hasEntityAccess db tenantId row caller.userId (call.roles caller) = some true

structure ListsOpen (env : ListEnv) (db : Db) (tenantId : Id) (caller : ListCaller) : Prop where
  /-- A search finds every live record with the text. -/
  found : ∀ row ∈ db.entityInstances, row.tenantId = tenantId → row.deletedAt = none →
    (∃ q : SearchText, env.finds q.val row = true) →
      Opens db tenantId caller.userId caller.roles row
  /-- An admin of the workflow of a type lists every record of the type, under whatever
  workflow it is filed. -/
  administered : ∀ row ∈ db.entityInstances, row.tenantId = tenantId →
    ∀ workflow, db.getWorkflowByEntityTypeId tenantId row.entityTypeId = some workflow →
      workflow.isAdmin caller.userId = true → Opens db tenantId caller.userId caller.roles row
  named : ∀ row ∈ db.entityInstances, row.tenantId = tenantId →
    row.namesUser caller.userId = true → Opens db tenantId caller.userId caller.roles row
  /-- Over the API, an admin of any workflow of the type lists its live records. -/
  acting : ∀ row ∈ db.entityInstances, row.tenantId = tenantId → row.deletedAt = none →
    ∀ workflowId workflow, db.getWorkflow tenantId workflowId = some workflow →
      workflow.isAdmin caller.userId = true → workflow.entityTypeId = row.entityTypeId →
        Opens db tenantId caller.userId [] row

section Containment

variable {env : ListEnv} {db : Db} {tenantId : Id} {caller : ListCaller} {userId : String}
  {roles : List String} {row : EntityInstance}

theorem opens_resolved : Opens db tenantId userId roles { row with fields := env.resolved row } ↔
    Opens db tenantId userId roles row := by
  have level : accessLevel (env.resolved row) userId = accessLevel row.fields userId := by
    unfold accessLevel
    rw [env.resolved_access]
  constructor
  · rintro (role | own | granted | ⟨filed, found, admin⟩)
    · exact .role role
    · exact .own own
    · exact .granted (level ▸ granted)
    · exact .administers filed found admin
  · rintro (role | own | granted | ⟨filed, found, admin⟩)
    · exact .role role
    · exact .own own
    · exact .granted (level.symm ▸ granted)
    · exact .administers filed found admin

theorem Db.Keyed.keys_nodup (keyed : db.Keyed) {K : Type} {key : EntityInstance → K}
    (idOf : K → Id) (of : ∀ row, idOf (key row) = row.id) (p : EntityInstance → Bool) :
    ((db.entityInstances.filter p).map key).Nodup := by
  refine Nodup.of_map idOf ?_
  rw [List.map_map, show idOf ∘ key = EntityInstance.id from funext of]
  exact keyed.sublist (filter_sublist.map _)

variable {input : ListEntitiesInput} {workflowId : Id}

theorem mem_listEntities {shown : EntityInstance}
    (listed : shown ∈ (listEntities env db tenantId input).1) :
    ∃ row ∈ db.entityInstances, input.selects env db tenantId row ∧
      shown = { row with fields := env.resolved row } := by
  unfold listEntities at listed
  obtain ⟨row, mem, rfl⟩ := List.mem_map.mp listed
  obtain ⟨mem, selected⟩ := mem_filter.mp (Keyset.mem_of_page mem)
  exact ⟨row, mem, selected, rfl⟩

section

variable (keyed : db.Keyed) (mem : row ∈ db.entityInstances)

include keyed mem

theorem exists_listEntities (selected : input.selects env db tenantId row) :
    ∃ cursor, { row with fields := env.resolved row } ∈
      (listEntities env db tenantId { input with cursor }).1 := by
  have reached : ∃ cursor, row ∈ (Keyset.page listKey listKey
      (PageSize.applied input.limit) cursor
      (db.entityInstances.filter (input.selects env db tenantId))).1 :=
    Keyset.exists_page (PageSize.applied_pos _)
      (keyed.keys_nodup (fun k => (ofLex k).2) (fun _ => rfl) _)
      (mem_filter.mpr ⟨mem, selected⟩)
  obtain ⟨cursor, listed⟩ := reached
  exact ⟨cursor, List.mem_map_of_mem listed⟩

theorem exists_list (own : row.tenantId = tenantId)
    (seen : db.listsAll tenantId row.entityTypeId userId roles ∨ row.inScope userId) :
    ∃ query, { row with fields := env.resolved row } ∈
      listEntitiesHandler env db tenantId userId roles query := by
  have selected : ListEntitiesInput.selects
      { entityTypeId := row.entityTypeId, includeDeleted := true
        scopeToUserId :=
          if db.listsAll tenantId row.entityTypeId userId roles then none else some userId }
      env db tenantId row = true := by
    unfold ListEntitiesInput.selects
    cases all : db.listsAll tenantId row.entityTypeId userId roles with
    | true => simp [own]
    | false =>
      rw [all] at seen
      have scope := seen.resolve_left Bool.false_ne_true
      simp [own, scope]
  obtain ⟨cursor, listed⟩ := exists_listEntities keyed mem selected
  refine ⟨{ entityTypeId := row.entityTypeId, includeDeleted := true, cursor }, ?_⟩
  unfold listEntitiesHandler
  simp only [ite_self]
  exact listed

theorem exists_search (own : row.tenantId = tenantId) (live : row.deletedAt = none) {q : SearchText}
    (finds : env.finds q.val row) : ∃ query, row ∈ searchEntities env db tenantId query := by
  have reached : ∃ cursor, row ∈ (Keyset.page (searchKey env q.val)
      (searchKey env q.val) (PageSize.applied none) cursor
      (db.entityInstances.filter fun r => r.tenantId == tenantId &&
        r.entityTypeId == row.entityTypeId && r.deletedAt.isNone && env.finds q.val r)).1 := by
    refine Keyset.exists_page (PageSize.applied_pos _)
      (keyed.keys_nodup (fun k => (ofLex (OrderDual.ofDual k)).2) (fun _ => rfl) _)
      (mem_filter.mpr ⟨mem, ?_⟩)
    simp [own, live, finds]
  obtain ⟨cursor, listed⟩ := reached
  exact ⟨{ type := row.entityTypeId, q, cursor }, listed⟩

theorem exists_thirdParty (own : row.tenantId = tenantId) (live : row.deletedAt = none)
    {workflow : Workflow} (found : db.getWorkflow tenantId workflowId = some workflow)
    (admin : workflow.isAdmin userId) (type : workflow.entityTypeId = row.entityTypeId) :
    ∃ query, { row with fields := env.resolved row } ∈
      listThirdPartyTickets env db tenantId workflowId userId query := by
  have selected : ListEntitiesInput.selects { entityTypeId := workflow.entityTypeId } env db
      tenantId row := by
    unfold ListEntitiesInput.selects
    simp [own, live, type]
  obtain ⟨cursor, listed⟩ := exists_listEntities keyed mem selected
  refine ⟨{ cursor }, ?_⟩
  unfold listThirdPartyTickets
  rw [found]
  dsimp only
  rw [admin, if_pos rfl]
  exact listed

end

theorem ListEntitiesInput.selects_of (selected : input.selects env db tenantId row) :
    row.tenantId = tenantId ∧ row.entityTypeId = input.entityTypeId ∧
      (input.includeDeleted ∨ row.deletedAt = none) ∧
      (∀ userId, input.scopeToUserId = some userId → row.inScope userId) := by
  unfold selects at selected
  simp only [Bool.and_eq_true, Bool.or_eq_true, beq_iff_eq, isNone_iff_eq_none] at selected
  obtain ⟨⟨⟨⟨⟨⟨⟨⟨⟨⟨⟨tenant, type⟩, kept⟩, -⟩, -⟩, -⟩, -⟩, -⟩, -⟩, scope⟩, -⟩, -⟩ := selected
  refine ⟨tenant, type, kept, fun userId given => ?_⟩
  rw [given] at scope
  exact scope

theorem opens_of_scope (named : row.namesUser userId → Opens db tenantId userId roles row)
    (scope : row.inScope userId) : Opens db tenantId userId roles row := by
  unfold inScope at scope
  rw [Bool.or_eq_true] at scope
  exact scope.elim .own named

section

variable (opens : ListsOpen env db tenantId caller)

include opens

theorem ListsOpen.list {query : ListEntitiesQuery}
    (listed : row ∈ listEntitiesHandler env db tenantId caller.userId caller.roles query) :
    Opens db tenantId caller.userId caller.roles row := by
  unfold listEntitiesHandler at listed
  obtain ⟨row, mem, selected, rfl⟩ := mem_listEntities listed
  obtain ⟨own, type, -, scope⟩ := ListEntitiesInput.selects_of selected
  rw [opens_resolved]
  cases all : db.listsAll tenantId query.entityTypeId caller.userId caller.roles with
  | true =>
    unfold Db.listsAll at all
    rw [Bool.or_eq_true] at all
    rcases all with role | admin
    · exact .role role
    · obtain ⟨workflow, found, admin⟩ := (Option.any_eq_true _ _).mp admin
      exact opens.administered row mem own workflow (type ▸ found) admin
  | false =>
    refine opens_of_scope (opens.named row mem own) (scope caller.userId ?_)
    rw [all]
    rfl

theorem ListsOpen.search {query : SearchQuery}
    (listed : row ∈ searchEntities env db tenantId query) :
    Opens db tenantId caller.userId caller.roles row := by
  obtain ⟨mem, selected⟩ := mem_filter.mp (Keyset.mem_of_page listed)
  simp only [Bool.and_eq_true, beq_iff_eq, isNone_iff_eq_none] at selected
  obtain ⟨⟨⟨own, -⟩, live⟩, finds⟩ := selected
  exact opens.found row mem own live ⟨query.q, finds⟩

theorem ListsOpen.myTickets {query : MyTicketsQuery}
    (listed : row ∈ OpenWind.myTickets env db tenantId caller.userId caller.roles query) :
    Opens db tenantId caller.userId caller.roles row := by
  unfold OpenWind.myTickets at listed
  split at listed
  · have taken := mem_of_mem_take (mem_filter.mp listed).1
    obtain ⟨mem, selected⟩ := mem_filter.mp ((mem_insertionSort _).mp taken)
    unfold MyTicketsQuery.selects at selected
    simp only [Bool.and_eq_true, beq_iff_eq] at selected
    obtain ⟨⟨⟨⟨⟨⟨own, -⟩, scope⟩, -⟩, -⟩, -⟩, -⟩ := selected
    exact opens_of_scope (opens.named row mem own) scope
  · cases listed

theorem ListsOpen.thirdParty {query : ThirdPartyQuery}
    (listed : row ∈ listThirdPartyTickets env db tenantId workflowId caller.userId query) :
    Opens db tenantId caller.userId [] row := by
  unfold listThirdPartyTickets at listed
  split at listed
  · cases listed
  · rename_i workflow found
    dsimp only at listed
    split at listed
    · rename_i admin
      obtain ⟨row, mem, selected, rfl⟩ := mem_listEntities listed
      obtain ⟨own, type, kept, -⟩ := ListEntitiesInput.selects_of selected
      rw [opens_resolved]
      exact opens.acting row mem own (kept.resolve_left Bool.false_ne_true) workflowId workflow found
        admin type.symm
    · obtain ⟨-, parity⟩ := mem_filter.mp listed
      unfold passesListGetParity at parity
      rw [Bool.or_eq_true] at parity
      exact parity.elim .own .granted

end

/-- The listings show a caller what that caller may open, exactly when every record that they
reach without asking for it is one that the caller may open. -/
theorem contained_iff (keyed : db.Keyed) :
    Contained env db tenantId caller ↔ ListsOpen env db tenantId caller := by
  constructor
  · intro contained
    have opens : ∀ call row, row ∈ ListingCall.records env db tenantId caller call →
        Opens db tenantId caller.userId (call.roles caller) row :=
      fun call row listed => hasEntityAccess_iff.mp (contained call row listed)
    refine ⟨fun row mem own live ⟨q, finds⟩ => ?_, fun row mem own workflow found admin => ?_,
      fun row mem own named => ?_, fun row mem own live workflowId workflow found admin type => ?_⟩
    · obtain ⟨query, listed⟩ := exists_search keyed mem own live finds
      exact opens (.search query) row listed
    · have all : db.listsAll tenantId row.entityTypeId caller.userId caller.roles := by
        unfold Db.listsAll
        rw [found, any_some, admin, Bool.or_true]
      obtain ⟨query, listed⟩ := exists_list keyed mem own (.inl all)
      exact opens_resolved.mp (opens (.list query) _ listed)
    · have scope : row.inScope caller.userId := by
        unfold inScope
        rw [named, Bool.or_true]
      obtain ⟨query, listed⟩ := exists_list keyed mem own (.inr scope)
      exact opens_resolved.mp (opens (.list query) _ listed)
    · obtain ⟨query, listed⟩ := exists_thirdParty keyed mem own live found admin type
      exact opens_resolved.mp (opens (.thirdParty workflowId query) _ listed)
  · intro opens call row listed
    rw [hasEntityAccess_iff]
    cases call with
    | list query => exact opens.list listed
    | search query => exact opens.search listed
    | myTickets query => exact opens.myTickets listed
    | thirdParty workflowId query => exact opens.thirdParty listed

end Containment

/-! ## A record, its creator and another user -/

/-- A search for a whole text; no tags, no lookups. -/
def plainListEnv : ListEnv where
  finds q row := row.fields.any fun entry => entry.2 == .str q
  rank _ _ := 1
  tagged _ _ := false
  hasFields _ _ := false
  resolved row := row.fields
  resolved_access _ := rfl

/-- A record of alice. -/
def aliceDb : Db where
  entityInstances :=
    [{ id := 2, entityTypeId := 5, tenantId := 1, fields := [("title", .str "payroll")],
       createdBy := some "alice", createdAt := 0, updatedAt := 0 }]

/-- A user who has nothing to do with the record finds it. -/
theorem search_shows_stranger : ¬ Contained plainListEnv aliceDb 1 ⟨"eve", ["user"]⟩ := by
  intro contained
  obtain ⟨row, mem, own, live, finds, refused⟩ : ∃ row ∈ aliceDb.entityInstances,
      row.tenantId = 1 ∧ row.deletedAt = none ∧ plainListEnv.finds "payroll" row = true ∧
        hasEntityAccess aliceDb 1 row "eve" ["user"] = some false :=
    ⟨_, mem_cons_self, rfl, rfl, by decide, by decide⟩
  have keyed : aliceDb.Keyed := by
    unfold Db.Keyed
    decide
  obtain ⟨query, listed⟩ := exists_search (q := ⟨"payroll", by decide⟩) keyed mem own live finds
  exact absurd (refused.symm.trans (contained (.search query) row listed)) nofun

theorem contained_iff_creator : Contained plainListEnv aliceDb 1 ⟨"alice", ["user"]⟩ := by
  refine (contained_iff (by unfold Db.Keyed; decide)).mpr ?_
  have own : ∀ roles, ∀ row ∈ aliceDb.entityInstances, Opens aliceDb 1 "alice" roles row := by
    intro roles row mem
    obtain rfl := mem_singleton.mp mem
    exact .own rfl
  exact ⟨fun row mem _ _ _ => own _ row mem, fun row mem _ _ _ _ => own _ row mem,
    fun row mem _ _ => own _ row mem, fun row mem _ _ _ _ _ _ _ => own _ row mem⟩

end OpenWind
