import OpenWind.OrgDirectory.RootedTree

/-!
# Runs of the org directory sync
-/

open List Function

namespace OpenWind

open Txn Runs

structure SyncCall where
  tenantId : Id
  env : SyncEnv

structure OrgState where
  db : OrgDb
  completed : Id → Option (List String) := fun _ => none
  kept : Id → List OrgEmployee

namespace OrgState

def start (db : OrgDb) : OrgState := { db, kept := db.rowsOf }

def sync (call : SyncCall) (w : OrgState) : OrgState :=
  let (result, db) := runOrgDirectorySync call.tenantId call.env w.db
  if result.any fun result => result.status == .completed then
    { db
      completed := Function.update w.completed call.tenantId
        (call.env.fetched.map fun fresh => fresh.map (·.userId))
      kept := Function.update w.kept call.tenantId (db.rowsOf call.tenantId) }
  else { w with db }

def step (w : OrgState) (call : SyncCall) : Option OrgState := some (w.sync call)

structure Rooted (w : OrgState) : Prop where
  kept : ∀ tenantId, w.db.rowsOf tenantId = w.kept tenantId
  trees : ∀ tenantId userIds, w.completed tenantId = some userIds → w.db.RootedTree tenantId userIds

end OrgState

/-- The users of a pull are distinct. -/
def SyncCall.Distinct (call : SyncCall) : Prop :=
  ((call.env.fetched.getD []).map (·.userId)).Nodup

instance (call : SyncCall) : Decidable call.Distinct := inferInstanceAs (Decidable (Nodup _))

/-- A sync whose database works through the transaction of a pull can also mark the
run as completed. -/
def SyncCall.Marks (call : SyncCall) (db : OrgDb) : Prop :=
  call.env.acquired = true → call.env.registered = true → call.env.fetched.isSome = true →
    call.env.rebuilds = true → db.tenants.any (fun tenant => tenant.id == call.tenantId) = true →
      call.env.completes = true

instance (call : SyncCall) (db : OrgDb) : Decidable (call.Marks db) :=
  inferInstanceAs (Decidable (_ → _))

/-! ## One sync -/

variable {db db' : OrgDb} {tenantId : Id}

theorem OrgDb.RootedTree.congr {userIds : List String}
    (same : db'.rowsOf tenantId = db.rowsOf tenantId) (rooted : db.RootedTree tenantId userIds) :
    db'.RootedTree tenantId userIds := by
  obtain ⟨users, root, reaches⟩ := rooted
  refine ⟨?_, ?_, ?_⟩
  · rw [same]
    exact users
  · rw [same]
    exact root
  · rw [same]
    exact reaches

theorem failRun_orgEmployees (tenantId : Id) (env : SyncEnv) (db : OrgDb) :
    (failRun tenantId env db).orgEmployees = db.orgEmployees := by
  unfold failRun
  split
  · rfl
  · rfl

theorem rebuildTree_tenant {toLowerCase : String → String} {fresh : List OrgSourceRecord}
    {now : Time} {supply : OrgSupply} {plan : OrgTreeBuildResult}
    (ran : (rebuildTree toLowerCase tenantId fresh now supply).exec db = .ok (plan, db')) :
    db.tenants.any (fun tenant => tenant.id == tenantId) := by
  obtain ⟨found, mid, read, ran⟩ := Prog.exec_bind_ok.mp ran
  cases read
  obtain ⟨tenant, mid, got, _⟩ := Prog.exec_bind_ok.mp ran
  obtain ⟨is, _⟩ := Prog.exec_getOr_ok.mp got
  have found : db.tenants.find? (fun tenant => tenant.id == tenantId) = some tenant := is
  have named := find?_some found
  exact any_eq_true.mpr ⟨tenant, mem_of_find?_eq_some found, named⟩

theorem runOrgDirectorySync_cases {call : SyncCall} {result : Option SyncResult}
    (distinct : call.Distinct) (marks : call.Marks db) (sound : Cards.Sound db.cards)
    (ran : runOrgDirectorySync call.tenantId call.env db = (result, db')) :
    (result.any (fun result => result.status == .completed) = false ∧
        db'.orgEmployees = db.orgEmployees) ∨
      (result.any (fun result => result.status == .completed) ∧ ∃ fresh,
        call.env.fetched = some fresh ∧ Cards.Sound db'.cards ∧
          SameElsewhere call.tenantId db db' ∧
            db'.RootedTree call.tenantId (fresh.map (·.userId))) := by
  unfold runOrgDirectorySync at ran
  split at ran
  · next acquired =>
    unfold runLockedSync at ran
    split at ran
    · next registered =>
      dsimp only at ran
      split at ran
      · cases ran
        exact Or.inl ⟨rfl, failRun_orgEmployees _ _ _⟩
      · next fresh fetched =>
        split at ran
        · next rebuilds =>
          split at ran
          · cases ran
            exact Or.inl ⟨rfl, failRun_orgEmployees _ _ _⟩
          · next plan rebuilt rebuilding =>
            have sound : Cards.Sound (registerRun call.tenantId call.env db).cards := sound
            have known : (registerRun call.tenantId call.env db).tenants.any
              (fun tenant => tenant.id == call.tenantId) = true := rebuildTree_tenant rebuilding
            have completes : call.env.completes :=
              marks acquired registered (Option.isSome_of_eq_some fetched) rebuilds known
            rw [if_pos completes] at ran
            cases ran
            unfold SyncCall.Distinct at distinct
            rw [fetched, Option.getD_some] at distinct
            obtain ⟨sound', elsewhere, tree⟩ := rebuildTree_rooted sound distinct rebuilding
            have rows : (completeRun call.tenantId call.env plan rebuilt).rowsOf call.tenantId =
              rebuilt.rowsOf call.tenantId := rfl
            exact Or.inr ⟨rfl, fresh, fetched, sound', elsewhere, tree.congr rows⟩
        · cases ran
          exact Or.inl ⟨rfl, failRun_orgEmployees _ _ _⟩
    · cases ran
      exact Or.inl ⟨rfl, rfl⟩
  · cases ran
    exact Or.inl ⟨rfl, rfl⟩

/-! ## Runs -/

namespace OrgState

theorem sync_rooted {w : OrgState} {call : SyncCall} (distinct : call.Distinct)
    (marks : call.Marks w.db) (sound : Cards.Sound w.db.cards) (rooted : w.Rooted) :
    Cards.Sound (w.sync call).db.cards ∧ (w.sync call).Rooted := by
  obtain ⟨result, db, ran⟩ : ∃ result db,
      runOrgDirectorySync call.tenantId call.env w.db = (result, db) := ⟨_, _, rfl⟩
  unfold sync
  rw [ran]
  dsimp only
  rcases runOrgDirectorySync_cases distinct marks sound ran with
    ⟨failed, same⟩ | ⟨completed, fresh, fetched, sound', elsewhere, tree⟩
  · rw [if_neg (Bool.eq_false_iff.mp failed)]
    have rows : ∀ tenantId, db.rowsOf tenantId = w.db.rowsOf tenantId := by
      intro tenantId
      unfold OrgDb.rowsOf
      rw [same]
    refine ⟨?_, fun tenantId => (rows tenantId).trans (rooted.kept tenantId),
      fun tenantId userIds is => (rooted.trees tenantId userIds is).congr (rows tenantId)⟩
    unfold OrgDb.cards
    rw [same]
    exact sound
  · rw [if_pos completed]
    refine ⟨sound', fun tenantId => ?_, fun tenantId userIds is => ?_⟩
    · by_cases own : tenantId = call.tenantId
      · subst own
        dsimp only
        rw [update_self]
      · dsimp only
        rw [update_of_ne own]
        exact (elsewhere tenantId own).trans (rooted.kept tenantId)
    · by_cases own : tenantId = call.tenantId
      · subst own
        dsimp only at is
        rw [fetched, update_self] at is
        cases is
        exact tree
      · dsimp only at is
        rw [update_of_ne own] at is
        exact (rooted.trees tenantId userIds is).congr (elsewhere tenantId own)

end OrgState

/-- While the syncs that commit a tree can mark it, each tenant has the rows of its
last completed sync, and they are a root and one row for each user of that pull, from
all of which the parents lead to the root. -/
theorem org_directory_rooted (db : OrgDb) (calls : List SyncCall) (sound : Cards.Sound db.cards)
    (guarded : Guarded OrgState.step (fun w call => call.Distinct ∧ call.Marks w.db) (.start db)
      calls) :
    Always OrgState.step OrgState.Rooted (.start db) calls := by
  refine guarded.always (I := fun w => Cards.Sound w.db.cards ∧ w.Rooted) ?_ And.right ⟨sound, ?_⟩
  · intro w call w' ⟨sound, rooted⟩ ⟨distinct, marks⟩ stepped
    cases stepped
    exact OrgState.sync_rooted distinct marks sound rooted
  · exact ⟨fun _ => rfl, fun _ _ is => nomatch is⟩

/-! ## A sync that cannot mark its tree -/

/-- A pull of two employees that manage each other. -/
def exchangedManagers : List OrgSourceRecord :=
  [{ userId := "ann", managerId := some "bob", department := none, name := "Ann", title := ""
     email := "" },
   { userId := "bob", managerId := some "ann", department := none, name := "Bob", title := ""
     email := "" }]

def exchangedSync (completes : Bool) : SyncCall where
  tenantId := 1
  env := {
    acquired := true, registered := true, fetched := some exchangedManagers, rebuilds := true
    completes, marks := true, toLowerCase := id, now := 5
    supply := ⟨10, 20, fun userId => if userId = "ann" then 21 else 22⟩, triggeredBy := none
    error := "" }

def oneTenant : OrgDb where
  tenants := [⟨1, "Acme"⟩]
  orgEmployees := []
  syncRuns := []

theorem org_directory_rooted_exchanged :
    Always OrgState.step OrgState.Rooted (.start oneTenant)
      [exchangedSync true, exchangedSync true] :=
  org_directory_rooted oneTenant _ ⟨nodup_nil, nodup_nil, nofun⟩
    (Guarded.of_check (c := fun w call => decide (call.Distinct ∧ call.Marks w.db)) of_decide_eq_true
      (by decide +kernel))

/-- The update that marks the run fails after the tree is committed: the sync returns
a failure, and the tenant has three new rows. -/
theorem org_directory_failed_run_rebuilds :
    ¬ ∀ (db : OrgDb) (calls : List SyncCall), Cards.Sound db.cards →
      (∀ call ∈ calls, call.Distinct) → Always OrgState.step OrgState.Rooted (.start db) calls := by
  intro always
  have holds := always oneTenant [exchangedSync false] ⟨nodup_nil, nodup_nil, nofun⟩
    (by decide +kernel)
  have rooted := holds.last (run_cons.mpr ⟨_, rfl, rfl⟩)
  have changed : (((OrgState.start oneTenant).sync (exchangedSync false)).db.rowsOf 1).length ≠
      (((OrgState.start oneTenant).sync (exchangedSync false)).kept 1).length := by decide +kernel
  exact changed (congrArg length (rooted.kept 1))

end OpenWind
