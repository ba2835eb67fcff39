import OpenWind.Automation.RuleJobs

/-!
# The runs of a rule for a transition

A transition that an action makes is followed up at once, and its outbox row is delivered to the
worker later.  The runs of a rule for a transition take an advisory lock, which the transaction
keeps to its end, and look for a run that has succeeded.  A run that has found a circuit open is
degraded when it ends, and is not looked for.
-/

open List Option

namespace OpenWind

open Runs RuleJob

/-! ## The system -/

structure RuleWorld where
  executions : List RuleExecution := []
  effects : List ActionEffect := []
  jobs : List RuleJob := []
  /-- The transitions that there have been. -/
  events : List Id := []

inductive RuleLabel
  | deliver (transitionEventId : Option Id) (depth : Nat) (rules : List AutomationRule)
  /-- The next rule is up, which the event may trigger. -/
  | turn (i : Nat) (applies : Bool) (execId : Id)
  | act (i : Nat) (outcome : ActionOutcome)
  | complete (i : Nat)
  | leave (i : Nat)
  | throws (i : Nat)
  | commit (i : Nat)
  | abort (i : Nat)

namespace RuleWorld

variable (w : RuleWorld)

def put (i : Nat) (job : RuleJob) : RuleWorld := { w with jobs := w.jobs.set i job }

/-- Another job holds the lock. -/
def blocked (i : Nat) (lock : RuleLock) : Bool :=
  (w.jobs.eraseIdx i).any fun other => other.locks.contains lock

def hasSuccess (job : RuleJob) (lock : RuleLock) : Bool :=
  (job.executions ++ w.executions).any fun row => row.isFor lock && row.status == .success

def turn (i : Nat) (job : RuleJob) (applies : Bool) (execId : Id) : Option RuleJob :=
  match job.event with
  | none => none
  | some event =>
    match event.rules with
    | [] => none
    | rule :: rest =>
      let after : RuleEvent := { event with rules := rest }
      if !applies then some { job with event := some after }
      else
        match event.lock rule with
        | none => some (job.begin execId rule after)
        | some lock =>
          if w.blocked i lock then none
          else if w.hasSuccess job lock then
            some { job.write { locks := [lock] } with event := some after }
          else some ((job.write { locks := [lock] }).begin execId rule after)

def commit (i : Nat) (job : RuleJob) : Option RuleWorld :=
  match job.event, job.runs with
  | none, [] => some
      { w.put i {} with
        executions := job.own.executions ++ w.executions
        effects := job.own.effects ++ w.effects }
  | _, _ => none

def step (w : RuleWorld) : RuleLabel → Option RuleWorld
  | .deliver transitionEventId depth rules =>
    let job : RuleJob :=
      if depth < MAX_DEPTH then { event := some ⟨transitionEventId, depth, rules⟩ } else {}
    some { w with jobs := w.jobs ++ [job], events := transitionEventId.toList ++ w.events }
  | .turn i applies execId =>
    w.jobs[i]?.bind fun job => (w.turn i job applies execId).map (w.put i)
  | .act i outcome =>
    -- The identifier of a transition is a random one.
    if outcome.events.any w.events.contains then none
    else w.jobs[i]?.bind fun job => (job.act outcome).map fun job =>
      { w.put i job with events := outcome.events ++ w.events }
  | .complete i => w.jobs[i]?.bind fun job => job.complete.map (w.put i)
  | .leave i => w.jobs[i]?.bind fun job => job.leave.map (w.put i)
  | .throws i => w.jobs[i]?.bind fun job => job.throws.map (w.put i)
  | .commit i => w.jobs[i]?.bind (w.commit i)
  | .abort i => w.jobs[i]?.map fun _ => w.put i {}

/-! ## The property and the condition -/

def AppliedOnce : Prop := (w.effects.map fun effect => (effect.lock, effect.action)).Nodup

def PartlyDone (job : RuleJob) (lock : RuleLock) : Prop :=
  ∃ row ∈ job.executions ++ w.executions, row.isFor lock = true ∧ row.status = .degraded ∧
    ∃ effect ∈ job.effects ++ w.effects, effect.execId = row.id

def Settled (w : RuleWorld) : RuleLabel → Prop
  | .turn i true _ => ∀ job ∈ w.jobs[i]?, ∀ event ∈ job.event, ∀ rule ∈ event.rules.head?,
      ∀ lock ∈ event.lock rule, ¬ w.PartlyDone job lock
  | _ => True

end RuleWorld

/-! ## The invariant of the system -/

namespace RuleWorld

structure Sound (w : RuleWorld) : Prop where
  jobs : ∀ job ∈ w.jobs, job.Sound w.events w.effects
  rows : ∀ effect ∈ w.effects, effect.IsOf w.executions
  once : w.AppliedOnce
  apart : ∀ (i j : Nat) (job other : RuleJob), w.jobs[i]? = some job → w.jobs[j]? = some other →
    i ≠ j → ∀ lock ∈ job.locks, lock ∉ other.locks

theorem Sound.start : ({} : RuleWorld).Sound :=
  ⟨nofun, nofun, nodup_nil, nofun⟩

variable {w w' : RuleWorld} {i : Nat} {job job' : RuleJob}

section

variable (sound : job.Sound w.events w.effects)
  (rows : ∀ effect ∈ w.effects, effect.IsOf w.executions)

include sound rows

theorem clear_of_unsettled {event : RuleEvent} (up : job.event = some event) {rule : AutomationRule}
    {lock : RuleLock} (locked : event.lock rule = some lock)
    (undone : w.hasSuccess job lock = false) (settled : ¬ w.PartlyDone job lock) :
    ∀ effect ∈ job.effects ++ w.effects, effect.lock ≠ lock := by
  intro effect mem same
  have done : effect.IsOf (job.executions ++ w.executions) := by
    rcases mem_append.mp mem with own | old
    · rw [effects_eq] at own
      rcases sound.kept.owner own with ⟨run, running, owns⟩ | done
      · have owned := owns.1
        rw [same] at owned
        exact absurd owned (sound.unowned up locked running)
      · rw [← executions_eq] at done
        exact done.mono (subset_append_left _ _)
    · exact (rows effect old).mono (subset_append_right _ _)
  obtain ⟨row, found, isFor, named, ended⟩ := done
  rw [same] at isFor
  rcases ended with success | degraded
  · unfold hasSuccess at undone
    rw [List.any_eq_false] at undone
    refine undone row found ?_
    rw [isFor, success]
    rfl
  · exact settled ⟨row, found, isFor, degraded, effect, mem, named.symm⟩

theorem turned {applies : Bool} {execId : Id}
    (settled : applies → ∀ event ∈ job.event, ∀ rule ∈ event.rules.head?,
      ∀ lock ∈ event.lock rule, ¬ w.PartlyDone job lock)
    (taken : w.turn i job applies execId = some job') :
    job'.Sound w.events w.effects ∧
      ∀ lock ∈ job'.locks, lock ∈ job.locks ∨ w.blocked i lock = false := by
  unfold turn at taken
  split at taken
  · cases taken
  · next event up =>
    split at taken
    · cases taken
    · next rule rest following =>
      dsimp only at taken
      split at taken
      · cases taken
        refine ⟨sound.rest up rest, fun lock held => .inl ?_⟩
        rw [locks_eq] at held ⊢
        exact held
      · next applied =>
        split at taken
        · next none =>
          cases taken
          refine ⟨sound.begin up fun lock locked => ?_, fun lock held => .inl ?_⟩
          · rw [none] at locked
            cases locked
          · rw [locks_eq] at held ⊢
            exact held
        · next lock locked =>
          split at taken
          · cases taken
          · next free =>
            have held : (job.write { locks := [lock] }).Sound w.events w.effects :=
              sound.write_idle rfl
            have same : (job.write { locks := [lock] }).event = some event :=
              (event_write job).trans up
            have locks : (job.write { locks := [lock] }).locks = lock :: job.locks :=
              locks_write job
            have free : ∀ other ∈ lock :: job.locks,
                other ∈ job.locks ∨ w.blocked i other = false := by
              intro other mem
              rcases mem_cons.mp mem with rfl | old
              · exact .inr (Bool.eq_false_iff.mpr free)
              · exact .inl old
            split at taken
            · cases taken
              refine ⟨held.rest same rest, fun other mem => free other ?_⟩
              rw [← locks, locks_eq]
              rw [locks_eq] at mem
              exact mem
            · next undone =>
              cases taken
              have clear := clear_of_unsettled sound rows up locked (Bool.eq_false_iff.mpr undone)
                (settled (by simpa using applied) event up rule (by rw [following]; rfl) lock
                  locked)
              refine ⟨held.begin same fun other named => ?_, fun other mem => free other ?_⟩
              · cases locked.symm.trans named
                refine ⟨?_, ?_⟩
                · rw [locks]
                  exact mem_cons_self
                · rw [effects_write]
                  exact clear
              · rw [← locks, locks_eq]
                rw [locks_eq] at mem
                exact mem

end

theorem free_of_unblocked {lock : RuleLock} (free : w.blocked i lock = false) {j : Nat}
    {other : RuleJob} (there : w.jobs[j]? = some other) (apart : i ≠ j) : lock ∉ other.locks := by
  intro held
  unfold blocked at free
  rw [List.any_eq_false] at free
  obtain ⟨inside, rfl⟩ := List.getElem?_eq_some_iff.mp there
  refine free _ ?_ (contains_iff_mem.mpr held)
  exact mem_eraseIdx_iff_getElem.mpr ⟨j, inside, Ne.symm apart, rfl⟩

theorem Sound.put (sound : w.Sound) (here : w.jobs[i]? = some job)
    (next : job'.Sound w.events w.effects)
    (locks : ∀ lock ∈ job'.locks, lock ∈ job.locks ∨ w.blocked i lock = false) :
    (w.put i job').Sound := by
  refine ⟨fun other mem => ?_, sound.rows, sound.once, ?_⟩
  · rcases Calls.of_mem_replaced mem with rfl | old
    · exact next
    · exact sound.jobs other old
  · intro j k first second atJ atK different lock held held'
    rcases Calls.getElem?_replaced here atJ with ⟨rfl, rfl⟩ | ⟨-, oldJ⟩
    · rcases Calls.getElem?_replaced here atK with ⟨rfl, -⟩ | ⟨-, oldK⟩
      · exact different rfl
      · rcases locks lock held with had | free
        · exact sound.apart j k job second here oldK different lock had held'
        · exact free_of_unblocked free oldK different held'
    · rcases Calls.getElem?_replaced here atK with ⟨rfl, rfl⟩ | ⟨-, oldK⟩
      · rcases locks lock held' with had | free
        · exact sound.apart j k first job oldJ here different lock held had
        · exact free_of_unblocked free oldJ (Ne.symm different) held
      · exact sound.apart j k first second oldJ oldK different lock held held'

theorem Sound.putLess (sound : w.Sound) (here : w.jobs[i]? = some job)
    (next : job'.Sound w.events w.effects) (locks : job'.locks ⊆ job.locks) :
    (w.put i job').Sound :=
  sound.put here next fun _ held => .inl (locks held)

theorem Sound.moreEvents (sound : w.Sound) (events : List Id) :
    ({ w with events := events ++ w.events } : RuleWorld).Sound :=
  ⟨fun job mem => (sound.jobs job mem).more (subset_append_right _ _), sound.rows,
    sound.once, sound.apart⟩

theorem Sound.deliver (sound : w.Sound) (transitionEventId : Option Id) (depth : Nat)
    (rules : List AutomationRule) (job : RuleJob)
    (begun : job = {} ∨ job = { event := some ⟨transitionEventId, depth, rules⟩ }) :
    ({ w with
      jobs := w.jobs ++ [job]
      events := transitionEventId.toList ++ w.events } : RuleWorld).Sound := by
  have empty : job.locks = [] := by
    rcases begun with rfl | rfl
    · rfl
    · rfl
  have fresh : job.Sound (transitionEventId.toList ++ w.events) w.effects := by
    rcases begun with rfl | rfl
    · exact RuleJob.Sound.empty sound.once
    · refine ⟨nodup_singleton _, fun other mem => ?_, nofun, sound.once, nofun⟩
      refine mem_append_left _ (mem_toList.mpr ?_)
      exact (mem_singleton.mp mem).symm
  have more := sound.moreEvents transitionEventId.toList
  refine ⟨fun other mem => ?_, sound.rows, sound.once, ?_⟩
  · rcases Calls.of_mem_began mem with rfl | old
    · exact fresh
    · exact more.jobs other old
  · intro j k first second atJ atK different lock held held'
    rcases Calls.getElem?_began atJ with ⟨rfl, rfl⟩ | oldJ
    · rw [empty] at held
      cases held
    · rcases Calls.getElem?_began atK with ⟨rfl, rfl⟩ | oldK
      · rw [empty] at held'
        cases held'
      · exact sound.apart j k first second oldJ oldK different lock held held'

theorem Sound.commit (sound : w.Sound) (here : w.jobs[i]? = some job)
    (committed : w.commit i job = some w') : w'.Sound := by
  unfold RuleWorld.commit at committed
  split at committed
  · next idle up =>
    cases committed
    have own := sound.jobs job (mem_of_getElem? here)
    have all : job.effects = job.own.effects := by
      rw [effects_eq, up]
      rfl
    have once := own.once
    rw [all] at once
    refine ⟨fun other mem => ?_, fun effect mem => ?_, once, ?_⟩
    · obtain ⟨j, there⟩ := mem_iff_getElem?.mp mem
      rcases Calls.getElem?_replaced here there with ⟨-, rfl⟩ | ⟨apart, old⟩
      · exact RuleJob.Sound.empty once
      · rw [← all]
        exact (sound.jobs other (mem_of_getElem? old)).beside own
          (sound.apart i j job other here old (Ne.symm apart))
    · rcases mem_append.mp mem with added | old
      · have kept := own.kept
        rw [up] at kept
        exact (kept effect added).2.mono (subset_append_left _ _)
      · exact (sound.rows effect old).mono (subset_append_right _ _)
    · exact (sound.putLess here (RuleJob.Sound.empty sound.once) (nil_subset _)).apart
  · cases committed

theorem Sound.next {label : RuleLabel} (sound : w.Sound) (settled : w.Settled label)
    (stepped : w.step label = some w') : w'.Sound := by
  have member {i : Nat} {job : RuleJob} (here : w.jobs[i]? = some job) :
      job.Sound w.events w.effects :=
    sound.jobs job (mem_of_getElem? here)
  cases label with
  | deliver transitionEventId depth rules =>
    cases stepped
    refine sound.deliver transitionEventId depth rules _ ?_
    split
    · exact .inr rfl
    · exact .inl rfl
  | turn i applies execId =>
    obtain ⟨job, here, turned'⟩ := bind_eq_some_iff.mp stepped
    obtain ⟨job', taken, rfl⟩ := map_eq_some_iff.mp turned'
    have settled' : applies → ∀ event ∈ job.event, ∀ rule ∈ event.rules.head?,
        ∀ lock ∈ event.lock rule, ¬ w.PartlyDone job lock := by
      rintro rfl
      exact settled job here
    obtain ⟨next, locks⟩ := turned (member here) sound.rows settled' taken
    exact sound.put here next locks
  | act i outcome =>
    simp only [step] at stepped
    split at stepped
    · cases stepped
    · next fresh =>
      obtain ⟨job, here, acted'⟩ := bind_eq_some_iff.mp stepped
      obtain ⟨job', acted, rfl⟩ := map_eq_some_iff.mp acted'
      have new : ∀ transitionEventId ∈ outcome.events, transitionEventId ∉ w.events := by
        intro transitionEventId mem seen
        exact fresh (List.any_eq_true.mpr ⟨transitionEventId, mem, contains_iff_mem.mpr seen⟩)
      have more := sound.moreEvents outcome.events
      have next := (member here).act new acted
      exact Sound.putLess more here next (locks_act acted)
  | complete i =>
    obtain ⟨job, here, completed'⟩ := bind_eq_some_iff.mp stepped
    obtain ⟨job', completed, rfl⟩ := map_eq_some_iff.mp completed'
    exact sound.putLess here ((member here).complete completed) (locks_complete completed)
  | leave i =>
    obtain ⟨job, here, left'⟩ := bind_eq_some_iff.mp stepped
    obtain ⟨job', left, rfl⟩ := map_eq_some_iff.mp left'
    refine sound.putLess here ((member here).leave left) ?_
    rw [locks_leave left]
    exact Subset.refl _
  | throws i =>
    obtain ⟨job, here, thrown'⟩ := bind_eq_some_iff.mp stepped
    obtain ⟨job', thrown, rfl⟩ := map_eq_some_iff.mp thrown'
    exact sound.putLess here ((member here).throws thrown) (locks_throws thrown)
  | commit i =>
    obtain ⟨job, here, committed⟩ := bind_eq_some_iff.mp stepped
    exact sound.commit here committed
  | abort i =>
    obtain ⟨job, here, rfl⟩ := map_eq_some_iff.mp stepped
    exact sound.putLess here (RuleJob.Sound.empty sound.once) (nil_subset _)

end RuleWorld

/-- In a run of the system in which no rule is run for a transition after a degraded run of it
that has performed an action, what an action of a rule does for a transition is committed at most
once. -/
theorem actions_applied_once (labels : List RuleLabel)
    (guarded : Guarded RuleWorld.step RuleWorld.Settled {} labels) :
    Always RuleWorld.step RuleWorld.AppliedOnce {} labels :=
  guarded.always RuleWorld.Sound.next RuleWorld.Sound.once RuleWorld.Sound.start

namespace RuleWorld

/-! ## Runs -/

def mover : AutomationRule where
  id := 1
  tenantId := 1
  triggerType := "workflow.transitioned"
  actions := [.transition none 40 none]

def caller : AutomationRule where
  id := 2
  tenantId := 1
  triggerType := "workflow.transitioned"
  actions := [.setField none "note" .null, .webhook []]

def moving (skips : Bool) : List RuleLabel :=
  [.deliver (some 90) 0 [mover], .turn 0 true 11, .act 0 (.followedUp 100 [caller]),
    .turn 0 true 12, .act 0 .performed, .act 0 (if skips then .skipped else .performed),
    .complete 0, .leave 0, .complete 0, .leave 0, .commit 0]

/-- The job of transition 100. -/
def delivered : List RuleLabel :=
  [.deliver (some 100) 1 [caller], .turn 1 true 13, .act 1 .performed, .act 1 .performed,
    .complete 1, .leave 1, .commit 1]

def settled (w : RuleWorld) : RuleLabel → Bool
  | .turn i _ _ => w.jobs[i]?.all fun job =>
      (job.executions ++ w.executions).all fun row => row.status != .degraded
  | _ => true

theorem settled_sound {w : RuleWorld} {label : RuleLabel} (checked : w.settled label) :
    w.Settled label := by
  cases label with
  | turn i applies execId =>
    cases applies with
    | false => trivial
    | true =>
      rintro job here event - rule - lock - ⟨row, mem, -, degraded, -⟩
      unfold settled at checked
      rw [Option.all_eq_true] at checked
      have ended := List.all_eq_true.mp (checked job here) row mem
      rw [degraded] at ended
      cases ended
  | _ => trivial

end RuleWorld

/-- A transition is followed up on, and its outbox row is delivered. -/
theorem delivered_transition_skipped :
    Always RuleWorld.step RuleWorld.AppliedOnce {}
      (RuleWorld.moving false ++ [.deliver (some 100) 1 [RuleWorld.caller], .turn 1 true 13]) :=
  actions_applied_once _ (Guarded.of_check RuleWorld.settled_sound (by decide +kernel))

/-- The circuit of webhooks is open when the transition is followed up on, and closed when its
outbox row is delivered: the field is set twice. -/
theorem degraded_run_repeated :
    ¬ ∀ labels : List RuleLabel, Always RuleWorld.step RuleWorld.AppliedOnce {} labels := by
  intro once
  have always := once (RuleWorld.moving true ++ RuleWorld.delivered)
  have twice : (run RuleWorld.step {} (RuleWorld.moving true ++ RuleWorld.delivered)).any
      (fun w => decide ¬ (w.effects.map fun effect => (effect.lock, effect.action)).Nodup) =
        true := by
    decide +kernel
  obtain ⟨w, ran, found⟩ := (Option.any_eq_true _ _).mp twice
  exact of_decide_eq_true found (always.last ran)

end OpenWind
