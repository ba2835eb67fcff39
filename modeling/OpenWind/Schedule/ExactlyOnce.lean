import OpenWind.Schedule.Tick
import OpenWind.Lib.Shares

/-!
# Slots that are fired exactly once

When no claim leaves a slot out, a rule that catches up fires every slot once.
-/

open List Option Bool Function

namespace OpenWind

open Runs

/-! ## The fires of a claim -/

theorem getMissedFires_loop (cron : Slots) (before : Time) (maxFires : Nat) (fuel : Nat)
    (cursor : Time) (found : List Time) :
    getMissedFires.loop cron before maxFires fuel cursor (lastOf maxFires found) found.length =
      (lastOf maxFires (found ++ cron.walk before fuel cursor),
        (found ++ cron.walk before fuel cursor).length) := by
  induction fuel generalizing cursor found with
  | zero => rw [getMissedFires.loop, Slots.walk, append_nil]
  | succ fuel ih =>
    rw [getMissedFires.loop, Slots.walk]
    by_cases past : before ≤ cron.next cursor
    · rw [if_pos past, if_pos past, append_nil]
    · have longer : found.length + 1 = (found ++ [cron.next cursor]).length := by
        rw [length_append, length_singleton]
      rw [if_neg past, if_neg past, window_lastOf, longer, ih, append_assoc, singleton_append]

theorem getMissedFires_eq (cron : Slots) (after before : Time) (maxFires : Nat) :
    getMissedFires cron after before maxFires =
      (lastOf maxFires (cron.between after before), (cron.between after before).length) := by
  have empty : lastOf maxFires ([] : List Time) = [] := lastOf_of_le (Nat.zero_le _)
  have loop := getMissedFires_loop cron before maxFires (before - after) after []
  rw [nil_append, empty] at loop
  exact loop

def missedSlots (cron : Slots) (originalScheduledAt now : Time) : List Time :=
  originalScheduledAt :: cron.between originalScheduledAt now

theorem handleCatchUp_fires {cron : Slots} {config : ScheduleConfig} {rule : ScheduleRule}
    {originalScheduledAt now : Time} (catches : rule.catchUp)
    (few : (missedSlots cron originalScheduledAt now).length ≤ config.catchUpMax) :
    (handleCatchUp cron config rule originalScheduledAt now).fires =
        missedSlots cron originalScheduledAt now ∧
      (handleCatchUp cron config rule originalScheduledAt now).skips = [] := by
  have fewer : (cron.between originalScheduledAt now).length ≤ config.catchUpMax :=
    Nat.le_trans (Nat.le_succ _) few
  unfold handleCatchUp
  rw [getMissedFires_eq, lastOf_of_le fewer, if_pos catches]
  exact ⟨lastOf_of_le few, rfl⟩

/-! ## The condition -/

def Complete (cron : Slots) (config : ScheduleConfig) (originalScheduledAt now : Time) : Prop :=
  if isOverdue config originalScheduledAt now then
    ¬ cron.slot now ∧ (missedSlots cron originalScheduledAt now).length ≤ config.catchUpMax
  else now < cron.next originalScheduledAt

def ScheduleState.Covers (cron : Slots) (config : ScheduleConfig) (w : ScheduleState) :
    TickLabel → Prop
  | .lock worker => ∀ now rule, w.ticks worker = some (.due now rule) → w.rule.isDue now = true →
      match w.lock with
      | none => ∃ originalScheduledAt, rule.nextFireAt = some originalScheduledAt ∧
          w.rule.nextFireAt = some originalScheduledAt ∧
          Complete cron config originalScheduledAt now
      | some holder => ∀ now' rule' claimed, w.ticks holder = some (.locked now' rule' claimed) →
          now < cron.next now'
  | _ => True

/-- The slots that have been fired. -/
def ScheduleState.fired (w : ScheduleState) : List Time :=
  (w.executions.filter fun execution => execution.status != .skipped).map (·.scheduledAt)

structure ScheduleState.ExactlyOnce (cron : Slots) (first : Time) (w : ScheduleState) : Prop where
  once : ∀ s, w.fired.count s ≤ 1
  all : (∀ worker, w.ticks worker = none) →
    ∀ s last, w.lastTick = some last → cron.slot s → first ≤ s → s ≤ last → w.fired.count s = 1

/-- The worker whose tick a label moves. -/
def TickLabel.worker : TickLabel → Nat
  | .start worker _ => worker
  | .poll worker => worker
  | .lock worker => worker
  | .commit worker => worker
  | .fire worker _ => worker
  | .skip worker => worker

/-! ## The fires of a complete claim -/

theorem plan_complete {cron : Slots} {config : ScheduleConfig} {claimed : ScheduleRule}
    {originalScheduledAt now first : Time} (catches : claimed.catchUp)
    (complete : Complete cron config originalScheduledAt now) (due : originalScheduledAt ≤ now)
    (since : cron.From first originalScheduledAt) :
    (plan cron config claimed originalScheduledAt now).skips = [] ∧
    (plan cron config claimed originalScheduledAt now).fires.Nodup ∧
    (plan cron config claimed originalScheduledAt now).fires ≠ [] ∧
    ∀ s, s ∈ (plan cron config claimed originalScheduledAt now).fires ↔
      cron.From first s ∧ originalScheduledAt ≤ s ∧ s < cron.next now := by
  unfold plan
  unfold Complete at complete
  by_cases overdue : isOverdue config originalScheduledAt now = true
  · rw [if_pos overdue] at complete ⊢
    obtain ⟨fires, skips⟩ := @handleCatchUp_fires _ _ claimed _ _ catches complete.2
    rw [fires, skips]
    have sorted : (missedSlots cron originalScheduledAt now).Pairwise (· < ·) :=
      Pairwise.cons (fun s mem => (Slots.mem_between.mp mem).2.1) (Slots.between_sorted _ _)
    refine ⟨rfl, sorted.imp Nat.ne_of_lt, cons_ne_nil _ _, fun s => ?_⟩
    unfold missedSlots
    rw [mem_cons, Slots.mem_between]
    constructor
    · rintro (rfl | ⟨slot, after, before⟩)
      · exact ⟨since, Nat.le_refl _, Nat.lt_of_le_of_lt due (cron.later now)⟩
      · refine ⟨⟨Nat.le_trans since.1 (Nat.le_of_lt after), Or.inr slot⟩, Nat.le_of_lt after, ?_⟩
        exact Nat.lt_trans before (cron.later now)
    · rintro ⟨within, after, before⟩
      rcases Nat.eq_or_lt_of_le after with same | after
      · exact Or.inl same.symm
      · have slot := within.slot (Nat.lt_of_le_of_lt since.1 after)
        refine Or.inr ⟨slot, after, ?_⟩
        by_contra reached
        rcases Nat.eq_or_lt_of_le (Nat.not_lt.mp reached) with same | later
        · exact complete.1 (same ▸ slot)
        · exact absurd (cron.least slot later) (Nat.not_le.mpr before)
  · rw [if_neg overdue] at complete ⊢
    have next_eq : cron.next originalScheduledAt = cron.next now := Slots.next_eq due complete
    refine ⟨rfl, nodup_singleton _, cons_ne_nil _ _, fun s => ?_⟩
    rw [mem_singleton]
    constructor
    · rintro rfl
      exact ⟨since, Nat.le_refl _, Nat.lt_of_le_of_lt due (cron.later now)⟩
    · rintro ⟨within, after, before⟩
      rcases Nat.eq_or_lt_of_le after with same | after
      · exact same.symm
      · have slot := within.slot (Nat.lt_of_le_of_lt since.1 after)
        have reached := cron.least slot after
        rw [next_eq] at reached
        exact absurd reached (Nat.not_le.mpr before)

/-! ## The invariant -/

/-- The slots that a tick has still to fire. -/
def Tick.pending : Tick → List Time
  | .handling _ fires _ => fires
  | _ => []

def ScheduleState.pending (w : ScheduleState) (worker : Nat) : List Time :=
  (w.ticks worker).elim [] Tick.pending

def ScheduleRule.At (cron : Slots) (first next : Time) (rule : ScheduleRule) : Prop :=
  rule.status = .active ∧ rule.deletedAt = none ∧ rule.catchUp = true ∧
    rule.nextFireAt = some next ∧ cron.From first next

theorem ScheduleRule.At.isDue {cron : Slots} {first next : Time} {rule : ScheduleRule}
    (at_ : rule.At cron first next) (now : Time) : rule.isDue now = decide (next ≤ now) := by
  unfold ScheduleRule.isDue
  rw [at_.1, at_.2.1, at_.2.2.2.1]
  simp

def Tick.Sound (cron : Slots) (config : ScheduleConfig) (next : Time) : Tick → Prop
  | .locked now rule claimed =>
    rule.nextFireAt = some next ∧ claimed.catchUp = true ∧ next ≤ now ∧
      Complete cron config next now
  | .handling _ fires skips => fires ≠ [] ∧ skips = []
  | _ => True

def Tick.Minds (cron : Slots) (last : Time) : Tick → Prop
  | .started now => now = last
  | .due now _ => now = last
  | .locked now _ _ => last < cron.next now
  | .handling _ _ _ => False

def ScheduleState.Minds (cron : Slots) (next : Time) (w : ScheduleState) : Prop :=
  ∀ last, w.lastTick = some last →
    last < next ∨ ∃ worker tick, w.ticks worker = some tick ∧ tick.Minds cron last

structure ScheduleState.Accounted (cron : Slots) (config : ScheduleConfig) (first : Time)
    (w : ScheduleState) (next : Time) : Prop where
  row : w.rule.At cron first next
  ticks : ∀ {worker tick}, w.ticks worker = some tick → tick.Sound cron config next
  holder : ∀ {worker now rule claimed}, w.ticks worker = some (.locked now rule claimed) →
    w.lock = some worker
  held : ∀ {worker}, w.lock = some worker →
    ∃ now rule claimed, w.ticks worker = some (.locked now rule claimed)
  minds : w.Minds cron next
  shares : Shares (fun s => cron.From first s ∧ s < next) w.fired w.pending

theorem ScheduleState.pending_put (w : ScheduleState) (worker : Nat) (tick : Option Tick) :
    (w.put worker tick).pending = Function.update w.pending worker (tick.elim [] Tick.pending) := by
  funext i
  change (Function.update w.ticks worker tick i).elim [] Tick.pending = _
  by_cases same : i = worker
  · subst same
    rw [update_self, update_self]
  · rw [update_of_ne same, update_of_ne same]
    rfl

variable {w w' : ScheduleState} {l : TickLabel} {cron : Slots} {config : ScheduleConfig}

theorem ScheduleState.pending_of {worker : Nat} {tick : Tick} (entry : w.ticks worker = some tick) :
    w.pending worker = tick.pending := by
  unfold ScheduleState.pending
  rw [entry]
  rfl

namespace ScheduleState.Accounted

variable {cron : Slots} {config : ScheduleConfig} {first next : Time} {w : ScheduleState}

section

variable (sound : w.Accounted cron config first next)

include sound

theorem put {worker : Nat} {tick : Option Tick}
    (lastTick : Option Time) (lock : Option Nat)
    (idle : w.pending worker = []) (idle' : tick.elim [] Tick.pending = [])
    (known : ∀ t, tick = some t → t.Sound cron config next)
    (holder : ∀ {i now rule claimed},
      Function.update w.ticks worker tick i = some (.locked now rule claimed) → lock = some i)
    (held : ∀ {i}, lock = some i →
      ∃ now rule claimed, Function.update w.ticks worker tick i = some (.locked now rule claimed))
    (minds : ScheduleState.Minds cron next { w.put worker tick with lastTick, lock }) :
    ScheduleState.Accounted cron config first { w.put worker tick with lastTick, lock } next := by
  have pending : (w.put worker tick).pending = w.pending := by
    rw [pending_put, idle', ← idle, update_eq_self]
  refine { sound with
    ticks := ?_, holder := holder, held := held, minds := minds, shares := ?_ }
  · intro i t entry
    by_cases same : i = worker
    · subst same
      change Function.update w.ticks i tick i = some t at entry
      rw [update_self] at entry
      exact known t entry
    · change Function.update w.ticks worker tick i = some t at entry
      rw [update_of_ne same] at entry
      exact sound.ticks entry
  · change Shares _ w.fired (w.put worker tick).pending
    rw [pending]
    exact sound.shares

theorem move {worker : Nat} {tick : Option Tick} (lastTick : Option Time)
    (idle : w.pending worker = []) (idle' : tick.elim [] Tick.pending = [])
    (known : ∀ t, tick = some t → t.Sound cron config next) (unlocked : w.lock ≠ some worker)
    (unlocked' : ∀ now rule claimed, tick ≠ some (.locked now rule claimed))
    (minds : ScheduleState.Minds cron next { w.put worker tick with lastTick }) :
    ScheduleState.Accounted cron config first { w.put worker tick with lastTick } next := by
  refine sound.put lastTick w.lock idle idle' known (fun {i now rule claimed} entry => ?_)
    (fun {i} lock => ?_) minds
  · by_cases same : i = worker
    · subst same
      rw [update_self] at entry
      exact absurd entry (unlocked' now rule claimed)
    · rw [update_of_ne same] at entry
      exact sound.holder entry
  · have other : i ≠ worker := by
      rintro rfl
      exact unlocked lock
    obtain ⟨now, rule, claimed, entry⟩ := sound.held lock
    exact ⟨now, rule, claimed, (update_of_ne other _ _).trans entry⟩

theorem not_holder {worker : Nat}
    (unlocked : ∀ now rule claimed, w.ticks worker ≠ some (.locked now rule claimed)) :
    w.lock ≠ some worker := by
  intro lock
  obtain ⟨now, rule, claimed, entry⟩ := sound.held lock
  exact unlocked now rule claimed entry

theorem minds_put {worker : Nat} {tick : Option Tick}
    (lock : Option Nat)
    (own : ∀ last old, w.ticks worker = some old → old.Minds cron last →
      last < next ∨ ∃ i t, Function.update w.ticks worker tick i = some t ∧ t.Minds cron last) :
    ScheduleState.Minds cron next { w.put worker tick with lock } := by
  intro last ticked
  rcases sound.minds last ticked with ahead | ⟨i, old, entry, minds⟩
  · exact Or.inl ahead
  · by_cases same : i = worker
    · subst same
      exact own last old entry minds
    · exact Or.inr ⟨i, old, (update_of_ne same _ _).trans entry, minds⟩

theorem start {worker : Nat} {now : Time} (free : w.ticks worker = none) :
    ScheduleState.Accounted cron config first
      { w.put worker (some (.started now)) with lastTick := some now } next := by
  have idle : w.pending worker = [] := by
    unfold ScheduleState.pending
    rw [free]
    rfl
  have unlocked : w.lock ≠ some worker :=
    sound.not_holder fun _ _ _ entry => nomatch free.symm.trans entry
  refine sound.move (some now) idle rfl ?_ unlocked (fun _ _ _ same => nomatch same) ?_
  · rintro t ⟨⟩
    trivial
  · rintro last ⟨⟩
    exact Or.inr ⟨worker, .started now, update_self _ _ _, rfl⟩

theorem poll {worker : Nat} {w' : ScheduleState}
    (stepped : w.poll worker = some w') : w'.Accounted cron config first next := by
  unfold ScheduleState.poll at stepped
  split at stepped
  · next now entry =>
    have idle : w.pending worker = [] := pending_of entry
    have unlocked : w.lock ≠ some worker :=
      sound.not_holder fun _ _ _ entry' => nomatch entry.symm.trans entry'
    split at stepped
    · next due =>
      cases stepped
      refine sound.move w.lastTick idle rfl ?_ unlocked (fun _ _ _ same => nomatch same) ?_
      · rintro t ⟨⟩
        trivial
      · refine sound.minds_put w.lock fun last old entry' minds => ?_
        cases entry.symm.trans entry'
        exact Or.inr ⟨worker, .due now w.rule, update_self _ _ _, minds⟩
    · next ahead =>
      cases stepped
      refine sound.move w.lastTick idle rfl (fun _ same => nomatch same) unlocked
        (fun _ _ _ same => nomatch same) ?_
      refine sound.minds_put w.lock fun last old entry' minds => ?_
      cases entry.symm.trans entry'
      left
      by_contra reached
      refine ahead (and_eq_true_iff.mpr ⟨?_, by rw [sound.row.2.2.2.1]; rfl⟩)
      rw [sound.row.isDue]
      exact decide_eq_true (minds ▸ Nat.not_lt.mp reached)
  · cases stepped

theorem lockRule {worker : Nat} {w' : ScheduleState} (covers : w.Covers cron config (.lock worker))
    (stepped : w.lockRule worker = some w') : w'.Accounted cron config first next := by
  unfold ScheduleState.lockRule at stepped
  split at stepped
  · next now rule entry =>
    have idle : w.pending worker = [] := pending_of entry
    have unlocked : w.lock ≠ some worker :=
      sound.not_holder fun _ _ _ entry' => nomatch entry.symm.trans entry'
    split at stepped
    · next granted =>
      obtain ⟨due, free⟩ := and_eq_true_iff.mp granted
      have free : w.lock = none := isNone_iff_eq_none.mp free
      have covers := covers now rule entry due
      rw [free] at covers
      obtain ⟨original, polled, current, complete⟩ := covers
      cases sound.row.2.2.2.1.symm.trans current
      rw [sound.row.isDue] at due
      cases stepped
      refine sound.put w.lastTick (some worker) idle rfl ?_ ?_ ?_ ?_
      · rintro t ⟨⟩
        exact ⟨polled, sound.row.2.2.1, of_decide_eq_true due, complete⟩
      · intro i now' rule' claimed entry'
        by_cases same : i = worker
        · exact congrArg some same.symm
        · rw [update_of_ne same] at entry'
          cases free.symm.trans (sound.holder entry')
      · rintro i ⟨⟩
        exact ⟨now, rule, w.rule, update_self _ _ _⟩
      · refine sound.minds_put (some worker) fun last old entry' minds => ?_
        cases entry.symm.trans entry'
        refine Or.inr ⟨worker, .locked now rule w.rule, update_self _ _ _, ?_⟩
        exact Nat.lt_of_le_of_lt (Nat.le_of_eq minds.symm) (cron.later now)
    · next refused =>
      cases stepped
      refine sound.move w.lastTick idle rfl (fun _ same => nomatch same) unlocked
        (fun _ _ _ same => nomatch same) ?_
      refine sound.minds_put w.lock fun last old entry' minds => ?_
      cases entry.symm.trans entry'
      have minds : now = last := minds
      by_cases due : w.rule.isDue now = true
      · have covers := covers now rule entry due
        cases lock : w.lock with
        | none => exact absurd (and_eq_true_iff.mpr ⟨due, by rw [lock]; rfl⟩) refused
        | some holder =>
          rw [lock] at covers
          obtain ⟨now', rule', claimed, entry''⟩ := sound.held lock
          have other : holder ≠ worker := by
            rintro rfl
            exact unlocked lock
          refine Or.inr ⟨holder, .locked now' rule' claimed, ?_, ?_⟩
          · exact (update_of_ne other _ _).trans entry''
          · exact minds ▸ covers now' rule' claimed entry''
      · rw [sound.row.isDue, decide_eq_true_eq] at due
        exact Or.inl (minds ▸ Nat.not_le.mp due)
  · cases stepped

theorem commit {worker : Nat} {w' : ScheduleState}
    (stepped : w.commit cron config worker = some w') :
    ∃ next', w'.Accounted cron config first next' := by
  unfold ScheduleState.commit at stepped
  split at stepped
  · next now rule claimed entry =>
    obtain ⟨polled, catches, due, complete⟩ := sound.ticks entry
    obtain ⟨skips, nodup, nonempty, fires⟩ :=
      @plan_complete _ _ _ _ _ first catches complete due sound.row.2.2.2.2
    rw [polled, map_some] at stepped
    cases stepped
    have before : ∀ i, i ≠ worker → ∀ now' rule' claimed',
        w.ticks i ≠ some (.locked now' rule' claimed') := by
      intro i other now' rule' claimed' entry'
      exact other (Option.some.inj ((sound.holder entry').symm.trans (sound.holder entry)))
    have advance : next < cron.next now := Nat.lt_of_le_of_lt due (cron.later now)
    have idle : w.pending worker = [] := pending_of entry
    generalize plan cron config claimed next now = handled at skips nodup nonempty fires
    have mine : Function.update w.ticks worker (some (Tick.handling now handled.fires handled.skips))
        worker = some (.handling now handled.fires handled.skips) := update_self _ _ _
    have other : ∀ {i}, i ≠ worker → Function.update w.ticks worker
        (some (Tick.handling now handled.fires handled.skips)) i = w.ticks i :=
      fun {i} distinct => update_of_ne distinct _ _
    refine ⟨cron.next now, ?_, ?_, ?_, ?_, ?_, ?_⟩
    · refine ⟨sound.row.1, sound.row.2.1, sound.row.2.2.1, rfl, ?_, Or.inr (cron.isSlot now)⟩
      exact Nat.le_trans sound.row.2.2.2.2.1 (Nat.le_of_lt advance)
    · intro i t entry'
      by_cases same : i = worker
      · subst same
        cases mine.symm.trans entry'
        exact ⟨nonempty, skips⟩
      · have entry' := (other same).symm.trans entry'
        cases t with
        | locked now' rule' claimed' => exact absurd entry' (before i same now' rule' claimed')
        | started now' => trivial
        | due now' rule' => trivial
        | handling now' fires' skips' => exact sound.ticks entry'
    · intro i now' rule' claimed' entry'
      by_cases same : i = worker
      · subst same
        cases mine.symm.trans entry'
      · exact absurd ((other same).symm.trans entry') (before i same now' rule' claimed')
    · exact fun {i} lock => nomatch lock
    · intro last ticked
      rcases sound.minds last ticked with ahead | ⟨i, t, entry', minds⟩
      · exact Or.inl (Nat.lt_trans ahead advance)
      · by_cases same : i = worker
        · subst same
          cases entry.symm.trans entry'
          exact Or.inl minds
        · exact Or.inr ⟨i, t, (other same).trans entry', minds⟩
    · have taken := sound.shares.take idle nodup fun s fire old =>
        absurd old.2 (Nat.not_lt.mpr ((fires s).mp fire).2.1)
      change Shares _ w.fired (w.put worker (some (.handling now handled.fires handled.skips))).pending
      rw [pending_put]
      refine taken.congr fun s => ⟨?_, fun slot => ?_⟩
      · rintro (old | fire)
        · exact ⟨old.1, Nat.lt_trans old.2 advance⟩
        · exact ⟨((fires s).mp fire).1, ((fires s).mp fire).2.2⟩
      · rcases Nat.lt_or_ge s next with early | late
        · exact Or.inl ⟨slot.1, early⟩
        · exact Or.inr ((fires s).mpr ⟨slot.1, late, slot.2⟩)
  · cases stepped

theorem fire {worker : Nat} {succeeds : Bool} {w' : ScheduleState}
    (stepped : w.fire worker succeeds = some w') : w'.Accounted cron config first next := by
  unfold ScheduleState.fire at stepped
  split at stepped
  · next now scheduledAt rest skips entry =>
    obtain ⟨_, rfl⟩ := sound.ticks entry
    have pending : w.pending worker = scheduledAt :: rest := pending_of entry
    cases stepped
    generalize tick_eq : (if rest = [] ∧ ([] : List Time) = [] then none
      else some (Tick.handling now rest [])) = tick
    have left : tick.elim [] Tick.pending = rest := by
      rw [← tick_eq]
      by_cases empty : rest = []
      · rw [if_pos ⟨empty, rfl⟩, empty]
        rfl
      · rw [if_neg fun both => empty both.1]
        rfl
    have handles : ∀ t, tick = some t → t = .handling now rest [] ∧ rest ≠ [] := by
      intro t same
      by_cases empty : rest = []
      · rw [if_pos ⟨empty, rfl⟩, same] at tick_eq
        cases tick_eq
      · rw [if_neg fun both => empty both.1, same] at tick_eq
        exact ⟨(Option.some.inj tick_eq).symm, empty⟩
    have mine : Function.update w.ticks worker tick worker = tick := update_self _ _ _
    have other : ∀ {i}, i ≠ worker → Function.update w.ticks worker tick i = w.ticks i :=
      fun {i} distinct => update_of_ne distinct _ _
    refine { sound with ticks := ?_, holder := ?_, held := ?_, minds := ?_, shares := ?_ }
    · intro i t entry'
      by_cases same : i = worker
      · subst same
        obtain ⟨rfl, nonempty⟩ := handles t (mine.symm.trans entry')
        exact ⟨nonempty, rfl⟩
      · exact sound.ticks ((other same).symm.trans entry')
    · intro i now' rule' claimed' entry'
      by_cases same : i = worker
      · subst same
        cases (handles _ (mine.symm.trans entry')).1
      · exact sound.holder ((other same).symm.trans entry')
    · intro i lock
      obtain ⟨now', rule', claimed', entry'⟩ := sound.held lock
      have distinct : i ≠ worker := by
        rintro rfl
        cases entry.symm.trans entry'
      exact ⟨now', rule', claimed', (other distinct).trans entry'⟩
    · intro last ticked
      rcases sound.minds last ticked with ahead | ⟨i, t, entry', minds⟩
      · exact Or.inl ahead
      · have distinct : i ≠ worker := by
          rintro rfl
          cases entry.symm.trans entry'
          exact minds
        exact Or.inr ⟨i, t, (other distinct).trans entry', minds⟩
    · have fired : ScheduleState.fired ((w.put worker tick).record
          ⟨scheduledAt, now, if succeeds then .success else .failed⟩) = w.fired ++ [scheduledAt] := by
        change ((w.executions ++ [_]).filter _).map _ = _
        rw [filter_append, map_append]
        cases succeeds
        · rfl
        · rfl
      have handed := sound.shares.finish pending
      rw [fired]
      change Shares _ _ (w.put worker tick).pending
      rw [pending_put, left]
      exact handed
  · cases stepped

/-- Nothing is skipped. -/
theorem no_skip {worker : Nat}
    {w' : ScheduleState} (stepped : w.skip worker = some w') : False := by
  unfold ScheduleState.skip at stepped
  split at stepped
  · next entry => exact absurd (sound.ticks entry).2 (cons_ne_nil _ _)
  · cases stepped

theorem step {l : TickLabel} {w' : ScheduleState} (covers : w.Covers cron config l)
    (stepped : w.step cron config l = some w') : ∃ next', w'.Accounted cron config first next' := by
  cases l with
  | start worker now =>
    simp only [ScheduleState.step] at stepped
    split at stepped
    · next allowed =>
      cases stepped
      exact ⟨next, sound.start allowed.2⟩
    · cases stepped
  | poll worker => exact ⟨next, sound.poll stepped⟩
  | lock worker => exact ⟨next, sound.lockRule covers stepped⟩
  | commit worker => exact sound.commit stepped
  | fire worker succeeds => exact ⟨next, sound.fire stepped⟩
  | skip worker => exact (sound.no_skip stepped).elim

end

theorem idle {rule : ScheduleRule} (at_ : rule.At cron first first) :
    (ScheduleState.idle rule).Accounted cron config first first where
  row := at_
  ticks entry := nomatch entry
  holder entry := nomatch entry
  held lock := nomatch lock
  minds _ ticked := nomatch ticked
  shares := Shares.none.congr fun _ => ⟨False.elim, fun ⟨slot, early⟩ =>
    absurd early (Nat.not_lt.mpr slot.1)⟩

theorem exactlyOnce (sound : w.Accounted cron config first next) : w.ExactlyOnce cron first where
  once := sound.shares.count_le_one
  all := by
    intro quiet s last ticked slot since reached
    have idle : ∀ i, w.pending i = [] := by
      intro i
      unfold ScheduleState.pending
      rw [quiet i]
      rfl
    refine sound.shares.count_eq_one idle ⟨⟨since, Or.inr slot⟩, ?_⟩
    rcases sound.minds last ticked with ahead | ⟨i, tick, entry, _⟩
    · exact Nat.lt_of_le_of_lt reached ahead
    · cases (quiet i).symm.trans entry

end ScheduleState.Accounted

/-! ## The slots of a rule -/

/-- In a run whose claims leave no slot out, a rule that catches up fires exactly once
at each slot, whatever the tick times and the number of workers. -/
theorem scheduled_slots (cron : Slots) (config : ScheduleConfig) (rule : ScheduleRule)
    (first : Time) (labels : List TickLabel) (active : rule.status = .active)
    (present : rule.deletedAt = none) (catches : rule.catchUp = true)
    (due : rule.nextFireAt = some first)
    (covered : Guarded (ScheduleState.step cron config) (ScheduleState.Covers cron config)
      (.idle rule) labels) :
    Always (ScheduleState.step cron config) (ScheduleState.ExactlyOnce cron first) (.idle rule)
      labels := by
  have start : ∃ next, (ScheduleState.idle rule).Accounted cron config first next :=
    ⟨first, ScheduleState.Accounted.idle ⟨active, present, catches, due, Nat.le_refl _, Or.inl rfl⟩⟩
  refine covered.always (I := fun w => ∃ next, w.Accounted cron config first next) ?_ ?_ start
  · rintro w l w' ⟨next, sound⟩ covers stepped
    exact sound.step covers stepped
  · rintro w ⟨next, sound⟩
    exact sound.exactlyOnce

def everyMinute : Slots where
  slot s := 0 < s ∧ s % 60000 = 0
  next t := (t / 60000 + 1) * 60000
  later t := by omega
  isSlot t := by omega
  least := by omega

def minutelyConfig : ScheduleConfig where
  tickIntervalMs := 60000
  catchUpMax := 24
  catchUpMax_pos := by decide

def minutelyRule : ScheduleRule where
  status := .active
  catchUp := true
  nextFireAt := some 60000
  lastFiredAt := none
  updatedAt := 0
  deletedAt := none

def wholeTick (worker : Nat) (now : Time) (fires : Nat) : List TickLabel :=
  [.start worker now, .poll worker, .lock worker, .commit worker] ++
    replicate fires (.fire worker true)

def ScheduleState.coversAlone (w : ScheduleState) : TickLabel → Bool
  | .lock worker =>
    match w.ticks worker with
    | some (.due now rule) =>
      w.lock.isNone && decide (rule.nextFireAt = w.rule.nextFireAt) &&
        rule.nextFireAt.any fun original =>
          if isOverdue minutelyConfig original now then
            now % 60000 != 0 && decide ((missedSlots everyMinute original now).length ≤ 24)
          else decide (now < everyMinute.next original)
    | _ => true
  | _ => true

theorem ScheduleState.covers_of_coversAlone (check : w.coversAlone l) :
    w.Covers everyMinute minutelyConfig l := by
  cases l with
  | lock worker =>
    intro now rule entry due
    simp only [coversAlone, entry, and_eq_true, decide_eq_true_eq] at check
    obtain ⟨⟨free, same⟩, complete⟩ := check
    rw [isNone_iff_eq_none.mp free]
    obtain ⟨original, polled, complete⟩ := (Option.any_eq_true _ _).mp complete
    refine ⟨original, polled, same.symm.trans polled, ?_⟩
    unfold Complete
    by_cases overdue : isOverdue minutelyConfig original now = true
    · rw [if_pos overdue] at complete ⊢
      obtain ⟨off, few⟩ := and_eq_true_iff.mp complete
      exact ⟨fun slot => bne_iff_ne.mp off slot.2, of_decide_eq_true few⟩
    · rw [if_neg overdue] at complete ⊢
      exact of_decide_eq_true complete
  | _ => trivial

/-- The worker is away for some minutes and catches up between two of them. -/
theorem scheduled_slots_caught_up :
    Always (ScheduleState.step everyMinute minutelyConfig)
      (ScheduleState.ExactlyOnce everyMinute 60000) (.idle minutelyRule)
      (wholeTick 1 60000 1 ++ wholeTick 1 290000 3) :=
  scheduled_slots _ _ _ _ _ rfl rfl rfl rfl
    (Guarded.of_check ScheduleState.covers_of_coversAlone (c := ScheduleState.coversAlone)
      (by decide +kernel))

theorem ScheduleState.step_others {worker : Nat} (other : worker ≠ l.worker)
    (stepped : w.step cron config l = some w') : w'.ticks worker = w.ticks worker := by
  have put {tick : Option Tick} : (w.put l.worker tick).ticks worker = w.ticks worker :=
    update_of_ne other _ _
  revert stepped
  cases l with
  | start i now =>
    rw [ScheduleState.step, Option.ite_none_right_eq_some]
    rintro ⟨-, ⟨⟩⟩
    exact put
  | poll i =>
    rw [ScheduleState.step]
    fun_cases ScheduleState.poll w i <;> intro stepped <;> cases stepped <;> exact put
  | lock i =>
    rw [ScheduleState.step]
    fun_cases ScheduleState.lockRule w i <;> intro stepped <;> cases stepped <;> exact put
  | commit i =>
    rw [ScheduleState.step]
    fun_cases ScheduleState.commit w cron config i <;> intro stepped
    · obtain ⟨original, -, rfl⟩ := map_eq_some_iff.mp stepped
      exact put
    · cases stepped
  | fire i succeeds =>
    rw [ScheduleState.step]
    fun_cases ScheduleState.fire w i succeeds <;> intro stepped <;> cases stepped
    exact put
  | skip i =>
    rw [ScheduleState.step]
    fun_cases ScheduleState.skip w i <;> intro stepped <;> cases stepped
    exact put

theorem ScheduleState.run_others {labels : List TickLabel} {one worker : Nat}
    (own : ∀ l ∈ labels, l.worker = one) (other : worker ≠ one)
    (ran : run (ScheduleState.step cron config) w labels = some w') :
    w'.ticks worker = w.ticks worker := by
  induction labels generalizing w with
  | nil =>
    cases ran
    rfl
  | cons l rest ih =>
    obtain ⟨mid, stepped, ran⟩ := run_cons.mp ran
    have here : worker ≠ l.worker := by
      rw [own l mem_cons_self]
      exact other
    exact (ih (fun l mem => own l (mem_cons_of_mem _ mem)) ran).trans (step_others here stepped)

def ScheduleState.Few (cron : Slots) (config : ScheduleConfig) (w : ScheduleState) :
    TickLabel → Prop
  | .lock worker => ∀ now rule originalScheduledAt, w.ticks worker = some (.due now rule) →
      rule.nextFireAt = some originalScheduledAt →
      (missedSlots cron originalScheduledAt now).length ≤ config.catchUpMax
  | _ => True

def ScheduleState.isFew (w : ScheduleState) : TickLabel → Bool
  | .lock worker =>
    match w.ticks worker with
    | some (.due now rule) => rule.nextFireAt.all fun original =>
        decide ((missedSlots everyMinute original now).length ≤ 24)
    | _ => true
  | _ => true

theorem ScheduleState.few_of_isFew (check : w.isFew l) : w.Few everyMinute minutelyConfig l := by
  cases l with
  | lock worker =>
    intro now rule original entry polled
    simp only [isFew, entry, polled, all_some, decide_eq_true_eq] at check
    exact check
  | _ => trivial

/-- A catch-up on a slot leaves that slot out: it fires those before now, and the
next fire is after now. -/
theorem scheduled_slot_lost :
    ¬ ∀ (cron : Slots) (config : ScheduleConfig) (rule : ScheduleRule) (first : Time)
      (labels : List TickLabel), rule.status = .active → rule.deletedAt = none →
      rule.catchUp = true → rule.nextFireAt = some first →
      Guarded (ScheduleState.step cron config) (ScheduleState.Few cron config) (.idle rule) labels →
      Always (ScheduleState.step cron config) (ScheduleState.ExactlyOnce cron first) (.idle rule)
        labels := by
  intro always
  have few : Guarded (ScheduleState.step everyMinute minutelyConfig)
      (ScheduleState.Few everyMinute minutelyConfig) (.idle minutelyRule)
      (wholeTick 1 60000 1 ++ wholeTick 1 300000 3) :=
    Guarded.of_check ScheduleState.few_of_isFew (c := ScheduleState.isFew) (by decide +kernel)
  have holds := always everyMinute minutelyConfig minutelyRule 60000 _ rfl rfl rfl rfl few
  have lost : (run (ScheduleState.step everyMinute minutelyConfig) (.idle minutelyRule)
      (wholeTick 1 60000 1 ++ wholeTick 1 300000 3)).any (fun w =>
        (w.ticks 1).isNone && decide (w.lastTick = some 300000) &&
          decide (w.fired.count 300000 = 0)) = true := by decide +kernel
  obtain ⟨w, ran, facts⟩ := (Option.any_eq_true _ _).mp lost
  simp only [and_eq_true, decide_eq_true_eq] at facts
  obtain ⟨⟨done, last⟩, unfired⟩ := facts
  have quiet : ∀ worker, w.ticks worker = none := by
    intro worker
    by_cases same : worker = 1
    · subst same
      exact isNone_iff_eq_none.mp done
    · exact (ScheduleState.run_others (by decide) same ran).trans rfl
  have fired := (holds.last ran).all quiet 300000 300000 last ⟨by decide, by decide⟩ (by decide)
    (Nat.le_refl _)
  cases unfired.symm.trans fired

end OpenWind
