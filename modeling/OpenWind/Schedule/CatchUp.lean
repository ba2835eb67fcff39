import OpenWind.Schedule.ExactlyOnce

/-!
# Catching up
-/

open List

namespace OpenWind

/-- What a catch-up has done; the counts are what it returns. -/
structure CatchUp where
  attempted : List Time := []
  recorded : List Time := []
  skipped : Nat
  failed : Nat := 0

/-- `fireRule`, whose failure is counted and does not stop the others. -/
def CatchUp.attempt (fails : Time → Bool) (done : CatchUp) (scheduledAt : Time) : CatchUp :=
  { done with
    attempted := done.attempted ++ [scheduledAt]
    failed := done.failed + if fails scheduledAt then 1 else 0 }

def CatchUp.record (done : CatchUp) (scheduledAt : Time) : CatchUp :=
  { done with recorded := done.recorded ++ [scheduledAt] }

def catchUp (cron : Slots) (config : ScheduleConfig) (rule : ScheduleRule)
    (originalScheduledAt now : Time) (fails : Time → Bool) : CatchUp :=
  let handled := handleCatchUp cron config rule originalScheduledAt now
  handled.skips.foldl CatchUp.record
    (handled.fires.foldl (CatchUp.attempt fails) { skipped := handled.skipped })

theorem CatchUp.foldl_attempt (fails : Time → Bool) (fires : List Time) (done : CatchUp) :
    fires.foldl (CatchUp.attempt fails) done =
      { done with
        attempted := done.attempted ++ fires
        failed := done.failed + fires.countP fails } := by
  induction fires generalizing done with
  | nil => rw [append_nil]; rfl
  | cons scheduledAt rest ih =>
    rw [foldl_cons, ih]
    unfold CatchUp.attempt
    rw [append_assoc, singleton_append, countP_cons, Nat.add_assoc, Nat.add_comm (ite _ _ _)]

theorem CatchUp.foldl_record (skips : List Time) (done : CatchUp) :
    skips.foldl CatchUp.record done = { done with recorded := done.recorded ++ skips } := by
  induction skips generalizing done with
  | nil => rw [append_nil]; rfl
  | cons scheduledAt rest ih =>
    rw [foldl_cons, ih]
    unfold CatchUp.record
    rw [append_assoc, singleton_append]

section Newest

variable {α : Type} {n : Nat}

theorem lastOf_cons_lastOf (first : α) (rest : List α) :
    lastOf n (first :: lastOf n rest) = lastOf n (first :: rest) := by
  unfold lastOf
  by_cases short : rest.length ≤ n
  · rw [Nat.sub_eq_zero_of_le short, drop_zero]
  · obtain ⟨more, longer⟩ := Nat.exists_eq_add_of_lt (Nat.not_le.mp short)
    have kept : (rest.drop (rest.length - n)).length = n := by
      rw [length_drop]
      omega
    rw [length_cons, kept, length_cons, Nat.add_sub_cancel_left, drop_one, tail_cons, longer]
    have one : n + more + 1 + 1 - n = n + more + 1 - n + 1 := by omega
    rw [one, drop_succ_cons]

theorem length_lastOf (entries : List α) : (lastOf n entries).length = min entries.length n := by
  unfold lastOf
  rw [length_drop]
  omega

theorem lastOf_min (entries : List α) : lastOf (min entries.length n) entries = lastOf n entries := by
  unfold lastOf
  congr 1
  omega

end Newest

theorem missedSlots_sorted (cron : Slots) (originalScheduledAt now : Time) :
    (missedSlots cron originalScheduledAt now).Pairwise (· < ·) :=
  Pairwise.cons (fun _ mem => (Slots.mem_between.mp mem).2.1) (Slots.between_sorted _ _)

theorem mem_missedSlots {cron : Slots} {originalScheduledAt now s : Time}
    (due : originalScheduledAt < now) :
    s ∈ missedSlots cron originalScheduledAt now ↔ cron.From originalScheduledAt s ∧ s < now := by
  unfold missedSlots Slots.From
  rw [mem_cons, Slots.mem_between]
  constructor
  · rintro (rfl | ⟨slot, after, before⟩)
    · exact ⟨⟨Nat.le_refl s, Or.inl rfl⟩, due⟩
    · exact ⟨⟨Nat.le_of_lt after, Or.inr slot⟩, before⟩
  · rintro ⟨⟨after, rfl | slot⟩, before⟩
    · exact Or.inl rfl
    · rcases Nat.eq_or_lt_of_le after with same | later
      · exact Or.inl same.symm
      · exact Or.inr ⟨slot, later, before⟩

/-- A catch-up keeps the last of the missed slots. -/
theorem handleCatchUp_eq (cron : Slots) (config : ScheduleConfig) (rule : ScheduleRule)
    (originalScheduledAt now : Time) :
    let missed := missedSlots cron originalScheduledAt now
    let newest := lastOf config.catchUpMax missed
    handleCatchUp cron config rule originalScheduledAt now =
      if rule.catchUp then ⟨newest, [], missed.length - newest.length⟩
      else ⟨[], newest, missed.length⟩ := by
  unfold handleCatchUp missedSlots
  rw [getMissedFires_eq]
  simp only [lastOf_cons_lastOf, length_cons]

/-- The newest missed slots, as many as the cap allows, are attempted in order whatever fails, or
recorded when the rule does not catch up; the others are counted. -/
theorem catch_up_accounts (cron : Slots) (config : ScheduleConfig) (rule : ScheduleRule)
    {originalScheduledAt now : Time} (fails : Time → Bool) (due : originalScheduledAt < now) :
    ∃ missed : List Time, missed.Pairwise (· < ·) ∧
      (∀ s, s ∈ missed ↔ cron.From originalScheduledAt s ∧ s < now) ∧
      let handled := min missed.length config.catchUpMax
      let newest := lastOf handled missed
      newest.length = handled ∧
        catchUp cron config rule originalScheduledAt now fails =
          if rule.catchUp then
            { attempted := newest, recorded := [], skipped := missed.length - handled
              failed := newest.countP fails }
          else { attempted := [], recorded := newest, skipped := missed.length, failed := 0 } := by
  refine ⟨missedSlots cron originalScheduledAt now, missedSlots_sorted _ _ _,
    fun s => mem_missedSlots due, ?_⟩
  intro handled newest
  have newest_eq : newest = lastOf config.catchUpMax (missedSlots cron originalScheduledAt now) :=
    lastOf_min _
  have length : newest.length = handled := by rw [newest_eq, length_lastOf]
  refine ⟨length, ?_⟩
  unfold catchUp
  rw [handleCatchUp_eq, ← newest_eq, length]
  dsimp only
  split
  · rw [CatchUp.foldl_attempt, foldl_nil, nil_append, Nat.zero_add]
  · rw [foldl_nil, CatchUp.foldl_record, nil_append]

/-- Five missed minutes, of which two are caught up. -/
theorem catch_up_accounts_five :
    ∃ missed : List Time, missed.Pairwise (· < ·) ∧
      (∀ s, s ∈ missed ↔ everyMinute.From 60000 s ∧ s < 330000) ∧
      let handled := min missed.length 2
      let newest := lastOf handled missed
      newest.length = handled ∧
        catchUp everyMinute ⟨60000, 2, by decide⟩ minutelyRule 60000 330000 (fun _ => true) =
          if minutelyRule.catchUp then
            { attempted := newest, recorded := [], skipped := missed.length - handled
              failed := newest.countP fun _ => true }
          else { attempted := [], recorded := newest, skipped := missed.length, failed := 0 } :=
  catch_up_accounts everyMinute ⟨60000, 2, by decide⟩ minutelyRule (fun _ => true) (by decide)

end OpenWind
