import OpenWind.Connectors.OutboundJobs

/-!
# Dead letters of outbound deliveries

The steps of an attempt share one handler, which dead-letters the delivery after the last of them,
once it has recorded that the attempts are exhausted.  What it is told may be that the success of an
attempt could not be recorded, and the row of the attempt is inserted outside it.
-/

open List

namespace OpenWind

namespace Outbound

def Effect.deadLetter : Effect → Option String
  | .deadLettered row => some row.deliveryId
  | _ => none

/-- The deliveries of the dead letters. -/
def deadLetters (effects : List Effect) : List String := effects.filterMap Effect.deadLetter

/-- The attempts that are made. -/
def attempted (env : Env) (job : OutboundJob) : Nat → List Attempt → List Attempt
  | _, [] => []
  | attemptNumber, attempt :: rest =>
    attempt :: match (processJob env attempt job attemptNumber).2 with
      | .ok () => []
      | .error _ =>
        if job.maxAttempts ≤ attemptNumber then [] else attempted env job (attemptNumber + 1) rest

def Attempt.Answered (attempt : Attempt) (env : Env) (job : OutboundJob) : Prop :=
  attempt.Begins ∧ ∃ redacted, prepare env attempt.lookup job = .ok redacted ∧
    (send env attempt job redacted).2 = .ok ()

/-- The success of the attempt is recorded. -/
def Attempt.Completes (attempt : Attempt) (env : Env) (job : OutboundJob) : Prop :=
  attempt.Answered env job ∧ attempt.succeeded = .ok ()

def Attempt.Records (attempt : Attempt) : Prop := attempt.Begins ∧ attempt.failed = .ok ()

def Attempt.Regular (attempt : Attempt) : Prop :=
  attempt.active ≠ .ok false ∧ attempt.deadLettered = .ok ()

def Accounted (env : Env) (job : OutboundJob) (attempts : List Attempt) : Prop :=
  let made := attempted env job 1 attempts
  let letters := deadLetters (deliveries env job 1 attempts)
  ((∃ attempt ∈ made, attempt.Answered env job) → letters = []) ∧
    ((∀ attempt ∈ made, ¬ attempt.Answered env job) → made ≠ [] → job.maxAttempts ≤ made.length →
      letters = [job.deliveryId])

def Recorded (env : Env) (job : OutboundJob) (attempts : List Attempt) : Prop :=
  let possible := attempts.take (job.maxAttempts - 1 + 1)
  (∀ attempt ∈ possible, ¬ attempt.Completes env job) →
    ∀ last, attempts[job.maxAttempts - 1]? = some last →
      (last.Records ↔ ∀ attempt ∈ possible, ¬ attempt.Answered env job)

/-! ## An attempt -/

variable {env : Env} {job : OutboundJob} {attempt : Attempt} {attemptNumber : Nat}
  {attempts : List Attempt}

theorem send_deadLetters (redacted : Json) :
    deadLetters (send env attempt job redacted).1 = [] := by
  unfold send
  split
  · rfl
  · split <;> rfl
  · rfl

open Classical in
theorem fail_spec (job : OutboundJob) (attemptNumber : Nat) (regular : attempt.Regular)
    (begins : attempt.Begins) (id : Id) (payload : Json) (message : String) :
    (∃ raised, (fail attempt job attemptNumber id payload message).2 = .error raised) ∧
      deadLetters (fail attempt job attemptNumber id payload message).1 =
        if job.maxAttempts ≤ attemptNumber ∧ attempt.Records then [job.deliveryId] else [] := by
  unfold fail Attempt.Records
  cases failed : attempt.failed with
  | error other => exact ⟨⟨other, rfl⟩, (if_neg fun both => nomatch both.2.2).symm⟩
  | ok =>
    dsimp only
    rw [regular.2]
    split
    · next last => exact ⟨⟨message, rfl⟩, (if_pos ⟨last, begins, rfl⟩).symm⟩
    · next more => exact ⟨⟨message, rfl⟩, (if_neg fun both => more both.1).symm⟩

theorem deadLetters_append (effects effects' : List Effect) :
    deadLetters (effects ++ effects') = deadLetters effects ++ deadLetters effects' :=
  filterMap_append

theorem processJob_completes (attemptNumber : Nat) (completes : attempt.Completes env job) :
    (processJob env attempt job attemptNumber).2 = .ok () ∧
      deadLetters (processJob env attempt job attemptNumber).1 = [] := by
  obtain ⟨⟨⟨active, id, inserted⟩, redacted, prepared, answered⟩, stored⟩ := completes
  unfold processJob attemptJob
  rw [active, inserted]
  dsimp only
  rw [prepared]
  dsimp only
  rw [answered]
  dsimp only [Except.bind]
  rw [stored]
  refine ⟨rfl, (deadLetters_append _ _).trans ?_⟩
  rw [send_deadLetters]
  rfl

open Classical in
theorem processJob_fails (attemptNumber : Nat) (regular : attempt.Regular)
    (fails : ¬ attempt.Completes env job) :
    (∃ raised, (processJob env attempt job attemptNumber).2 = .error raised) ∧
      deadLetters (processJob env attempt job attemptNumber).1 =
        if job.maxAttempts ≤ attemptNumber ∧ attempt.Records then [job.deliveryId] else [] := by
  by_cases begins : attempt.Begins
  · obtain ⟨active, id, inserted⟩ := begins
    have spec := fail_spec job attemptNumber regular ⟨active, id, inserted⟩ id
    unfold processJob attemptJob
    rw [active, inserted]
    dsimp only
    cases prepared : prepare env attempt.lookup job with
    | error message => exact spec _ message
    | ok redacted =>
      dsimp only
      split
      · next message _ =>
        obtain ⟨raised, letters⟩ := spec redacted message
        refine ⟨raised, (deadLetters_append _ _).trans ?_⟩
        rw [send_deadLetters]
        exact letters
      · next stored =>
        obtain ⟨_, answered, succeeded⟩ := Except.bind_ok.mp stored
        exact absurd ⟨⟨⟨active, id, inserted⟩, redacted, prepared, answered⟩, succeeded⟩ fails
  · rw [if_neg fun both => begins both.2.1]
    unfold processJob
    split
    · next message _ => exact ⟨⟨message, rfl⟩, rfl⟩
    · next inactive => exact absurd inactive regular.1
    · next message _ _ => exact ⟨⟨message, rfl⟩, rfl⟩
    · next id active inserted => exact absurd ⟨active, id, inserted⟩ begins

/-! ## The attempts of a job -/

theorem attempted_failed (rest : List Attempt)
    (raised : ∃ raised, (processJob env attempt job attemptNumber).2 = .error raised) :
    attempted env job attemptNumber (attempt :: rest) = attempt ::
        (if job.maxAttempts ≤ attemptNumber then []
          else attempted env job (attemptNumber + 1) rest) ∧
      deadLetters (deliveries env job attemptNumber (attempt :: rest)) =
        deadLetters (processJob env attempt job attemptNumber).1 ++
          if job.maxAttempts ≤ attemptNumber then []
          else deadLetters (deliveries env job (attemptNumber + 1) rest) := by
  obtain ⟨raised, failed⟩ := raised
  rw [attempted, deliveries]
  generalize processJob env attempt job attemptNumber = outcome at failed ⊢
  obtain ⟨effects, result⟩ := outcome
  cases failed
  refine ⟨rfl, ?_⟩
  dsimp only
  split
  · exact (append_nil _).symm
  · exact deadLetters_append _ _

open Classical in
theorem deliveries_letters (env : Env) (job : OutboundJob) (attemptNumber : Nat)
    (regular : ∀ attempt ∈ attempts, attempt.Regular) :
    ((∃ attempt ∈ attempts.take (job.maxAttempts - attemptNumber + 1), attempt.Completes env job) ∧
        (∃ attempt ∈ attempted env job attemptNumber attempts, attempt.Completes env job) ∧
        deadLetters (deliveries env job attemptNumber attempts) = []) ∨
      (∀ attempt ∈ attempts.take (job.maxAttempts - attemptNumber + 1),
          ¬ attempt.Completes env job) ∧
        attempted env job attemptNumber attempts =
          attempts.take (job.maxAttempts - attemptNumber + 1) ∧
        deadLetters (deliveries env job attemptNumber attempts) =
          if ∃ last, attempts[job.maxAttempts - attemptNumber]? = some last ∧ last.Records
          then [job.deliveryId] else [] := by
  induction attempts generalizing attemptNumber with
  | nil => exact .inr ⟨by simp, by simp [attempted], by simp [deliveries, deadLetters]⟩
  | cons attempt rest ih =>
    obtain ⟨first, others⟩ := forall_mem_cons.mp regular
    rw [take_succ_cons]
    by_cases completes : attempt.Completes env job
    · obtain ⟨stored, letters⟩ := processJob_completes attemptNumber completes
      refine .inl ⟨⟨attempt, mem_cons_self, completes⟩, ⟨attempt, mem_cons_self, completes⟩, ?_⟩
      unfold deliveries
      generalize processJob env attempt job attemptNumber = outcome at stored letters ⊢
      obtain ⟨effects, result⟩ := outcome
      cases stored
      exact letters
    · obtain ⟨raised, letters⟩ := processJob_fails attemptNumber first completes
      obtain ⟨made, left⟩ := attempted_failed rest raised
      rw [made, left, letters]
      by_cases last : job.maxAttempts ≤ attemptNumber
      · rw [if_pos last, if_pos last, Nat.sub_eq_zero_of_le last]
        refine .inr ⟨forall_mem_singleton.mpr completes, rfl, ?_⟩
        simp [last]
      · have more :
            job.maxAttempts - attemptNumber = job.maxAttempts - (attemptNumber + 1) + 1 := by
          omega
        rw [if_neg last, if_neg last, if_neg fun both => last both.1, nil_append, more]
        rcases ih (attemptNumber + 1) others with
          ⟨⟨found, mem, done⟩, ⟨other, mem', done'⟩, none'⟩ | ⟨none', all, letters⟩
        · exact .inl ⟨⟨found, mem_cons_of_mem _ mem, done⟩,
            ⟨other, mem_cons_of_mem _ mem', done'⟩, none'⟩
        · exact .inr ⟨forall_mem_cons.mpr ⟨completes, none'⟩, congrArg (attempt :: ·) all, letters⟩

/-- A delivery with attempts of a tenant that stays active, and whose dead letters can be inserted,
is accounted for, if and only if one of its attempts is both answered and recorded, or the last one
can write its rows exactly when none was answered. -/
theorem accounted_iff (env : Env) (job : OutboundJob) (attempts : List Attempt)
    (regular : ∀ attempt ∈ attempts, attempt.Regular) :
    Accounted env job attempts ↔ Recorded env job attempts := by
  unfold Accounted Recorded
  rcases deliveries_letters env job 1 regular with
    ⟨⟨found, mem, done⟩, ⟨other, mem', done'⟩, none'⟩ | ⟨incomplete, all, letters⟩
  · refine ⟨fun _ incomplete => absurd done (incomplete found mem), fun _ => ⟨fun _ => none', ?_⟩⟩
    exact fun unanswered => absurd done'.1 (unanswered other mem')
  · rw [all, letters]
    dsimp only
    have usedUp : (attempts.take (job.maxAttempts - 1 + 1) ≠ [] ∧
        job.maxAttempts ≤ (attempts.take (job.maxAttempts - 1 + 1)).length) ↔
        ∃ last, attempts[job.maxAttempts - 1]? = some last := by
      rw [← length_pos_iff, length_take, ← Option.isSome_iff_exists, isSome_getElem?]
      omega
    constructor
    · intro ⟨silent, counted⟩ _ last found
      constructor
      · intro records attempt mem answered
        have letter := silent ⟨attempt, mem, answered⟩
        rw [if_pos ⟨last, found, records⟩] at letter
        cases letter
      · intro unanswered
        obtain ⟨some', enough⟩ := usedUp.mpr ⟨last, found⟩
        have letter := counted unanswered some' enough
        by_contra records
        rw [if_neg fun ⟨other, found', records'⟩ =>
          records (Option.some.inj (found.symm.trans found') ▸ records')] at letter
        cases letter
    · intro recorded
      refine ⟨fun ⟨attempt, mem, answered⟩ => if_neg fun ⟨last, found, records⟩ => ?_,
        fun unanswered some' enough => ?_⟩
      · exact (recorded incomplete last found).mp records attempt mem answered
      · obtain ⟨last, found⟩ := usedUp.mp ⟨some', enough⟩
        exact if_pos ⟨last, found, (recorded incomplete last found).mpr unanswered⟩

/-- The first attempt is refused, and the second one too, which is recorded. -/
theorem refused_delivery_accounted :
    Accounted (Sample.env ["mail"]) Sample.job [Sample.refused, Sample.refused] := by
  have regular : ∀ attempt ∈ [Sample.refused, Sample.refused], attempt.Regular := by
    rw [forall_mem_cons, forall_mem_singleton, and_self]
    exact ⟨nofun, rfl⟩
  refine (accounted_iff _ _ _ regular).mpr fun _ last found => ?_
  cases found
  refine ⟨fun _ attempt mem answered => ?_, fun _ => ⟨⟨rfl, 1, rfl⟩, rfl⟩⟩
  have refused : attempt = Sample.refused := by simpa using mem_of_mem_take mem
  obtain ⟨-, redacted, -, delivered⟩ := refused ▸ answered
  cases delivered

def Sample.unrecorded : Attempt :=
  { Sample.refused with delivered := .ok (), succeeded := .error "connection terminated" }

theorem answered_delivery_dead_lettered :
    ¬ ∀ (env : Env) (job : OutboundJob) (attempts : List Attempt),
      (∀ attempt ∈ attempts, attempt.Regular) → Accounted env job attempts := by
  intro accounted
  have regular : ∀ attempt ∈ [Sample.refused, Sample.unrecorded], attempt.Regular := by
    rw [forall_mem_cons, forall_mem_singleton]
    exact ⟨⟨nofun, rfl⟩, nofun, rfl⟩
  have answered : Sample.unrecorded.Answered (Sample.env ["mail"]) Sample.job :=
    ⟨⟨rfl, 1, rfl⟩, _, rfl, rfl⟩
  have letters : ["d1"] = [] := (accounted (Sample.env ["mail"]) Sample.job _ regular).1
    ⟨Sample.unrecorded, mem_cons_of_mem _ mem_cons_self, answered⟩
  cases letters

end Outbound
end OpenWind
