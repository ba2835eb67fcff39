import OpenWind.Mfa.Serial
import Mathlib.Data.List.Induction

/-!
# The budget of guesses

Wrong codes are counted per code and per administrator, and the count per administrator lasts for
half an hour, however many codes are asked for in between.
-/

open List Option

namespace OpenWind

open Runs MfaPhase

def MfaPhase.guessing : MfaPhase → Bool
  | readCode => true
  | count _ => true
  | countExpiry _ => true
  | countFailure _ => true
  | _ => false

/-- A code was found to be wrong, and is not counted yet. -/
def MfaPhase.owes : MfaPhase → Bool
  | countFailure _ => true
  | _ => false

variable {phase : MfaPhase}

theorem MfaPhase.quiet_owes (quiet : phase.quiet) : phase.owes = false := by
  cases phase with
  | countFailure attempts => cases quiet
  | _ => rfl

theorem MfaPhase.quiet_guessing (quiet : phase.quiet) (guessing : phase.guessing) :
    phase = .readCode := by
  cases phase with
  | readCode => rfl
  | count stored => cases quiet
  | countExpiry guess => cases quiet
  | countFailure attempts => cases quiet
  | _ => cases guessing

/-- The code that a verification has read, until it has been compared. -/
def MfaPhase.lookedUp : MfaPhase → Option StoredCode
  | count stored => some stored
  | countExpiry guess => some guess.stored
  | consume guess => some guess.stored
  | _ => none

theorem MfaPhase.quiet_lookedUp (quiet : phase.quiet) : phase.lookedUp = none := by
  cases phase with
  | count stored => cases quiet
  | countExpiry guess => cases quiet
  | consume guess => cases quiet
  | _ => rfl

namespace MfaWorld

/-! ## Wrong codes -/

def comparesWrong (cfg : MfaConfig) (sha256 : String → String) (w : MfaWorld) : MfaLabel → Bool
  | .step i _ => w.calls[i]?.any fun call =>
      match call.input, call.phase with
      | .verify submittedCode _, .countExpiry guess =>
        decide (guess.attempts ≤ cfg.maxVerifyAttempts ∧ sha256 submittedCode ≠ guess.stored.hash)
      | _, _ => false
  | _ => false

def KeepsFailures (cfg : MfaConfig) (sha256 : String → String) (w : MfaWorld) (l : MfaLabel) :
    Prop :=
  ∀ w', step cfg sha256 w l = some w' → (w.redis.failed.read w.now).isSome = true →
    (w'.redis.failed.read w'.now).isSome = true

variable {cfg : MfaConfig} {sha256 : String → String} {w w' : MfaWorld} {i : Nat} {call : MfaCall}
  {l : MfaLabel}

theorem of_comparesWrong (wrong : comparesWrong cfg sha256 w l) :
    ∃ i chance call guess, l = .step i chance ∧ w.calls[i]? = some call ∧
      call.phase = .countExpiry guess ∧
      afterCount cfg sha256 call.input guess = .countFailure guess.attempts := by
  cases l with
  | step i chance =>
    obtain ⟨call, here, wrong⟩ := (Option.any_eq_true _ _).mp wrong
    split at wrong
    · next code token guess input phase =>
      obtain ⟨within, differs⟩ := of_decide_eq_true wrong
      refine ⟨i, chance, call, guess, rfl, here, phase, ?_⟩
      rw [input, afterCount, if_neg (Nat.not_lt.mpr within)]
      exact if_neg differs
    · cases wrong
  | start input => cases wrong
  | tick time => cases wrong

theorem Turn.failures (turn : Turn cfg sha256 w i call w') :
    call.phase.owes = false ∧ w'.failures = w.failures ∨
      call.phase.owes ∧ w'.failures = w.failures + 1 ∨
      call.phase.owes = false ∧ w'.redis.failed.read w'.now = none := by
  cases turn with
  | aside was going is opens otp attempts failed =>
    refine .inl ⟨quiet_owes was, ?_⟩
    unfold MfaWorld.failures put
    dsimp only
    rw [failed]
  | found phase | stored hash phase | reset phase | counted phase | compared phase =>
    exact .inl ⟨by rw [phase]; rfl, rfl⟩
  | dropped phase =>
    refine .inl ⟨?_, rfl⟩
    rcases phase with phase | phase
    · rw [phase]; rfl
    · rw [phase]; rfl
  | charged phase =>
    refine .inr (.inl ⟨by rw [phase]; rfl, ?_⟩)
    unfold MfaWorld.failures enter put
    dsimp only
    rw [Slot.read_incr]
    rfl
  | judged phase =>
    refine .inl ⟨by rw [phase]; rfl, ?_⟩
    unfold MfaWorld.failures enter put
    dsimp only
    rw [Slot.read_expireNx]
  | consumed phase => exact .inr (.inr ⟨by rw [phase]; rfl, rfl⟩)

theorem afterFailure_plain (attempts failures : Nat) :
    (afterFailure cfg attempts failures).guessing = false ∧
      (afterFailure cfg attempts failures).lookedUp = none := by
  unfold afterFailure
  split
  · exact ⟨rfl, rfl⟩
  · split <;> exact ⟨rfl, rfl⟩

theorem Turn.guessing (turn : Turn cfg sha256 w i call w') (single : w.Single)
    (here : w.calls[i]? = some call) (guessing : w'.current.guessing) :
    w'.failures = w.failures ∧ (call.phase.guessing ∨ w.failures < MAX_FAILED_VERIFIES) := by
  obtain ⟨call', calls⟩ := turn.calls
  have now := current_set single here turn.going calls
  rw [now] at guessing
  have called {call''} (same : w'.calls = w.calls.set i call'') : call' = call'' := by
    have inside : i < w.calls.length := (List.getElem?_eq_some_iff.mp here).1
    have both := calls.symm.trans same
    have at' := congrArg (·[i]?) both
    simpa only [getElem?_set_self inside, Option.some.injEq] using at'
  cases turn with
  | @aside redis _ was going is opens otp attempts failed =>
    obtain rfl := called rfl
    refine ⟨?_, .inr (opens (quiet_guessing is guessing))⟩
    unfold MfaWorld.failures put
    dsimp only
    rw [failed]
  | found phase | counted phase | compared phase => exact ⟨rfl, .inl (by rw [phase]; rfl)⟩
  | stored | reset | charged =>
    obtain rfl := called rfl
    cases guessing
  | dropped phase is apart =>
    obtain rfl := called rfl
    exact absurd (quiet_guessing is guessing) apart
  | judged phase =>
    obtain rfl := called rfl
    rw [(afterFailure_plain _ _).1] at guessing
    cases guessing
  | consumed phase =>
    obtain rfl := called rfl
    exact absurd (quiet_guessing (afterConsume_quiet _).1 guessing) (afterConsume_quiet _).2

/-- The failures are within their maximum, and below it while a call may compare a code. -/
structure Budgeted (w : MfaWorld) : Prop where
  single : w.Single
  few : w.failures ≤ MAX_FAILED_VERIFIES
  room : w.current.guessing = true → w.failures < MAX_FAILED_VERIFIES

/-- The failures, with the one that is not counted yet. -/
def charged (w : MfaWorld) : Nat := w.failures + w.current.owes.toNat

variable {phase : MfaPhase} {start : Time} {before : List MfaLabel} {stored : StoredCode}

theorem owes_guessing (owes : phase.owes) : phase.guessing := by
  cases phase with
  | countFailure attempts => rfl
  | _ => cases owes

theorem ended_plain (ended : phase.ended) : phase.owes = false ∧ phase.guessing = false := by
  cases phase with
  | done outcome => exact ⟨rfl, rfl⟩
  | _ => cases ended

theorem failures_ticked (w : MfaWorld) (time : Nat) :
    ({ w with now := w.now + time } : MfaWorld).failures ≤ w.failures := by
  unfold failures
  rcases Slot.read_later (Nat.le_add_right w.now time) w.redis.failed with gone | same
  · dsimp only
    rw [gone]
    exact Nat.zero_le _
  · exact Nat.le_of_eq (congrArg (Option.getD · 0) same)

theorem Budgeted.idle (now : Time) : (MfaWorld.idle now).Budgeted := by
  refine ⟨fun _ _ found => ?_, Nat.zero_le _, fun guessing => ?_⟩
  · cases found
  · cases guessing

section

variable (budgeted : w.Budgeted)

include budgeted

theorem Budgeted.turned (here : w.calls[i]? = some call)
    (turn : Turn cfg sha256 w i call w') : w'.Budgeted := by
  have current := current_of budgeted.single here turn.going
  refine ⟨turn.single budgeted.single here, ?_, fun guessing => ?_⟩
  · have few := budgeted.few
    rcases turn.failures with ⟨-, same⟩ | ⟨owes, more⟩ | ⟨-, gone⟩
    · omega
    · have room := budgeted.room (by rw [current]; exact owes_guessing owes)
      omega
    · unfold failures
      rw [gone]
      exact Nat.zero_le _
  · obtain ⟨same, before⟩ := turn.guessing budgeted.single here guessing
    rw [same]
    rcases before with before | room
    · exact budgeted.room (by rw [current]; exact before)
    · exact room

theorem Budgeted.next (serial : w.Serial l)
    (stepped : step cfg sha256 w l = some w') : w'.Budgeted := by
  cases l with
  | start input =>
    cases stepped
    refine ⟨Single.started serial input, budgeted.few, fun guessing => ?_⟩
    rw [current_started] at guessing
    cases guessing
  | step i chance =>
    obtain ⟨call, here, stepped⟩ := bind_eq_some_iff.mp stepped
    exact budgeted.turned here (turn_of_advance stepped)
  | tick time =>
    cases stepped
    have le := failures_ticked w time
    exact ⟨budgeted.single, Nat.le_trans le budgeted.few,
      fun guessing => Nat.lt_of_le_of_lt le (budgeted.room guessing)⟩

theorem Budgeted.charged_le (serial : w.Serial l) (keeps : w.KeepsFailures cfg sha256 l)
    (stepped : step cfg sha256 w l = some w') : w.charged ≤ w'.charged := by
  have kept := keeps w' stepped
  have lost (gone : w'.redis.failed.read w'.now = none) : w.failures = 0 := by
    unfold failures
    cases found : w.redis.failed.read w.now with
    | none => rfl
    | some count =>
      rw [found, gone] at kept
      cases kept rfl
  unfold charged
  cases l with
  | start input =>
    cases stepped
    rw [(ended_plain (current_ended serial)).1]
    exact Nat.le_add_right _ _
  | step i chance =>
    obtain ⟨call, here, stepped⟩ := bind_eq_some_iff.mp stepped
    have turn := turn_of_advance stepped
    rw [current_of budgeted.single here turn.going]
    rcases turn.failures with ⟨free, same⟩ | ⟨owes, more⟩ | ⟨free, gone⟩
    · rw [free, same]
      exact Nat.le_add_right _ _
    · rw [owes, more]
      exact Nat.le_add_right _ _
    · rw [free, lost gone]
      exact Nat.zero_le _
  | tick time =>
    cases stepped
    have same : w.failures ≤ ({ w with now := w.now + time } : MfaWorld).failures := by
      rcases Slot.read_later (Nat.le_add_right w.now time) w.redis.failed with gone | same
      · rw [lost gone]
        exact Nat.zero_le _
      · exact Nat.le_of_eq (congrArg (Option.getD · 0) same.symm)
    exact Nat.add_le_add_right same _

theorem Budgeted.wrong_charged (wrong : comparesWrong cfg sha256 w l) :
    w.charged + 1 ≤ MAX_FAILED_VERIFIES ∧
      ∀ w', step cfg sha256 w l = some w' → w.charged + 1 ≤ w'.charged := by
  obtain ⟨i, chance, call, guess, rfl, here, phase, after⟩ := of_comparesWrong wrong
  have going : call.phase.ended = false := by rw [phase]; rfl
  have current := current_of budgeted.single here going
  have free : w.charged = w.failures := by
    unfold charged
    rw [current, phase]
    rfl
  refine ⟨?_, fun w' stepped => ?_⟩
  · rw [free]
    exact budgeted.room (by rw [current, phase]; rfl)
  · have moved : w.advance cfg sha256 i call chance = some w' := by
      rw [step, here] at stepped
      exact stepped
    rw [advance, phase] at moved
    dsimp only at moved
    rw [after] at moved
    cases moved
    rw [free]
    unfold charged
    rw [current_set budgeted.single here going rfl]
    exact Nat.le_refl _

theorem Budgeted.charged_within : w.charged ≤ MAX_FAILED_VERIFIES := by
  unfold charged
  cases owes : w.current.owes with
  | false => exact budgeted.few
  | true => exact budgeted.room (owes_guessing owes)

end

theorem wrong_codes_le {labels : List MfaLabel} (last : Option MfaLabel) (budgeted : w.Budgeted)
    (serial : Guarded (step cfg sha256) Serial w labels)
    (kept : Guarded (step cfg sha256) (KeepsFailures cfg sha256) w labels) :
    count (step cfg sha256) (comparesWrong cfg sha256) w (labels ++ last.toList) ≤
      MAX_FAILED_VERIFIES := by
  refine Nat.le_trans (Nat.le_add_left _ w.charged) ((serial.and kept).count_le (I := Budgeted)
    (fun holds guard stepped => holds.next guard.1 stepped) (fun {v l v'} holds guard stepped => ?_)
    (fun {v} l holds => ?_) Budgeted.charged_within last budgeted)
  · cases wrong : comparesWrong cfg sha256 v l with
    | false => exact holds.charged_le guard.1 guard.2 stepped
    | true => exact (holds.wrong_charged wrong).2 v' stepped
  · cases wrong : comparesWrong cfg sha256 v l with
    | false => exact holds.charged_within
    | true => exact (holds.wrong_charged wrong).1

/-! ## The code between calls and within one -/

structure Unused (w : MfaWorld) (issue : Nat) : Prop where
  last : issue + 1 = w.issued.length
  accepted : ∀ call ∈ w.calls, ∀ a, call.accepted = some a → a.issue ≠ issue

/-- A code that has been guessed at has a guess left. -/
def Quota (cfg : MfaConfig) (w : MfaWorld) (issue : Nat) : Prop :=
  w.guesses issue < cfg.maxVerifyAttempts ∨ w.guesses issue = 0

def Covers (cfg : MfaConfig) (w : MfaWorld) (entry : Entry StoredCode) : MfaPhase → Prop
  | .reset => w.guesses entry.value.issue = 0
  | .countExpiry guess => w.Counted entry ∧ w.guesses entry.value.issue ≤ guess.attempts
  | .countFailure attempts => w.Counted entry ∧ w.guesses entry.value.issue ≤ attempts
  | .failureExpiry attempts _ => w.Counted entry ∧ w.guesses entry.value.issue ≤ attempts
  | .dropLocked => True
  | .dropLockedOut => True
  | .consume _ => True
  | _ => w.Counted entry ∧ w.Quota cfg entry.value.issue

/-- What is known of the code that the last call has read. -/
def Holds (cfg : MfaConfig) (w : MfaWorld) : MfaPhase → Prop
  | .count stored => w.Unused stored.issue ∧ w.Quota cfg stored.issue
  | .countExpiry guess => w.Unused guess.stored.issue ∧
      (guess.attempts ≤ cfg.maxVerifyAttempts → guess.number ≤ cfg.maxVerifyAttempts)
  | .consume guess => w.Unused guess.stored.issue ∧ guess.number ≤ cfg.maxVerifyAttempts
  | _ => True

structure InTurn (cfg : MfaConfig) (w : MfaWorld) : Prop where
  single : w.Single
  latest : ∀ entry, w.redis.otp = some entry → w.Latest cfg entry
  fresh : ∀ k, w.issued.length ≤ k → w.guesses k = 0
  covered : ∀ entry, w.redis.otp = some entry → entry.alive w.now = true →
    w.Covers cfg entry w.current
  holds : w.Holds cfg w.current
  spent : ∀ call ∈ w.calls, ∀ a, call.accepted = some a → a.issue < w.issued.length ∧
    ∀ entry, w.redis.otp = some entry → entry.value.issue ≠ a.issue

theorem covers_quiet {entry : Entry StoredCode} (quiet : phase.quiet) :
    w.Covers cfg entry phase = (w.Counted entry ∧ w.Quota cfg entry.value.issue) := by
  unfold Covers
  split <;> first | rfl | cases quiet

theorem holds_quiet (quiet : phase.quiet) : w.Holds cfg phase := by
  unfold Holds
  split <;> trivial

theorem Holds.ticked {now : Time} (holds : w.Holds cfg phase) :
    ({ w with now } : MfaWorld).Holds cfg phase := by
  cases phase with
  | count | countExpiry | consume => exact ⟨⟨holds.1.last, holds.1.accepted⟩, holds.2⟩
  | _ => trivial

theorem ended_quiet (ended : phase.ended) : phase.quiet := by
  cases phase with
  | done outcome => rfl
  | _ => cases ended

theorem InTurn.idle (now : Time) : (MfaWorld.idle now).InTurn cfg := by
  refine ⟨(Budgeted.idle now).single, fun _ found => ?_, fun _ _ => rfl, fun _ found => ?_, trivial,
    fun _ mem => ?_⟩
  · cases found
  · cases found
  · cases mem

theorem Unused.set {issue : Nat} {call' : MfaCall} (unused : w.Unused issue)
    (here : w.calls[i]? = some call) (calls : w'.calls = w.calls.set i call')
    (issued : w'.issued = w.issued) (same : call'.accepted = call.accepted) : w'.Unused issue := by
  refine ⟨by rw [issued]; exact unused.last, fun other mem a accepted => ?_⟩
  rw [calls] at mem
  rcases Calls.of_mem_replaced mem with rfl | old
  · rw [same] at accepted
    exact unused.accepted call (mem_of_getElem? here) a accepted
  · exact unused.accepted other old a accepted

theorem InTurn.set {call' : MfaCall} (inTurn : w.InTurn cfg) (here : w.calls[i]? = some call)
    (going : call.phase.ended = false) (calls : w'.calls = w.calls.set i call')
    (issued : w'.issued = w.issued) (now : w'.now = w.now)
    (otp : ∀ entry, w'.redis.otp = some entry → w.redis.otp = some entry)
    (fresh : ∀ k, w.issued.length ≤ k → w'.guesses k = 0)
    (accepted : call'.accepted = call.accepted)
    (covered : ∀ entry, w.redis.otp = some entry → entry.alive w.now →
      w.Covers cfg entry call.phase → w'.redis.otp = some entry → w'.Covers cfg entry call'.phase)
    (holds : w'.Holds cfg call'.phase) : w'.InTurn cfg := by
  have before := current_of inTurn.single here going
  have after := current_set inTurn.single here going calls
  refine ⟨inTurn.single.set here going calls, fun entry found => ?_, fun k beyond => ?_,
    fun entry found alive => ?_, by rw [after]; exact holds, fun other mem a is => ?_⟩
  · obtain ⟨last, lasts⟩ := inTurn.latest entry (otp entry found)
    rw [← issued] at last lasts
    rw [← now] at lasts
    exact ⟨last, lasts⟩
  · rw [issued] at beyond
    exact fresh k beyond
  · rw [now] at alive
    rw [after]
    have was := inTurn.covered entry (otp entry found) alive
    rw [before] at was
    exact covered entry (otp entry found) alive was found
  · have spent : a.issue < w.issued.length ∧
        ∀ entry, w.redis.otp = some entry → entry.value.issue ≠ a.issue := by
      rw [calls] at mem
      rcases Calls.of_mem_replaced mem with rfl | old
      · rw [accepted] at is
        exact inTurn.spent call (mem_of_getElem? here) a is
      · exact inTurn.spent other old a is
    rw [issued]
    exact ⟨spent.1, fun entry found => spent.2 entry (otp entry found)⟩

theorem afterCount_cases (input : MfaInput) (guess : Guess) :
    afterCount cfg sha256 input guess = .dropLocked ∨
      guess.attempts ≤ cfg.maxVerifyAttempts ∧
        (afterCount cfg sha256 input guess = .consume guess ∨
          afterCount cfg sha256 input guess = .countFailure guess.attempts) := by
  unfold afterCount
  split
  · exact .inl rfl
  · next within =>
    cases input with
    | request email => exact .inl rfl
    | verify code token =>
      refine .inr ⟨Nat.le_of_not_lt within, ?_⟩
      dsimp only
      split
      · exact .inl rfl
      · exact .inr rfl

section

variable (inTurn : w.InTurn cfg) (here : w.calls[i]? = some call)
  (going : call.phase.ended = false)

include inTurn here going

theorem InTurn.renewed (hash : String) : ((w.withCode cfg hash).enter i call .reset).InTurn cfg := by
  have member : call ∈ w.calls := mem_of_getElem? here
  have grown : (w.issued ++ [w.now + cfg.codeTtlSeconds * 1000]).length = w.issued.length + 1 := by
    rw [length_append, length_singleton]
  refine ⟨inTurn.single.set here going rfl, fun entry found => ?_, fun k beyond => ?_,
    fun entry found _ => ?_, ?_, fun other mem a is => ?_⟩
  · obtain rfl := Option.some.inj found
    refine ⟨grown.symm, _, rfl, ?_, Nat.le_refl _⟩
    exact getElem?_concat_length
  · have longer : (w.issued ++ [w.now + cfg.codeTtlSeconds * 1000]).length ≤ k := beyond
    rw [grown] at longer
    exact inTurn.fresh k (Nat.le_of_succ_le longer)
  · obtain rfl := Option.some.inj found
    rw [current_set inTurn.single here going rfl]
    exact inTurn.fresh _ (Nat.le_refl _)
  · rw [current_set inTurn.single here going rfl]
    trivial
  · have old : a.issue < w.issued.length := by
      rcases Calls.of_mem_replaced mem with rfl | old
      · exact (inTurn.spent call member a is).1
      · exact (inTurn.spent other old a is).1
    refine ⟨Nat.lt_of_lt_of_le old (grown ▸ Nat.le_succ _), fun entry found => ?_⟩
    obtain rfl := Option.some.inj found
    exact Nat.ne_of_gt old

theorem InTurn.counted (phase : call.phase = .count stored) :
    ((w.withGuess stored).enter i call
      (.countExpiry ⟨stored, w.redis.attempts.counted w.now, w.guesses stored.issue + 1⟩)).InTurn
        cfg := by
  have held := inTurn.holds
  rw [current_of inTurn.single here going] at held
  rw [phase] at held
  obtain ⟨unused, quota⟩ := held
  refine inTurn.set here going rfl rfl rfl (fun _ found => found) (fun k beyond => ?_) rfl
    (fun entry found alive covered _ => ?_) ⟨unused.set here rfl rfl rfl, fun within => ?_⟩
  · have before : stored.issue < k := Nat.lt_of_lt_of_le (Nat.lt_of_succ_le
      (Nat.le_of_eq unused.last)) beyond
    change Function.update w.guesses stored.issue _ k = 0
    rw [Function.update_of_ne (Nat.ne_of_gt before)]
    exact inTurn.fresh k beyond
  · rw [phase] at covered
    obtain ⟨until', lasts, -, -⟩ := (inTurn.latest entry found).lasts
    have same : entry.value.issue = stored.issue := Nat.succ.inj
      ((inTurn.latest entry found).last.trans unused.last.symm)
    obtain ⟨counted, number⟩ := covered.1.counting alive lasts stored
    refine ⟨counted, ?_⟩
    change Function.update w.guesses stored.issue _ entry.value.issue ≤ _
    rw [same] at number ⊢
    rw [Function.update_self]
    exact number
  · rcases quota with less | none'
    · exact less
    · change w.guesses stored.issue + 1 ≤ _
      rw [none']
      exact Nat.le_trans (Nat.succ_le_succ (Nat.zero_le _)) within

theorem InTurn.compared {guess : Guess} (phase : call.phase = .countExpiry guess) :
    ((w.withExpiry cfg).enter i call (afterCount cfg sha256 call.input guess)).InTurn cfg := by
  have held := inTurn.holds
  rw [current_of inTurn.single here going] at held
  rw [phase] at held
  refine inTurn.set here going rfl rfl rfl (fun _ found => found) inTurn.fresh rfl
    (fun entry found alive covered _ => ?_) ?_
  · rw [phase] at covered
    have counted := covered.1.comparing (inTurn.latest entry found)
    rcases afterCount_cases call.input guess with drop | ⟨-, accept | wrong⟩
    · rw [drop]
      trivial
    · rw [accept]
      trivial
    · rw [wrong]
      exact ⟨counted, covered.2⟩
  · rcases afterCount_cases call.input guess with drop | ⟨within, accept | wrong⟩
    · rw [drop]
      trivial
    · rw [accept]
      exact ⟨held.1.set here rfl rfl rfl, held.2 within⟩
    · rw [wrong]
      trivial

end

theorem InTurn.turned (inTurn : w.InTurn cfg) (here : w.calls[i]? = some call)
    (turn : Turn cfg sha256 w i call w') : w'.InTurn cfg := by
  have going := turn.going
  have held := inTurn.holds
  rw [current_of inTurn.single here going] at held
  have member : call ∈ w.calls := mem_of_getElem? here
  cases turn with
  | aside was _ is opens otp attempts failed accepted =>
    refine inTurn.set here going rfl rfl rfl (fun entry found => ?_) inTurn.fresh accepted
      (fun entry _ _ covered _ => ?_) (holds_quiet is)
    · rcases otp with same | gone
      · exact same ▸ found
      · rw [put, gone] at found
        cases found
    · rw [covers_quiet was] at covered
      rw [covers_quiet is]
      unfold Counted at covered ⊢
      rw [put, attempts]
      exact covered
  | @found stored phase found =>
    obtain ⟨entry, otp, alive, rfl⟩ := Slot.read_eq_some.mp found
    have covered := inTurn.covered entry otp alive
    rw [current_of inTurn.single here going, phase] at covered
    have unused : w.Unused entry.value.issue := ⟨(inTurn.latest entry otp).last,
      fun other mem a accepted => ((inTurn.spent other mem a accepted).2 entry otp).symm⟩
    refine inTurn.set here going rfl rfl rfl (fun _ found => found) inTurn.fresh rfl
      (fun entry _ _ covered _ => ?_) ⟨unused.set here rfl rfl rfl, covered.2⟩
    rw [phase] at covered
    exact covered
  | stored hash => exact inTurn.renewed here going hash
  | reset phase =>
    refine inTurn.set here going rfl rfl rfl (fun _ found => found) inTurn.fresh rfl
      (fun entry _ _ covered _ => ?_) trivial
    rw [phase] at covered
    exact ⟨.inl ⟨rfl, covered⟩, .inr covered⟩
  | counted phase => exact inTurn.counted here going phase
  | compared phase => exact inTurn.compared here going phase
  | dropped phase is apart =>
    exact inTurn.set here going rfl rfl rfl (fun _ found => by cases found) inTurn.fresh rfl
      (fun _ _ _ _ found => by cases found) (holds_quiet is)
  | charged phase =>
    refine inTurn.set here going rfl rfl rfl (fun _ found => found) inTurn.fresh rfl
      (fun entry _ _ covered _ => ?_) trivial
    rw [phase] at covered
    exact covered
  | @judged attempts failures phase =>
    refine inTurn.set here going rfl rfl rfl (fun _ found => found) inTurn.fresh rfl
      (fun entry _ _ covered _ => ?_) ?_
    · rw [phase] at covered
      unfold afterFailure
      split
      · trivial
      · split
        · trivial
        · next left' => exact ⟨covered.1, .inl (Nat.lt_of_le_of_lt covered.2 (Nat.lt_of_not_le left'))⟩
    · unfold afterFailure
      split
      · trivial
      · split <;> trivial
  | @consumed guess phase =>
    rw [phase] at held
    obtain ⟨unused, -⟩ := held
    refine ⟨inTurn.single.set here going rfl, ?_, inTurn.fresh, ?_, ?_,
      fun other mem a is => ⟨?_, ?_⟩⟩
    · intro _ found
      cases found
    · intro _ found
      cases found
    · rw [current_set inTurn.single here going rfl]
      exact holds_quiet (afterConsume_quiet _).1
    · rcases Calls.of_mem_replaced mem with rfl | old
      · obtain rfl := Option.some.inj is
        exact Nat.lt_of_succ_le (Nat.le_of_eq unused.last)
      · exact (inTurn.spent other old a is).1
    · intro _ found
      cases found

theorem InTurn.next (inTurn : w.InTurn cfg) (serial : w.Serial l)
    (stepped : step cfg sha256 w l = some w') : w'.InTurn cfg := by
  cases l with
  | start input =>
    cases stepped
    have quiet := ended_quiet (current_ended serial)
    refine ⟨Single.started serial input, fun entry found => ?_, inTurn.fresh,
      fun entry found alive => ?_, ?_, fun call mem a accepted => ?_⟩
    · obtain ⟨last, lasts⟩ := inTurn.latest entry found
      exact ⟨last, lasts⟩
    · have covered := inTurn.covered entry found alive
      rw [covers_quiet quiet] at covered
      rw [current_started]
      exact covered
    · rw [current_started]
      trivial
    · rcases Calls.of_mem_began mem with rfl | old
      · cases accepted
      · exact inTurn.spent call old a accepted
  | step i chance =>
    obtain ⟨call, here, stepped⟩ := bind_eq_some_iff.mp stepped
    exact inTurn.turned here (turn_of_advance stepped)
  | tick time =>
    cases stepped
    refine ⟨inTurn.single, fun entry found => ?_, inTurn.fresh, fun entry found alive =>
      inTurn.covered entry found (Slot.alive_earlier (Nat.le_add_right _ _) alive), inTurn.holds.ticked,
      inTurn.spent⟩
    obtain ⟨last, until', lasts, issued, within⟩ := inTurn.latest entry found
    exact ⟨last, until', lasts, issued,
      Nat.le_trans within (Nat.add_le_add_right (Nat.le_add_right _ _) _)⟩

/-! ## The call that looked the code up -/

theorem Turn.lookedUp {call' : MfaCall} {stored : StoredCode} (turn : Turn cfg sha256 w i call w')
    (here : w.calls[i]? = some call) (there : w'.calls[i]? = some call')
    (read : call'.phase.lookedUp = some stored) :
    call.phase.lookedUp = some stored ∨
      call.phase = .readCode ∧ w.redis.otp.read w.now = some stored := by
  have inside : i < w.calls.length := (List.getElem?_eq_some_iff.mp here).1
  have replaced {call''} (calls : w'.calls = w.calls.set i call'') : call' = call'' := by
    rw [calls, getElem?_set_self inside] at there
    exact (Option.some.inj there).symm
  cases turn with
  | aside was going is | dropped phase is =>
    obtain rfl := replaced rfl
    rw [quiet_lookedUp is] at read
    cases read
  | found phase found =>
    obtain rfl := replaced rfl
    cases read
    exact .inr ⟨phase, found⟩
  | stored | reset | charged =>
    obtain rfl := replaced rfl
    cases read
  | counted phase =>
    obtain rfl := replaced rfl
    rw [phase]
    exact .inl read
  | @compared guess phase =>
    obtain rfl := replaced rfl
    dsimp only at read
    rw [phase]
    rcases afterCount_cases call.input guess with drop | ⟨-, accept | wrong⟩
    · rw [drop] at read
      cases read
    · rw [accept] at read
      exact .inl read
    · rw [wrong] at read
      cases read
  | judged phase =>
    obtain rfl := replaced rfl
    rw [(afterFailure_plain _ _).2] at read
    cases read
  | consumed phase =>
    obtain rfl := replaced rfl
    rw [quiet_lookedUp (afterConsume_quiet _).1] at read
    cases read

theorem Turn.now (turn : Turn cfg sha256 w i call w') : w'.now = w.now := by
  cases turn <;> rfl

structure FoundAt (cfg : MfaConfig) (sha256 : String → String) (start : Time)
    (before : List MfaLabel) (w : MfaWorld) (i : Nat) (stored : StoredCode) (v : MfaWorld) :
    Prop where
  reached : ∃ first second, before = first ++ second ∧
    run (step cfg sha256) (idle start) first = some v ∧
    ((∀ time, MfaLabel.tick time ∉ second) → w.now = v.now)
  reads : ∃ call, v.calls[i]? = some call ∧ call.phase = .readCode
  found : v.redis.otp.read v.now = some stored

theorem FoundAt.later {v : MfaWorld} (found : FoundAt cfg sha256 start before w i stored v)
    (l : MfaLabel) (clock : (∀ time, l ≠ .tick time) → w'.now = w.now) :
    FoundAt cfg sha256 start (before ++ [l]) w' i stored v := by
  obtain ⟨first, second, rfl, ran, still⟩ := found.reached
  refine ⟨⟨first, second ++ [l], append_assoc _ _ _, ran, fun none' => ?_⟩, found.reads,
    found.found⟩
  rw [clock fun time same => none' time (same ▸ mem_append_right _ (mem_singleton_self _)),
    still fun time mem => none' time (mem_append_left _ mem)]

theorem looked_up (ran : run (step cfg sha256) (idle start) before = some w)
    (here : w.calls[i]? = some call) (read : call.phase.lookedUp = some stored) :
    ∃ v, FoundAt cfg sha256 start before w i stored v := by
  induction before using reverseRecOn generalizing w call with
  | nil =>
    cases ran
    cases here
  | append_singleton labels l ih =>
    obtain ⟨mid, earlier, rest⟩ := run_append.mp ran
    obtain ⟨w', stepped, last⟩ := run_cons.mp rest
    cases last
    cases l with
    | start input =>
      cases stepped
      rcases Calls.getElem?_began here with ⟨-, rfl⟩ | old
      · cases read
      · obtain ⟨v, found⟩ := ih earlier old read
        exact ⟨v, found.later _ fun _ => rfl⟩
    | tick time =>
      cases stepped
      obtain ⟨v, found⟩ := ih earlier here read
      exact ⟨v, found.later _ fun other => absurd rfl (other time)⟩
    | step j chance =>
      obtain ⟨moved, there, stepped⟩ := bind_eq_some_iff.mp stepped
      have turn := turn_of_advance stepped
      by_cases same : i = j
      · subst same
        rcases turn.lookedUp there here read with before | ⟨phase, found⟩
        · obtain ⟨v, found⟩ := ih earlier there before
          exact ⟨v, found.later _ fun _ => turn.now⟩
        · exact ⟨mid, ⟨labels, [.step i chance], rfl, earlier, fun _ => turn.now⟩, ⟨moved, there, phase⟩,
            found⟩
      · obtain ⟨call', calls⟩ := turn.calls
        rw [calls, getElem?_set_ne (Ne.symm same)] at here
        obtain ⟨v, found⟩ := ih earlier here read
        exact ⟨v, found.later _ fun _ => turn.now⟩

/-! ## The budget -/

structure DulyAccepted (cfg : MfaConfig) (sha256 : String → String) (start : Time)
    (before : List MfaLabel) (w : MfaWorld) (i : Nat) (guess : Guess) : Prop where
  latest : guess.stored.issue + 1 = w.issued.length
  unconsumed : ∀ call ∈ w.calls, ∀ a, call.accepted = some a → a.issue ≠ guess.stored.issue
  within : guess.number ≤ cfg.maxVerifyAttempts
  unexpired : ∃ v until', FoundAt cfg sha256 start before w i guess.stored v ∧
    v.issued[guess.stored.issue]? = some until' ∧ v.now ≤ until'

theorem InTurn.dulyAccepted {guess : Guess} (inTurn : w.InTurn cfg)
    (serial : Guarded (step cfg sha256) Serial (MfaWorld.idle start) before)
    (ran : run (step cfg sha256) (MfaWorld.idle start) before = some w)
    (here : w.calls[i]? = some call) (phase : call.phase = .consume guess) :
    DulyAccepted cfg sha256 start before w i guess := by
  have holds := inTurn.holds
  rw [current_of inTurn.single here (by rw [phase]; rfl), phase] at holds
  obtain ⟨unused, within⟩ := holds
  have read : call.phase.lookedUp = some guess.stored := by rw [phase]; rfl
  obtain ⟨v, found⟩ := looked_up ran here read
  obtain ⟨first, second, rfl, reached, -⟩ := found.reached
  have before : v.InTurn cfg := serial.append.1.invariant
    (fun holds serial stepped => holds.next serial stepped) (InTurn.idle start) reached
  obtain ⟨entry, otp, alive, value⟩ := Slot.read_eq_some.mp found.found
  obtain ⟨until', lasts, issued, -⟩ := (before.latest entry otp).lasts
  rw [value] at issued
  rw [Entry.alive, lasts, all_some, decide_eq_true_eq] at alive
  exact ⟨unused.last, unused.accepted, within, v, until', found, issued, alive⟩

/-- In a run of calls one after another, at any times: no more wrong codes than the maximum are
compared until the count of failures is lost, from any state reached and whatever codes are asked
for in between; and a code that is accepted is accepted duly. -/
theorem guess_budget {start : Time} {before : List MfaLabel}
    (serial : Guarded (step cfg sha256) Serial (MfaWorld.idle start) before)
    (ran : run (step cfg sha256) (MfaWorld.idle start) before = some w) :
    (∀ (between : List MfaLabel) (last : Option MfaLabel),
      Guarded (step cfg sha256) Serial w between →
      Guarded (step cfg sha256) (KeepsFailures cfg sha256) w between →
      count (step cfg sha256) (comparesWrong cfg sha256) w (between ++ last.toList) ≤
        MAX_FAILED_VERIFIES) ∧
      ∀ (i : Nat) (call : MfaCall) (guess : Guess), w.calls[i]? = some call →
        call.phase = .consume guess → DulyAccepted cfg sha256 start before w i guess := by
  constructor
  · intro between last serial' kept
    have budgeted : w.Budgeted := serial.invariant
      (fun holds serial stepped => holds.next serial stepped) (Budgeted.idle start) ran
    exact wrong_codes_le last budgeted serial' kept
  · intro i call guess here phase
    have inTurn : w.InTurn cfg := serial.invariant
      (fun holds serial stepped => holds.next serial stepped) (InTurn.idle start) ran
    exact inTurn.dulyAccepted serial ran here phase

/-! ## The conditions, checked -/

def serial (w : MfaWorld) : MfaLabel → Bool
  | .start _ => w.calls.all (·.phase.ended)
  | _ => true

theorem serial_sound (checked : w.serial l) : w.Serial l := by
  cases l with
  | start input => exact List.all_eq_true.mp checked
  | _ => trivial

def keepsFailures (cfg : MfaConfig) (sha256 : String → String) (w : MfaWorld) (l : MfaLabel) :
    Bool :=
  (step cfg sha256 w l).all fun w' =>
    (w.redis.failed.read w.now).isNone || (w'.redis.failed.read w'.now).isSome

theorem keepsFailures_sound (checked : keepsFailures cfg sha256 w l) :
    w.KeepsFailures cfg sha256 l := by
  intro w' stepped present
  rw [keepsFailures, stepped, all_some, Bool.or_eq_true, isNone_iff_eq_none] at checked
  rcases checked with absent | kept
  · rw [absent] at present
    cases present
  · exact kept

end MfaWorld

/-! ## Five guesses at two codes, and the right code of the second -/

namespace MfaSample

def wrongGuess (i : Nat) : List MfaLabel := .start (.verify "000000" none) :: steps i 6 {}

def entered : List MfaLabel :=
  issue 0 "111111" ++ wrongGuess 1 ++ [.start (.verify "111111" none)] ++ steps 2 4 {}

def guessed : List MfaLabel :=
  wrongGuess 2 ++ wrongGuess 3 ++ [.tick 31000] ++ issue 4 "222222" ++ wrongGuess 5 ++ wrongGuess 6

end MfaSample

open MfaSample MfaWorld in
theorem guess_budget_at_two_codes :
    (∃ w, run (step cfg sha256) (idle 0) (issue 0 "111111" ++ wrongGuess 1) = some w ∧
      count (step cfg sha256) (comparesWrong cfg sha256) w guessed = 4 ∧
      count (step cfg sha256) (comparesWrong cfg sha256) w guessed ≤ MAX_FAILED_VERIFIES) ∧
    ∃ w guess, run (step cfg sha256) (idle 0) entered = some w ∧
      DulyAccepted cfg sha256 0 entered w 2 guess := by
  constructor
  · have ran : (run (step cfg sha256) (idle 0) (issue 0 "111111" ++ wrongGuess 1)).any (fun w =>
        check (step cfg sha256) serial w guessed &&
          check (step cfg sha256) (keepsFailures cfg sha256) w guessed &&
            count (step cfg sha256) (comparesWrong cfg sha256) w guessed == 4) = true := by
      decide +kernel
    obtain ⟨w, ran, both⟩ := (Option.any_eq_true _ _).mp ran
    obtain ⟨both, four⟩ := Bool.and_eq_true_iff.mp both
    obtain ⟨inTurn, kept⟩ := Bool.and_eq_true_iff.mp both
    have bound := (guess_budget (Guarded.of_check serial_sound (by decide +kernel)) ran).1 guessed none
      (Guarded.of_check serial_sound inTurn) (Guarded.of_check keepsFailures_sound kept)
    rw [toList_none, append_nil] at bound
    exact ⟨w, ran, eq_of_beq four, bound⟩
  · have ran : (run (step cfg sha256) (idle 0) entered).any (fun w => w.calls[2]?.any fun call =>
        match call.phase with
        | .consume _ => true
        | _ => false) = true := by
      decide +kernel
    obtain ⟨w, ran, at'⟩ := (Option.any_eq_true _ _).mp ran
    obtain ⟨call, here, phase⟩ := (Option.any_eq_true _ _).mp at'
    split at phase
    · next guess consumes =>
      exact ⟨w, guess, ran, (guess_budget (Guarded.of_check serial_sound (by decide +kernel)) ran).2 2
        call guess here consumes⟩
    · cases phase

end OpenWind
