import OpenWind.Mfa.SingleUse

/-!
# Calls one after another

The calls of one administrator, of which each begins when those before it have ended.  The clock
may go on at any time, also within a call.
-/

open List

namespace OpenWind

open Runs

def MfaPhase.ended : MfaPhase → Bool
  | done _ => true
  | _ => false

/-- A phase between whose beginning and end no guess is pending. -/
def MfaPhase.quiet : MfaPhase → Bool
  | reset => false
  | count _ => false
  | countExpiry _ => false
  | dropLocked => false
  | countFailure _ => false
  | failureExpiry _ _ => false
  | dropLockedOut => false
  | consume _ => false
  | _ => true

namespace MfaWorld

/-- A call begins when no other is under way. -/
def Serial (w : MfaWorld) : MfaLabel → Prop
  | .start _ => ∀ call ∈ w.calls, call.phase.ended = true
  | _ => True

/-- Only the last call may be under way. -/
def Single (w : MfaWorld) : Prop :=
  ∀ (i : Nat) (call : MfaCall), w.calls[i]? = some call → call.phase.ended = false →
    i + 1 = w.calls.length

def current (w : MfaWorld) : MfaPhase := (w.calls.getLast?.map (·.phase)).getD (.done .expired)

/-- The count of wrong codes, as it is read. -/
def failures (w : MfaWorld) : Nat := (w.redis.failed.read w.now).getD 0

variable {cfg : MfaConfig} {sha256 : String → String} {w w' : MfaWorld} {i : Nat}
  {call call' : MfaCall}

/-! ## The call under way -/

theorem current_of (single : w.Single) (here : w.calls[i]? = some call)
    (going : call.phase.ended = false) : w.current = call.phase := by
  have last := single i call here going
  unfold current
  rw [getLast?_eq_getElem?, ← last, Nat.add_sub_cancel, here]
  rfl

theorem current_set (single : w.Single) (here : w.calls[i]? = some call)
    (going : call.phase.ended = false) (calls : w'.calls = w.calls.set i call') :
    w'.current = call'.phase := by
  have last := single i call here going
  have inside : i < w.calls.length := by omega
  unfold current
  rw [calls, getLast?_eq_getElem?, length_set, ← last, Nat.add_sub_cancel, getElem?_set_self inside]
  rfl

theorem current_started (input : MfaInput) :
    ({ w with calls := w.calls ++ [{ input }] } : MfaWorld).current = .lockout := by
  unfold current
  rw [getLast?_append]
  rfl

theorem Single.set (single : w.Single) (here : w.calls[i]? = some call)
    (going : call.phase.ended = false) (calls : w'.calls = w.calls.set i call') : w'.Single := by
  intro j other there under
  rw [calls] at there
  rw [calls, length_set]
  rcases Calls.getElem?_replaced here there with ⟨rfl, -⟩ | ⟨-, old⟩
  · exact single j call here going
  · exact single j other old under

theorem Single.started (finished : ∀ call ∈ w.calls, call.phase.ended) (input : MfaInput) :
    ({ w with calls := w.calls ++ [{ input }] } : MfaWorld).Single := by
  intro j other there under
  rcases Calls.getElem?_began there with ⟨rfl, -⟩ | old
  · rw [length_append, length_singleton]
  · rw [finished other (mem_of_getElem? old)] at under
    cases under

theorem current_ended (finished : ∀ call ∈ w.calls, call.phase.ended) : w.current.ended := by
  unfold current
  cases last : w.calls.getLast? with
  | none => rfl
  | some call => exact finished call (mem_of_getLast? last)

/-! ## What it does -/

/-- A step of a call, by the phase that the call is in. -/
inductive Turn (cfg : MfaConfig) (sha256 : String → String) (w : MfaWorld) (i : Nat)
    (call : MfaCall) : MfaWorld → Prop
  | aside {redis call'} (was : call.phase.quiet = true) (going : call.phase.ended = false)
    (is : call'.phase.quiet = true)
    (opens : call'.phase = .readCode → w.failures < MAX_FAILED_VERIFIES)
    (otp : redis.otp = w.redis.otp ∨ redis.otp = none)
    (attempts : redis.attempts = w.redis.attempts) (failed : redis.failed = w.redis.failed)
    (accepted : call'.accepted = call.accepted) :
    Turn cfg sha256 w i call ({ w with redis }.put i call')
  | found {stored} (phase : call.phase = .readCode)
    (found : w.redis.otp.read w.now = some stored) :
    Turn cfg sha256 w i call (w.enter i call (.count stored))
  | stored (hash : String) (phase : call.phase = .store) :
    Turn cfg sha256 w i call ((w.withCode cfg hash).enter i call .reset)
  | reset (phase : call.phase = .reset) :
    Turn cfg sha256 w i call (w.withoutAttempts.enter i call .send)
  | counted {stored} (phase : call.phase = .count stored) :
    Turn cfg sha256 w i call ((w.withGuess stored).enter i call
        (.countExpiry ⟨stored, w.redis.attempts.counted w.now, w.guesses stored.issue + 1⟩))
  | compared {guess} (phase : call.phase = .countExpiry guess) :
    Turn cfg sha256 w i call
      ((w.withExpiry cfg).enter i call (afterCount cfg sha256 call.input guess))
  | dropped {phase'} (phase : call.phase = .dropLocked ∨ call.phase = .dropLockedOut)
    (is : phase'.quiet = true) (apart : phase' ≠ .readCode) :
    Turn cfg sha256 w i call ({ w with redis := { w.redis with otp := none } }.enter i call phase')
  | charged {attempts} (phase : call.phase = .countFailure attempts) :
    Turn cfg sha256 w i call
      ({ w with redis := { w.redis with failed := w.redis.failed.incr w.now } }.enter i call
        (.failureExpiry attempts (w.redis.failed.counted w.now)))
  | judged {attempts failures} (phase : call.phase = .failureExpiry attempts failures) :
    Turn cfg sha256 w i call ({ w with redis := { w.redis with
      failed := w.redis.failed.expireNx w.now (FAILED_VERIFY_WINDOW_SECONDS * 1000) } }.enter i call
        (afterFailure cfg attempts failures))
  | consumed {guess} (phase : call.phase = .consume guess) :
    Turn cfg sha256 w i call (w.consume i call guess)

theorem Turn.going (turn : Turn cfg sha256 w i call w') : call.phase.ended = false := by
  cases turn with
  | aside was going => exact going
  | dropped phase =>
    rcases phase with phase | phase
    · rw [phase]; rfl
    · rw [phase]; rfl
  | found phase | stored hash phase | reset phase | counted phase | compared phase | charged phase
  | judged phase | consumed phase => rw [phase]; rfl

theorem Turn.calls (turn : Turn cfg sha256 w i call w') :
    ∃ call', w'.calls = w.calls.set i call' := by
  cases turn <;> exact ⟨_, rfl⟩

theorem Turn.single (turn : Turn cfg sha256 w i call w') (single : w.Single)
    (here : w.calls[i]? = some call) : w'.Single := by
  obtain ⟨call', calls⟩ := turn.calls
  exact single.set here turn.going calls

theorem afterLockout_quiet (input : MfaInput) (lockedOut : Nat) :
    (afterLockout input lockedOut).quiet ∧
      (afterLockout input lockedOut = .readCode → lockedOut = 0) := by
  unfold afterLockout
  cases input with
  | request email =>
    dsimp only
    split
    · exact ⟨rfl, nofun⟩
    · exact ⟨rfl, nofun⟩
  | verify code token =>
    dsimp only
    split
    · exact ⟨rfl, nofun⟩
    · next free => exact ⟨rfl, fun _ => Nat.eq_zero_of_not_pos free⟩

theorem afterConsume_quiet (input : MfaInput) :
    (afterConsume input).quiet ∧ afterConsume input ≠ .readCode := by
  unfold afterConsume
  split
  · split
    · exact ⟨rfl, nofun⟩
    · exact ⟨rfl, nofun⟩
  · exact ⟨rfl, nofun⟩

theorem failures_of_ttl
    (free : (if w.redis.failed.ttl w.now = -2 then 0
      else if 0 < w.redis.failed.ttl w.now then (w.redis.failed.ttl w.now).toNat
      else FAILED_VERIFY_WINDOW_SECONDS) = 0) : w.failures = 0 := by
  split at free
  · next gone =>
    unfold Slot.ttl at gone
    unfold failures Slot.read
    split at gone
    · omega
    · cases gone
    · next none' => rw [none']; rfl
  · split at free
    · omega
    · cases free

theorem turn_of_advance {chance : MfaChance}
    (stepped : w.advance cfg sha256 i call chance = some w') : Turn cfg sha256 w i call w' := by
  revert stepped
  fun_cases advance cfg sha256 w i call chance <;> intro stepped <;> try cases stepped
  case case2.refl phase _ few =>
    exact .aside (by rw [phase]; rfl) (by rw [phase]; rfl) (afterLockout_quiet _ _).1
      (fun _ => Nat.lt_of_not_le few) (.inl rfl) rfl rfl rfl
  case case3.refl phase _ _ =>
    refine .aside (by rw [phase]; rfl) (by rw [phase]; rfl) (afterLockout_quiet _ _).1
      (fun opens => ?_) (.inl rfl) rfl rfl rfl
    rw [failures_of_ttl ((afterLockout_quiet _ _).2 opens)]
    decide
  case case7.refl phase => exact .stored (sha256 chance.code) phase
  case case8.refl phase => exact .reset phase
  case case13.refl phase =>
    exact .aside (by rw [phase]; rfl) (by rw [phase]; rfl) rfl (fun opens => by cases opens)
      (.inr rfl) rfl rfl rfl
  case case15.refl phase _ found => exact .found phase found
  case case16.refl phase => exact .counted phase
  case case17.refl phase => exact .compared phase
  case case18.refl phase => exact .dropped (.inl phase) rfl fun is => by cases is
  case case19.refl phase => exact .charged phase
  case case20.refl phase => exact .judged phase
  case case21.refl phase => exact .dropped (.inr phase) rfl fun is => by cases is
  case case23.refl phase => exact .consumed phase
  -- any other step leaves the counts alone
  all_goals
    exact .aside (by rw [‹call.phase = _›]; rfl) (by rw [‹call.phase = _›]; rfl) rfl
      (fun opens => by cases opens) (.inl rfl) rfl rfl rfl

end MfaWorld

end OpenWind
