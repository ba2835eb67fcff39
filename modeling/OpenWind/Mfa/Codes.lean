import OpenWind.Schema
import OpenWind.Lib.Runs
import OpenWind.Lib.Expiring
import OpenWind.Lib.Calls

/-!
# Codes of platform administrators

A platform administrator asks for a code, which is sent by mail, and verifies it for a
session.  Both are sequences of Redis commands with no lock around them.
-/

namespace OpenWind

def MAX_FAILED_VERIFIES : Nat := 5

def FAILED_VERIFY_WINDOW_SECONDS : Nat := 30 * 60

structure MfaConfig where
  codeTtlSeconds : Nat
  verifiedTtlSeconds : Nat
  freshWindowSeconds : Nat
  resendCooldownSeconds : Nat
  maxVerifyAttempts : Nat

/-! ## Keys -/

structure StoredCode where
  hash : String
  issue : Nat
deriving DecidableEq

structure MfaRedis where
  otp : Slot StoredCode
  attempts : Slot Nat
  failed : Slot Nat
  resend : Slot Unit
  /-- By the hash of the session token. -/
  verified : String → Slot Unit
  fresh : String → Slot Unit

/-! ## Calls -/

inductive MfaInput
  | request (email : String)
  | verify (submittedCode : String) (previousSessionToken : Option String)

inductive MfaOutcome
  | sentTo (email : String)
  /-- `MfaLockedOutError` -/
  | lockedOutError (retryAfterSeconds : Nat)
  /-- `MfaResendTooSoonError` -/
  | resendTooSoon (retryAfterSeconds : Nat)
  | mailFailed
  | ok (sessionToken : String)
  | invalid (attemptsRemaining : Nat)
  | expired
  | locked
  | lockedOut (retryAfterSeconds : Nat)

/-- A guess that was counted. -/
structure Guess where
  stored : StoredCode
  attempts : Nat
  /-- The guesses at this code so far. -/
  number : Nat

/-- What held of a code when it was accepted. -/
structure Acceptance where
  issue : Nat
  superseded : Bool
  expired : Bool
  number : Nat

/-- The command that a call comes to next. -/
inductive MfaPhase
  /-- `GET` and `TTL` of the failures -/
  | lockout
  | lockoutTtl
  /-- `SET NX` and `TTL` of the cooldown -/
  | claim
  | claimTtl
  /-- `SET` the code, `DEL` the attempts, send the mail, `DEL` the cooldown -/
  | store
  | reset
  | send
  | release
  | refuse (lockedOut : Nat)
  | readCode
  /-- `INCR` and `EXPIRE NX` of the attempts -/
  | count (stored : StoredCode)
  | countExpiry (guess : Guess)
  /-- `DEL` the code that has no guess left -/
  | dropLocked
  /-- `INCR` and `EXPIRE NX` of the failures, `DEL` the code and `TTL` -/
  | countFailure (attempts : Nat)
  | failureExpiry (attempts failures : Nat)
  | dropLockedOut
  | lockedOutTtl
  | consume (guess : Guess)
  /-- `DEL` the session that the client had, `SET` the new one and its step-up marker -/
  | endSession (previousSessionToken : String)
  | mint
  | stepUp (sessionToken : String)
  | done (outcome : MfaOutcome)

structure MfaCall where
  input : MfaInput
  phase : MfaPhase := .lockout
  accepted : Option Acceptance := none
  /-- The session that the call has started. -/
  session : Option String := none

structure MfaWorld where
  now : Time
  redis : MfaRedis
  calls : List MfaCall
  issued : List Time
  /-- How many guesses were counted at each code. -/
  guesses : Nat → Nat

structure MfaChance where
  code : String := ""
  sessionToken : String := ""
  delivered : Bool := true

/-- `/^[A-Za-z0-9_-]{43}$/` -/
def sessionTokenFrom (raw : Option String) : Option String :=
  raw.filter fun token =>
    token.toList.length == 43 && token.toList.all fun c => c.isAlphanum || c == '_' || c == '-'

def maskEmail (email : String) : String :=
  let chars := email.toList
  let at' := chars.length - 1 - (chars.reverse.idxOf '@')
  if !chars.contains '@' || at' == 0 then "***"
  else String.ofList (chars.take 1 ++ "***".toList ++ chars.drop at')

namespace MfaWorld

def afterLockout (input : MfaInput) (lockedOut : Nat) : MfaPhase :=
  match input with
  | .request _ => if 0 < lockedOut then .done (.lockedOutError lockedOut) else .claim
  | .verify _ _ => if 0 < lockedOut then .refuse lockedOut else .readCode

def put (w : MfaWorld) (i : Nat) (call : MfaCall) : MfaWorld :=
  { w with calls := w.calls.set i call }

def enter (w : MfaWorld) (i : Nat) (call : MfaCall) (phase : MfaPhase) : MfaWorld :=
  w.put i { call with phase }

def afterCount (cfg : MfaConfig) (sha256 : String → String) (input : MfaInput) (guess : Guess) :
    MfaPhase :=
  if cfg.maxVerifyAttempts < guess.attempts then .dropLocked
  else
    match input with
    | .verify submittedCode _ =>
      if sha256 submittedCode = guess.stored.hash then .consume guess
      else .countFailure guess.attempts
    | .request _ => .dropLocked

def afterFailure (cfg : MfaConfig) (attempts failures : Nat) : MfaPhase :=
  if MAX_FAILED_VERIFIES ≤ failures then .dropLockedOut
  else if cfg.maxVerifyAttempts ≤ attempts then .dropLocked
  else .done (.invalid (cfg.maxVerifyAttempts - attempts))

def afterConsume (input : MfaInput) : MfaPhase :=
  match input with
  | .verify _ previousSessionToken =>
    match sessionTokenFrom previousSessionToken with
    | some token => .endSession token
    | none => .mint
  | .request _ => .mint

def consume (w : MfaWorld) (i : Nat) (call : MfaCall) (guess : Guess) : MfaWorld :=
  { w with redis := { w.redis with otp := none, attempts := none, failed := none } }.put i
    { call with
      phase := afterConsume call.input
      accepted := some {
        issue := guess.stored.issue
        superseded := decide (guess.stored.issue + 1 < w.issued.length)
        expired := w.issued[guess.stored.issue]?.any fun time => decide (time < w.now)
        number := guess.number } }

/-- The command that the call comes to. -/
def advance (cfg : MfaConfig) (sha256 : String → String) (w : MfaWorld) (i : Nat) (call : MfaCall)
    (chance : MfaChance) : Option MfaWorld :=
  match call.phase with
  | .lockout =>
    let failures := (w.redis.failed.read w.now).getD 0
    if MAX_FAILED_VERIFIES ≤ failures then some (w.enter i call .lockoutTtl)
    else some (w.enter i call (afterLockout call.input 0))
  | .lockoutTtl =>
    let ttl := w.redis.failed.ttl w.now
    let lockedOut :=
      if ttl = -2 then 0 else if 0 < ttl then ttl.toNat else FAILED_VERIFY_WINDOW_SECONDS
    some (w.enter i call (afterLockout call.input lockedOut))
  | .claim =>
    match w.redis.resend.read w.now with
    | none =>
      some ({ w with redis := { w.redis with
        resend := Slot.keep w.now (cfg.resendCooldownSeconds * 1000) () } }.enter i call .store)
    | some _ => some (w.enter i call .claimTtl)
  | .claimTtl =>
    let ttl := w.redis.resend.ttl w.now
    some (w.enter i call (.done (.resendTooSoon (if 0 < ttl then ttl.toNat else 1))))
  | .store =>
    some ({ w with
      redis := { w.redis with
        otp := Slot.keep w.now (cfg.codeTtlSeconds * 1000) ⟨sha256 chance.code, w.issued.length⟩ }
      issued := w.issued ++ [w.now + cfg.codeTtlSeconds * 1000] }.enter i call .reset)
  | .reset => some ({ w with redis := { w.redis with attempts := none } }.enter i call .send)
  | .send =>
    match call.input with
    | .request email =>
      if chance.delivered then some (w.enter i call (.done (.sentTo (maskEmail email))))
      else some (w.enter i call .release)
    | .verify _ _ => none
  | .release =>
    some ({ w with redis := { w.redis with resend := none } }.enter i call (.done .mailFailed))
  | .refuse lockedOut =>
    some ({ w with redis := { w.redis with otp := none } }.enter i call
      (.done (.lockedOut lockedOut)))
  | .readCode =>
    match w.redis.otp.read w.now with
    | none => some (w.enter i call (.done .expired))
    | some stored => some (w.enter i call (.count stored))
  | .count stored =>
    some ({ w with
      redis := { w.redis with attempts := w.redis.attempts.incr w.now }
      guesses := Function.update w.guesses stored.issue (w.guesses stored.issue + 1) }.enter i call
        (.countExpiry ⟨stored, w.redis.attempts.counted w.now, w.guesses stored.issue + 1⟩))
  | .countExpiry guess =>
    some ({ w with redis := { w.redis with
      attempts := w.redis.attempts.expireNx w.now (cfg.codeTtlSeconds * 1000) } }.enter i call
        (afterCount cfg sha256 call.input guess))
  | .dropLocked =>
    some ({ w with redis := { w.redis with otp := none } }.enter i call (.done .locked))
  | .countFailure attempts =>
    some ({ w with redis := { w.redis with failed := w.redis.failed.incr w.now } }.enter i call
      (.failureExpiry attempts (w.redis.failed.counted w.now)))
  | .failureExpiry attempts failures =>
    some ({ w with redis := { w.redis with
      failed := w.redis.failed.expireNx w.now (FAILED_VERIFY_WINDOW_SECONDS * 1000) } }.enter i call
        (afterFailure cfg attempts failures))
  | .dropLockedOut =>
    some ({ w with redis := { w.redis with otp := none } }.enter i call .lockedOutTtl)
  | .lockedOutTtl =>
    let ttl := w.redis.failed.ttl w.now
    some (w.enter i call
      (.done (.lockedOut (if 0 < ttl then ttl.toNat else FAILED_VERIFY_WINDOW_SECONDS))))
  | .consume guess => some (w.consume i call guess)
  | .endSession token =>
    some ({ w with redis := { w.redis with
      verified := Function.update w.redis.verified (sha256 token) none
      fresh := Function.update w.redis.fresh (sha256 token) none } }.enter i call .mint)
  | .mint =>
    some ({ w with redis := { w.redis with
      verified := Function.update w.redis.verified (sha256 chance.sessionToken)
        (Slot.keep w.now (cfg.verifiedTtlSeconds * 1000) ()) } }.put i
      { call with phase := .stepUp chance.sessionToken, session := some chance.sessionToken })
  | .stepUp token =>
    some ({ w with redis := { w.redis with
      fresh := Function.update w.redis.fresh (sha256 token)
        (Slot.keep w.now (cfg.freshWindowSeconds * 1000) ()) } }.enter i call (.done (.ok token)))
  | .done _ => none

/-- A new code replaces the last one. -/
abbrev withCode (cfg : MfaConfig) (w : MfaWorld) (hash : String) : MfaWorld :=
  { w with
    redis := { w.redis with
      otp := Slot.keep w.now (cfg.codeTtlSeconds * 1000) ⟨hash, w.issued.length⟩ }
    issued := w.issued ++ [w.now + cfg.codeTtlSeconds * 1000] }

abbrev withGuess (w : MfaWorld) (stored : StoredCode) : MfaWorld :=
  { w with
    redis := { w.redis with attempts := w.redis.attempts.incr w.now }
    guesses := Function.update w.guesses stored.issue (w.guesses stored.issue + 1) }

abbrev withExpiry (cfg : MfaConfig) (w : MfaWorld) : MfaWorld :=
  { w with redis := { w.redis with
    attempts := w.redis.attempts.expireNx w.now (cfg.codeTtlSeconds * 1000) } }

abbrev withoutAttempts (w : MfaWorld) : MfaWorld :=
  { w with redis := { w.redis with attempts := none } }

end MfaWorld

inductive MfaLabel
  | start (input : MfaInput)
  | step (i : Nat) (chance : MfaChance)
  | tick (time : Nat)

namespace MfaWorld

def step (cfg : MfaConfig) (sha256 : String → String) (w : MfaWorld) : MfaLabel → Option MfaWorld
  | .start input => some { w with calls := w.calls ++ [{ input }] }
  | .step i chance => w.calls[i]?.bind fun call => w.advance cfg sha256 i call chance
  | .tick time => some { w with now := w.now + time }

def idle (now : Time) : MfaWorld where
  now := now
  redis := ⟨none, none, none, none, fun _ => none, fun _ => none⟩
  calls := []
  issued := []
  guesses := fun _ => 0

end MfaWorld

/-! ## The steps as rules -/

def MfaPhase.resets : MfaPhase → Bool
  | reset => true
  | _ => false

def MfaPhase.mints : MfaPhase → Bool
  | endSession _ => true
  | mint => true
  | stepUp _ => true
  | _ => false

def MfaPhase.guess : MfaPhase → Option Guess
  | countExpiry guess => some guess
  | consume guess => some guess
  | _ => none

def MfaPhase.reading : MfaPhase → Option StoredCode
  | count stored => some stored
  | _ => none

/-- A phase that bears on no code. -/
def MfaPhase.waits (phase : MfaPhase) : Bool :=
  !phase.resets && !phase.mints && phase.guess.isNone && phase.reading.isNone

theorem MfaPhase.waits_iff {phase : MfaPhase} :
    phase.waits ↔ phase.resets = false ∧ phase.mints = false ∧ phase.guess = none ∧
      phase.reading = none := by
  simp only [MfaPhase.waits, Bool.and_eq_true, Bool.not_eq_true', Option.isNone_iff_eq_none,
    and_assoc]

theorem MfaPhase.plain {phase : MfaPhase} (mints : phase.mints) :
    phase.resets = false ∧ phase.guess = none ∧ phase.reading = none := by
  unfold MfaPhase.mints at mints
  split at mints
  · exact ⟨rfl, rfl, rfl⟩
  · exact ⟨rfl, rfl, rfl⟩
  · exact ⟨rfl, rfl, rfl⟩
  · cases mints

namespace MfaWorld

inductive StepTo (cfg : MfaConfig) (w : MfaWorld) : MfaLabel → MfaWorld → Prop
  | started {input} :
    StepTo cfg w (.start input) { w with calls := w.calls ++ [{ input }] }
  | ticked {time} : StepTo cfg w (.tick time) { w with now := w.now + time }
  | aside {i chance call redis phase'} (here : w.calls[i]? = some call)
    (waited : call.phase.waits = true) (otp : redis.otp = w.redis.otp ∨ redis.otp = none)
    (attempts : redis.attempts = w.redis.attempts) (waits : phase'.waits = true) :
    StepTo cfg w (.step i chance) ({ w with redis }.enter i call phase')
  | read {i chance call stored} (here : w.calls[i]? = some call) (phase : call.phase = .readCode)
    (found : w.redis.otp.read w.now = some stored) :
    StepTo cfg w (.step i chance) (w.enter i call (.count stored))
  | stored {i chance call} (hash : String) (here : w.calls[i]? = some call) :
    StepTo cfg w (.step i chance) ((w.withCode cfg hash).enter i call .reset)
  | reset {i chance call} (here : w.calls[i]? = some call) (phase : call.phase = .reset) :
    StepTo cfg w (.step i chance) (w.withoutAttempts.enter i call .send)
  | counted {i chance call stored} (here : w.calls[i]? = some call)
    (phase : call.phase = .count stored) :
    StepTo cfg w (.step i chance) ((w.withGuess stored).enter i call
        (.countExpiry ⟨stored, w.redis.attempts.counted w.now, w.guesses stored.issue + 1⟩))
  | compared {i chance call guess phase'} (here : w.calls[i]? = some call)
    (phase : call.phase = .countExpiry guess)
    (next : phase' = .consume guess ∧ guess.attempts ≤ cfg.maxVerifyAttempts ∨
      phase'.waits = true) :
    StepTo cfg w (.step i chance) ((w.withExpiry cfg).enter i call phase')
  | consumed {i chance call guess} (here : w.calls[i]? = some call)
    (phase : call.phase = .consume guess) :
    StepTo cfg w (.step i chance) (w.consume i call guess)
  | minted {i chance call redis phase' session} (here : w.calls[i]? = some call)
    (mints : call.phase.mints = true) (otp : redis.otp = w.redis.otp)
    (attempts : redis.attempts = w.redis.attempts)
    (next : phase'.mints = true ∨ phase'.waits = true) :
    StepTo cfg w (.step i chance) ({ w with redis }.put i { call with phase := phase', session })

variable {cfg : MfaConfig} {sha256 : String → String} {w w' : MfaWorld}

theorem afterLockout_waits (input : MfaInput) (lockedOut : Nat) :
    (afterLockout input lockedOut).waits := by
  unfold afterLockout
  cases input with
  | request email => dsimp only; split <;> rfl
  | verify code token => dsimp only; split <;> rfl

theorem afterFailure_waits (attempts failures : Nat) :
    (afterFailure cfg attempts failures).waits := by
  unfold afterFailure
  split
  · rfl
  · split <;> rfl

theorem afterCount_next (input : MfaInput) (guess : Guess) :
    afterCount cfg sha256 input guess = .consume guess ∧ guess.attempts ≤ cfg.maxVerifyAttempts ∨
      (afterCount cfg sha256 input guess).waits := by
  unfold afterCount
  split
  · exact .inr rfl
  · next within =>
    cases input with
    | request email => exact .inr rfl
    | verify code token =>
      dsimp only
      split
      · exact .inl ⟨rfl, Nat.le_of_not_lt within⟩
      · exact .inr rfl

theorem advance_to {i : Nat} {call : MfaCall} {chance : MfaChance}
    (here : w.calls[i]? = some call) (stepped : w.advance cfg sha256 i call chance = some w') :
    StepTo cfg w (.step i chance) w' := by
  revert stepped
  fun_cases advance cfg sha256 w i call chance <;> intro stepped <;> try cases stepped
  case case2.refl phase _ _ =>
    exact .aside here (by rw [phase]; rfl) (.inl rfl) rfl (afterLockout_waits _ _)
  case case3.refl phase _ _ =>
    exact .aside here (by rw [phase]; rfl) (.inl rfl) rfl (afterLockout_waits _ _)
  case case7.refl => exact .stored (sha256 chance.code) here
  case case8.refl phase => exact .reset here phase
  case case13.refl phase => exact .aside here (by rw [phase]; rfl) (.inr rfl) rfl rfl
  case case15.refl phase _ found => exact .read here phase found
  case case16.refl phase => exact .counted here phase
  case case17.refl phase => exact .compared here phase (afterCount_next _ _)
  case case18.refl phase => exact .aside here (by rw [phase]; rfl) (.inr rfl) rfl rfl
  case case20.refl phase =>
    exact .aside here (by rw [phase]; rfl) (.inl rfl) rfl (afterFailure_waits _ _)
  case case21.refl phase => exact .aside here (by rw [phase]; rfl) (.inr rfl) rfl rfl
  case case23.refl phase => exact .consumed here phase
  case case24.refl phase => exact .minted here (by rw [phase]; rfl) rfl rfl (.inl rfl)
  case case25.refl phase => exact .minted here (by rw [phase]; rfl) rfl rfl (.inl rfl)
  case case26.refl phase => exact .minted here (by rw [phase]; rfl) rfl rfl (.inr rfl)
  -- any other step leaves the codes alone
  all_goals exact .aside here (by rw [‹call.phase = _›]; rfl) (.inl rfl) rfl rfl

theorem step_to {l : MfaLabel} (stepped : step cfg sha256 w l = some w') : StepTo cfg w l w' := by
  cases l with
  | start input =>
    cases stepped
    exact .started
  | step i chance =>
    obtain ⟨call, here, stepped⟩ := Option.bind_eq_some_iff.mp stepped
    exact advance_to here stepped
  | tick time =>
    cases stepped
    exact .ticked

end MfaWorld

end OpenWind
