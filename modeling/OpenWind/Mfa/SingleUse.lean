import OpenWind.Mfa.Codes

/-!
# Single use of a code

A code leads to one session at most, and only while it is the last one issued, has not
expired and has guesses left, as long as a verification deletes the code that it has read.
-/

open List Option Function

namespace OpenWind

open Runs Calls

/-- The code was the last one issued, had not expired and had guesses left. -/
def Acceptance.Valid (cfg : MfaConfig) (a : Acceptance) : Prop :=
  a.superseded = false ∧ a.expired = false ∧ a.number ≤ cfg.maxVerifyAttempts

namespace MfaWorld

structure SingleUse (cfg : MfaConfig) (w : MfaWorld) : Prop where
  valid : ∀ call ∈ w.calls, call.session.isSome = true → ∃ a, call.accepted = some a ∧ a.Valid cfg
  once : ∀ (i j : Nat) (call other : MfaCall) (a b : Acceptance), w.calls[i]? = some call →
    w.calls[j]? = some other → call.session.isSome = true → other.session.isSome = true →
    call.accepted = some a → other.accepted = some b → a.issue = b.issue → i = j

def Orderly (w : MfaWorld) : MfaLabel → Prop
  | .step i _ => ∀ call, w.calls[i]? = some call →
      (∀ guess, call.phase = .consume guess → w.redis.otp.read w.now = some guess.stored) ∧
      (∀ stored, call.phase = .count stored → ∀ other ∈ w.calls, other.phase.resets = false)
  | _ => True

def Counted (w : MfaWorld) (entry : Entry StoredCode) : Prop :=
  (w.redis.attempts = none ∧ w.guesses entry.value.issue = 0) ∨
    ∃ attempts, w.redis.attempts = some attempts ∧
      w.guesses entry.value.issue ≤ attempts.value ∧
      ∀ until' time, entry.expiresAt = some until' → attempts.expiresAt = some time → until' ≤ time

structure Latest (cfg : MfaConfig) (w : MfaWorld) (entry : Entry StoredCode) : Prop where
  last : entry.value.issue + 1 = w.issued.length
  lasts : ∃ until', entry.expiresAt = some until' ∧ w.issued[entry.value.issue]? = some until' ∧
    until' ≤ w.now + cfg.codeTtlSeconds * 1000

structure Tried (w : MfaWorld) (guess : Guess) : Prop where
  issued : guess.stored.issue < w.issued.length
  covered : ∀ entry, w.redis.otp = some entry → entry.alive w.now = true →
    entry.value = guess.stored → guess.number ≤ guess.attempts

/-- A code that was accepted is gone. -/
structure Spent (cfg : MfaConfig) (w : MfaWorld) (a : Acceptance) : Prop where
  valid : a.Valid cfg
  issued : a.issue < w.issued.length
  gone : ∀ entry, w.redis.otp = some entry → entry.value.issue ≠ a.issue

/-- What a call knows of the code that it has to do with. -/
structure CallSound (cfg : MfaConfig) (w : MfaWorld) (call : MfaCall) : Prop where
  reading : ∀ stored, call.phase.reading = some stored → stored.issue < w.issued.length
  tried : ∀ guess, call.phase.guess = some guess → w.Tried guess
  compared : ∀ guess, call.phase = .consume guess → guess.attempts ≤ cfg.maxVerifyAttempts
  minting : call.phase.mints = true ∨ call.session.isSome = true → call.accepted.isSome = true
  spent : ∀ a, call.accepted = some a → w.Spent cfg a

structure Sound (cfg : MfaConfig) (w : MfaWorld) : Prop where
  latest : ∀ entry, w.redis.otp = some entry → w.Latest cfg entry
  fresh : ∀ k, w.issued.length ≤ k → w.guesses k = 0
  resetting : ∀ call ∈ w.calls, call.phase.resets = true →
    ∀ entry, w.redis.otp = some entry → w.guesses entry.value.issue = 0
  counted : (∀ call ∈ w.calls, call.phase.resets = false) →
    ∀ entry, w.redis.otp = some entry → entry.alive w.now = true → w.Counted entry
  calls : ∀ call ∈ w.calls, w.CallSound cfg call
  once : ∀ (i j : Nat) (call other : MfaCall) (a b : Acceptance), w.calls[i]? = some call →
    w.calls[j]? = some other → call.accepted = some a → other.accepted = some b →
    a.issue = b.issue → i = j

variable {cfg : MfaConfig} {sha256 : String → String} {w w' : MfaWorld}

theorem Sound.singleUse (sound : w.Sound cfg) : w.SingleUse cfg := by
  refine ⟨fun call mem started => ?_, fun i j call other a b here there _ _ first second =>
    sound.once i j call other a b here there first second⟩
  obtain ⟨a, accepted⟩ := isSome_iff_exists.mp ((sound.calls call mem).minting (.inr started))
  exact ⟨a, accepted, ((sound.calls call mem).spent a accepted).valid⟩

theorem Sound.idle (now : Time) : (MfaWorld.idle now).Sound cfg := by
  refine ⟨fun _ found => ?_, fun _ _ => rfl, fun _ mem => ?_, fun _ _ found => ?_, fun _ mem => ?_,
    fun _ _ _ _ _ _ found => ?_⟩
  · cases found
  · cases mem
  · cases found
  · cases mem
  · cases found

/-! ## What no step undoes -/

structure Onward (w w' : MfaWorld) : Prop where
  issued : w.issued.length ≤ w'.issued.length
  now : w.now ≤ w'.now
  otp : ∀ entry, w'.redis.otp = some entry →
    w.redis.otp = some entry ∨ w.issued.length ≤ entry.value.issue

theorem Tried.onward {guess : Guess} (tried : w.Tried guess) (onward : Onward w w') :
    w'.Tried guess := by
  refine ⟨Nat.lt_of_lt_of_le tried.issued onward.issued, fun entry found alive same => ?_⟩
  rcases onward.otp entry found with old | new
  · exact tried.covered entry old (Slot.alive_earlier onward.now alive) same
  · rw [same] at new
    exact absurd tried.issued (Nat.not_lt.mpr new)

theorem Spent.onward {a : Acceptance} (spent : w.Spent cfg a) (onward : Onward w w') :
    w'.Spent cfg a := by
  refine ⟨spent.valid, Nat.lt_of_lt_of_le spent.issued onward.issued, fun entry found => ?_⟩
  rcases onward.otp entry found with old | new
  · exact spent.gone entry old
  · intro same
    rw [same] at new
    exact absurd spent.issued (Nat.not_lt.mpr new)

theorem CallSound.onward {call : MfaCall} (sound : w.CallSound cfg call) (onward : Onward w w') :
    w'.CallSound cfg call :=
  ⟨fun stored phase => Nat.lt_of_lt_of_le (sound.reading stored phase) onward.issued,
    fun guess phase => (sound.tried guess phase).onward onward, sound.compared, sound.minting,
    fun a accepted => (sound.spent a accepted).onward onward⟩

variable {i : Nat} {call call' : MfaCall} {entry : Entry StoredCode}

theorem Sound.replace (sound : w.Sound cfg) (onward : Onward w w') (same : w'.calls = w.calls)
    (here : w.calls[i]? = some call)
    (latest : ∀ entry, w'.redis.otp = some entry → w'.Latest cfg entry)
    (fresh : ∀ k, w'.issued.length ≤ k → w'.guesses k = 0)
    (resetting : ∀ other ∈ (w'.put i call').calls, other.phase.resets →
      ∀ entry, w'.redis.otp = some entry → w'.guesses entry.value.issue = 0)
    (counted : (∀ other ∈ (w'.put i call').calls, other.phase.resets = false) →
      ∀ entry, w'.redis.otp = some entry → entry.alive w'.now → w'.Counted entry)
    (own : w'.CallSound cfg call')
    (apart : ∀ a, call'.accepted = some a → ∀ (j : Nat) (other : MfaCall) (b : Acceptance), j ≠ i →
      w.calls[j]? = some other → other.accepted = some b → a.issue ≠ b.issue) :
    (w'.put i call').Sound cfg := by
  have calls : (w'.put i call').calls = w.calls.set i call' := by rw [put, same]
  have still : Onward w' (w'.put i call') :=
    ⟨Nat.le_refl _, Nat.le_refl _, fun entry found => .inl found⟩
  refine ⟨fun entry found => ⟨(latest entry found).last, (latest entry found).lasts⟩, fresh,
    resetting, counted, fun other mem => ?_, fun j k first second a b => ?_⟩
  · rw [calls] at mem
    rcases of_mem_replaced mem with rfl | old
    · exact own.onward still
    · exact ((sound.calls other old).onward onward).onward still
  · rw [calls]
    intro found found' accepted accepted' issue
    rcases getElem?_replaced here found with ⟨rfl, rfl⟩ | ⟨other, old⟩
    · rcases getElem?_replaced here found' with ⟨rfl, rfl⟩ | ⟨other', old'⟩
      · rfl
      · exact absurd issue (apart a accepted k second b other' old' accepted')
    · rcases getElem?_replaced here found' with ⟨rfl, rfl⟩ | ⟨other', old'⟩
      · exact absurd issue.symm (apart b accepted' j first a other old accepted)
      · exact sound.once j k first second a b old old' accepted accepted' issue

theorem none_resets (here : w.calls[i]? = some call) (waited : call.phase.resets = false)
    (none' : ∀ other ∈ w.calls.set i call', other.phase.resets = false) :
    ∀ other ∈ w.calls, other.phase.resets = false := by
  intro other mem
  rcases mem_replaced here mem with rfl | still
  · exact waited
  · exact none' other still

theorem Sound.apart (sound : w.Sound cfg) (here : w.calls[i]? = some call)
    (kept : call'.accepted = call.accepted) :
    ∀ a, call'.accepted = some a → ∀ (j : Nat) (other : MfaCall) (b : Acceptance), j ≠ i →
      w.calls[j]? = some other → other.accepted = some b → a.issue ≠ b.issue := by
  intro a accepted j other b differ there accepted' same
  rw [kept] at accepted
  exact differ (sound.once i j call other a b here there accepted accepted' same).symm

/-! ## The steps -/

theorem Sound.aside (sound : w.Sound cfg) {i : Nat} {call call' : MfaCall} {redis : MfaRedis}
    (here : w.calls[i]? = some call) (before : call.phase.resets = false)
    (otp : redis.otp = w.redis.otp ∨ redis.otp = none)
    (attempts : redis.attempts = w.redis.attempts) (after : call'.phase.resets = false)
    (own : w.CallSound cfg call') (accepted : call'.accepted = call.accepted) :
    ({ w with redis }.put i call').Sound cfg := by
  have was : ∀ entry, redis.otp = some entry → w.redis.otp = some entry := by
    intro entry found
    rcases otp with same | gone
    · rw [← same]
      exact found
    · rw [gone] at found
      cases found
  have onward : Onward w { w with redis } :=
    ⟨Nat.le_refl _, Nat.le_refl _, fun entry found => .inl (was entry found)⟩
  refine sound.replace onward rfl here (fun entry found => ?_) sound.fresh ?_ ?_ (own.onward onward)
    ?_
  · have latest := sound.latest entry (was entry found)
    exact ⟨latest.last, latest.lasts⟩
  · intro other mem resets entry found
    rcases of_mem_replaced mem with rfl | old
    · rw [after] at resets
      cases resets
    · exact sound.resetting other old resets entry (was entry found)
  · intro none' entry found alive
    have covered := sound.counted (none_resets here before none') entry (was entry found) alive
    unfold Counted at covered ⊢
    rw [attempts]
    exact covered
  · exact sound.apart here accepted

theorem Sound.started (sound : w.Sound cfg) (input : MfaInput) :
    ({ w with calls := w.calls ++ [{ input }] } : MfaWorld).Sound cfg := by
  refine ⟨fun entry found => ?_, sound.fresh, fun call mem resets => ?_, fun none' => ?_,
    fun call mem => ?_, fun i j call other a b here there accepted accepted' => ?_⟩
  · have latest := sound.latest entry found
    exact ⟨latest.last, latest.lasts⟩
  · rcases of_mem_began mem with rfl | old
    · cases resets
    · exact sound.resetting call old resets
  · exact sound.counted fun call mem => none' call (mem_append_left _ mem)
  · rcases of_mem_began mem with rfl | old
    · exact ⟨nofun, nofun, nofun, nofun, nofun⟩
    · have same : Onward w { w with calls := w.calls ++ [{ input }] } :=
        ⟨Nat.le_refl _, Nat.le_refl _, fun entry found => .inl found⟩
      exact (sound.calls call old).onward same
  · rcases getElem?_began here with ⟨_, rfl⟩ | old
    · cases accepted
    · rcases getElem?_began there with ⟨_, rfl⟩ | old'
      · cases accepted'
      · exact sound.once i j call other a b old old' accepted accepted'

theorem Sound.ticked (sound : w.Sound cfg) (time : Nat) :
    ({ w with now := w.now + time } : MfaWorld).Sound cfg := by
  have onward : Onward w { w with now := w.now + time } :=
    ⟨Nat.le_refl _, Nat.le_add_right _ _, fun entry found => .inl found⟩
  refine ⟨fun entry found => ?_, sound.fresh, sound.resetting, fun none' entry found alive => ?_,
    fun call mem => (sound.calls call mem).onward onward, sound.once⟩
  · obtain ⟨until', lasts, issued, within⟩ := (sound.latest entry found).lasts
    refine ⟨(sound.latest entry found).last, until', lasts, issued, Nat.le_trans within ?_⟩
    exact Nat.add_le_add_right (Nat.le_add_right _ _) _
  · exact sound.counted none' entry found (Slot.alive_earlier (Nat.le_add_right _ _) alive)

theorem Sound.stored (sound : w.Sound cfg) (hash : String) (here : w.calls[i]? = some call) :
    ((w.withCode cfg hash).enter i call .reset).Sound cfg := by
  have member : call ∈ w.calls := mem_of_getElem? here
  have grown : (w.issued ++ [w.now + cfg.codeTtlSeconds * 1000]).length = w.issued.length + 1 := by
    rw [length_append, length_singleton]
  have onward : Onward w (w.withCode cfg hash) := by
    refine ⟨by rw [grown]; exact Nat.le_succ _, Nat.le_refl _, fun entry found => .inr ?_⟩
    obtain rfl := Option.some.inj found
    exact Nat.le_refl _
  have kept := (sound.calls call member).onward onward
  refine sound.replace onward rfl here ?_ ?_ ?_ ?_
    ⟨nofun, nofun, nofun, fun started => kept.minting (started.imp_left nofun), kept.spent⟩
    (sound.apart here rfl)
  · intro entry found
    obtain rfl := Option.some.inj found
    refine ⟨grown.symm, _, rfl, ?_, Nat.le_refl _⟩
    rw [getElem?_append_right (Nat.le_refl _), Nat.sub_self]
    rfl
  · intro k beyond
    rw [grown] at beyond
    exact sound.fresh k (Nat.le_of_succ_le beyond)
  · intro other mem resets entry found
    obtain rfl := Option.some.inj found
    exact sound.fresh _ (Nat.le_refl _)
  · intro none'
    have resets := none' _ (mem_replacement here)
    cases resets

theorem Sound.reset (sound : w.Sound cfg) {i : Nat} {call : MfaCall}
    (here : w.calls[i]? = some call) (phase : call.phase = .reset) :
    (w.withoutAttempts.enter i call .send).Sound cfg := by
  have member : call ∈ w.calls := mem_of_getElem? here
  have onward : Onward w w.withoutAttempts :=
    ⟨Nat.le_refl _, Nat.le_refl _, fun entry found => .inl found⟩
  have kept := (sound.calls call member).onward onward
  refine sound.replace onward rfl here ?_ sound.fresh ?_ ?_
    ⟨nofun, nofun, nofun, fun started => kept.minting (started.imp_left nofun), kept.spent⟩
    (sound.apart here rfl)
  · intro entry found
    have latest := sound.latest entry found
    exact ⟨latest.last, latest.lasts⟩
  · intro other mem resets
    rcases of_mem_replaced mem with rfl | old
    · cases resets
    · exact sound.resetting other old resets
  · intro _ entry found _
    exact .inl ⟨rfl, sound.resetting call member (by rw [phase]; rfl) entry found⟩

theorem Counted.counted {entry : Entry StoredCode} (covered : w.Counted entry)
    (alive : entry.alive w.now) {until' : Time} (lasts : entry.expiresAt = some until') :
    (w.redis.attempts = none ∧ w.guesses entry.value.issue = 0) ∨
      ∃ attempts, w.redis.attempts.filter (Entry.alive w.now) = some attempts ∧
        w.guesses entry.value.issue ≤ attempts.value ∧
        ∀ time, attempts.expiresAt = some time → until' ≤ time := by
  rcases covered with anew | ⟨attempts, held, counted, longer⟩
  · exact .inl anew
  · refine .inr ⟨attempts, ?_, counted, fun time expires => longer until' time lasts expires⟩
    refine filter_eq_some_iff.mpr ⟨held, ?_⟩
    unfold Entry.alive
    cases expires : attempts.expiresAt with
    | none => rfl
    | some time =>
      rw [Entry.alive, lasts, all_some, decide_eq_true_eq] at alive
      rw [all_some, decide_eq_true_eq]
      exact Nat.le_trans alive (longer until' time lasts expires)

theorem Counted.counting (covered : w.Counted entry) (alive : entry.alive w.now)
    {until' : Time} (lasts : entry.expiresAt = some until') (stored : StoredCode) :
    Counted (w.withGuess stored) entry ∧
      w.guesses entry.value.issue + 1 ≤ w.redis.attempts.counted w.now := by
  have grown : Function.update w.guesses stored.issue (w.guesses stored.issue + 1) entry.value.issue ≤
      w.guesses entry.value.issue + 1 := by
    by_cases same : entry.value.issue = stored.issue
    · exact Nat.le_of_eq (by rw [same, update_self])
    · rw [update_of_ne same]
      exact Nat.le_succ _
  rcases covered.counted alive lasts with ⟨anew, none'⟩ | ⟨attempts, held, counted, longer⟩
  · refine ⟨.inr ⟨⟨1, none⟩, ?_, ?_, fun _ _ _ expires => by cases expires⟩, ?_⟩
    · change w.redis.attempts.incr w.now = _
      rw [anew]
      rfl
    · change Function.update w.guesses _ _ _ ≤ 1
      omega
    · rw [none']
      exact Nat.succ_le_succ (Nat.zero_le _)
  · refine ⟨.inr ⟨⟨attempts.value + 1, attempts.expiresAt⟩, ?_, ?_, fun u time lasts' expires => ?_⟩,
      ?_⟩
    · change w.redis.attempts.incr w.now = _
      rw [Slot.incr, held]
    · change Function.update w.guesses _ _ _ ≤ attempts.value + 1
      omega
    · have same : u = until' := Option.some.inj (lasts'.symm.trans lasts)
      rw [same]
      exact longer time expires
    · rw [Slot.counted, Slot.read, held, map_some, getD_some]
      exact Nat.succ_le_succ counted

theorem Counted.comparing (covered : w.Counted entry) (latest : w.Latest cfg entry) :
    Counted (w.withExpiry cfg) entry := by
  obtain ⟨until', lasts, -, within⟩ := latest.lasts
  unfold Counted at covered ⊢
  dsimp only
  rcases Slot.expireNx_cases w.now (cfg.codeTtlSeconds * 1000) w.redis.attempts with
    same | ⟨value, was, is⟩
  · rw [same]
    exact covered
  · rw [is]
    rcases covered with ⟨anew, -⟩ | ⟨attempts, held, counted, -⟩
    · rw [was] at anew
      cases anew
    · rw [was] at held
      obtain rfl := Option.some.inj held
      refine .inr ⟨_, rfl, counted, fun u time lasts' expires => ?_⟩
      obtain rfl := Option.some.inj expires
      obtain rfl := Option.some.inj (lasts'.symm.trans lasts)
      exact within

theorem Sound.counting (sound : w.Sound cfg) {i : Nat} {call : MfaCall} {stored : StoredCode}
    (here : w.calls[i]? = some call) (phase : call.phase = .count stored)
    (settled : ∀ other ∈ w.calls, other.phase.resets = false) :
    ((w.withGuess stored).enter i call
        (.countExpiry ⟨stored, w.redis.attempts.counted w.now, w.guesses stored.issue + 1⟩)).Sound
          cfg := by
  have member : call ∈ w.calls := mem_of_getElem? here
  have bound : stored.issue < w.issued.length :=
    (sound.calls call member).reading stored (by rw [phase]; rfl)
  have onward : Onward w (w.withGuess stored) :=
    ⟨Nat.le_refl _, Nat.le_refl _, fun entry found => .inl found⟩
  have kept := (sound.calls call member).onward onward
  refine sound.replace onward rfl here ?_ ?_ ?_ ?_ ⟨nofun, ?_, nofun,
    fun started => kept.minting (started.imp_left nofun), kept.spent⟩ (sound.apart here rfl)
  · intro entry found
    have latest := sound.latest entry found
    exact ⟨latest.last, latest.lasts⟩
  · intro k beyond
    change Function.update w.guesses stored.issue _ k = 0
    rw [update_of_ne (Nat.ne_of_gt (Nat.lt_of_lt_of_le bound beyond))]
    exact sound.fresh k beyond
  · intro other mem resets
    rcases of_mem_replaced mem with rfl | old
    · cases resets
    · rw [settled other old] at resets
      cases resets
  · intro _ entry found alive
    obtain ⟨until', lasts, -, -⟩ := (sound.latest entry found).lasts
    exact ((sound.counted settled entry found alive).counting alive lasts stored).1
  · intro guess counted
    obtain rfl := Option.some.inj counted
    refine ⟨bound, fun entry found alive same => ?_⟩
    obtain ⟨until', lasts, -, -⟩ := (sound.latest entry found).lasts
    have tried := ((sound.counted settled entry found alive).counting alive lasts stored).2
    rw [same] at tried
    exact tried

theorem CallSound.waiting (sound : w.CallSound cfg call) (waits : call'.phase.waits)
    (accepted : call'.accepted = call.accepted) (session : call'.session = call.session) :
    w.CallSound cfg call' := by
  obtain ⟨-, mints, guess, reading⟩ := MfaPhase.waits_iff.mp waits
  refine ⟨fun stored found => ?_, fun g found => ?_, fun g phase => ?_, fun started => ?_,
    fun a found => ?_⟩
  · rw [reading] at found
    cases found
  · rw [guess] at found
    cases found
  · rw [phase] at guess
    cases guess
  · rw [mints, session] at started
    rw [accepted]
    exact sound.minting (.inr (started.resolve_left nofun))
  · rw [accepted] at found
    exact sound.spent a found

theorem Sound.comparing (sound : w.Sound cfg) {i : Nat} {call : MfaCall} {guess : Guess}
    {phase' : MfaPhase} (here : w.calls[i]? = some call) (phase : call.phase = .countExpiry guess)
    (next : phase' = .consume guess ∧ guess.attempts ≤ cfg.maxVerifyAttempts ∨ phase'.waits) :
    ((w.withExpiry cfg).enter i call phase').Sound cfg := by
  have member : call ∈ w.calls := mem_of_getElem? here
  have onward : Onward w (w.withExpiry cfg) :=
    ⟨Nat.le_refl _, Nat.le_refl _, fun entry found => .inl found⟩
  have kept := (sound.calls call member).onward onward
  have own : CallSound cfg (w.withExpiry cfg) { call with phase := phase' } := by
    rcases next with ⟨rfl, within⟩ | waits
    · refine ⟨nofun, fun g found => ?_, fun g found => ?_, fun started => ?_, kept.spent⟩
      · exact kept.tried g (by rw [phase]; exact found)
      · cases found
        exact within
      · exact kept.minting (started.imp_left nofun)
    · exact kept.waiting waits rfl rfl
  have after : phase'.resets = false := by
    rcases next with ⟨rfl, -⟩ | waits
    · rfl
    · exact (MfaPhase.waits_iff.mp waits).1
  refine sound.replace onward rfl here ?_ sound.fresh ?_ ?_ own (sound.apart here rfl)
  · intro entry found
    have latest := sound.latest entry found
    exact ⟨latest.last, latest.lasts⟩
  · intro other mem resets
    rcases of_mem_replaced mem with rfl | old
    · rw [after] at resets
      cases resets
    · exact sound.resetting other old resets
  · intro none' entry found alive
    exact (sound.counted (none_resets here (by rw [phase]; rfl) none') entry found alive).comparing
      (sound.latest entry found)

theorem Sound.consuming (sound : w.Sound cfg) {guess : Guess} (here : w.calls[i]? = some call)
    (phase : call.phase = .consume guess) (found : w.redis.otp.read w.now = some guess.stored) :
    (w.consume i call guess).Sound cfg := by
  have member : call ∈ w.calls := mem_of_getElem? here
  have own := sound.calls call member
  obtain ⟨entry, held, alive, value⟩ := Slot.read_eq_some.mp found
  have latest := sound.latest entry held
  obtain ⟨until', lasts, issued, -⟩ := latest.lasts
  rw [value] at issued
  have last : guess.stored.issue + 1 = w.issued.length := by
    rw [← value]
    exact latest.last
  have tried := own.tried guess (by rw [phase]; rfl)
  have within : guess.number ≤ cfg.maxVerifyAttempts :=
    Nat.le_trans (tried.covered entry held alive value) (own.compared guess phase)
  have notExpired : ¬until' < w.now := by
    rw [Entry.alive, lasts, all_some, decide_eq_true_eq] at alive
    exact Nat.not_lt.mpr alive
  have onward : Onward w
      { w with redis := { w.redis with otp := none, attempts := none, failed := none } } :=
    ⟨Nat.le_refl _, Nat.le_refl _, fun entry found => by cases found⟩
  refine sound.replace onward rfl here (fun _ found => by cases found) sound.fresh
    (fun _ _ _ _ found => by cases found) (fun _ _ found => by cases found) ?_ ?_
  · have plain : (afterConsume call.input).guess = none ∧ (afterConsume call.input).reading = none := by
      unfold afterConsume
      split
      · split
        · exact ⟨rfl, rfl⟩
        · exact ⟨rfl, rfl⟩
      · exact ⟨rfl, rfl⟩
    refine ⟨fun stored reading => ?_, fun g counted => ?_, fun g consumes => ?_, fun _ => rfl,
      fun a accepted => ?_⟩
    · rw [plain.2] at reading
      cases reading
    · rw [plain.1] at counted
      cases counted
    · have is : afterConsume call.input = .consume g := consumes
      rw [is] at plain
      cases plain.1
    · obtain rfl := Option.some.inj accepted
      refine ⟨⟨?_, ?_, within⟩, tried.issued, fun _ found => by cases found⟩
      · exact decide_eq_false (by omega)
      · rw [issued, any_some]
        exact decide_eq_false notExpired
  · intro a accepted j other b _ there accepted'
    obtain rfl := Option.some.inj accepted
    have gone := ((sound.calls other (mem_of_getElem? there)).spent b accepted').gone entry held
    rw [value] at gone
    exact gone

theorem Sound.next (sound : w.Sound cfg) {l : MfaLabel} (orderly : w.Orderly l)
    (stepped : step cfg sha256 w l = some w') : w'.Sound cfg := by
  cases step_to stepped with
  | started => exact sound.started _
  | ticked => exact sound.ticked _
  | @aside i _ call redis phase' here waited otp attempts waits =>
    have own := sound.calls call (mem_of_getElem? here)
    exact sound.aside here (MfaPhase.waits_iff.mp waited).1 otp attempts
      (MfaPhase.waits_iff.mp waits).1 (own.waiting waits rfl rfl) rfl
  | @read i _ call stored here phase found =>
    have own := sound.calls call (mem_of_getElem? here)
    obtain ⟨entry, held, -, value⟩ := Slot.read_eq_some.mp found
    have bound : stored.issue < w.issued.length := by
      have last := (sound.latest entry held).last
      rw [value] at last
      omega
    refine @Sound.aside _ _ sound _ _ _ w.redis here (by rw [phase]; rfl) (.inl rfl) rfl rfl ?_ rfl
    refine ⟨fun s reading => ?_, nofun, nofun, fun started => own.minting (started.imp_left nofun),
      own.spent⟩
    obtain rfl := Option.some.inj reading
    exact bound
  | stored hash here => exact sound.stored hash here
  | reset here phase => exact sound.reset here phase
  | counted here phase => exact sound.counting here phase ((orderly _ here).2 _ phase)
  | compared here phase next => exact sound.comparing here phase next
  | consumed here phase => exact sound.consuming here phase ((orderly _ here).1 _ phase)
  | @minted i _ call redis phase' session here mints otp attempts next =>
    have own := sound.calls call (mem_of_getElem? here)
    have accepted : call.accepted.isSome := own.minting (.inl mints)
    have after : phase'.resets = false ∧ phase'.guess = none ∧ phase'.reading = none := by
      rcases next with mints' | waits
      · exact MfaPhase.plain mints'
      · obtain ⟨resets, -, guess, reading⟩ := MfaPhase.waits_iff.mp waits
        exact ⟨resets, guess, reading⟩
    refine sound.aside here (MfaPhase.plain mints).1 (.inl otp) attempts after.1 ?_ rfl
    refine ⟨fun stored reading => ?_, fun g counted => ?_, fun g consumes => ?_, fun _ => accepted,
      own.spent⟩
    · rw [after.2.2] at reading
      cases reading
    · rw [after.2.1] at counted
      cases counted
    · have is : phase' = .consume g := consumes
      rw [is] at after
      cases after.2.1

/-- In a run of which every verification deletes the code that it has read, and no guess is
counted before the attempts are reset, codes are used once. -/
theorem codes_used_once {now : Time} {labels : List MfaLabel}
    (orderly : Guarded (step cfg sha256) Orderly (idle now) labels) :
    Always (step cfg sha256) (SingleUse cfg) (idle now) labels :=
  orderly.always (fun sound orderly stepped => sound.next orderly stepped) Sound.singleUse
    (Sound.idle now)

/-! ## The condition, checked -/

def orderly (w : MfaWorld) : MfaLabel → Bool
  | .step i _ => w.calls[i]?.all fun call =>
      match call.phase with
      | .consume guess => w.redis.otp.read w.now == some guess.stored
      | .count _ => w.calls.all fun other => !other.phase.resets
      | _ => true
  | _ => true

theorem orderly_sound {l : MfaLabel} (checked : w.orderly l) : w.Orderly l := by
  cases l with
  | step i chance =>
    intro call here
    rw [orderly, here, all_some] at checked
    refine ⟨fun guess phase => ?_, fun stored phase other mem => ?_⟩
    · rw [phase] at checked
      exact eq_of_beq checked
    · rw [phase] at checked
      exact Bool.not_eq_true' _ ▸ List.all_eq_true.mp checked other mem
  | _ => trivial

end MfaWorld

/-! ## Two verifications of one code, and one of a code that was superseded -/

namespace MfaSample

def cfg : MfaConfig where
  codeTtlSeconds := 600
  verifiedTtlSeconds := 43200
  freshWindowSeconds := 300
  resendCooldownSeconds := 30
  maxVerifyAttempts := 5

/-- A stand-in for the hash. -/
def sha256 (value : String) : String := "hash of " ++ value

/-- A call takes so many steps. -/
def steps (i n : Nat) (chance : MfaChance) : List MfaLabel := replicate n (.step i chance)

def issue (i : Nat) (code : String) : List MfaLabel :=
  .start (.request "pat@example.com") :: steps i 5 { code }

/-- Both verifications read the code before either of them deletes it. -/
def together : List MfaLabel :=
  issue 0 "111111" ++ [.start (.verify "111111" none), .start (.verify "111111" none)] ++
    steps 1 4 {} ++ steps 2 4 {} ++ steps 1 3 { sessionToken := "a" } ++
    steps 2 3 { sessionToken := "b" }

def superseding : List MfaLabel :=
  issue 0 "111111" ++ [.start (.verify "111111" none)] ++ steps 1 4 {} ++ [.tick 31000] ++
    issue 2 "222222" ++ steps 1 3 { sessionToken := "a" }

def inTurn : List MfaLabel :=
  issue 0 "111111" ++ [.start (.verify "000000" none)] ++ steps 1 6 {} ++
    [.start (.verify "111111" none)] ++ steps 2 7 { sessionToken := "a" } ++ [.tick 31000] ++
    issue 3 "222222" ++ [.start (.verify "222222" none)] ++ steps 4 7 { sessionToken := "b" }

end MfaSample

open MfaSample MfaWorld in
theorem codes_used_once_inTurn : Always (step cfg sha256) (SingleUse cfg) (idle 0) inTurn :=
  codes_used_once (Guarded.of_check orderly_sound (by decide +kernel))

open MfaSample MfaWorld in
/-- Two verifications that interleave start two sessions with one code, and one that is
overtaken by a request starts a session with a code that was superseded. -/
theorem code_used_twice :
    (∃ w, run (step cfg sha256) (idle 0) together = some w ∧ ¬w.SingleUse cfg) ∧
      ∃ w, run (step cfg sha256) (idle 0) superseding = some w ∧ ¬w.SingleUse cfg := by
  constructor
  · have twice : (run (step cfg sha256) (idle 0) together).any (fun w =>
        w.calls[1]?.any fun first => w.calls[2]?.any fun second =>
          first.session.isSome && second.session.isSome &&
            first.accepted.any fun a => second.accepted.any fun b => a.issue == b.issue) = true := by
      decide +kernel
    obtain ⟨w, ran, both⟩ := (Option.any_eq_true _ _).mp twice
    obtain ⟨first, here, both⟩ := (Option.any_eq_true _ _).mp both
    obtain ⟨second, there, both⟩ := (Option.any_eq_true _ _).mp both
    obtain ⟨sessions, both⟩ := Bool.and_eq_true_iff.mp both
    obtain ⟨started, started'⟩ := Bool.and_eq_true_iff.mp sessions
    obtain ⟨a, accepted, both⟩ := (Option.any_eq_true _ _).mp both
    obtain ⟨b, accepted', same⟩ := (Option.any_eq_true _ _).mp both
    refine ⟨w, ran, fun single => ?_⟩
    have equal := single.once 1 2 first second a b here there started started' accepted accepted'
      (eq_of_beq same)
    cases equal
  · have old : (run (step cfg sha256) (idle 0) superseding).any (fun w =>
        w.calls.any fun call => call.session.isSome && call.accepted.any (·.superseded)) = true := by
      decide +kernel
    obtain ⟨w, ran, some'⟩ := (Option.any_eq_true _ _).mp old
    obtain ⟨call, member, started⟩ := List.any_eq_true.mp some'
    obtain ⟨started, superseded⟩ := Bool.and_eq_true_iff.mp started
    refine ⟨w, ran, fun single => ?_⟩
    obtain ⟨a, accepted, current, -⟩ := single.valid call member started
    rw [accepted, any_some, current] at superseded
    cases superseded

end OpenWind
