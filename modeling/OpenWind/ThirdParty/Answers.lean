import OpenWind.ThirdParty.Replays

/-!
# Answers to repeated requests

A request that comes after the response of its key is cached is answered from
the cache, whatever the other requests do.
-/

open List Option

namespace OpenWind

open Runs

/-! ## What a step leaves to the others -/

def Event.id : Event → Nat
  | .began id _ => id
  | .called id _ => id
  | .produced id _ _ => id
  | .answered id _ _ => id

/-- Only the request `actor` moves, and the log gets events of it only. -/
structure World.Acts (actor : Nat) (w w' : World) : Prop where
  others : ∀ id, id ≠ actor → w'.calls id = w.calls id
  grows : ∀ e ∈ w.log, e ∈ w'.log
  adds : ∀ e ∈ w'.log, e ∈ w.log ∨ e.id = actor

namespace World.Acts

variable {actor : Nat} {w w' w'' : World} {call : Call}

theorem of_same (calls : w'.calls = w.calls) (log : w'.log = w.log) : w.Acts actor w' where
  others := fun id _ => congrFun calls id
  grows := fun _ mem => log ▸ mem
  adds := fun _ mem => Or.inl (log ▸ mem)

theorem trans (first : w.Acts actor w') (second : w'.Acts actor w'') : w.Acts actor w'' where
  others := fun id other => (second.others id other).trans (first.others id other)
  grows := fun e mem => second.grows e (first.grows e mem)
  adds := fun e mem => (second.adds e mem).elim (first.adds e) Or.inr

theorem enter (w : World) (call : Call) (phase : Phase) : w.Acts actor (w.enter actor call phase) where
  others := fun _ other => Function.update_of_ne other _ _
  grows := fun _ mem => mem
  adds := fun _ mem => Or.inl mem

theorem note (w : World) {e : Event} (own : e.id = actor) : w.Acts actor (w.note e) where
  others := fun _ _ => rfl
  grows := fun _ mem => mem_append_left _ mem
  adds := fun _ mem =>
    (mem_append.mp mem).imp id fun new => (congrArg Event.id (mem_singleton.mp new)).trans own

theorem answer (w : World) (call : Call) (answer : Answer) :
    w.Acts actor (w.answer actor call answer) :=
  (enter w call _).trans (note _ rfl)

theorem execute (w : World) (call : Call) (entry : Entry) :
    w.Acts actor (w.execute actor call entry) :=
  (enter w call _).trans (note _ rfl)

theorem leave (w : World) (call : Call) (entry : Entry) (answer : Answer) :
    w.Acts actor (w.leave actor call entry answer) := by
  unfold World.leave
  split
  · exact enter w call _
  · exact Acts.answer w call answer

theorem unlock (w : World) (call : Call) : w.Acts actor (w.unlock actor call) := by
  unfold World.unlock
  split
  · exact of_same rfl rfl
  · exact of_same rfl rfl

theorem begin (H : Hashing) (w : World) (request : Request) :
    w.Acts actor (w.begin H actor request) := by
  refine (note w (e := .began actor request) rfl).trans ?_
  unfold World.begin
  dsimp only
  split
  · exact execute _ _ _
  · split
    · exact execute _ _ _
    · split
      · exact answer _ _ _
      · exact enter _ _ _

theorem proceed (stepped : w.proceed actor call = some w') : w.Acts actor w' := by
  revert stepped
  fun_cases World.proceed w actor call <;> intro stepped <;> cases stepped
  · exact answer _ _ _
  · exact enter _ _ _
  · exact answer _ _ _
  · have locked : w.Acts actor (w.setLock actor call) := of_same rfl rfl
    exact locked.trans (enter _ _ _)
  · exact enter _ _ _
  · exact execute _ _ _
  · next response _ _ =>
    have persisted : w.Acts actor (w.persist call response) := of_same rfl rfl
    exact persisted.trans (leave _ _ _ _)
  · exact leave _ _ _ _
  · exact (unlock w call).trans (answer _ _ _)

theorem executed {outcome : Option IdempotencyResponse}
    (stepped : w.executed actor call outcome = some w') : w.Acts actor w' := by
  unfold World.executed at stepped
  split at stepped
  · refine (note w (e := .produced actor call.request outcome) rfl).trans ?_
    dsimp only at stepped
    split at stepped
    · cases stepped
      exact leave _ _ _ _
    · split at stepped
      · cases stepped
        exact leave _ _ _ _
      · cases stepped
        exact enter _ _ _
  · cases stepped

theorem dbError (stepped : w.dbError actor call = some w') : w.Acts actor w' := by
  revert stepped
  fun_cases World.dbError w actor call <;> intro stepped <;> cases stepped
  · exact answer _ _ _
  · exact enter _ _ _
  · exact leave _ _ _ _

theorem redisError (stepped : w.redisError actor call = some w') : w.Acts actor w' := by
  revert stepped
  fun_cases World.redisError w actor call <;> intro stepped <;> cases stepped
  · exact execute _ _ _
  · exact answer _ _ _

end World.Acts

/-- The request that a step is of, if any. -/
def RequestLabel.actor : RequestLabel → Option Nat
  | .tick _ => none
  | .begin id _ => some id
  | .proceed id => some id
  | .executed id _ => some id
  | .dbError id => some id
  | .redisError id => some id

variable {H : Hashing} {w w' : World} {l : RequestLabel} {started : Time}

theorem World.step_acts {id : Nat} (stepped : w.step H l = some w') (other : l.actor ≠ some id) :
    ∃ actor, actor ≠ id ∧ w.Acts actor w' := by
  cases l with
  | tick time =>
    cases stepped
    exact ⟨id + 1, Nat.succ_ne_self id, World.Acts.of_same rfl rfl⟩
  | begin i request =>
    refine ⟨i, fun same => other (congrArg some same), ?_⟩
    cases fresh : w.calls i with
    | none =>
      simp only [World.step, fresh] at stepped
      cases stepped
      exact World.Acts.begin H w request
    | some call =>
      simp only [World.step, fresh] at stepped
      cases stepped
  | proceed i =>
    obtain ⟨call, _, stepped⟩ := bind_eq_some_iff.mp stepped
    exact ⟨i, fun same => other (congrArg some same), World.Acts.proceed stepped⟩
  | executed i outcome =>
    obtain ⟨call, _, stepped⟩ := bind_eq_some_iff.mp stepped
    exact ⟨i, fun same => other (congrArg some same), World.Acts.executed stepped⟩
  | dbError i =>
    obtain ⟨call, _, stepped⟩ := bind_eq_some_iff.mp stepped
    exact ⟨i, fun same => other (congrArg some same), World.Acts.dbError stepped⟩
  | redisError i =>
    obtain ⟨call, _, stepped⟩ := bind_eq_some_iff.mp stepped
    exact ⟨i, fun same => other (congrArg some same), World.Acts.redisError stepped⟩

theorem World.step_grows (stepped : w.step H l = some w') : ∀ e ∈ w.log, e ∈ w'.log := by
  have someone : ∃ id, l.actor ≠ some id := by
    cases l.actor with
    | none => exact ⟨0, nofun⟩
    | some id => exact ⟨id + 1, fun same => Nat.succ_ne_self id (Option.some.inj same).symm⟩
  obtain ⟨id, other⟩ := someone
  obtain ⟨actor, _, acts⟩ := World.step_acts stepped other
  exact acts.grows

/-! ## Later requests -/

def Hashing.reply (H : Hashing) (first later : Request) (response : IdempotencyResponse) :
    IdempotencyResponse :=
  if H.canonical later.content = H.canonical first.content then response.replay else .keyConflict

structure World.Replies (H : Hashing) (w : World) (id : Nat) (request : Request)
    (response : IdempotencyResponse) : Prop where
  uncalled : ∀ request', .called id request' ∉ w.log
  answers : ∀ request' answer, .answered id request' answer ∈ w.log → answer = .returned response
  next : .answered id request (.returned response) ∈ w.log ∨
    ∃ w', w.step H (.proceed id) = some w' ∧ .answered id request (.returned response) ∈ w'.log

structure World.Waits (w : World) (id : Nat) (request : Request)
    (response : IdempotencyResponse) : Prop where
  uncalled : ∀ request', .called id request' ∉ w.log
  answers : ∀ request' answer, .answered id request' answer ∈ w.log → answer = .returned response
  at_ : ∃ call, w.calls id = some call ∧ call.request = request ∧
    (call.phase = .lookup ∨
      (∃ answer, call.phase = .answered answer) ∧ .answered id request (.returned response) ∈ w.log)

def Hashing.Separates (H : Hashing) (first later : Request) : Prop :=
  H.computeContentHash later.content = H.computeContentHash first.content →
    H.canonical later.content = H.canonical first.content

section Later

variable {H : Hashing} {started : Time} {w w' : World} {id : Nat} {request : Request}
  {response : IdempotencyResponse}

theorem World.Stored.lookupCached {first : Request} {key : String} {call : Call}
    (stored : w.Stored H started first response key) (known : call.Known H)
    (same : first.scope = call.request.scope) (keyed : first.scope.key = some key)
    (separate : H.Separates first call.request) :
    w.lookupCached call = some (H.reply first call.request response) := by
  rcases stored with ⟨row, found, _, hashed, status, body⟩
  have key_eq : key = call.key := by
    rw [same, known.1] at keyed
    exact (Option.some.inj keyed).symm
  unfold World.lookupCached
  rw [← same, ← key_eq, found, map_some]
  refine congrArg some ?_
  unfold IdempotencyKeyRow.response Hashing.reply
  rw [hashed, known.2, status, IdempotencyStatus.ofCode_code, body]
  by_cases canonical : H.canonical call.request.content = H.canonical first.content
  · have hashes : H.computeContentHash first.content =
        H.computeContentHash call.request.content := congrArg H.sha256 canonical.symm
    rw [if_pos canonical, if_pos (beq_iff_eq.mpr hashes)]
    rfl
  · rw [if_neg canonical, if_neg]
    intro hashes
    exact canonical (separate (beq_iff_eq.mp hashes).symm)

section

variable (waits : w.Waits id request response)

include waits

theorem World.Waits.others {actor : Nat} (other : actor ≠ id)
    (acts : w.Acts actor w') : w'.Waits id request response where
  uncalled := fun request' event =>
    (acts.adds _ event).elim (waits.uncalled request') fun own => other own.symm
  answers := fun request' answer event =>
    (acts.adds _ event).elim (waits.answers request' answer) fun own => absurd own.symm other
  at_ := by
    obtain ⟨call, entry, asked, phase⟩ := waits.at_
    refine ⟨call, (acts.others id (Ne.symm other)).trans entry, asked, phase.imp_right ?_⟩
    exact fun answered => ⟨answered.1, acts.grows _ answered.2⟩

theorem World.Waits.answer {call : Call}
    (asked : call.request = request) :
    (w.answer id call (.returned response)).Waits id request response where
  uncalled := by
    intro request' event
    rcases mem_append.mp event with before | new
    · exact waits.uncalled request' before
    · cases mem_singleton.mp new
  answers := by
    intro request' answer event
    rcases mem_append.mp event with before | new
    · exact waits.answers request' answer before
    · cases mem_singleton.mp new
      rfl
  at_ := by
    refine ⟨_, World.Sound.calls_answer w id call _, asked, Or.inr ⟨⟨_, rfl⟩, ?_⟩⟩
    rw [← asked]
    exact mem_append_right _ (mem_singleton_self _)

theorem World.Waits.step
    (cached : ∀ call, w.calls id = some call → call.request = request → call.phase = .lookup →
      w.lookupCached call = some response)
    {l : RequestLabel} (orderly : w.Orderly started l) (stepped : w.step H l = some w') :
    w'.Waits id request response := by
  by_cases other : l.actor = some id
  · obtain ⟨call, entry, asked, phase⟩ := waits.at_
    cases l with
    | tick time => cases other
    | begin i request' =>
      cases other
      simp only [World.step, entry] at stepped
      cases stepped
    | proceed i =>
      cases other
      simp only [World.step, entry, bind_some] at stepped
      rcases phase with looks | ⟨⟨answer, answered⟩, _⟩
      · have looked := cached call entry asked looks
        simp only [World.proceed, looks, looked] at stepped
        cases stepped
        exact waits.answer asked
      · simp only [World.proceed, answered] at stepped
        cases stepped
    | executed i outcome =>
      cases other
      simp only [World.step, entry, bind_some] at stepped
      rcases phase with looks | ⟨⟨answer, answered⟩, _⟩
      · simp only [World.executed, looks] at stepped
        cases stepped
      · simp only [World.executed, answered] at stepped
        cases stepped
    | dbError i => exact orderly.2.elim
    | redisError i => exact orderly.1.elim
  · rcases World.step_acts stepped other with ⟨actor, distinct, acts⟩
    exact waits.others distinct acts

theorem World.Waits.replies
    (cached : ∀ call, w.calls id = some call → call.request = request → call.phase = .lookup →
      w.lookupCached call = some response) :
    w.Replies H id request response where
  uncalled := waits.uncalled
  answers := waits.answers
  next := by
    obtain ⟨call, entry, asked, phase⟩ := waits.at_
    rcases phase with looks | ⟨_, answered⟩
    · right
      refine ⟨w.answer id call (.returned response), ?_, ?_⟩
      · simp only [World.step, entry, bind_some, World.proceed, looks,
          cached call entry asked looks]
      · rw [← asked]
        exact mem_append_right _ (mem_singleton_self _)
    · exact Or.inl answered

end

theorem World.Waits.begin (sound : w.Sound H started) (fresh : w.calls id = none)
    (keyed : request.scope.key ≠ none) : (w.begin H id request).Waits id request response := by
  obtain ⟨key, keyed⟩ := ne_none_iff_exists'.mp keyed
  obtain ⟨given, valid⟩ := filter_eq_some_iff.mp keyed
  obtain ⟨nonempty, short⟩ := Bool.and_eq_true_iff.mp valid
  have began : w.begin H id request = (w.note (.began id request)).enter id
      { request, key, contentHash := H.computeContentHash request.content, phase := .lookup }
      .lookup := by
    unfold World.begin
    dsimp only
    rw [given]
    dsimp only
    rw [if_neg (bne_iff_ne.mp nonempty), if_neg (Nat.not_lt.mpr (of_decide_eq_true short))]
  rw [began]
  constructor
  · intro request' event
    rcases mem_append.mp event with before | new
    · exact sound.begun before fresh
    · cases mem_singleton.mp new
  · intro request' answer event
    rcases mem_append.mp event with before | new
    · rcases sound.done before with ⟨call, entry, _⟩
      cases fresh.symm.trans entry
    · cases mem_singleton.mp new
  · exact ⟨_, Function.update_self _ _ _, rfl, Or.inl rfl⟩

end Later

/-! ## The run -/

structure KeysHold (H : Hashing) (start : World) (labels : List RequestLabel) (w : World) :
    Prop where
  once : ∀ scope, scope.key ≠ none → (w.log.filter (Event.cacheable scope)).length ≤ 1
  later : ∀ before id' request' after mid, labels = before ++ .begin id' request' :: after →
    run (World.step H) start before = some mid →
    ∀ id request response answer, .produced id request (some response) ∈ mid.log →
      response.doNotCache = false → .answered id request answer ∈ mid.log →
      request.scope = request'.scope → request.scope.key ≠ none → H.Separates request request' →
      w.Replies H id' request' (H.reply request request' response)

/-- In an orderly run, the keys hold. -/
theorem idempotent_requests (H : Hashing) (now : Time) (rows : List IdempotencyKeyRow)
    (locks : String → Option IdempotencyLock) (labels : List RequestLabel) (w : World)
    (orderly : Guarded (World.step H) (World.Orderly now) (World.idle now rows locks) labels)
    (ran : run (World.step H) (World.idle now rows locks) labels = some w) :
    KeysHold H (World.idle now rows locks) labels w := by
  have idle := World.Sound.idle (H := H) now rows locks
  constructor
  · have sound : w.Sound H now :=
      orderly.invariant (fun sound allowed stepped => sound.step allowed stepped) idle ran
    exact sound.once
  · rintro before id' request' after mid rfl reached id request response answer produced caches
      answered same keyed separate
    obtain ⟨allowed, rest⟩ := orderly.append
    have sound : mid.Sound H now :=
      allowed.invariant (fun sound allowed stepped => sound.step allowed stepped) idle reached
    obtain ⟨mid', reached', ran⟩ := run_append.mp ran
    cases reached.symm.trans reached'
    obtain ⟨next, stepped, ran⟩ := run_cons.mp ran
    obtain ⟨key, keyed'⟩ := ne_none_iff_exists'.mp keyed
    -- the lookup of the later request finds the response, in every state from now on
    have cached : ∀ u : World, u.Sound H now → .produced id request (some response) ∈ u.log →
        .answered id request answer ∈ u.log → ∀ call, u.calls id' = some call →
        call.request = request' → call.phase = .lookup →
        u.lookupCached call = some (H.reply request request' response) := by
      intro u sound produced answered call entry asked looks
      have known := sound.known entry
      unfold Call.Sound at known
      rw [looks] at known
      have stored := sound.stored produced caches answered keyed'
      rw [← asked]
      exact stored.lookupCached known (asked ▸ same) keyed' (asked ▸ separate)
    have begun : World.Sound H now next ∧ .produced id request (some response) ∈ next.log ∧
        .answered id request answer ∈ next.log ∧
        next.Waits id' request' (H.reply request request' response) := by
      have sound' := sound.step (rest mid reached).1 stepped
      cases fresh : mid.calls id' with
      | some call =>
        simp only [World.step, fresh] at stepped
        cases stepped
      | none =>
        simp only [World.step, fresh] at stepped
        cases stepped
        have acts := @World.Acts.begin id' H mid request'
        exact ⟨sound', acts.grows _ produced, acts.grows _ answered,
          World.Waits.begin sound fresh (same ▸ keyed)⟩
    have last := ((rest mid reached).2 next stepped).invariant
      (P := fun u => World.Sound H now u ∧ .produced id request (some response) ∈ u.log ∧
        .answered id request answer ∈ u.log ∧
        u.Waits id' request' (H.reply request request' response))
      (fun {u l u'} holds allowed stepped => by
        obtain ⟨sound, produced, answered, waits⟩ := holds
        have grows := World.step_grows stepped
        exact ⟨sound.step allowed stepped, grows _ produced, grows _ answered,
          waits.step (cached u sound produced answered) allowed stepped⟩)
      begun ran
    obtain ⟨sound, produced, answered, waits⟩ := last
    exact waits.replies (cached w sound produced answered)

/-! ## Two runs -/

def sampleHashing : Hashing where
  canonicalize
    | .obj [(name, .str text)] => some ("\x7b\"" ++ name ++ "\":\"" ++ text ++ "\"\x7d")
    | _ => none
  sha256 text :=
    if text = "\x7b\"title\":\"A\"\x7d" then
      "3529d0a41555dcce5409451ca186444db8e972ff8d5867546e0e7928f37408f5"
    else "a1a06dd13348c8b021ec36ab4c9cc7ec3bb9dfc979e57017429ee59ea908a277"

def sampleRequest (title : String) : Request where
  scope :=
    { tenantId := "t", applicationActorId := "a", actingPersonId := "p"
      idempotencyKey := some "k" }
  content := .obj [("title", .str title)]

def createdResponse : IdempotencyResponse := { status := .created, body := .obj [] }

/-- One request runs to its end. -/
def wholeRun (id : Nat) (request : Request) (persisted : RequestLabel) : List RequestLabel :=
  [.begin id request, .proceed id, .proceed id, .proceed id, .executed id (some createdResponse),
    persisted, .proceed id]

def replayedRun : List RequestLabel :=
  wholeRun 1 (sampleRequest "A") (.proceed 1) ++
    [.begin 2 (sampleRequest "A"), .begin 3 (sampleRequest "B"), .proceed 3, .proceed 2]

def World.isOrderly (w : World) : RequestLabel → Bool
  | .tick _ => false
  | .proceed id => (w.calls id).all fun call =>
    match call.phase with
    | .caching _ response => response.isStorable
    | _ => true
  | .dbError _ => false
  | .redisError _ => false
  | _ => true

theorem World.orderly_of_isOrderly (check : w.isOrderly l) : w.Orderly started l := by
  cases l with
  | tick time => cases check
  | begin id request => exact ⟨trivial, trivial⟩
  | proceed id =>
    refine ⟨trivial, fun call via response entry at_ => ?_⟩
    simp only [World.isOrderly, entry, all_some, at_] at check
    exact check
  | executed id outcome => exact ⟨trivial, trivial⟩
  | dbError id => cases check
  | redisError id => cases check

theorem idempotent_requests_replayed :
    ∃ w, run (World.step sampleHashing) (World.idle 0 [] fun _ => none) replayedRun = some w ∧
      KeysHold sampleHashing (World.idle 0 [] fun _ => none) replayedRun w := by
  have orderly : Guarded (World.step sampleHashing) (World.Orderly 0)
      (World.idle 0 [] fun _ => none) replayedRun :=
    Guarded.of_check World.orderly_of_isOrderly (c := World.isOrderly) (by decide +kernel)
  have runs : (run (World.step sampleHashing) (World.idle 0 [] fun _ => none) replayedRun).isSome =
      true := by decide +kernel
  obtain ⟨w, ran⟩ := isSome_iff_exists.mp runs
  exact ⟨w, ran, idempotent_requests _ _ _ _ _ _ orderly ran⟩

def uncachedRun : List RequestLabel :=
  wholeRun 1 (sampleRequest "A") (.dbError 1) ++ wholeRun 2 (sampleRequest "A") (.proceed 2)

def RequestLabel.isCalm : RequestLabel → Bool
  | .tick _ => false
  | .redisError _ => false
  | _ => true

theorem World.calm_of_isCalm (check : l.isCalm) : w.Calm started l := by
  cases l with
  | tick time => cases check
  | redisError id => cases check
  | _ => trivial

/-- That Redis does not fail and the clock keeps to its bounds is not enough. -/
theorem idempotent_request_repeated :
    ¬ ∀ (H : Hashing) (now : Time) (rows : List IdempotencyKeyRow)
      (locks : String → Option IdempotencyLock) (labels : List RequestLabel) (w : World),
      Guarded (World.step H) (World.Calm now) (World.idle now rows locks) labels →
      run (World.step H) (World.idle now rows locks) labels = some w →
      KeysHold H (World.idle now rows locks) labels w := by
  intro always
  have calm : Guarded (World.step sampleHashing) (World.Calm 0) (World.idle 0 [] fun _ => none)
      uncachedRun :=
    Guarded.of_check World.calm_of_isCalm (c := fun _ l => l.isCalm) (by decide +kernel)
  have twice : (run (World.step sampleHashing) (World.idle 0 [] fun _ => none) uncachedRun).any
      (fun w => decide ((w.log.filter (Event.cacheable (sampleRequest "A").scope)).length = 2)) =
      true := by decide +kernel
  obtain ⟨w, ran, two⟩ := (Option.any_eq_true _ _).mp twice
  have once := (always _ _ _ _ _ _ calm ran).once (sampleRequest "A").scope (by decide +kernel)
  have two := of_decide_eq_true two
  omega

end OpenWind
