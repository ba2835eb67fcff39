import OpenWind.ThirdParty.Idempotency

/-!
# Requests with one idempotency key

In an orderly run at most one execution under a key gives a response that is
cached, and the requests that come after it are answered from the cache.
-/

open List Option Function

namespace OpenWind

open Runs World

/-! ## Orderly runs -/

def World.Calm (started : Time) (w : World) : RequestLabel → Prop
  | .tick time =>
    w.now + time < started + CACHE_TTL_MS ∧
      ∀ id call lock, w.calls id = some call → call.phase.inSection = true →
        w.lockAt call.lockKey = some lock → lock.token = id → w.now + time < lock.expiresAt
  | .redisError _ => False
  | _ => True

/-- The database does not fail, nor refuse a body. -/
def World.Stores (w : World) : RequestLabel → Prop
  | .dbError _ => False
  | .proceed id => ∀ call entry response, w.calls id = some call →
      call.phase = .caching entry response → response.isStorable = true
  | _ => True

def World.Orderly (started : Time) (w : World) (l : RequestLabel) : Prop :=
  w.Calm started l ∧ w.Stores l

def Event.cacheable (scope : IdempotencyScope) : Event → Bool
  | .produced _ request (some response) => request.scope == scope && !response.doNotCache
  | _ => false

/-! ## The cached row -/

def World.Stored (H : Hashing) (started : Time) (w : World) (request : Request)
    (response : IdempotencyResponse) (key : String) : Prop :=
  ∃ row, w.liveRow request.scope key = some row ∧ started + CACHE_TTL_MS ≤ row.expiresAt ∧
    row.contentHash = H.computeContentHash request.content ∧
    row.responseStatus = response.status.code ∧ row.responseBody = response.body

variable {row : IdempotencyKeyRow} {scope : IdempotencyScope} {key : String}

theorem IdempotencyKeyRow.isOf_iff :
    row.isOf scope key ↔ row.tenantId = scope.tenantId ∧
      row.apiKeyId = scope.applicationActorId ∧ row.actingPersonId = scope.actingPersonId ∧
      row.idempotencyKey = key := by
  unfold IdempotencyKeyRow.isOf
  simp only [Bool.and_eq_true, beq_iff_eq, and_assoc]

theorem IdempotencyScope.idempotencyKey_of_key (keyed : scope.key = some key) :
    scope.idempotencyKey = some key := by
  unfold IdempotencyScope.key at keyed
  exact (filter_eq_some_iff.mp keyed).1

theorem IdempotencyKeyRow.isOf_scope {scope scope' : IdempotencyScope} {key key' : String}
    (keyed : scope.key = some key) (keyed' : scope'.key = some key')
    (is : row.isOf scope key) (is' : row.isOf scope' key') : scope' = scope := by
  rcases isOf_iff.mp is with ⟨tenant, actor, person, same⟩
  rcases isOf_iff.mp is' with ⟨tenant', actor', person', same'⟩
  have stored := IdempotencyScope.idempotencyKey_of_key keyed
  have stored' := IdempotencyScope.idempotencyKey_of_key keyed'
  cases scope
  cases scope'
  simp only [IdempotencyScope.mk.injEq]
  refine ⟨tenant'.symm.trans tenant, actor'.symm.trans actor, person'.symm.trans person, ?_⟩
  exact stored'.trans ((congrArg some (same'.symm.trans same)).trans stored.symm)

theorem find?_narrower {α : Type} {p q : α → Bool} (narrower : ∀ a, q a → p a) {rows : List α}
    {row : α} (found : rows.find? p = some row) (still : q row) : rows.find? q = some row := by
  induction rows with
  | nil => cases found
  | cons head rest ih =>
    by_cases first : p head = true
    · rw [find?_cons_of_pos first] at found
      cases found
      exact find?_cons_of_pos still
    · rw [find?_cons_of_neg first] at found
      have skipped : ¬ q head := fun holds => first (narrower head holds)
      rw [find?_cons_of_neg skipped]
      exact ih found

section Clock

variable (w : World) (time : Nat) (scope : IdempotencyScope) (key : String)

theorem World.liveRow_later (gone : w.liveRow scope key = none) :
    liveRow { w with now := w.now + time } scope key = none := by
  refine find?_eq_none.mpr fun row mem live => ?_
  have dead := find?_eq_none.mp gone row mem
  simp only [Bool.and_eq_true, decide_eq_true_eq] at live dead
  exact dead ⟨live.1, Nat.lt_of_le_of_lt (Nat.le_add_right _ _) live.2⟩

theorem World.liveRow_still {row : IdempotencyKeyRow} (found : w.liveRow scope key = some row)
    (lasts : w.now + time < row.expiresAt) :
    liveRow { w with now := w.now + time } scope key = some row := by
  have is := find?_some found
  simp only [Bool.and_eq_true, decide_eq_true_eq] at is
  refine find?_narrower (fun row' live => ?_) found ?_
  · simp only [Bool.and_eq_true, decide_eq_true_eq] at live ⊢
    exact ⟨live.1, Nat.lt_of_le_of_lt (Nat.le_add_right _ _) live.2⟩
  · simp only [Bool.and_eq_true, decide_eq_true_eq]
    exact ⟨is.1, lasts⟩

end Clock

/-! ## Persisting a response -/

section Persist

variable {w : World} {call : Call} {response : IdempotencyResponse}

theorem World.find?_unexpired (scope : IdempotencyScope) (key : String) :
    ((w.unexpired call).find? fun row => row.isOf scope key && decide (w.now < row.expiresAt)) =
      w.liveRow scope key := by
  unfold unexpired liveRow
  rw [find?_filter]
  refine congrArg (fun p => w.rows.find? p) (funext fun row => ?_)
  by_cases lives : w.now < row.expiresAt
  · simp only [decide_eq_false (Nat.not_le.mpr lives), Bool.and_false, Bool.not_false, true_and,
      Bool.decide_eq_true]
  · simp only [decide_eq_false lives, Bool.and_false, Bool.false_eq_true, and_false, decide_false]

variable {scope : IdempotencyScope} {key : String}

theorem World.liveRow_persist_some {row : IdempotencyKeyRow}
    (found : w.liveRow scope key = some row) :
    (w.persist call response).liveRow scope key = some row := by
  have kept := (@find?_unexpired w call scope key).trans found
  unfold World.persist liveRow
  dsimp only
  split
  · exact kept
  · rw [find?_append, kept]
    rfl

theorem World.liveRow_persist_none (gone : w.liveRow call.request.scope call.key = none) :
    (w.persist call response).liveRow call.request.scope call.key =
      some (cachedRow w.now call response) := by
  have kept := (@find?_unexpired w call call.request.scope call.key).trans gone
  have absent : ¬ (w.unexpired call).any (IdempotencyKeyRow.isOf call.request.scope call.key) := by
    intro any
    rcases List.any_eq_true.mp any with ⟨row, mem, is⟩
    have lives : w.now < row.expiresAt := by
      by_contra expired
      have filtered := (mem_filter.mp mem).2
      rw [is, decide_eq_true (Nat.not_lt.mp expired)] at filtered
      exact Bool.false_ne_true filtered
    exact find?_eq_none.mp kept row mem (Bool.and_eq_true_iff.mpr ⟨is, decide_eq_true lives⟩)
  unfold World.persist liveRow
  dsimp only
  rw [if_neg absent, find?_append, kept, none_or]
  refine find?_cons_of_pos (Bool.and_eq_true_iff.mpr ⟨?_, ?_⟩)
  · exact IdempotencyKeyRow.isOf_iff.mpr ⟨rfl, rfl, rfl, rfl⟩
  · exact decide_eq_true (Nat.lt_add_of_pos_right (by decide))

theorem World.liveRow_persist_other (keyed : call.request.scope.key = some call.key)
    (keyed' : scope.key = some key) (other : scope ≠ call.request.scope) :
    (w.persist call response).liveRow scope key = w.liveRow scope key := by
  have kept := @find?_unexpired w call scope key
  have foreign : (cachedRow w.now call response).isOf scope key = false :=
    Bool.eq_false_iff.mpr fun is => other <| IdempotencyKeyRow.isOf_scope keyed keyed'
      (IdempotencyKeyRow.isOf_iff.mpr ⟨rfl, rfl, rfl, rfl⟩) is
  unfold World.persist
  rw [liveRow]
  split
  · exact kept
  · rw [find?_append, kept, find?_cons_of_neg, find?_nil, or_none]
    rw [foreign, Bool.false_and]
    exact Bool.false_ne_true

end Persist

/-! ## The invariant -/

def Call.Known (H : Hashing) (call : Call) : Prop :=
  call.request.scope.key = some call.key ∧
    call.contentHash = H.computeContentHash call.request.content

def Call.Sound (H : Hashing) (call : Call) : Prop :=
  match call.phase with
  | .executing .direct => call.request.scope.key = none
  | .executing .unlocked => False
  | .caching entry _ => entry = .locked ∧ call.Known H
  | .answered _ => True
  | _ => call.Known H

/-- The lock of the request is its own. -/
def World.Holds (w : World) (id : Nat) (call : Call) : Prop :=
  ∃ lock, w.lockAt call.lockKey = some lock ∧ lock.token = id

def World.Kept (H : Hashing) (started : Time) (w : World) (id : Nat) (request : Request)
    (response : IdempotencyResponse) (key : String) : Prop :=
  (∃ call, w.calls id = some call ∧ call.request = request ∧
    call.phase = .caching .locked response) ∨ w.Stored H started request response key

/-- The request has found no row to replay. -/
def Phase.isUnmet : Phase → Bool
  | .executing entry => entry == .locked
  | .caching entry _ => entry == .locked
  | _ => false

/-- The request is under way, and not at the caching of its response. -/
def Phase.isFree : Phase → Bool
  | .caching _ _ => false
  | .answered _ => false
  | _ => true

def World.MayMove (H : Hashing) (started : Time) (w : World) (id : Nat) : Prop :=
  ∀ old, w.calls id = some old →
    match old.phase with
    | .answered _ => False
    | .caching _ response =>
      ∀ key, old.request.scope.key = some key → w.Stored H started old.request response key
    | _ => True

def Event.Quiet : Event → Prop
  | .produced _ request (some response) => response.doNotCache = false → request.scope.key = none
  | _ => True

theorem Event.Quiet.not_cacheable {e : Event} (quiet : e.Quiet) (keyed : scope.key ≠ none) :
    e.cacheable scope = false := by
  cases e with
  | produced id request outcome =>
    cases outcome with
    | none => rfl
    | some response =>
      refine Bool.and_eq_false_iff.mpr ?_
      by_cases same : request.scope = scope
      · right
        cases caches : response.doNotCache
        · exact absurd (same ▸ quiet caches) keyed
        · rfl
      · exact Or.inl (beq_false_of_ne same)
  | _ => rfl

structure World.Sound (H : Hashing) (started : Time) (w : World) : Prop where
  early : w.now < started + CACHE_TTL_MS
  past : started ≤ w.now
  known : ∀ {id call}, w.calls id = some call → call.Sound H
  held : ∀ {id call}, w.calls id = some call → call.phase.inSection = true → w.Holds id call
  unmet : ∀ {id call}, w.calls id = some call → call.phase = .executing .locked →
    w.liveRow call.request.scope call.key = none
  unstored : ∀ {id call response}, w.calls id = some call →
    call.phase = .caching .locked response →
      w.liveRow call.request.scope call.key = none ∨
        w.Stored H started call.request response call.key
  kept : ∀ {id request response key}, .produced id request (some response) ∈ w.log →
    response.doNotCache = false → request.scope.key = some key →
      w.Kept H started id request response key
  once : ∀ scope, scope.key ≠ none → (w.log.filter (Event.cacheable scope)).length ≤ 1
  done : ∀ {id request answer}, .answered id request answer ∈ w.log →
    ∃ call, w.calls id = some call ∧ call.phase = .answered answer
  begun : ∀ {id request}, .called id request ∈ w.log → w.calls id ≠ none

theorem Call.Sound.inSection {H : Hashing} {call : Call} (sound : call.Sound H)
    (inside : call.phase.inSection) : call.Known H := by
  unfold Call.Sound at sound
  cases at_ : call.phase with
  | lookup | acquire | answered => rw [at_] at inside; cases inside
  | recheck | releasing => rw [at_] at sound; exact sound
  | executing entry =>
    rw [at_] at sound inside
    cases entry with
    | direct => cases inside
    | unlocked => cases inside
    | locked => exact sound
  | caching entry response => rw [at_] at sound; exact sound.2

namespace World.Sound

variable {H : Hashing} {started : Time} {w : World}

section

variable (sound : w.Sound H started)

include sound

theorem exclusive {id id' : Nat} {call call' : Call}
    (entry : w.calls id = some call) (entry' : w.calls id' = some call')
    (inside : call.phase.inSection) (inside' : call'.phase.inSection)
    (same : call'.request.scope = call.request.scope) : id' = id := by
  have known := (sound.known entry).inSection inside
  have known' := (sound.known entry').inSection inside'
  have key : call'.key = call.key := by
    have keys := known'.1
    rw [same, known.1] at keys
    exact (Option.some.inj keys).symm
  rcases sound.held entry inside with ⟨lock, holds, mine⟩
  rcases sound.held entry' inside' with ⟨lock', holds', mine'⟩
  have lockKeys : call'.lockKey = call.lockKey := by
    unfold Call.lockKey
    rw [same, key]
  rw [lockKeys, holds] at holds'
  rw [← mine, ← mine', Option.some.inj holds']

/-- The clock. -/
theorem tick {time : Nat} (calm : w.Calm started (.tick time)) :
    World.Sound H started { w with now := w.now + time } := by
  have lasting : ∀ {request response key}, w.Stored H started request response key →
      World.Stored H started { w with now := w.now + time } request response key := by
    rintro request response key ⟨row, found, lasts, is⟩
    exact ⟨row, w.liveRow_still time _ _ found (Nat.lt_of_lt_of_le calm.1 lasts), lasts, is⟩
  constructor
  · exact calm.1
  · exact Nat.le_trans sound.past (Nat.le_add_right _ _)
  · exact sound.known
  · intro id call entry inside
    rcases sound.held entry inside with ⟨lock, holds, mine⟩
    have lives := calm.2 id call lock entry inside holds mine
    rcases filter_eq_some_iff.mp holds with ⟨there, _⟩
    exact ⟨lock, filter_eq_some_iff.mpr ⟨there, decide_eq_true lives⟩, mine⟩
  · intro id call entry at_
    exact w.liveRow_later time _ _ (sound.unmet entry at_)
  · intro id call response entry at_
    rcases sound.unstored entry at_ with gone | stored
    · exact Or.inl (w.liveRow_later time _ _ gone)
    · exact Or.inr (lasting stored)
  · intro id request response key event caches keyed
    rcases sound.kept event caches keyed with pending | stored
    · exact Or.inl pending
    · exact Or.inr (lasting stored)
  · exact sound.once
  · exact sound.done
  · exact sound.begun

/-- A lock that Redis grants was nobody's. -/
theorem setLock {id : Nat} {call : Call}
    (free : w.lockAt call.lockKey = none) : (w.setLock id call).Sound H started := by
  refine { sound with held := fun {i c} entry inside => ?_ }
  rcases sound.held entry inside with ⟨lock, holds, mine⟩
  have other : c.lockKey ≠ call.lockKey := by
    intro same
    rw [same, free] at holds
    cases holds
  refine ⟨lock, ?_, mine⟩
  unfold lockAt World.setLock
  dsimp only
  rw [update_of_ne other]
  exact holds

theorem unlock {id : Nat} {call : Call}
    (outside : ∀ other, w.calls id = some other → other.phase.inSection = false) :
    (w.unlock id call).Sound H started := by
  unfold World.unlock
  split
  · next owns =>
    refine { sound with held := fun {i c} entry inside => ?_ }
    rcases sound.held entry inside with ⟨lock, holds, mine⟩
    have other : c.lockKey ≠ call.lockKey := by
      intro same
      rw [same] at holds
      rw [holds, any_some, beq_iff_eq, mine] at owns
      rw [outside c (owns ▸ entry)] at inside
      cases inside
    refine ⟨lock, ?_, mine⟩
    unfold lockAt
    dsimp only
    rw [update_of_ne other]
    exact holds
  · exact sound

theorem persist {id : Nat} {call : Call} {response : IdempotencyResponse}
    (entry : w.calls id = some call) (at_ : call.phase = .caching .locked response) :
    (w.persist call response).Sound H started ∧
      (w.persist call response).Stored H started call.request response call.key := by
  have inside : call.phase.inSection := by rw [at_]; rfl
  have known := (sound.known entry).inSection inside
  have lasting : ∀ {request response' key}, w.Stored H started request response' key →
      (w.persist call response).Stored H started request response' key := by
    rintro request response' key ⟨row, found, is⟩
    exact ⟨row, liveRow_persist_some found, is⟩
  have stored : (w.persist call response).Stored H started call.request response call.key := by
    rcases sound.unstored entry at_ with gone | stored
    · exact ⟨_, liveRow_persist_none gone, Nat.add_le_add_right sound.past _, known.2, rfl, rfl⟩
    · exact lasting stored
  refine ⟨{ sound with unmet := ?_, unstored := ?_, kept := ?_ }, stored⟩
  · intro i c entry' at'
    have inside' : c.phase.inSection := by rw [at']; rfl
    have known' := (sound.known entry').inSection inside'
    have other : c.request.scope ≠ call.request.scope := by
      intro same
      cases sound.exclusive entry entry' inside inside' same
      cases entry.symm.trans entry'
      cases at_.symm.trans at'
    rw [liveRow_persist_other known.1 known'.1 other]
    exact sound.unmet entry' at'
  · intro i c response' entry' at'
    have inside' : c.phase.inSection := by rw [at']; rfl
    have known' := (sound.known entry').inSection inside'
    by_cases same : c.request.scope = call.request.scope
    · cases sound.exclusive entry entry' inside inside' same
      cases entry.symm.trans entry'
      cases at_.symm.trans at'
      exact Or.inr stored
    · rcases sound.unstored entry' at' with gone | there
      · exact Or.inl ((liveRow_persist_other known.1 known'.1 same).trans gone)
      · exact Or.inr (lasting there)
  · intro i request response' key event caches keyed
    rcases sound.kept event caches keyed with pending | there
    · exact Or.inl pending
    · exact Or.inr (lasting there)

end

variable {id : Nat} {call : Call}

section

variable (sound : w.Sound H started)

include sound

theorem moved {events : List Event} (known : call.Sound H)
    (held : call.phase.inSection → w.Holds id call)
    (unmet : call.phase.isUnmet → w.liveRow call.request.scope call.key = none)
    (may : w.MayMove H started id)
    (kept : ∀ i request response key, .produced i request (some response) ∈ events →
      response.doNotCache = false → request.scope.key = some key →
        i = id ∧ call.request = request ∧ call.phase = .caching .locked response)
    (once : ∀ scope, scope.key ≠ none →
      ((w.log ++ events).filter (Event.cacheable scope)).length ≤ 1)
    (own : ∀ e ∈ events, ∃ outcome, e = .produced id call.request outcome) :
    World.Sound H started
      { w with calls := Function.update w.calls id (some call), log := w.log ++ events } := by
  have mine : Function.update w.calls id (some call) id = some call := update_self _ _ _
  have others : ∀ {i c}, Function.update w.calls id (some call) i = some c →
      (i = id ∧ c = call) ∨ w.calls i = some c := by
    intro i c entry
    by_cases same : i = id
    · subst same
      rw [mine] at entry
      exact Or.inl ⟨rfl, (Option.some.inj entry).symm⟩
    · rw [update_of_ne same] at entry
      exact Or.inr entry
  constructor
  · exact sound.early
  · exact sound.past
  · intro i c entry
    rcases others entry with ⟨_, rfl⟩ | old
    · exact known
    · exact sound.known old
  · intro i c entry inside
    rcases others entry with ⟨rfl, rfl⟩ | old
    · exact held inside
    · exact sound.held old inside
  · intro i c entry at_
    rcases others entry with ⟨rfl, rfl⟩ | old
    · exact unmet (by rw [at_]; rfl)
    · exact sound.unmet old at_
  · intro i c response entry at_
    rcases others entry with ⟨rfl, rfl⟩ | old
    · exact Or.inl (unmet (by rw [at_]; rfl))
    · exact sound.unstored old at_
  · intro i request response key event caches keyed
    rcases mem_append.mp event with before | new
    · rcases sound.kept before caches keyed with ⟨c, entry, asked, at_⟩ | there
      · by_cases same : i = id
        · subst same
          have stored := may c entry
          rw [at_] at stored
          exact Or.inr (asked ▸ stored key (asked ▸ keyed))
        · exact Or.inl ⟨c, (update_of_ne same _ _).trans entry, asked, at_⟩
      · exact Or.inr there
    · rcases kept i request response key new caches keyed with ⟨rfl, asked, at_⟩
      exact Or.inl ⟨call, mine, asked, at_⟩
  · exact once
  · intro i request answer event
    rcases mem_append.mp event with before | new
    · rcases sound.done before with ⟨c, entry, at_⟩
      have other : i ≠ id := by
        rintro rfl
        have open_ := may c entry
        rw [at_] at open_
        exact open_
      exact ⟨c, (update_of_ne other _ _).trans entry, at_⟩
    · rcases own _ new with ⟨outcome, same⟩
      cases same
  · intro i request event
    rcases mem_append.mp event with before | new
    · by_cases same : i = id
      · subst same
        exact ne_none_iff_exists'.mpr ⟨call, mine⟩
      · change Function.update w.calls id (some call) i ≠ none
        rw [update_of_ne same]
        exact sound.begun before
    · rcases own _ new with ⟨outcome, same⟩
      cases same

theorem note {e : Event} (quiet : e.Quiet)
    (done : ∀ id request answer, e = .answered id request answer →
      ∃ call, w.calls id = some call ∧ call.phase = .answered answer)
    (begun : ∀ id request, e = .called id request → w.calls id ≠ none) :
    (w.note e).Sound H started := by
  refine { sound with kept := ?_, once := ?_, done := ?_, begun := ?_ }
  · intro id request response key event caches keyed
    rcases mem_append.mp event with before | new
    · exact sound.kept before caches keyed
    · cases mem_singleton.mp new
      cases keyed.symm.trans (quiet caches)
  · intro scope keyed
    change ((w.log ++ [e]).filter (Event.cacheable scope)).length ≤ 1
    rw [filter_append, filter_singleton, quiet.not_cacheable keyed, cond_false, append_nil]
    exact sound.once scope keyed
  · intro id request answer event
    rcases mem_append.mp event with before | new
    · exact sound.done before
    · exact done id request answer (mem_singleton.mp new).symm
  · intro id request event
    rcases mem_append.mp event with before | new
    · exact sound.begun before
    · exact begun id request (mem_singleton.mp new).symm

theorem enter {id : Nat} {call : Call} {phase : Phase} (may : w.MayMove H started id)
    (known : Call.Sound H { call with phase }) (held : phase.inSection → w.Holds id call)
    (unmet : phase.isUnmet → w.liveRow call.request.scope call.key = none) :
    (w.enter id call phase).Sound H started := by
  have entered : World.Sound H started { w with
      calls := Function.update w.calls id (some { call with phase }), log := w.log ++ [] } :=
    sound.moved known held unmet may (fun _ _ _ _ new => absurd new not_mem_nil)
      (fun scope keyed => by rw [append_nil]; exact sound.once scope keyed)
      (fun _ new => absurd new not_mem_nil)
  rw [append_nil] at entered
  exact entered

theorem answer {id : Nat} (call : Call) (answer : Answer)
    (may : w.MayMove H started id) : (w.answer id call answer).Sound H started := by
  have entered : (w.enter id call (.answered answer)).Sound H started :=
    sound.enter may trivial (fun inside => Bool.noConfusion inside)
      fun unmet => Bool.noConfusion unmet
  refine entered.note trivial (fun id' request answer' same => ?_) fun _ _ same => nomatch same
  cases same
  exact ⟨_, update_self _ _ _, rfl⟩

theorem execute {id : Nat} {call : Call} {entry : Entry}
    (may : w.MayMove H started id) (known : Call.Sound H { call with phase := .executing entry })
    (held : entry = .locked → w.Holds id call)
    (unmet : entry = .locked → w.liveRow call.request.scope call.key = none) :
    (w.execute id call entry).Sound H started := by
  have entered : (w.enter id call (.executing entry)).Sound H started :=
    sound.enter may known (fun inside => held (beq_iff_eq.mp inside))
      fun executing => unmet (beq_iff_eq.mp executing)
  refine entered.note trivial (fun _ _ _ same => nomatch same) fun id' request same => ?_
  cases same
  exact ne_none_iff_exists'.mpr ⟨_, update_self _ _ _⟩

theorem release {answer : Answer} (may : w.MayMove H started id) (known : call.Known H)
    (held : w.Holds id call) : (w.enter id call (.releasing answer)).Sound H started :=
  sound.enter may known (fun _ => held) fun unmet => Bool.noConfusion unmet

end

theorem mayMove (entry : w.calls id = some call) (free : call.phase.isFree) :
    w.MayMove H started id := by
  intro old entry'
  cases entry.symm.trans entry'
  split
  · next at_ =>
    rw [at_] at free
    cases free
  · next at_ =>
    rw [at_] at free
    cases free
  · trivial

theorem begin (sound : w.Sound H started) {id : Nat} {request : Request}
    (fresh : w.calls id = none) : (w.begin H id request).Sound H started := by
  have began : (w.note (.began id request)).Sound H started :=
    sound.note trivial (fun _ _ _ same => nomatch same) fun _ _ same => nomatch same
  have may : (w.note (.began id request)).MayMove H started id :=
    fun old entry => nomatch fresh.symm.trans entry
  unfold World.begin
  dsimp only
  cases given : request.scope.idempotencyKey with
  | none =>
    have keyless : request.scope.key = none := by
      unfold IdempotencyScope.key
      rw [given]
      rfl
    exact began.execute may keyless nofun nofun
  | some key =>
    dsimp only
    by_cases empty : key = ""
    · rw [if_pos empty]
      have keyless : request.scope.key = none := by
        unfold IdempotencyScope.key
        rw [given, filter_some, if_neg (by simp [empty])]
      exact began.execute may keyless nofun nofun
    · rw [if_neg empty]
      by_cases long : MAX_IDEMPOTENCY_KEY_LENGTH < textLength key
      · rw [if_pos long]
        exact began.answer _ _ may
      · rw [if_neg long]
        have keyed : request.scope.key = some key := by
          unfold IdempotencyScope.key
          rw [given, filter_some, if_pos]
          exact Bool.and_eq_true_iff.mpr ⟨bne_iff_ne.mpr empty, decide_eq_true (Nat.not_lt.mp long)⟩
        exact began.enter may ⟨keyed, rfl⟩ (fun inside => Bool.noConfusion inside)
          fun unmet => Bool.noConfusion unmet

theorem calls_answer (w : World) (id : Nat) (call : Call) (answer : Answer) :
    (w.answer id call answer).calls id = some { call with phase := .answered answer } :=
  update_self _ _ _

theorem unlock_answer (w : World) (id : Nat) (call : Call) (answer : Answer) :
    (w.unlock id call).answer id call answer = (w.answer id call answer).unlock id call := by
  have same : (w.answer id call answer).lockAt call.lockKey = w.lockAt call.lockKey := rfl
  unfold World.unlock
  rw [same]
  split
  · rfl
  · rfl

theorem proceed (sound : w.Sound H started) {id : Nat} {call : Call} {w' : World}
    (entry : w.calls id = some call)
    (stores : ∀ entry response, call.phase = .caching entry response → response.isStorable)
    (stepped : w.proceed id call = some w') : w'.Sound H started := by
  have known := sound.known entry
  unfold Call.Sound at known
  revert stepped
  fun_cases World.proceed w id call <;> intro stepped <;> cases stepped
  · next at_ _ _ => exact sound.answer _ _ (mayMove entry (by rw [at_]; rfl))
  · next at_ _ =>
    rw [at_] at known
    exact sound.enter (mayMove entry (by rw [at_]; rfl)) known nofun nofun
  · next at_ _ _ => exact sound.answer _ _ (mayMove entry (by rw [at_]; rfl))
  · next at_ free =>
    rw [at_] at known
    refine (sound.setLock free).enter (mayMove entry (by rw [at_]; rfl)) known (fun _ => ?_) nofun
    refine ⟨⟨id, w.now + LOCK_TTL_MS⟩, filter_eq_some_iff.mpr ⟨?_, ?_⟩, rfl⟩
    · exact update_self _ _ _
    · exact decide_eq_true (Nat.lt_add_of_pos_right (by decide))
  · next at_ _ _ =>
    rw [at_] at known
    exact sound.release (mayMove entry (by rw [at_]; rfl)) known
      (sound.held entry (by rw [at_]; rfl))
  · next at_ missing =>
    rw [at_] at known
    exact sound.execute (mayMove entry (by rw [at_]; rfl)) known
      (fun _ => sound.held entry (by rw [at_]; rfl)) fun _ => map_eq_none_iff.mp missing
  · next at_ _ =>
    rw [at_] at known
    obtain ⟨rfl, known⟩ := known
    obtain ⟨persisted, stored⟩ := sound.persist entry at_
    refine persisted.release (fun old entry' => ?_) known (sound.held entry (by rw [at_]; rfl))
    cases entry.symm.trans entry'
    rw [at_]
    intro key keyed
    cases known.1.symm.trans keyed
    exact stored
  · next at_ unstorable => exact absurd (stores _ _ at_) unstorable
  · next answer at_ =>
    rw [unlock_answer]
    refine (sound.answer call answer (mayMove entry (by rw [at_]; rfl))).unlock
      fun other entry' => ?_
    cases (calls_answer w id call answer).symm.trans entry'
    rfl

theorem first (sound : w.Sound H started) (entry : w.calls id = some call)
    (at_ : call.phase = .executing .locked) :
    w.log.filter (Event.cacheable call.request.scope) = [] := by
  have inside : call.phase.inSection := by rw [at_]; rfl
  have known := (sound.known entry).inSection inside
  refine filter_eq_nil_iff.mpr fun e mem cacheable => ?_
  unfold Event.cacheable at cacheable
  split at cacheable
  · next i request response =>
    obtain ⟨same, caches⟩ := Bool.and_eq_true_iff.mp cacheable
    have same : request.scope = call.request.scope := beq_iff_eq.mp same
    have keyed : request.scope.key = some call.key := by rw [same]; exact known.1
    rcases sound.kept mem (Bool.not_eq_eq_eq_not.mp caches) keyed with
      ⟨other, entry', asked, at'⟩ | ⟨row, found, _⟩
    · have inside' : other.phase.inSection := by rw [at']; rfl
      cases sound.exclusive entry entry' inside inside' (asked ▸ same)
      cases entry.symm.trans entry'
      cases at_.symm.trans at'
    · rw [same, sound.unmet entry at_] at found
      cases found
  · cases cacheable

theorem executed (sound : w.Sound H started) {id : Nat} {call : Call} {w' : World}
    {outcome : Option IdempotencyResponse} (entry : w.calls id = some call)
    (stepped : w.executed id call outcome = some w') : w'.Sound H started := by
  have known := sound.known entry
  unfold Call.Sound at known
  unfold World.executed at stepped
  cases at_ : call.phase with
  | executing via =>
    have may : w.MayMove H started id := mayMove entry (by rw [at_]; rfl)
    rw [at_] at known stepped
    dsimp only at stepped
    cases via with
    | unlocked => exact known.elim
    | direct =>
      have noted : (w.note (.produced id call.request outcome)).Sound H started := by
        refine sound.note ?_ (fun _ _ _ same => nomatch same) fun _ _ same => nomatch same
        cases outcome with
        | none => trivial
        | some response => exact fun _ => known
      cases outcome with
      | none =>
        cases stepped
        exact noted.answer call .threw may
      | some response =>
        dsimp only at stepped
        rw [if_pos (Or.inl rfl)] at stepped
        cases stepped
        exact noted.answer call (.returned response) may
    | locked =>
      have holds := sound.held entry (by rw [at_]; rfl)
      cases outcome with
      | none =>
        have noted : (w.note (.produced id call.request none)).Sound H started :=
          sound.note trivial (fun _ _ _ same => nomatch same) fun _ _ same => nomatch same
        cases stepped
        exact noted.release may known holds
      | some response =>
        dsimp only at stepped
        by_cases transient : response.doNotCache = true
        · have noted : (w.note (.produced id call.request (some response))).Sound H started := by
            refine sound.note (fun caches => ?_) (fun _ _ _ same => nomatch same)
              fun _ _ same => nomatch same
            cases transient.symm.trans caches
          rw [if_pos (Or.inr transient)] at stepped
          cases stepped
          exact noted.release may known holds
        · have neither : ¬ (Entry.locked = .direct ∨ response.doNotCache) := by
            rintro (direct | caches)
            · cases direct
            · exact transient caches
          rw [if_neg neither] at stepped
          cases stepped
          have unmet : w.liveRow call.request.scope call.key = none := sound.unmet entry at_
          change World.Sound H started { w with
            calls := Function.update w.calls id (some { call with phase := .caching .locked response })
            log := w.log ++ [.produced id call.request (some response)] }
          refine sound.moved ⟨rfl, known⟩ (fun _ => holds) (fun _ => unmet) may ?_ ?_ ?_
          · intro i request response' key new _ _
            cases mem_singleton.mp new
            exact ⟨rfl, rfl, rfl⟩
          · intro scope keyed
            rw [filter_append]
            by_cases same : call.request.scope = scope
            · rw [← same, sound.first entry at_]
              exact length_filter_le _ [_]
            · have foreign : Event.cacheable scope (.produced id call.request (some response)) =
                  false := Bool.and_eq_false_iff.mpr (Or.inl (beq_false_of_ne same))
              rw [filter_singleton, foreign, cond_false, append_nil]
              exact sound.once scope keyed
          · intro e new
            exact ⟨_, mem_singleton.mp new⟩
  | _ => rw [at_] at stepped; cases stepped

theorem step (sound : w.Sound H started) {l : RequestLabel} {w' : World}
    (orderly : w.Orderly started l) (stepped : w.step H l = some w') : w'.Sound H started := by
  cases l with
  | tick time =>
    cases stepped
    exact sound.tick orderly.1
  | begin id request =>
    cases fresh : w.calls id with
    | none =>
      simp only [World.step, fresh] at stepped
      cases stepped
      exact sound.begin fresh
    | some call =>
      simp only [World.step, fresh] at stepped
      cases stepped
  | proceed id =>
    obtain ⟨call, entry, stepped⟩ := bind_eq_some_iff.mp stepped
    exact sound.proceed entry (fun via response => orderly.2 call via response entry) stepped
  | executed id outcome =>
    obtain ⟨call, entry, stepped⟩ := bind_eq_some_iff.mp stepped
    exact sound.executed entry stepped
  | dbError id => exact orderly.2.elim
  | redisError id => exact orderly.1.elim

theorem idle (now : Time) (rows : List IdempotencyKeyRow)
    (locks : String → Option IdempotencyLock) : (World.idle now rows locks).Sound H now where
  early := Nat.lt_add_of_pos_right (by decide)
  past := Nat.le_refl _
  known := fun entry => nomatch entry
  held := fun entry => nomatch entry
  unmet := fun entry => nomatch entry
  unstored := fun entry => nomatch entry
  kept := fun event => absurd event not_mem_nil
  once := fun _ _ => Nat.zero_le _
  done := fun event => absurd event not_mem_nil
  begun := fun event => absurd event not_mem_nil

theorem stored (sound : w.Sound H started) {request : Request} {response : IdempotencyResponse}
    {answer : Answer} {key : String} (produced : .produced id request (some response) ∈ w.log)
    (caches : response.doNotCache = false) (answered : .answered id request answer ∈ w.log)
    (keyed : request.scope.key = some key) : w.Stored H started request response key := by
  rcases sound.kept produced caches keyed with ⟨call, entry, _, at_⟩ | there
  · rcases sound.done answered with ⟨call', entry', at'⟩
    cases entry.symm.trans entry'
    cases at_.symm.trans at'
  · exact there

end World.Sound

end OpenWind
