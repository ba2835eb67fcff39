import OpenWind.Lib.Runs
import Mathlib.Data.List.Basic

/-!
# A read-through cache

Readers keep views of a store in a cache.  A reader takes a cached view; without one it
loads the view from the store as committed, puts it into the cache and returns it.  A
writer makes changes in a transaction; after each it lists the cached keys that the
change touches, in pages, and deletes those it found, and at the end it commits.

* `Source`: a store with its views and changes; `Source.Local`: a change alters only the
  views that it touches.
-/

open List

namespace ReadThrough

variable {S K V W : Type}

structure Source (S K V W : Type) where
  view : S → K → V
  apply : W → S → S
  touches : W → K → Bool

def Source.Local (source : Source S K V W) : Prop :=
  ∀ w s k, source.touches w k = false → source.view (source.apply w s) k = source.view s k

/-! ## The machine -/

inductive Clearing (K : Type)
  | written
  | listing (present found : List K)
  | listed (found : List K)

structure Writer (K W : Type) where
  cleared : List W
  current : Option (W × Clearing K)

inductive Reading (V : Type)
  | started
  | missed
  | loaded (value : V)
  | returned (value : V)

structure Reader (S K V : Type) where
  key : K
  since : List S
  reading : Reading V

structure State (S K V W : Type) where
  store : S
  cache : List (K × V) := []
  writers : List (Nat × Writer K W) := []
  readers : List (Nat × Reader S K V) := []

inductive Label (K W : Type)
  | write (t : Nat) (w : W)
  | list (t : Nat)
  | page (t : Nat) (keys : List K)
  | listed (t : Nat)
  | delete (t : Nat)
  | commit (t : Nat)
  | abort (t : Nat)
  | read (r : Nat) (key : K)
  | get (r : Nat)
  | load (r : Nat)
  | put (r : Nat)
  | expire (key : K)

/-- Keys that leave the cache need not be found any more. -/
def Clearing.forget [BEq K] (keys : List K) : Clearing K → Clearing K
  | written => written
  | listing present found => listing (present.filter fun k => !keys.contains k) found
  | listed found => listed found

def Writer.forget [BEq K] (keys : List K) (writer : Writer K W) : Writer K W :=
  { writer with current := writer.current.map fun (w, clearing) => (w, clearing.forget keys) }

/-- The entry of `n` becomes `a`. -/
def place {A : Type} (n : Nat) (a : A) (entries : List (Nat × A)) : List (Nat × A) :=
  (n, a) :: entries.filter fun e => e.1 != n

namespace State

variable (s : State S K V W)

def setWriter (t : Nat) (writer : Writer K W) : State S K V W :=
  { s with writers := place t writer s.writers }

def dropWriter (t : Nat) : State S K V W :=
  { s with writers := s.writers.filter fun e => e.1 != t }

def setReader (r : Nat) (reader : Reader S K V) : State S K V W :=
  { s with readers := place r reader s.readers }

def cached : List K := s.cache.map Prod.fst

variable [DecidableEq K]

/-- The keys are deleted from the cache. -/
def remove (keys : List K) : State S K V W :=
  { s with
    cache := s.cache.filter fun e => !keys.contains e.1
    writers := s.writers.map fun (t, writer) => (t, writer.forget keys) }

/-- The view is put into the cache. -/
def insert (key : K) (value : V) : State S K V W :=
  { s with cache := (key, value) :: s.cache.filter fun e => e.1 != key }

/-- A new store is committed. -/
def install (store : S) : State S K V W :=
  { s with
    store
    readers := s.readers.map fun (r, reader) =>
      (r, { reader with since := store :: reader.since }) }

variable (source : Source S K V W)

def write (t : Nat) (w : W) : Option (State S K V W) :=
  match s.writers.lookup t with
  | none => some (s.setWriter t ⟨[], some (w, .written)⟩)
  | some ⟨cleared, none⟩ => some (s.setWriter t ⟨cleared, some (w, .written)⟩)
  | some ⟨_, some _⟩ => none

def clear (t : Nat) (next : W → Clearing K → Option (Clearing K)) : Option (State S K V W) :=
  match s.writers.lookup t with
  | some ⟨cleared, some (w, clearing)⟩ =>
    (next w clearing).map fun clearing' => s.setWriter t ⟨cleared, some (w, clearing')⟩
  | _ => none

def delete (t : Nat) : Option (State S K V W) :=
  match s.writers.lookup t with
  | some ⟨cleared, some (w, .listed found)⟩ =>
    some ((s.remove found).setWriter t ⟨cleared ++ [w], none⟩)
  | _ => none

def commit (t : Nat) : Option (State S K V W) :=
  match s.writers.lookup t with
  | some ⟨cleared, none⟩ =>
    some ((s.install (cleared.foldl (fun store w => source.apply w store) s.store)).dropWriter t)
  | _ => none

def get (r : Nat) : Option (State S K V W) :=
  match s.readers.lookup r with
  | some ⟨key, since, .started⟩ =>
    match s.cache.lookup key with
    | some value => some (s.setReader r ⟨key, since, .returned value⟩)
    | none => some (s.setReader r ⟨key, since, .missed⟩)
  | _ => none

def load (r : Nat) : Option (State S K V W) :=
  match s.readers.lookup r with
  | some ⟨key, since, .missed⟩ =>
    some (s.setReader r ⟨key, since, .loaded (source.view s.store key)⟩)
  | _ => none

def put (r : Nat) : Option (State S K V W) :=
  match s.readers.lookup r with
  | some ⟨key, since, .loaded value⟩ =>
    some ((s.insert key value).setReader r ⟨key, since, .returned value⟩)
  | _ => none

end State

def State.step [DecidableEq K] (source : Source S K V W) (s : State S K V W) :
    Label K W → Option (State S K V W)
  | .write t w => s.write t w
  | .list t => s.clear t fun w clearing =>
    match clearing with
    | .written => some (.listing (s.cached.filter (source.touches w)) [])
    | _ => none
  | .page t keys => s.clear t fun w clearing =>
    match clearing with
    | .listing present found =>
      if keys.all fun k => source.touches w k && s.cached.contains k then
        some (.listing present (found ++ keys))
      else none
    | _ => none
  | .listed t => s.clear t fun _ clearing =>
    match clearing with
    | .listing present found =>
      if present.all found.contains then some (.listed found) else none
    | _ => none
  | .delete t => s.delete t
  | .commit t => s.commit source t
  | .abort t => some (s.dropWriter t)
  | .read r key =>
    match s.readers.lookup r with
    | none => some (s.setReader r ⟨key, [s.store], .started⟩)
    | some _ => none
  | .get r => s.get r
  | .load r => s.load source r
  | .put r => s.put r
  | .expire key => some (s.remove [key])

/-! ## Freshness -/

def Reader.Saw (source : Source S K V W) (reader : Reader S K V) (value : V) : Prop :=
  ∃ store ∈ reader.since, source.view store reader.key = value

def State.Fresh (source : Source S K V W) (s : State S K V W) : Prop :=
  ∀ e ∈ s.readers, ∀ value, e.2.reading = .returned value → e.2.Saw source value

def Writer.Spares (source : Source S K V W) (writer : Writer K W) (key : K) : Prop :=
  (∀ w ∈ writer.cleared, source.touches w key = false) ∧
    ∀ w clearing, writer.current = some (w, clearing) →
      clearing = .written ∨ source.touches w key = false

def State.Allowed (source : Source S K V W) (s : State S K V W) : Label K W → Prop
  | .put r => ∀ key since value, s.readers.lookup r = some ⟨key, since, .loaded value⟩ →
    value = source.view s.store key ∧ ∀ e ∈ s.writers, e.2.Spares source key
  | _ => True

def Clearing.Covers (key : K) : Clearing K → Prop
  | written => True
  | listing present found => key ∈ present ∨ key ∈ found
  | listed found => key ∈ found

structure Writer.Sound (source : Source S K V W) (cached : List K) (writer : Writer K W) :
    Prop where
  cleared : ∀ w ∈ writer.cleared, ∀ k ∈ cached, source.touches w k = false
  current : ∀ w clearing, writer.current = some (w, clearing) →
    ∀ k ∈ cached, source.touches w k = true → clearing.Covers k

structure Reader.Sound (source : Source S K V W) (store : S) (reader : Reader S K V) : Prop where
  since : store ∈ reader.since
  loaded : ∀ value, reader.reading = .loaded value → reader.Saw source value
  returned : ∀ value, reader.reading = .returned value → reader.Saw source value

structure State.Sound (source : Source S K V W) (s : State S K V W) : Prop where
  cached : ∀ e ∈ s.cache, e.2 = source.view s.store e.1
  writers : ∀ e ∈ s.writers, e.2.Sound source s.cached
  readers : ∀ e ∈ s.readers, e.2.Sound source s.store

theorem State.Sound.fresh {source : Source S K V W} {s : State S K V W} (sound : s.Sound source) :
    s.Fresh source :=
  fun e mem => (sound.readers e mem).returned

/-! ## Steps -/

theorem mem_of_lookup {A B : Type} [BEq A] [LawfulBEq A] {entries : List (A × B)} {a : A} {b : B}
    (found : entries.lookup a = some b) : (a, b) ∈ entries := by
  obtain ⟨before, after, split, -⟩ := lookup_eq_some_iff.mp found
  rw [split]
  exact mem_append_right _ mem_cons_self

theorem forall_mem_place {A : Type} {P : Nat × A → Prop} {n : Nat} {a : A}
    {entries : List (Nat × A)} (placed : P (n, a)) (others : ∀ e ∈ entries, P e) :
    ∀ e ∈ place n a entries, P e := by
  intro e mem
  rcases mem_cons.mp mem with rfl | old
  · exact placed
  · exact others e (mem_filter.mp old).1

section Steps

variable {source : Source S K V W} {s : State S K V W}

theorem State.Sound.setWriter (sound : s.Sound source) (n : Nat) {writer : Writer K W}
    (written : writer.Sound source s.cached) : (s.setWriter n writer).Sound source :=
  ⟨sound.cached, forall_mem_place written sound.writers, sound.readers⟩

theorem State.Sound.dropWriter (sound : s.Sound source) (n : Nat) : (s.dropWriter n).Sound source :=
  ⟨sound.cached, fun e mem => sound.writers e (mem_filter.mp mem).1, sound.readers⟩

theorem State.Sound.setReader (sound : s.Sound source) (n : Nat) {reader : Reader S K V}
    (read : reader.Sound source s.store) : (s.setReader n reader).Sound source :=
  ⟨sound.cached, sound.writers, forall_mem_place read sound.readers⟩

theorem Source.Local.view_foldl (local_ : source.Local) {changes : List W} {k : K}
    (spared : ∀ w ∈ changes, source.touches w k = false) (store : S) :
    source.view (changes.foldl (fun store w => source.apply w store) store) k =
      source.view store k := by
  induction changes generalizing store with
  | nil => rfl
  | cons w rest ih =>
    rw [forall_mem_cons] at spared
    rw [foldl_cons, ih spared.2, local_ w store k spared.1]

theorem State.Sound.install (sound : s.Sound source) {store : S}
    (same : ∀ k ∈ s.cached, source.view store k = source.view s.store k) :
    (s.install store).Sound source := by
  refine ⟨fun e mem => ?_, sound.writers, fun e mem => ?_⟩
  · have current : e.2 = source.view s.store e.1 := sound.cached e mem
    change e.2 = source.view store e.1
    rw [same e.1 (mem_map_of_mem mem), current]
  · obtain ⟨old, memOld, rfl⟩ := mem_map.mp mem
    have before := sound.readers old memOld
    refine ⟨mem_cons_self, fun value loaded => ?_, fun value returned => ?_⟩
    · obtain ⟨seen, memSeen, view⟩ := before.loaded value loaded
      exact ⟨seen, mem_cons_of_mem _ memSeen, view⟩
    · obtain ⟨seen, memSeen, view⟩ := before.returned value returned
      exact ⟨seen, mem_cons_of_mem _ memSeen, view⟩

/-- From an empty cache. -/
theorem State.Sound.init (source : Source S K V W) (store : S) :
    (⟨store, [], [], []⟩ : State S K V W).Sound source :=
  ⟨fun _ mem => (nomatch mem), fun _ mem => (nomatch mem), fun _ mem => (nomatch mem)⟩

/-! ### Steps that leave the cache -/

theorem State.Sound.write (sound : s.Sound source) {n : Nat} {w : W} {s' : State S K V W}
    (stepped : s.write n w = some s') : s'.Sound source := by
  have fresh {cleared : List W} (before : ∀ w ∈ cleared, ∀ k ∈ s.cached, source.touches w k = false) :
      (Writer.mk cleared (some (w, Clearing.written (K := K)))).Sound source s.cached := by
    refine ⟨before, fun w' clearing now k _ _ => ?_⟩
    cases now
    trivial
  unfold State.write at stepped
  split at stepped
  next =>
    cases stepped
    exact sound.setWriter n (fresh fun _ mem => nomatch mem)
  next cleared found =>
    cases stepped
    exact sound.setWriter n (fresh (sound.writers _ (mem_of_lookup found)).cleared)
  next => cases stepped

theorem State.Sound.clear (sound : s.Sound source) {n : Nat}
    {next : W → Clearing K → Option (Clearing K)} {s' : State S K V W}
    (covers : ∀ w clearing clearing', next w clearing = some clearing' →
      (∀ k ∈ s.cached, source.touches w k → clearing.Covers k) →
        ∀ k ∈ s.cached, source.touches w k → clearing'.Covers k)
    (stepped : s.clear n next = some s') : s'.Sound source := by
  unfold State.clear at stepped
  split at stepped
  next cleared w clearing found =>
    obtain ⟨clearing', went, rfl⟩ := Option.map_eq_some_iff.mp stepped
    have before := sound.writers _ (mem_of_lookup found)
    refine sound.setWriter n ⟨before.cleared, fun w' clearing'' now => ?_⟩
    cases now
    exact covers w clearing clearing' went (before.current w clearing rfl)
  next => cases stepped

theorem State.Sound.commit (local_ : source.Local) (sound : s.Sound source) {n : Nat}
    {s' : State S K V W} (stepped : s.commit source n = some s') : s'.Sound source := by
  unfold State.commit at stepped
  split at stepped
  next cleared found =>
    cases stepped
    have before := sound.writers _ (mem_of_lookup found)
    refine (sound.install fun k listed => ?_).dropWriter n
    exact local_.view_foldl (fun w mem => before.cleared w mem k listed) s.store
  next => cases stepped

theorem State.Sound.load (sound : s.Sound source) {n : Nat} {s' : State S K V W}
    (stepped : s.load source n = some s') : s'.Sound source := by
  unfold State.load at stepped
  split at stepped
  next key since found =>
    cases stepped
    have before := sound.readers _ (mem_of_lookup found)
    refine sound.setReader n ⟨before.since, fun value now => ?_, fun _ now => nomatch now⟩
    cases now
    exact ⟨s.store, before.since, rfl⟩
  next => cases stepped

/-! ### Steps that change or read the cache -/

variable [DecidableEq K]

theorem State.mem_cached_remove {keys : List K} {k : K} :
    k ∈ (s.remove keys).cached ↔ k ∈ s.cached ∧ k ∉ keys := by
  unfold cached remove
  simp only [mem_map, mem_filter, Bool.not_eq_true', contains_eq_mem, decide_eq_false_iff_not]
  constructor
  · rintro ⟨e, ⟨mem, kept⟩, rfl⟩
    exact ⟨⟨e, mem, rfl⟩, kept⟩
  · rintro ⟨⟨e, mem, rfl⟩, kept⟩
    exact ⟨e, ⟨mem, kept⟩, rfl⟩

theorem Clearing.Covers.forget {clearing : Clearing K} {k : K} (covers : clearing.Covers k)
    {keys : List K} (kept : k ∉ keys) : (clearing.forget keys).Covers k := by
  cases clearing with
  | written => trivial
  | listing present found =>
    rcases covers with listed | found
    · exact .inl (mem_filter.mpr ⟨listed, by simpa using kept⟩)
    · exact .inr found
  | listed found => exact covers

theorem Writer.Sound.forget {writer : Writer K W} (sound : writer.Sound source s.cached)
    (keys : List K) : (writer.forget keys).Sound source (s.remove keys).cached := by
  constructor
  · intro w mem k listed
    exact sound.cleared w mem k (State.mem_cached_remove.mp listed).1
  · intro w clearing now k listed touched
    obtain ⟨⟨w', clearing'⟩, before, eq⟩ := Option.map_eq_some_iff.mp now
    cases eq
    obtain ⟨inCache, kept⟩ := State.mem_cached_remove.mp listed
    exact (sound.current w clearing' before k inCache touched).forget kept

section

variable (sound : s.Sound source)

include sound

theorem State.Sound.remove (keys : List K) : (s.remove keys).Sound source := by
  refine ⟨fun e mem => sound.cached e (mem_filter.mp mem).1, fun e mem => ?_, sound.readers⟩
  obtain ⟨old, memOld, rfl⟩ := mem_map.mp mem
  exact (sound.writers old memOld).forget keys

theorem State.Sound.insert {key : K} (spared : ∀ e ∈ s.writers, e.2.Spares source key) :
    (s.insert key (source.view s.store key)).Sound source := by
  have listed {k : K} (mem : k ∈ (s.insert key (source.view s.store key)).cached) :
      k = key ∨ k ∈ s.cached := by
    obtain ⟨e, memE, rfl⟩ := mem_map.mp mem
    rcases mem_cons.mp memE with rfl | old
    · exact .inl rfl
    · exact .inr (mem_map_of_mem (mem_filter.mp old).1)
  refine ⟨fun e mem => ?_,
    fun e mem => ⟨fun w memW k memK => ?_, fun w clearing now k memK touched => ?_⟩,
    sound.readers⟩
  · rcases mem_cons.mp mem with rfl | old
    · rfl
    · exact sound.cached e (mem_filter.mp old).1
  · rcases listed memK with rfl | old
    · exact (spared e mem).1 w memW
    · exact (sound.writers e mem).cleared w memW k old
  · rcases listed memK with rfl | old
    · rcases (spared e mem).2 w clearing now with rfl | untouched
      · trivial
      · rw [untouched] at touched
        cases touched
    · exact (sound.writers e mem).current w clearing now k old touched

theorem State.Sound.delete {n : Nat} {s' : State S K V W}
    (stepped : s.delete n = some s') : s'.Sound source := by
  unfold State.delete at stepped
  split at stepped
  next cleared w found_ found =>
    cases stepped
    have before := sound.writers _ (mem_of_lookup found)
    refine (sound.remove found_).setWriter n ⟨fun w' mem k listed => ?_, fun _ _ now => nomatch now⟩
    obtain ⟨inCache, kept⟩ := State.mem_cached_remove.mp listed
    rcases mem_append.mp mem with old | new
    · exact before.cleared w' old k inCache
    · obtain rfl := mem_singleton.mp new
      by_contra touched
      exact kept (before.current w' _ rfl k inCache (by simpa using touched))
  next => cases stepped

theorem State.Sound.get {n : Nat} {s' : State S K V W}
    (stepped : s.get n = some s') : s'.Sound source := by
  unfold State.get at stepped
  split at stepped
  next key since found =>
    have before := sound.readers _ (mem_of_lookup found)
    split at stepped
    next value hit =>
      cases stepped
      refine sound.setReader n ⟨before.since, fun _ now => (nomatch now), fun value' now => ?_⟩
      cases now
      exact ⟨s.store, before.since, (sound.cached _ (mem_of_lookup hit)).symm⟩
    next =>
      cases stepped
      exact sound.setReader n ⟨before.since, fun _ now => (nomatch now), fun _ now => (nomatch now)⟩
  next => cases stepped

theorem State.Sound.put {n : Nat} (allowed : s.Allowed source (.put n))
    {s' : State S K V W} (stepped : s.put n = some s') : s'.Sound source := by
  unfold State.put at stepped
  split at stepped
  next key since value found =>
    cases stepped
    obtain ⟨rfl, spared⟩ := allowed key since value found
    have before := sound.readers _ (mem_of_lookup found)
    refine (sound.insert spared).setReader n
      ⟨before.since, fun _ now => (nomatch now), fun value' now => ?_⟩
    cases now
    exact before.loaded _ rfl
  next => cases stepped

end

/-! ## Runs -/

theorem State.Sound.step (local_ : source.Local) (sound : s.Sound source) {l : Label K W}
    {s' : State S K V W} (allowed : s.Allowed source l) (stepped : State.step source s l = some s') :
    s'.Sound source := by
  cases l with
  | write n w => exact sound.write stepped
  | list n =>
    refine sound.clear (fun w clearing clearing' went before => ?_) stepped
    cases clearing with
    | written =>
      cases went
      exact fun k listed touched => .inl (mem_filter.mpr ⟨listed, touched⟩)
    | listing => cases went
    | listed => cases went
  | page n keys =>
    refine sound.clear (fun w clearing clearing' went before => ?_) stepped
    cases clearing with
    | written => cases went
    | listing present found =>
      dsimp only at went
      split at went
      · cases went
        exact fun k listed touched => (before k listed touched).imp_right (mem_append_left keys)
      · cases went
    | listed => cases went
  | listed n =>
    refine sound.clear (fun w clearing clearing' went before => ?_) stepped
    cases clearing with
    | written => cases went
    | listing present found =>
      dsimp only at went
      split at went
      next all =>
        cases went
        intro k listed touched
        rcases before k listed touched with inPresent | inFound
        · exact contains_iff_mem.mp (all_eq_true.mp all k inPresent)
        · exact inFound
      next => cases went
    | listed => cases went
  | delete n => exact sound.delete stepped
  | commit n => exact sound.commit local_ stepped
  | abort n =>
    cases stepped
    exact sound.dropWriter n
  | read n key =>
    unfold State.step at stepped
    dsimp only at stepped
    split at stepped
    next =>
      cases stepped
      exact sound.setReader n
        ⟨mem_singleton.mpr rfl, fun _ now => (nomatch now), fun _ now => (nomatch now)⟩
    next => cases stepped
  | get n => exact sound.get stepped
  | load n => exact sound.load stepped
  | put n => exact sound.put allowed stepped
  | expire key =>
    cases stepped
    exact sound.remove [key]

theorem fresh_of_guarded (local_ : source.Local) (sound : s.Sound source) {ls : List (Label K W)}
    (guarded : Runs.Guarded (State.step source) (State.Allowed source) s ls) :
    Runs.Always (State.step source) (State.Fresh source) s ls :=
  guarded.always (fun sound allowed stepped => State.Sound.step local_ sound allowed stepped)
    (fun sound => sound.fresh) sound

end Steps

end ReadThrough
