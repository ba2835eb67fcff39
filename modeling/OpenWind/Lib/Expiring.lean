import Mathlib.Data.Option.Basic
import Mathlib.Tactic.Common

/-!
# Slots that expire

A slot of a key-value store holds a value, for good or until a time.  An entry is alive up
to the time at which it expires, and that time included.

* `read`, `incr`, `expire`, `expireNx` and `ttl` are the commands on one slot, at a time of the
  clock.
-/

/-- A value, and the time up to which it is kept. -/
structure Entry (α : Type) where
  value : α
  expiresAt : Option Nat
deriving DecidableEq

abbrev Slot (α : Type) := Option (Entry α)

def Entry.alive {α : Type} (now : Nat) (entry : Entry α) : Bool :=
  entry.expiresAt.all fun time => decide (now ≤ time)

open Option

namespace Slot

variable {α : Type}

/-- The value that is read at the time. -/
def read (now : Nat) (slot : Slot α) : Option α :=
  (slot.filter (Entry.alive now)).map (·.value)

/-- The entry with its value kept for so long. -/
def keep (now ttl : Nat) (value : α) : Slot α := some ⟨value, some (now + ttl)⟩

def incr (now : Nat) (slot : Slot Nat) : Slot Nat :=
  match slot.filter (Entry.alive now) with
  | some entry => some ⟨entry.value + 1, entry.expiresAt⟩
  | none => some ⟨1, none⟩

/-- What counting answers. -/
def counted (now : Nat) (slot : Slot Nat) : Nat := (read now slot).getD 0 + 1

/-- Set the time at which the value expires. -/
def expire (now ttl : Nat) (slot : Slot α) : Slot α :=
  (slot.filter (Entry.alive now)).bind fun entry => keep now ttl entry.value

def expireNx (now ttl : Nat) (slot : Slot α) : Slot α :=
  match slot.filter (Entry.alive now) with
  | some ⟨value, none⟩ => some ⟨value, some (now + ttl)⟩
  | _ => slot

def ttl (now : Nat) (slot : Slot α) : Int :=
  match slot.filter (Entry.alive now) with
  | some ⟨_, some time⟩ => ((time - now + 500) / 1000 : Nat)
  | some ⟨_, none⟩ => -1
  | none => -2

theorem read_eq_some {now : Nat} {slot : Slot α} {value : α} :
    read now slot = some value ↔
      ∃ entry, slot = some entry ∧ entry.alive now ∧ entry.value = value := by
  unfold read
  constructor
  · intro found
    obtain ⟨entry, held, rfl⟩ := map_eq_some_iff.mp found
    obtain ⟨is, alive⟩ := filter_eq_some_iff.mp held
    exact ⟨entry, is, alive, rfl⟩
  · rintro ⟨entry, rfl, alive, rfl⟩
    rw [filter_some, if_pos alive]
    rfl

theorem incr_cases {now : Nat} {slot : Slot Nat} {entry : Entry Nat}
    (held : incr now slot = some entry) :
    read now slot = none ∧ entry = ⟨1, none⟩ ∨
      ∃ was, slot = some was ∧ read now slot = some was.value ∧
        entry = ⟨was.value + 1, was.expiresAt⟩ := by
  unfold incr at held
  unfold read
  cases found : slot.filter (Entry.alive now) with
  | none =>
    rw [found] at held
    cases held
    exact .inl ⟨rfl, rfl⟩
  | some was =>
    rw [found] at held
    cases held
    exact .inr ⟨was, (filter_eq_some_iff.mp found).1, rfl, rfl⟩

theorem expire_some {now ttl : Nat} {slot : Slot α} {entry : Entry α}
    (held : expire now ttl slot = some entry) :
    entry.expiresAt = some (now + ttl) ∧ ∃ was, slot = some was ∧ entry.value = was.value := by
  obtain ⟨was, found, held⟩ := bind_eq_some_iff.mp held
  cases held
  exact ⟨rfl, was, (filter_eq_some_iff.mp found).1, rfl⟩

theorem expire_eq {now ttl : Nat} {slot : Slot α} {value : α} (found : read now slot = some value) :
    expire now ttl slot = keep now ttl value := by
  obtain ⟨entry, rfl, alive, rfl⟩ := read_eq_some.mp found
  unfold expire
  rw [filter_some, if_pos alive]
  rfl

theorem alive_earlier {entry : Entry α} {now later : Nat} (le : now ≤ later)
    (alive : entry.alive later) : entry.alive now := by
  unfold Entry.alive at alive ⊢
  cases until' : entry.expiresAt with
  | none => rfl
  | some time =>
    rw [until', all_some, decide_eq_true_eq] at alive
    rw [all_some, decide_eq_true_eq]
    omega

theorem expireNx_cases (now ttl : Nat) (slot : Slot α) :
    expireNx now ttl slot = slot ∨
      ∃ value, slot = some ⟨value, none⟩ ∧ expireNx now ttl slot = keep now ttl value := by
  unfold expireNx
  split
  · next value held => exact .inr ⟨value, (filter_eq_some_iff.mp held).1, rfl⟩
  · exact .inl rfl

theorem read_later {now later : Nat} (le : now ≤ later) (slot : Slot α) :
    read later slot = none ∨ read later slot = read now slot := by
  cases found : read later slot with
  | none => exact .inl rfl
  | some value =>
    obtain ⟨entry, held, alive, same⟩ := read_eq_some.mp found
    exact .inr (read_eq_some.mpr ⟨entry, held, alive_earlier le alive, same⟩).symm

theorem read_incr (now : Nat) (slot : Slot Nat) :
    read now (incr now slot) = some (counted now slot) := by
  unfold counted read incr
  cases held : slot.filter (Entry.alive now) with
  | none => rfl
  | some entry =>
    have alive : Entry.alive now ⟨entry.value + 1, entry.expiresAt⟩ :=
      (filter_eq_some_iff.mp held).2
    rw [filter_some, if_pos alive]
    rfl

theorem read_expireNx (now ttl : Nat) (slot : Slot α) :
    read now (expireNx now ttl slot) = read now slot := by
  rcases expireNx_cases now ttl slot with same | ⟨value, was, is⟩
  · rw [same]
  · rw [is, was]
    have later : Entry.alive now ⟨value, some (now + ttl)⟩ :=
      decide_eq_true (Nat.le_add_right now ttl)
    exact read_eq_some.mpr ⟨_, rfl, later, rfl⟩

end Slot
