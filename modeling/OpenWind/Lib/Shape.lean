import Mathlib.Data.List.Basic

/-!
# Schemas of objects

An object is a list of keys with values.  A schema gives an entry for each of its
keys: whether the key may be missing, the error when it may not, and a parser of its
value.  Parsing keeps the keys of the schema and drops all others.

* `exists_parse_iff`: an object parses exactly when each entry accepts it.
-/

open List

namespace Shape

variable {K V E : Type}

/-- The schema of one key. -/
structure Entry (V E : Type) where
  optional : Bool
  missing : E
  parse : V → Except (List E) V

/-- Parsed values parse to themselves. -/
def Entry.Stable (entry : Entry V E) : Prop :=
  ∀ {v w}, entry.parse v = .ok w → entry.parse w = .ok w

def Entry.Accepts (entry : Entry V E) : Option V → Prop
  | none => entry.optional = true
  | some v => ∃ w, entry.parse v = .ok w

/-- The value that the entry makes of one. -/
def Entry.value (entry : Entry V E) (v : V) : Option V :=
  match entry.parse v with
  | .ok w => some w
  | .error _ => none

theorem Entry.value_eq_some {entry : Entry V E} {v w : V} :
    entry.value v = some w ↔ entry.parse v = .ok w := by
  unfold value
  cases entry.parse v with
  | ok a => simp
  | error errors => simp

section Parse

variable [BEq K] (under : K → E → E)

def parseKey (object : List (K × V)) (key : K) (entry : Entry V E) :
    Except (List E) (List (K × V)) :=
  match object.lookup key with
  | none => if entry.optional then .ok [] else .error [under key entry.missing]
  | some v =>
    match entry.parse v with
    | .ok w => .ok [(key, w)]
    | .error errors => .error (errors.map (under key))

/-- All keys of a schema; the errors of all of them are reported. -/
def parse (object : List (K × V)) : List (K × Entry V E) → Except (List E) (List (K × V))
  | [] => .ok []
  | (key, entry) :: rest =>
    match parseKey under object key entry, parse object rest with
    | .ok parsed, .ok others => .ok (parsed ++ others)
    | .ok _, .error errors => .error errors
    | .error errors, .ok _ => .error errors
    | .error errors, .error more => .error (errors ++ more)

variable {under} {object out : List (K × V)} {shape : List (K × Entry V E)}

theorem exists_parseKey_iff {key : K} {entry : Entry V E} :
    (∃ out, parseKey under object key entry = .ok out) ↔ entry.Accepts (object.lookup key) := by
  unfold parseKey Entry.Accepts
  cases object.lookup key with
  | none => cases entry.optional <;> simp
  | some v =>
    dsimp only
    cases entry.parse v <;> simp

variable {key : K} {entry : Entry V E}

theorem parse_cons_ok :
    parse under object ((key, entry) :: shape) = .ok out ↔
      ∃ parsed others, parseKey under object key entry = .ok parsed ∧
        parse under object shape = .ok others ∧ out = parsed ++ others := by
  rw [parse]
  cases parseKey under object key entry with
  | error errors => cases parse under object shape <;> simp
  | ok parsed =>
    cases parse under object shape with
    | error errors => simp
    | ok others => simp [eq_comm]

theorem exists_parse_iff :
    (∃ out, parse under object shape = .ok out) ↔ ∀ e ∈ shape, e.2.Accepts (object.lookup e.1) := by
  induction shape with
  | nil => simp [parse]
  | cons head rest ih =>
    rw [forall_mem_cons, ← ih, ← @exists_parseKey_iff _ _ _ _ under]
    constructor
    · rintro ⟨out, parsed⟩
      obtain ⟨first, others, here, later, -⟩ := parse_cons_ok.mp parsed
      exact ⟨⟨first, here⟩, others, later⟩
    · rintro ⟨⟨first, here⟩, others, later⟩
      exact ⟨_, parse_cons_ok.mpr ⟨first, others, here, later, rfl⟩⟩

/-- What a schema makes of the value of a key; nothing when it has no such key. -/
def value (shape : List (K × Entry V E)) (key : K) (v : V) : Option V :=
  (shape.lookup key).bind fun entry => entry.value v

theorem parse_of_agree {other : List (K × V)} (stable : ∀ e ∈ shape, e.2.Stable)
    (agree : ∀ e ∈ shape, other.lookup e.1 = (object.lookup e.1).bind e.2.value)
    (parsed : parse under object shape = .ok out) : parse under other shape = .ok out := by
  induction shape generalizing out with
  | nil => exact parsed
  | cons head rest ih =>
    rw [forall_mem_cons] at stable agree
    obtain ⟨first, others, here, later, rfl⟩ := parse_cons_ok.mp parsed
    refine parse_cons_ok.mpr ⟨first, others, ?_, ih stable.2 agree.2 later, rfl⟩
    have same := agree.1
    unfold parseKey at here ⊢
    cases stored : object.lookup head.1 with
    | none =>
      rw [stored] at here same
      rw [same]
      exact here
    | some v =>
      rw [stored] at here same
      dsimp only at here
      cases result : head.2.parse v with
      | error errors =>
        rw [result] at here
        cases here
      | ok w =>
        rw [result] at here
        change other.lookup head.1 = head.2.value v at same
        rw [same, Entry.value_eq_some.mpr result]
        dsimp only
        rw [stable.1 result]
        exact here

variable [LawfulBEq K]

theorem lookup_parseKey (parsed : parseKey under object key entry = .ok out) :
    out.lookup key = (object.lookup key).bind entry.value := by
  unfold parseKey at parsed
  cases stored : object.lookup key with
  | none =>
    rw [stored] at parsed
    by_cases optional : entry.optional = true
    · rw [if_pos optional] at parsed
      cases parsed
      rfl
    · rw [if_neg optional] at parsed
      cases parsed
  | some v =>
    rw [stored] at parsed
    change _ = entry.value v
    unfold Entry.value
    dsimp only at parsed
    cases result : entry.parse v with
    | error errors =>
      rw [result] at parsed
      cases parsed
    | ok w =>
      rw [result] at parsed
      cases parsed
      exact lookup_cons_self

theorem lookup_parseKey_ne {key other : K} (parsed : parseKey under object key entry = .ok out)
    (different : other ≠ key) : out.lookup other = none := by
  unfold parseKey at parsed
  split at parsed
  next =>
    split at parsed
    next =>
      cases parsed
      rfl
    next => cases parsed
  next =>
    split at parsed
    next w _ =>
      cases parsed
      rw [lookup_cons, beq_false_of_ne different]
      rfl
    next => cases parsed

theorem lookup_parse (parsed : parse under object shape = .ok out) (key : K) :
    out.lookup key = (object.lookup key).bind (value shape key) := by
  induction shape generalizing out with
  | nil =>
    cases parsed
    cases object.lookup key <;> rfl
  | cons head rest ih =>
    obtain ⟨first, others, here, later, rfl⟩ := parse_cons_ok.mp parsed
    rw [lookup_append, ih later]
    unfold value
    by_cases same : key = head.1
    · subst same
      rw [lookup_cons_self, lookup_parseKey here]
      cases stored : object.lookup head.1 with
      | none => rfl
      | some v =>
        obtain ⟨w, accepted⟩ : head.2.Accepts (some v) :=
          stored ▸ exists_parseKey_iff.mp ⟨first, here⟩
        change (head.2.value v).or _ = head.2.value v
        rw [Entry.value_eq_some.mpr accepted]
        rfl
    · rw [lookup_parseKey_ne here same, Option.none_or, lookup_cons, beq_false_of_ne same]

theorem lookup_of_mem {A : Type} {entries : List (K × A)} (distinct : (entries.map Prod.fst).Nodup)
    {e : K × A} (mem : e ∈ entries) : entries.lookup e.1 = some e.2 := by
  induction entries with
  | nil => exact absurd mem not_mem_nil
  | cons head rest ih =>
    rw [map_cons, nodup_cons] at distinct
    rcases mem_cons.mp mem with rfl | later
    · exact lookup_cons_self
    · have different : e.1 ≠ head.1 := by
        intro same
        exact distinct.1 (same ▸ mem_map_of_mem later)
      rw [lookup_cons, beq_false_of_ne different]
      exact ih distinct.2 later

theorem parse_again (stable : ∀ e ∈ shape, e.2.Stable) (distinct : (shape.map Prod.fst).Nodup)
    (parsed : parse under object shape = .ok out) : parse under out shape = .ok out := by
  refine parse_of_agree stable (fun e mem => ?_) parsed
  rw [lookup_parse parsed]
  unfold value
  rw [lookup_of_mem distinct mem]
  rfl

end Parse

end Shape
