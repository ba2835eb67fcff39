import Mathlib.Data.List.Basic

/-!
# JSON values

The `jsonb` columns hold JSON documents, and the engine compares their values
with the operators of JavaScript.
-/

open List Bool

namespace OpenWind

inductive Json : Type
  | null
  | bool (b : Bool)
  | num (n : Rat)
  | str (s : String)
  | arr (items : List Json)
  | obj (entries : List (String × Json))

namespace Json

mutual

/-- The two values have one text. -/
def same : Json → Json → Bool
  | null, null => true
  | bool a, bool b => a == b
  | num a, num b => a == b
  | str a, str b => a == b
  | arr a, arr b => sameItems a b
  | obj a, obj b => sameEntries a b
  | _, _ => false

def sameItems : List Json → List Json → Bool
  | [], [] => true
  | a :: as, b :: bs => same a b && sameItems as bs
  | _, _ => false

def sameEntries : List (String × Json) → List (String × Json) → Bool
  | [], [] => true
  | (key, a) :: as, (key', b) :: bs => key == key' && same a b && sameEntries as bs
  | _, _ => false

end

mutual

theorem same_iff : ∀ {a b : Json}, same a b = true ↔ a = b
  | null, b => by cases b <;> simp [same]
  | bool a, b => by cases b <;> simp [same]
  | num a, b => by cases b <;> simp [same]
  | str a, b => by cases b <;> simp [same]
  | arr a, b => by
    cases b with
    | arr items => rw [same, sameItems_iff, arr.injEq]
    | _ => simp [same]
  | obj a, b => by
    cases b with
    | obj entries => rw [same, sameEntries_iff, obj.injEq]
    | _ => simp [same]

theorem sameItems_iff : ∀ {a b : List Json}, sameItems a b = true ↔ a = b
  | [], b => by cases b <;> simp [sameItems]
  | a :: as, b => by
    cases b with
    | nil => simp [sameItems]
    | cons b bs => rw [sameItems, and_eq_true, same_iff, sameItems_iff, List.cons.injEq]

theorem sameEntries_iff : ∀ {a b : List (String × Json)}, sameEntries a b = true ↔ a = b
  | [], b => by cases b <;> simp [sameEntries]
  | (key, a) :: as, b => by
    cases b with
    | nil => simp [sameEntries]
    | cons b bs =>
      rw [sameEntries, and_eq_true, and_eq_true, same_iff, sameEntries_iff, beq_iff_eq,
        List.cons.injEq, Prod.mk.injEq]

end

instance : DecidableEq Json := fun _ _ => decidable_of_iff _ same_iff

/-- `a === b`, for values read from different documents. -/
def strictEq : Json → Json → Bool
  | null, null => true
  | bool a, bool b => a == b
  | num a, num b => a == b
  | str a, str b => a == b
  | _, _ => false

theorem strictEq_str {value : Json} {s : String} : value.strictEq (.str s) ↔ value = .str s := by
  cases value with
  | str t => rw [strictEq, beq_iff_eq, Json.str.injEq]
  | _ => exact ⟨nofun, nofun⟩

theorem any_filter_str {items : List Json} {own s : String} :
    (items.filter fun item => !item.strictEq (.str own)).any (·.strictEq (.str s)) =
      (items.any (·.strictEq (.str s)) && s != own) := by
  rw [Bool.eq_iff_iff, any_filter]
  simp only [any_eq_true, and_eq_true, not_eq_true', bne_iff_ne, strictEq_str]
  constructor
  · rintro ⟨m, mem, other, rfl⟩
    refine ⟨⟨_, mem, rfl⟩, fun same => ?_⟩
    rw [same, strictEq_str.mpr rfl] at other
    cases other
  · rintro ⟨⟨m, mem, rfl⟩, other⟩
    refine ⟨_, mem, ?_, rfl⟩
    rw [← not_eq_true, strictEq_str, Json.str.injEq]
    exact other

/-- `value === null || value === undefined || value === ""`. -/
def blank : Option Json → Bool
  | none => true
  | some null => true
  | some (str s) => s == ""
  | some _ => false

end Json

/-- A JSON object, by key. -/
abbrev Fields := List (String × Json)

def Fields.get (fields : Fields) (name : String) : Option Json :=
  List.lookup name fields

def Fields.set : Fields → String → Json → Fields
  | [], name, value => [(name, value)]
  | (key, old) :: rest, name, value =>
    if key == name then (key, value) :: rest else (key, old) :: Fields.set rest name value

theorem Fields.set_ne_nil (fields : Fields) (name : String) (value : Json) :
    fields.set name value ≠ [] := by
  cases fields with
  | nil => exact cons_ne_nil _ _
  | cons entry rest =>
    rw [Fields.set]
    by_cases same : (entry.1 == name) = true
    · rw [if_pos same]
      exact cons_ne_nil _ _
    · rw [if_neg same]
      exact cons_ne_nil _ _

theorem Fields.get_cons (entry : String × Json) (rest : Fields) (name : String) :
    Fields.get (entry :: rest) name = if name == entry.1 then some entry.2 else rest.get name := by
  unfold Fields.get
  rw [lookup_cons]
  cases name == entry.1 <;> rfl

theorem Fields.get_set_self (fields : Fields) (name : String) (value : Json) :
    (fields.set name value).get name = some value := by
  induction fields with
  | nil => rw [Fields.set, Fields.get_cons, if_pos (beq_self_eq_true name)]
  | cons entry rest ih =>
    rw [Fields.set]
    by_cases same : entry.1 = name
    · rw [if_pos (beq_iff_eq.mpr same), Fields.get_cons, if_pos (beq_iff_eq.mpr same.symm)]
    · rw [if_neg (mt eq_of_beq same), Fields.get_cons, if_neg (mt eq_of_beq (Ne.symm same)), ih]

theorem Fields.get_set_ne (fields : Fields) (value : Json) {name other : String}
    (different : other ≠ name) : (fields.set name value).get other = fields.get other := by
  induction fields with
  | nil => rw [Fields.set, Fields.get_cons, if_neg (mt eq_of_beq different)]
  | cons entry rest ih =>
    rw [Fields.set]
    by_cases same : entry.1 = name
    · have skipped : (other == entry.1) = false := by
        rw [same]
        exact beq_eq_false_iff_ne.mpr different
      rw [if_pos (beq_iff_eq.mpr same), Fields.get_cons, Fields.get_cons]
      dsimp only
      rw [skipped]
      rfl
    · rw [if_neg (mt eq_of_beq same), Fields.get_cons, Fields.get_cons, ih]

def Fields.erase (fields : Fields) (name : String) : Fields :=
  fields.filter fun entry => entry.1 != name

theorem Fields.get_erase_self (fields : Fields) (name : String) :
    (fields.erase name).get name = none := by
  unfold erase
  induction fields with
  | nil => rfl
  | cons entry rest ih =>
    rw [filter_cons]
    by_cases removed : entry.1 = name
    · rw [if_neg (by rw [removed, bne_self_eq_false]; exact Bool.false_ne_true), ih]
    · rw [if_pos (bne_iff_ne.mpr removed), Fields.get_cons,
        if_neg (mt eq_of_beq (Ne.symm removed)), ih]

theorem Fields.get_erase_ne (fields : Fields) {name other : String} (different : other ≠ name) :
    (fields.erase name).get other = fields.get other := by
  unfold erase
  induction fields with
  | nil => rfl
  | cons entry rest ih =>
    rw [filter_cons, Fields.get_cons]
    by_cases removed : entry.1 = name
    · have skipped : ¬ (other == entry.1) := by
        rw [removed]
        exact mt eq_of_beq different
      rw [if_neg skipped, if_neg (by rw [removed, bne_self_eq_false]; exact Bool.false_ne_true), ih]
    · rw [if_pos (bne_iff_ne.mpr removed), Fields.get_cons, ih]

def includesText (haystack needle : String) : Bool :=
  haystack.toList.tails.any fun rest => needle.toList.isPrefixOf rest

def startsWith (s lead : String) : Bool :=
  lead.toList.isPrefixOf s.toList

/-- The characters `String.prototype.trim` removes. -/
def isSpace (c : Char) : Bool :=
  c.toNat ∈ [0x9, 0xa, 0xb, 0xc, 0xd, 0x20, 0xa0, 0x1680, 0x2028, 0x2029, 0x202f, 0x205f, 0x3000,
    0xfeff] || (0x2000 ≤ c.toNat && c.toNat ≤ 0x200a)

/-- `s.trim()`. -/
def trim (s : String) : String :=
  String.ofList ((s.toList.dropWhile isSpace).reverse.dropWhile isSpace).reverse

def splitText (separator : Char) (s : String) : List String :=
  (s.toList.splitOn separator).map String.ofList

/-- `s.length`: the number of UTF-16 code units. -/
def textLength (s : String) : Nat :=
  s.toList.foldl (fun n c => n + if c.toNat < 0x10000 then 1 else 2) 0

end OpenWind
