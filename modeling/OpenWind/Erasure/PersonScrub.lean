import OpenWind.Json
import Mathlib.Data.List.Perm.Subperm
import Mathlib.Data.List.Nodup

/-!
# The scrubbing of person identifiers

When a tenant is purged, the identifiers of persons are replaced in the documents of its audit
log: every text, and every key of an object, that is a known id or e-mail.
-/

open List Prod

namespace OpenWind

def PERSON_PLACEHOLDER : String := "[REDACTED]"

/-- The e-mails are kept in lower case. -/
structure PersonIdentifiers (toLowerCase : String → String) where
  ids : List String
  emails : List String
  lowered : ∀ email ∈ emails, toLowerCase email = email

namespace PersonScrub

def MAX_DEPTH : Nat := 64

variable {toLowerCase : String → String}

def isKnown (known : PersonIdentifiers toLowerCase) (value : String) : Bool :=
  known.ids.contains value || known.emails.contains (toLowerCase value)

/-- The names that are tried for a key, one after another. -/
def placeholderName : Nat → String
  | 0 => PERSON_PLACEHOLDER
  | n + 1 => PERSON_PLACEHOLDER ++ "#" ++ toString (n + 2)

def nextKey (taken : List String) : String :=
  (((range (taken.length + 1)).map placeholderName).find? fun name =>
    !taken.contains name).getD PERSON_PLACEHOLDER

/-- `Object.fromEntries` -/
def fromEntries (entries : Fields) : Fields :=
  entries.foldl (fun out entry => out.set entry.1 entry.2) []

mutual

def scrubPersonIdentifiers (known : PersonIdentifiers toLowerCase) (depth : Nat) :
    Json → Json × Bool
  | .str value =>
    if isKnown known value then (.str PERSON_PLACEHOLDER, true) else (.str value, false)
  | .arr items =>
    if MAX_DEPTH ≤ depth then (.str PERSON_PLACEHOLDER, true)
    else
      let out := scrubItems known (depth + 1) items
      (.arr (if out.2 then out.1 else items), out.2)
  | .obj entries =>
    if MAX_DEPTH ≤ depth then (.str PERSON_PLACEHOLDER, true)
    else
      let out := scrubEntries known (depth + 1) (entries.map fst) entries
      (.obj (if out.2 then fromEntries out.1 else entries), out.2)
  | value => (value, false)

def scrubItems (known : PersonIdentifiers toLowerCase) (depth : Nat) :
    List Json → List Json × Bool
  | [] => ([], false)
  | item :: rest =>
    let r := scrubPersonIdentifiers known depth item
    let out := scrubItems known depth rest
    (r.1 :: out.1, r.2 || out.2)

def scrubEntries (known : PersonIdentifiers toLowerCase) (depth : Nat) (taken : List String) :
    List (String × Json) → List (String × Json) × Bool
  | [] => ([], false)
  | (key, item) :: rest =>
    let r := scrubPersonIdentifiers known depth item
    if isKnown known key then
      let out := scrubEntries known depth (nextKey taken :: taken) rest
      ((nextKey taken, r.1) :: out.1, true)
    else
      let out := scrubEntries known depth taken rest
      ((key, r.1) :: out.1, r.2 || out.2)

end

/-! ## What a scrubbed document is -/

mutual

/-- How many arrays and objects are within one another. -/
def height : Json → Nat
  | .arr items => heightItems items + 1
  | .obj entries => heightEntries entries + 1
  | _ => 0

def heightItems : List Json → Nat
  | [] => 0
  | item :: rest => max (height item) (heightItems rest)

def heightEntries : List (String × Json) → Nat
  | [] => 0
  | (_, item) :: rest => max (height item) (heightEntries rest)

end

mutual

def KeysDistinct : Json → Prop
  | .arr items => KeysDistinctItems items
  | .obj entries => (entries.map fst).Nodup ∧ KeysDistinctEntries entries
  | _ => True

def KeysDistinctItems : List Json → Prop
  | [] => True
  | item :: rest => KeysDistinct item ∧ KeysDistinctItems rest

def KeysDistinctEntries : List (String × Json) → Prop
  | [] => True
  | (_, item) :: rest => KeysDistinct item ∧ KeysDistinctEntries rest

end

mutual

def Clear (known : PersonIdentifiers toLowerCase) : Json → Prop
  | .str value => isKnown known value = false
  | .arr items => ClearItems known items
  | .obj entries => ClearEntries known entries
  | _ => True

def ClearItems (known : PersonIdentifiers toLowerCase) : List Json → Prop
  | [] => True
  | item :: rest => Clear known item ∧ ClearItems known rest

def ClearEntries (known : PersonIdentifiers toLowerCase) : List (String × Json) → Prop
  | [] => True
  | (key, item) :: rest => isKnown known key = false ∧ Clear known item ∧ ClearEntries known rest

end

def ScrubbedKey (known : PersonIdentifiers toLowerCase) (key out : String) : Prop :=
  if isKnown known key then ∃ n, out = placeholderName n else out = key

mutual

inductive Scrubbed (known : PersonIdentifiers toLowerCase) : Json → Json → Prop
  | null : Scrubbed known .null .null
  | bool (b : Bool) : Scrubbed known (.bool b) (.bool b)
  | num (n : Rat) : Scrubbed known (.num n) (.num n)
  | str (value : String) :
    Scrubbed known (.str value) (.str (if isKnown known value then PERSON_PLACEHOLDER else value))
  | arr {items out : List Json} :
    ScrubbedItems known items out → Scrubbed known (.arr items) (.arr out)
  | obj {entries out : List (String × Json)} : (out.map fst).Nodup →
    ScrubbedEntries known entries out → Scrubbed known (.obj entries) (.obj out)

inductive ScrubbedItems (known : PersonIdentifiers toLowerCase) : List Json → List Json → Prop
  | nil : ScrubbedItems known [] []
  | cons {item r : Json} {rest out : List Json} : Scrubbed known item r →
    ScrubbedItems known rest out → ScrubbedItems known (item :: rest) (r :: out)

inductive ScrubbedEntries (known : PersonIdentifiers toLowerCase) :
    List (String × Json) → List (String × Json) → Prop
  | nil : ScrubbedEntries known [] []
  | cons {key name : String} {item r : Json} {rest out : List (String × Json)} :
    ScrubbedKey known key name → Scrubbed known item r → ScrubbedEntries known rest out →
    ScrubbedEntries known ((key, item) :: rest) ((name, r) :: out)

end

def Unplaced (known : PersonIdentifiers toLowerCase) : Prop :=
  ∀ identifier ∈ known.ids ++ known.emails,
    startsWith (toLowerCase identifier) (toLowerCase PERSON_PLACEHOLDER) = false

/-! ## Names for keys -/

theorem placeholderName_injective : placeholderName.Injective := by
  have digits : ∀ {m n : Nat}, toString m = toString n → m = n := by
    intro m n same
    have lists : Nat.toDigits 10 m = Nat.toDigits 10 n := by
      rw [← Nat.toList_repr, ← Nat.toList_repr]
      exact congrArg String.toList same
    rw [← @Nat.ofDigitChars_ten_toDigits m, lists, Nat.ofDigitChars_ten_toDigits]
  have longer : ∀ n, placeholderName 0 ≠ placeholderName (n + 1) := by
    intro n same
    have lengths := congrArg String.length same
    have mark : "#".length = 1 := rfl
    simp only [placeholderName, String.length_append] at lengths
    omega
  intro m n same
  cases m with
  | zero =>
    cases n with
    | zero => rfl
    | succ n => exact absurd same (longer n)
  | succ m =>
    cases n with
    | zero => exact absurd same.symm (longer m)
    | succ n =>
      have tails : toString (m + 2) = toString (n + 2) := by
        have texts := congrArg String.toList same
        simp only [placeholderName, String.toList_append] at texts
        exact String.toList_inj.mp (append_cancel_left texts)
      have := digits tails
      omega

theorem nextKey_spec (taken : List String) :
    nextKey taken ∉ taken ∧ ∃ n, nextKey taken = placeholderName n := by
  have found : ∃ name ∈ (range (taken.length + 1)).map placeholderName, name ∉ taken := by
    by_contra! all
    have inside := (subperm_of_subset (nodup_range.map placeholderName_injective) all).length_le
    rw [length_map, length_range] at inside
    omega
  obtain ⟨name, listed, free⟩ := found
  obtain ⟨first, is⟩ := Option.isSome_iff_exists.mp
    (find?_isSome.mpr ⟨name, listed, by simpa using free⟩ :
      (((range (taken.length + 1)).map placeholderName).find? fun name =>
        !taken.contains name).isSome = true)
  have chosen : nextKey taken = first := by rw [nextKey, is, Option.getD_some]
  obtain ⟨n, -, named⟩ := mem_map.mp (mem_of_find?_eq_some is)
  rw [chosen]
  exact ⟨by simpa using find?_some is, n, named.symm⟩

variable {known : PersonIdentifiers toLowerCase}

theorem isKnown_placeholderName (unplaced : Unplaced known)
    (leads : ∀ s, startsWith (toLowerCase (PERSON_PLACEHOLDER ++ s))
      (toLowerCase PERSON_PLACEHOLDER)) (n : Nat) :
    isKnown known (placeholderName n) = false := by
  obtain ⟨s, named⟩ : ∃ s, placeholderName n = PERSON_PLACEHOLDER ++ s := by
    cases n with
    | zero => exact ⟨"", String.append_empty.symm⟩
    | succ n => exact ⟨"#" ++ toString (n + 2), String.append_assoc⟩
  refine Bool.not_eq_true _ ▸ fun held => ?_
  rw [named, isKnown, Bool.or_eq_true, contains_iff_mem, contains_iff_mem] at held
  have clash : startsWith (toLowerCase (PERSON_PLACEHOLDER ++ s))
      (toLowerCase PERSON_PLACEHOLDER) = false := by
    rcases held with id | email
    · exact unplaced _ (mem_append_left _ id)
    · have held := unplaced _ (mem_append_right _ email)
      rwa [known.lowered _ email] at held
  rw [leads s] at clash
  cases clash

theorem ScrubbedKey.clear (names : ∀ n, isKnown known (placeholderName n) = false)
    {key out : String} (scrubbed : ScrubbedKey known key out) : isKnown known out = false := by
  unfold ScrubbedKey at scrubbed
  split at scrubbed
  · obtain ⟨n, rfl⟩ := scrubbed
    exact names n
  · subst scrubbed
    exact Bool.not_eq_true _ ▸ ‹_›

mutual

theorem Scrubbed.clear (names : ∀ n, isKnown known (placeholderName n) = false) :
    ∀ {value out : Json}, Scrubbed known value out → Clear known out
  | _, _, .null => trivial
  | _, _, .bool _ => trivial
  | _, _, .num _ => trivial
  | _, _, .str value => by
    rw [Clear]
    split
    · exact names 0
    · exact Bool.not_eq_true _ ▸ ‹_›
  | _, _, .arr items => items.clear names
  | _, _, .obj _ entries => entries.clear names

theorem ScrubbedItems.clear (names : ∀ n, isKnown known (placeholderName n) = false) :
    ∀ {items out : List Json}, ScrubbedItems known items out →
    ClearItems known out
  | _, _, .nil => trivial
  | _, _, .cons item rest => ⟨item.clear names, rest.clear names⟩

theorem ScrubbedEntries.clear (names : ∀ n, isKnown known (placeholderName n) = false) :
    ∀ {entries out : List (String × Json)},
    ScrubbedEntries known entries out → ClearEntries known out
  | _, _, .nil => trivial
  | _, _, .cons key item rest => ⟨key.clear names, item.clear names, rest.clear names⟩

end

mutual

theorem Scrubbed.height_eq : ∀ {value out : Json}, Scrubbed known value out →
    height out = height value
  | _, _, .null => rfl
  | _, _, .bool _ => rfl
  | _, _, .num _ => rfl
  | _, _, .str _ => rfl
  | _, _, .arr items => congrArg (· + 1) items.height_eq
  | _, _, .obj _ entries => congrArg (· + 1) entries.height_eq

theorem ScrubbedItems.height_eq : ∀ {items out : List Json}, ScrubbedItems known items out →
    heightItems out = heightItems items
  | _, _, .nil => rfl
  | _, _, .cons item rest => congrArg₂ max item.height_eq rest.height_eq

theorem ScrubbedEntries.height_eq : ∀ {entries out : List (String × Json)},
    ScrubbedEntries known entries out → heightEntries out = heightEntries entries
  | _, _, .nil => rfl
  | _, _, .cons _ item rest => congrArg₂ max item.height_eq rest.height_eq

end

mutual

theorem scrub_of_clear (depth : Nat) : ∀ {value : Json}, depth + height value ≤ MAX_DEPTH →
    Clear known value → scrubPersonIdentifiers known depth value = (value, false)
  | .null, _, _ => rfl
  | .bool _, _, _ => rfl
  | .num _, _, _ => rfl
  | .str value, _, clear => by
    rw [Clear] at clear
    rw [scrubPersonIdentifiers, clear, if_neg Bool.false_ne_true]
  | .arr items, bound, clear => by
    rw [height] at bound
    rw [scrubPersonIdentifiers, if_neg (by omega), scrubItems_of_clear _ (by omega) clear]
    rfl
  | .obj entries, bound, clear => by
    rw [height] at bound
    rw [scrubPersonIdentifiers, if_neg (by omega), scrubEntries_of_clear _ (by omega) clear]
    rfl

theorem scrubItems_of_clear (depth : Nat) : ∀ {items : List Json},
    depth + heightItems items ≤ MAX_DEPTH → ClearItems known items →
      scrubItems known depth items = (items, false)
  | [], _, _ => rfl
  | item :: rest, bound, clear => by
    rw [heightItems] at bound
    rw [scrubItems, scrub_of_clear depth (by omega) clear.1,
      scrubItems_of_clear depth (by omega) clear.2]
    rfl

theorem scrubEntries_of_clear (depth : Nat) {taken : List String} :
    ∀ {entries : List (String × Json)}, depth + heightEntries entries ≤ MAX_DEPTH →
      ClearEntries known entries → scrubEntries known depth taken entries = (entries, false)
  | [], _, _ => rfl
  | (key, item) :: rest, bound, clear => by
    rw [heightEntries] at bound
    rw [ClearEntries] at clear
    rw [scrubEntries, clear.1, if_neg Bool.false_ne_true, scrub_of_clear depth (by omega) clear.2.1,
      scrubEntries_of_clear depth (by omega) clear.2.2]
    rfl

end

/-! ## What the scrubbing makes -/

theorem fields_set_new {fields : Fields} {name : String} (value : Json)
    (fresh : name ∉ fields.map fst) : fields.set name value = fields ++ [(name, value)] := by
  induction fields with
  | nil => rfl
  | cons entry rest ih =>
    rw [map_cons, mem_cons, not_or] at fresh
    rw [Fields.set, if_neg (mt beq_iff_eq.mp (Ne.symm fresh.1)), ih fresh.2]
    rfl

theorem fromEntries_eq {entries : Fields} (distinct : (entries.map fst).Nodup) :
    fromEntries entries = entries := by
  have folded : ∀ (rest out : Fields), ((out ++ rest).map fst).Nodup →
      rest.foldl (fun out entry => out.set entry.1 entry.2) out = out ++ rest := by
    intro rest
    induction rest with
    | nil => exact fun out _ => (append_nil out).symm
    | cons entry rest ih =>
      intro out distinct
      have fresh : entry.1 ∉ out.map fst := by
        rw [map_append, map_cons] at distinct
        exact fun mem => (List.nodup_append.mp distinct).2.2 _ mem _ mem_cons_self rfl
      rw [append_cons] at distinct
      rw [foldl_cons, fields_set_new entry.2 fresh, ih _ distinct, ← append_cons]
  exact folded entries [] distinct

theorem unchanged {depth : Nat} {value : Json}
    (same : (scrubPersonIdentifiers known depth value).2 = false) :
    (scrubPersonIdentifiers known depth value).1 = value := by
  cases value with
  | null => rfl
  | bool _ => rfl
  | num _ => rfl
  | str value =>
    rw [scrubPersonIdentifiers] at same ⊢
    split at same
    · cases same
    · rw [if_neg ‹_›]
  | arr items =>
    rw [scrubPersonIdentifiers] at same ⊢
    split at same
    · cases same
    · rw [if_neg ‹_›]
      exact congrArg Json.arr (if_neg (Bool.eq_false_iff.mp same))
  | obj entries =>
    rw [scrubPersonIdentifiers] at same ⊢
    split at same
    · cases same
    · rw [if_neg ‹_›]
      exact congrArg Json.obj (if_neg (Bool.eq_false_iff.mp same))

mutual

theorem scrub_scrubbed (depth : Nat) : ∀ {value : Json}, depth + height value ≤ MAX_DEPTH →
    KeysDistinct value → Scrubbed known value (scrubPersonIdentifiers known depth value).1
  | .null, _, _ => .null
  | .bool b, _, _ => .bool b
  | .num n, _, _ => .num n
  | .str value, _, _ => by
    have scrubbed : Scrubbed known (.str value) _ := .str value
    rw [scrubPersonIdentifiers]
    split
    · rwa [if_pos ‹_›] at scrubbed
    · rwa [if_neg ‹_›] at scrubbed
  | .arr items, bound, distinct => by
    rw [height] at bound
    obtain ⟨scrubbed, same⟩ := scrubItems_scrubbed (depth + 1) (by omega) distinct
    rw [scrubPersonIdentifiers, if_neg (by omega)]
    dsimp only
    split
    · exact .arr scrubbed
    · rw [same (Bool.not_eq_true _ ▸ ‹_›)] at scrubbed
      exact .arr scrubbed
  | .obj entries, bound, distinct => by
    rw [height] at bound
    obtain ⟨scrubbed, same, different, -⟩ := scrubEntries_scrubbed (depth + 1)
      (Subset.refl (entries.map fst)) (by omega) distinct.1 distinct.2
    rw [scrubPersonIdentifiers, if_neg (by omega)]
    dsimp only
    split
    · rw [fromEntries_eq different]
      exact .obj different scrubbed
    · rw [same (Bool.not_eq_true _ ▸ ‹_›)] at scrubbed different
      exact .obj different scrubbed

theorem scrubItems_scrubbed (depth : Nat) : ∀ {items : List Json},
    depth + heightItems items ≤ MAX_DEPTH → KeysDistinctItems items →
      ScrubbedItems known items (scrubItems known depth items).1 ∧
        ((scrubItems known depth items).2 = false → (scrubItems known depth items).1 = items)
  | [], _, _ => ⟨.nil, fun _ => rfl⟩
  | item :: rest, bound, distinct => by
    rw [heightItems] at bound
    obtain ⟨scrubbed, same⟩ := scrubItems_scrubbed depth (by omega) distinct.2
    refine ⟨.cons (scrub_scrubbed depth (by omega) distinct.1) scrubbed, fun quiet => ?_⟩
    obtain ⟨first, later⟩ := Bool.or_eq_false_iff.mp quiet
    exact congrArg₂ List.cons (unchanged first) (same later)

theorem scrubEntries_scrubbed (depth : Nat) : ∀ {taken : List String}
    {entries : List (String × Json)}, entries.map fst ⊆ taken →
      depth + heightEntries entries ≤ MAX_DEPTH → (entries.map fst).Nodup →
      KeysDistinctEntries entries →
      ScrubbedEntries known entries (scrubEntries known depth taken entries).1 ∧
        ((scrubEntries known depth taken entries).2 = false →
          (scrubEntries known depth taken entries).1 = entries) ∧
        ((scrubEntries known depth taken entries).1.map fst).Nodup ∧
        ∀ key ∈ (scrubEntries known depth taken entries).1.map fst,
          key ∈ entries.map fst ∨ key ∉ taken
  | _, [], _, _, _, _ => ⟨.nil, fun _ => rfl, nodup_nil, fun _ mem => absurd mem not_mem_nil⟩
  | taken, (key, item) :: rest, inside, bound, distinct, nested => by
    rw [heightEntries] at bound
    rw [map_cons, nodup_cons] at distinct
    rw [map_cons, cons_subset] at inside
    obtain ⟨free, n, named⟩ := nextKey_spec taken
    have value : Scrubbed known item (scrubPersonIdentifiers known depth item).1 :=
      scrub_scrubbed depth (by omega) nested.1
    rw [scrubEntries]
    by_cases held : isKnown known key = true
    · obtain ⟨scrubbed, -, different, origin⟩ := scrubEntries_scrubbed depth
        (subset_cons_of_subset (nextKey taken) inside.2) (by omega) distinct.2 nested.2
      rw [if_pos held]
      dsimp only
      have renamed : ScrubbedKey known key (nextKey taken) := by
        rw [ScrubbedKey, if_pos held]
        exact ⟨n, named⟩
      refine ⟨.cons renamed value scrubbed, nofun, ?_, ?_⟩
      · refine nodup_cons.mpr ⟨fun mem => ?_, different⟩
        rcases origin _ mem with old | new
        · exact free (inside.2 old)
        · exact new mem_cons_self
      · intro k mem
        rcases mem_cons.mp mem with rfl | mem
        · exact Or.inr free
        · rcases origin k mem with old | new
          · exact Or.inl (mem_cons_of_mem _ old)
          · exact Or.inr fun taken' => new (mem_cons_of_mem _ taken')
    · obtain ⟨scrubbed, same, different, origin⟩ := scrubEntries_scrubbed depth
        inside.2 (by omega) distinct.2 nested.2
      rw [if_neg held]
      dsimp only
      have kept : ScrubbedKey known key key := by rw [ScrubbedKey, if_neg held]
      refine ⟨.cons kept value scrubbed, fun quiet => ?_, ?_, ?_⟩
      · obtain ⟨first, later⟩ := Bool.or_eq_false_iff.mp quiet
        rw [unchanged first, same later]
      · refine nodup_cons.mpr ⟨fun mem => ?_, different⟩
        rcases origin _ mem with old | new
        · exact distinct.1 old
        · exact new inside.1
      · intro k mem
        rcases mem_cons.mp mem with rfl | mem
        · exact Or.inl mem_cons_self
        · exact (origin k mem).imp_left (mem_cons_of_mem _)

end

/-- A document of at most 64 levels is scrubbed of every identifier and of nothing else, the flag
tells whether it changed, and scrubbing it again changes nothing. -/
theorem scrub_spec {toLowerCase : String → String} (known : PersonIdentifiers toLowerCase)
    (leads : ∀ s, startsWith (toLowerCase (PERSON_PLACEHOLDER ++ s))
      (toLowerCase PERSON_PLACEHOLDER) = true)
    (unplaced : Unplaced known) (value : Json) (shallow : height value ≤ MAX_DEPTH)
    (distinct : KeysDistinct value) :
    let out := scrubPersonIdentifiers known 0 value
    Clear known out.1 ∧ Scrubbed known value out.1 ∧ (out.2 = true ↔ out.1 ≠ value) ∧
      scrubPersonIdentifiers known 0 out.1 = (out.1, false) := by
  have bound : 0 + height value ≤ MAX_DEPTH := by omega
  have scrubbed : Scrubbed known value (scrubPersonIdentifiers known 0 value).1 :=
    scrub_scrubbed 0 bound distinct
  have clear := scrubbed.clear (isKnown_placeholderName unplaced leads)
  refine ⟨clear, scrubbed, ⟨fun changed same => ?_, fun differs => ?_⟩,
    scrub_of_clear 0 (by rw [scrubbed.height_eq]; exact bound) clear⟩
  · have quiet : scrubPersonIdentifiers known 0 value = (value, false) :=
      scrub_of_clear 0 bound (same ▸ clear)
    rw [quiet] at changed
    cases changed
  · by_contra quiet
    exact differs (unchanged (Bool.not_eq_true _ ▸ quiet))

/-- `toLower`, as the kernel evaluates it. -/
def lower (s : String) : String := .ofList (s.toList.map Char.toLower)

theorem lower_eq_toLower : lower = String.toLower := by
  funext s
  have mapped : (String.toLower s).toList = s.toList.map Char.toLower := String.toList_map ..
  apply String.toList_injective
  rw [mapped, lower, String.toList_ofList]

theorem lower_leads (lead s : String) : startsWith (lower (lead ++ s)) (lower lead) = true := by
  unfold startsWith lower
  rw [String.toList_ofList, String.toList_ofList, String.toList_append, map_append]
  exact isPrefixOf_iff_prefix.mpr (prefix_append _ _)

/-- Two known keys, one of them an e-mail in capitals, beside one that is named like the
placeholder. -/
theorem scrub_spec_keys :
    ∃ known : PersonIdentifiers String.toLower, known.ids = ["u-alice"] ∧
      known.emails = ["bob@mail"] ∧
      let value : Json :=
        .obj [("u-alice", .num 1), ("[REDACTED]", .str "u-alice"), ("BOB@mail", .null)]
      (scrubPersonIdentifiers known 0 value).2 = true ∧
        Clear known (scrubPersonIdentifiers known 0 value).1 := by
  rw [← lower_eq_toLower]
  refine ⟨⟨["u-alice"], ["bob@mail"], by decide⟩, rfl, rfl, by decide +kernel, ?_⟩
  exact (scrub_spec ⟨["u-alice"], ["bob@mail"], by decide⟩ (lower_leads PERSON_PLACEHOLDER)
    (by unfold Unplaced; decide)
    (.obj [("u-alice", .num 1), ("[REDACTED]", .str "u-alice"), ("BOB@mail", .null)]) (by decide)
    ⟨by decide, trivial, trivial, trivial, trivial⟩).1

end PersonScrub

end OpenWind
