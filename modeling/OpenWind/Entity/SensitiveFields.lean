import OpenWind.Entity.Validation
import OpenWind.Lib.Veil

/-!
# Sensitive fields

Objects of field values that differ under some of their keys, and what the engine makes of them:
redaction, the list of changes, and the steps that make the fields of a record.
-/

open List

namespace OpenWind

open Veil

/-! ## Sensitive fields -/

def EntityField.isSensitive (field : EntityField) : Bool :=
  field.sensitivity == .pii || field.sensitivity == .financial

def sensitiveNames (fields : List EntityField) : List String :=
  (fields.filter EntityField.isSensitive).map (·.name)

/-- A name is redacted exactly when it is one of them. -/
theorem buildSensitivityMap_lookup (fields : List EntityField) (name : String) :
    (name ∈ sensitiveNames fields ∧
        ((buildSensitivityMap fields).lookup name = some .pii ∨
          (buildSensitivityMap fields).lookup name = some .financial)) ∨
      name ∉ sensitiveNames fields ∧ (buildSensitivityMap fields).lookup name = none := by
  have entries : ∀ s, (name, s) ∈ buildSensitivityMap fields ↔
      ∃ f ∈ fields, f.isSensitive ∧ f.name = name ∧ f.sensitivity = s := by
    intro s
    unfold buildSensitivityMap EntityField.isSensitive
    simp only [mem_reverse, mem_map, mem_filter, Prod.mk.injEq, and_assoc]
  have names : name ∈ sensitiveNames fields ↔ ∃ f ∈ fields, f.isSensitive ∧ f.name = name := by
    unfold sensitiveNames
    simp only [mem_map, mem_filter, and_assoc]
  cases found : (buildSensitivityMap fields).lookup name with
  | none =>
    refine .inr ⟨fun listed => ?_, rfl⟩
    obtain ⟨f, mem, sensitive, named⟩ := names.mp listed
    have other := lookup_eq_none_iff.mp found _
      ((entries f.sensitivity).mpr ⟨f, mem, sensitive, named, rfl⟩)
    rw [bne_self_eq_false] at other
    cases other
  | some s =>
    have mem : (name, s) ∈ buildSensitivityMap fields := by
      obtain ⟨before, after, split, -⟩ := lookup_eq_some_iff.mp found
      rw [split]
      exact mem_append_right _ mem_cons_self
    obtain ⟨f, mem, sensitive, named, marked⟩ := (entries s).mp mem
    refine .inl ⟨names.mpr ⟨f, mem, sensitive, named⟩, ?_⟩
    unfold EntityField.isSensitive at sensitive
    rw [marked, Bool.or_eq_true, beq_iff_eq, beq_iff_eq] at sensitive
    rcases sensitive with rfl | rfl
    · exact .inl rfl
    · exact .inr rfl

section Redaction

variable {fields : List EntityField} {hidden : String → Prop} {values values' : Fields}

/-- What differs under sensitive keys only is the same once redacted. -/
theorem redactMetadata_alike (alike : Alike (· ∈ sensitiveNames fields) values values') :
    redactMetadata values (buildSensitivityMap fields) =
      redactMetadata values' (buildSensitivityMap fields) := by
  unfold redactMetadata
  refine alike.map fun key value value' sensitive => ?_
  rcases buildSensitivityMap_lookup fields key with ⟨-, pii | financial⟩ | ⟨shown, -⟩
  · rw [pii]
  · rw [financial]
  · exact absurd sensitive shown

/-- Redaction hides nothing else. -/
theorem redactMetadata_alike_iff :
    redactMetadata values (buildSensitivityMap fields) =
        redactMetadata values' (buildSensitivityMap fields) ↔
      Alike (· ∈ sensitiveNames fields) values values' := by
  refine ⟨fun same => Alike.of_map (fun entry => ?_) (fun entry shown => ?_) same,
    redactMetadata_alike⟩
  · split <;> rfl
  · rcases buildSensitivityMap_lookup fields entry.1 with ⟨sensitive, -⟩ | ⟨-, unlisted⟩
    · exact absurd sensitive shown
    · rw [unlisted]

/-- The value under the key is not the text it was. -/
def textChanged (oldFields : Fields) (entry : String × Json) : Bool :=
  match oldFields.get entry.1 with
  | none => true
  | some old => !old.same entry.2

/-- The sensitive keys of the new values, each with whether its value changed. -/
def sensitiveChanges (names : List String) (oldFields newFields : Fields) : List (String × Bool) :=
  (newFields.filter fun entry => names.contains entry.1).map fun entry =>
    (entry.1, textChanged oldFields entry)

variable {oldFields : Fields} {entry : String × Json}

theorem textChanged_none (absent : oldFields.get entry.1 = none) : textChanged oldFields entry := by
  unfold textChanged
  rw [absent]

theorem textChanged_some {old : Json} (stored : oldFields.get entry.1 = some old) :
    textChanged oldFields entry = !old.same entry.2 := by
  unfold textChanged
  rw [stored]

theorem changedFields_entry (oldFields newFields : Fields) :
    changedFields (buildSensitivityMap fields) oldFields newFields =
      newFields.filterMap fun entry =>
        if textChanged oldFields entry then
          some (entry.1, .obj (if entry.1 ∈ sensitiveNames fields then
            [("old", .str "[REDACTED]"), ("new", .str "[REDACTED]")]
          else (oldFields.get entry.1).toList.map (fun old => ("old", old)) ++ [("new", entry.2)]))
        else none := by
  unfold changedFields
  refine filterMap_congr fun entry _ => ?_
  obtain ⟨key, value⟩ := entry
  dsimp only
  cases stored : oldFields.get key with
  | none =>
    rw [textChanged_none stored, if_pos rfl, if_neg Bool.false_ne_true]
    rcases buildSensitivityMap_lookup fields key with ⟨listed, pii | financial⟩ | ⟨shown, none'⟩
    · rw [pii, if_pos listed]
    · rw [financial, if_pos listed]
    · rw [none', if_neg shown]
  | some old =>
    rw [textChanged_some stored]
    dsimp only
    by_cases kept : old.same value = true
    · rw [if_pos kept, kept, if_neg (by decide)]
    · rw [if_neg kept, Bool.eq_false_iff.mpr kept, if_pos Bool.not_false]
      rcases buildSensitivityMap_lookup fields key with ⟨listed, pii | financial⟩ | ⟨shown, none'⟩
      · rw [pii, if_pos listed]
      · rw [financial, if_pos listed]
      · rw [none', if_neg shown]

theorem changedFields_alike {oldFields oldFields' newFields newFields' : Fields}
    (old : Alike (· ∈ sensitiveNames fields) oldFields oldFields')
    (new : Alike (· ∈ sensitiveNames fields) newFields newFields')
    (together : sensitiveChanges (sensitiveNames fields) oldFields newFields =
      sensitiveChanges (sensitiveNames fields) oldFields' newFields') :
    changedFields (buildSensitivityMap fields) oldFields newFields =
      changedFields (buildSensitivityMap fields) oldFields' newFields' := by
  rw [changedFields_entry, changedFields_entry]
  induction new with
  | nil => rfl
  | @cons entry entry' _ _ same _ ih =>
    obtain ⟨key, value⟩ := entry
    obtain ⟨key', value'⟩ := entry'
    obtain ⟨rfl, shown⟩ := same
    unfold sensitiveChanges at together
    dsimp only at shown together
    rw [filter_cons, filter_cons] at together
    dsimp only at together
    rw [filterMap_cons, filterMap_cons]
    by_cases listed : key ∈ sensitiveNames fields
    · rw [if_pos (contains_iff_mem.mpr listed), if_pos (contains_iff_mem.mpr listed),
        map_cons, map_cons] at together
      obtain ⟨here, later⟩ := List.cons.inj together
      rw [(Prod.mk.inj here).2, if_pos listed, if_pos listed, ih later]
    · rw [if_neg (mt contains_iff_mem.mp listed),
        if_neg (mt contains_iff_mem.mp listed)] at together
      have value_eq : value = value' := shown listed
      unfold textChanged
      unfold textChanged at ih
      rw [value_eq, ih together]
      unfold Fields.get
      dsimp only
      rw [old.lookup listed]

end Redaction

/-! ## Making fields -/

section Making

variable {hidden : String → Prop} {values values' : Fields}

section

variable (alike : Alike hidden values values')

include alike

theorem Fields.get_alike {name : String}
    (shown : ¬ hidden name) : values.get name = values'.get name :=
  alike.lookup shown

theorem Fields.set_alike {name : String} {value value' : Json}
    (same : ¬ hidden name → value = value') :
    Alike hidden (values.set name value) (values'.set name value') := by
  induction alike with
  | nil => exact .cons ⟨rfl, same⟩ .nil
  | @cons entry entry' _ _ pair rest ih =>
    rw [Fields.set, Fields.set, ← pair.1]
    by_cases here : entry.1 = name
    · rw [if_pos (beq_iff_eq.mpr here), if_pos (beq_iff_eq.mpr here)]
      exact .cons ⟨rfl, fun shown => same (here ▸ shown)⟩ rest
    · rw [if_neg (mt eq_of_beq here), if_neg (mt eq_of_beq here)]
      exact .cons ⟨rfl, fun shown => pair.2 shown⟩ ih

theorem Fields.erase_alike (name : String) :
    Alike hidden (values.erase name) (values'.erase name) :=
  alike.filter (p := fun key => key != name) (q := fun key => key != name) fun _ _ => rfl

theorem Fields.merge_alike {other other' : Fields} (more : Alike hidden other other') :
    Alike hidden (values.merge other) (values'.merge other') := by
  unfold Fields.merge
  refine Veil.Alike.append ?_ ?_
  · refine alike.mapValues (g := fun key value => (other.get key).getD value)
      (h := fun key value => (other'.get key).getD value) fun key value shown => ?_
    rw [Fields.get_alike more shown]
  · refine more.filter (p := fun key => (values.get key).isNone)
      (q := fun key => (values'.get key).isNone) fun entry _ => ?_
    have both := alike.isSome entry.1
    unfold Fields.get
    rw [← Option.not_isSome, ← Option.not_isSome, both]

theorem Fields.put_alike {name : String} {value value' : Option Json}
    (both : value.isSome = value'.isSome) (same : ¬ hidden name → value = value') :
    Alike hidden (values.put name value) (values'.put name value') := by
  cases value with
  | none =>
    cases value' with
    | none => exact Fields.erase_alike alike name
    | some v' => cases both
  | some v =>
    cases value' with
    | none => cases both
    | some v' => exact Fields.set_alike alike fun shown => Option.some.inj (same shown)

end

def FormulasBlind (evaluateFormula : String → Fields → Option Json) (fields : List EntityField)
    (hidden : String → Prop) : Prop :=
  ∀ field ∈ fields, field.fieldType = .formula → ∀ expression,
    field.config.text "expression" = some expression → ∀ values values',
      Alike hidden values values' →
        (evaluateFormula expression values).isSome = (evaluateFormula expression values').isSome ∧
          (¬ hidden field.name →
            evaluateFormula expression values = evaluateFormula expression values')

theorem FormulasBlind.apply {evaluateFormula : String → Fields → Option Json}
    {fields : List EntityField} (blind : FormulasBlind evaluateFormula fields hidden)
    {hidden' : String → Prop} (narrower : ∀ name, hidden' name → hidden name)
    (computed : ∀ field ∈ fields, field.fieldType = .formula → hidden field.name →
      hidden' field.name)
    (alike : Alike hidden' values values') :
    Alike hidden' (applyFormulaFields evaluateFormula fields values)
      (applyFormulaFields evaluateFormula fields values') := by
  unfold applyFormulaFields
  induction fields generalizing values values' with
  | nil => exact alike
  | cons field rest ih =>
    rw [foldl_cons, foldl_cons]
    refine ih (fun f mem => blind f (mem_cons_of_mem _ mem))
      (fun f mem => computed f (mem_cons_of_mem _ mem)) ?_
    have here := blind field mem_cons_self
    have marked := computed field mem_cons_self
    unfold applyFormula
    by_cases formula : field.fieldType = .formula
    · rw [if_pos (beq_iff_eq.mpr formula), if_pos (beq_iff_eq.mpr formula)]
      cases text : field.config.text "expression" with
      | none => exact alike
      | some expression =>
        obtain ⟨both, same⟩ := here formula expression text values values' (alike.mono narrower)
        exact Fields.put_alike alike both fun shown =>
          same fun veiled => shown (marked formula veiled)
    · rw [if_neg (mt eq_of_beq formula), if_neg (mt eq_of_beq formula)]
      exact alike

end Making

end OpenWind
