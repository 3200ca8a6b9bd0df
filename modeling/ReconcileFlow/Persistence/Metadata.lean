import ReconcileFlow.Persistence.Suggestions
import ReconcileFlow.Support.Exceptions

/-!
# Persistence — Metadata

What the check of metadata lets through: an object that is not empty, and in which nothing at any
depth (`Occurs`) is inadmissible by itself.  The walk of `inspect` reaches every value of the tree,
whatever the objects and lists it is in (`inspect_eq_ok_iff`).
-/

namespace ReconcileFlow.Persistence

open Support

/-! ### What metadata may have in it -/

/-- `item` is `value`, or in it at some depth. -/
inductive Metadata.Occurs (item : Metadata) : Metadata → Prop
  | here : Occurs item item
  | inField {key : String} {nested : Metadata} {fields : List (String × Metadata)} :
    (key, nested) ∈ fields → Occurs item nested → Occurs item (.object fields)
  | inItem {nested : Metadata} {items : List Metadata} :
    nested ∈ items → Occurs item nested → Occurs item (.list items)

/-- None of the forbidden terms is in the key, in lower case and with underscores for hyphens. -/
def IsPlainKey (key : String) : Prop :=
  ∀ term ∈ forbiddenMetadataTerms,
    ¬ term.toList <:+: (lower key).toList.map fun c => if c = '-' then '_' else c

/-- What a value has to be, apart from what is in it. -/
def Metadata.Admissible : Metadata → Prop
  | .object fields => ∀ key nested, (key, nested) ∈ fields → IsPlainKey key
  | .list items => items.length ≤ 100
  | .text value => value.length ≤ 500
  | .null | .bool _ | .number _ => True
  | .other => False

/-- A value is admissible, and so is everything in it. -/
def Metadata.Sound (value : Metadata) : Prop :=
  ∀ item : Metadata, item.Occurs value → item.Admissible

namespace Metadata

variable {value item nested : Metadata} {key : String} {items : List Metadata}
  {fields : List (String × Metadata)}

theorem Sound.admissible (h : value.Sound) : value.Admissible := h value .here

theorem sound_object_iff : (object fields).Sound ↔
    ∀ key nested, (key, nested) ∈ fields → IsPlainKey key ∧ nested.Sound := by
  constructor
  · intro h key nested hm
    exact ⟨h.admissible key nested hm, fun item hitem => h item (.inField hm hitem)⟩
  · intro h item hitem
    cases hitem with
    | here => exact fun key nested hm => (h key nested hm).1
    | inField hm hnested => exact (h _ _ hm).2 item hnested

theorem sound_list_iff : (list items).Sound ↔
    items.length ≤ 100 ∧ ∀ nested ∈ items, nested.Sound := by
  constructor
  · intro h
    exact ⟨h.admissible, fun nested hm item hitem => h item (.inItem hm hitem)⟩
  · rintro ⟨hlength, h⟩ item hitem
    cases hitem with
    | here => exact hlength
    | inItem hm hnested => exact h _ hm item hnested

theorem sound_null : null.Sound := by
  rintro item ⟨⟩
  trivial

theorem sound_bool (b : Bool) : (bool b).Sound := by
  rintro item ⟨⟩
  trivial

theorem sound_number (d : Decimal) : (number d).Sound := by
  rintro item ⟨⟩
  trivial

theorem sound_text_iff {s : String} : (text s).Sound ↔ s.length ≤ 500 := by
  refine ⟨Sound.admissible, ?_⟩
  rintro h item ⟨⟩
  exact h

theorem not_sound_other : ¬ other.Sound := fun h => h.admissible

end Metadata

/-! ### The walk -/

theorem isForbidden_eq_false_iff {key : String} : isForbidden key = false ↔ IsPlainKey key := by
  simp [isForbidden, IsPlainKey]

/-- A check, and what follows it. -/
theorem check_eq_ok_iff {p : Prop} [Decidable p] {e : Error} {x : Except Error Unit} :
    (do if p then throw e
        x) = .ok () ↔ ¬ p ∧ x = .ok () := by
  by_cases h : p
  · rw [if_pos h]
    exact ⟨nofun, fun hboth => absurd h hboth.1⟩
  · rw [if_neg h]
    exact (and_iff_right h).symm

theorem andThen_eq_ok_iff {x y : Except Error Unit} :
    (do x; y) = .ok () ↔ x = .ok () ∧ y = .ok () := by
  rw [bind_eq_ok_iff]
  exact ⟨fun ⟨_, hx, hy⟩ => ⟨hx, hy⟩, fun ⟨hx, hy⟩ => ⟨(), hx, hy⟩⟩

mutual

/-- By induction on the tree: the walk goes into every field and every item. -/
theorem inspect_eq_ok_iff (field : String) :
    ∀ value : Metadata, inspect field value = .ok () ↔ value.Sound
  | .object fields => by
    rw [inspect, Metadata.sound_object_iff]
    exact inspectFields_eq_ok_iff field fields
  | .list items => by
    rw [inspect, check_eq_ok_iff, inspectItems_eq_ok_iff field items, Metadata.sound_list_iff,
      not_lt]
  | .text value => by
    rw [inspect, Metadata.sound_text_iff]
    by_cases h : 500 < value.length
    · rw [if_pos h]
      exact iff_of_false nofun (not_le.mpr h)
    · rw [if_neg h]
      exact iff_of_true rfl (not_lt.mp h)
  | .other => iff_of_false nofun Metadata.not_sound_other
  | .null => iff_of_true rfl Metadata.sound_null
  | .bool b => iff_of_true rfl (Metadata.sound_bool b)
  | .number d => iff_of_true rfl (Metadata.sound_number d)

theorem inspectFields_eq_ok_iff (field : String) :
    ∀ fields : List (String × Metadata), inspectFields field fields = .ok () ↔
      ∀ key nested, (key, nested) ∈ fields → IsPlainKey key ∧ nested.Sound
  | [] => iff_of_true rfl fun _ _ hm => absurd hm List.not_mem_nil
  | (key, nested) :: fields => by
    rw [inspectFields, check_eq_ok_iff, andThen_eq_ok_iff, inspect_eq_ok_iff field nested,
      inspectFields_eq_ok_iff field fields, Bool.not_eq_true, isForbidden_eq_false_iff]
    constructor
    · rintro ⟨hkey, hnested, hrest⟩ other value hm
      rcases List.mem_cons.mp hm with heq | hm
      · obtain ⟨rfl, rfl⟩ := Prod.mk.inj heq
        exact ⟨hkey, hnested⟩
      · exact hrest other value hm
    · intro h
      obtain ⟨hkey, hnested⟩ := h key nested List.mem_cons_self
      exact ⟨hkey, hnested, fun other value hm => h other value (List.mem_cons_of_mem _ hm)⟩

theorem inspectItems_eq_ok_iff (field : String) :
    ∀ items : List Metadata, inspectItems field items = .ok () ↔ ∀ nested ∈ items, nested.Sound
  | [] => iff_of_true rfl fun _ hm => absurd hm List.not_mem_nil
  | nested :: items => by
    rw [inspectItems, andThen_eq_ok_iff, inspect_eq_ok_iff field nested,
      inspectItems_eq_ok_iff field items, List.forall_mem_cons]

end

/-- **What metadata the repository accepts**: an object that is not empty and is admissible at every
depth. -/
theorem validateMetadata_eq_ok_iff (value : Metadata) (field : String) :
    validateMetadata value field = .ok () ↔
      (∃ fields, value = .object fields ∧ fields ≠ []) ∧
        ∀ item : Metadata, item.Occurs value → item.Admissible := by
  change _ ↔ _ ∧ value.Sound
  cases value with
  | object fields =>
    cases fields with
    | nil =>
      refine iff_of_false nofun ?_
      rintro ⟨⟨fields, heq, hne⟩, -⟩
      exact hne (Metadata.object.inj heq).symm
    | cons first fields =>
      have hfilled : ∃ filled, Metadata.object (first :: fields) = .object filled ∧ filled ≠ [] :=
        ⟨_, rfl, List.cons_ne_nil first fields⟩
      exact (inspect_eq_ok_iff field (.object (first :: fields))).trans (and_iff_right hfilled).symm
  | null | bool | number | text | list | other =>
    refine iff_of_false nofun ?_
    rintro ⟨⟨_, ⟨⟩, _⟩, _⟩

end ReconcileFlow.Persistence
