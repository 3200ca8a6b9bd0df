import ReconcileFlow.Ingestion.Schemas
import ReconcileFlow.Texts

/-!
# Ingestion — Validation

What the validation of a model leaves.  A check stores an attribute only stripped, and the texts
that the loaders convert are stripped already.  So a model that is constructed has the attributes
that it was given (`construct_eq_ok_iff`), and they pass each check.
-/

namespace ReconcileFlow.Ingestion

open Support

/-! ### Stripped texts -/

/-- What `_text` returns is stripped. -/
theorem strip_textOf (py : Runtime) (cell : Cell) : strip (textOf py cell) = textOf py cell := by
  unfold textOf
  split
  · exact strip_toString _
  · exact strip_strip _

/-- The texts of the attributes are stripped. -/
def Attributes.Stripped (attributes : Attributes) : Prop :=
  ∀ name value, attributes name = some (.text value) → strip value = value

/-! ### Lists of checks -/

section Lists

variable {P : Check → Prop} {names : List String} {check : String → Check}

theorem forall_forEach (h : ∀ name, P (check name)) : ∀ c ∈ forEach names check, P c :=
  List.forall_mem_map.mpr fun name _ => h name

theorem forall_forEachGiven (h : ∀ name, P (ifGiven name (check name))) :
    ∀ c ∈ forEachGiven names check, P c :=
  List.forall_mem_map.mpr fun name _ => h name

theorem runChecks_append (a b : List Check) (attributes : Attributes) :
    runChecks (a ++ b) attributes = runChecks a attributes >>= runChecks b :=
  List.foldlM_append

end Lists

/-- The attribute is the total. -/
def Total.Holds (total : Total) (attributes : Attributes) : Prop :=
  ∃ value, total.value attributes = some value ∧
    (amountAt attributes total.name).numEq value = true

theorem Total.check_eq_ok {total : Total} {attributes attributes' : Attributes} :
    total.check attributes = .ok attributes' ↔
      total.Holds attributes ∧ attributes' = attributes := by
  unfold Total.check Total.Holds
  split
  · next hvalue => simp [hvalue]
  · next value hvalue =>
    split
    · next hequal =>
      constructor
      · intro h
        exact ⟨⟨value, hvalue, hequal⟩, (Except.ok.inj h).symm⟩
      · rintro ⟨-, rfl⟩
        rfl
    · next hequal =>
      refine ⟨nofun, ?_⟩
      rintro ⟨⟨_, h, hequal'⟩, -⟩
      exact absurd (Option.some.inj (hvalue.symm.trans h) ▸ hequal') hequal

/-! ### Checks keep stripped attributes -/

/-- The check leaves stripped attributes as they are. -/
def Check.Keeps (check : Check) : Prop :=
  ∀ attributes attributes', attributes.Stripped → check attributes = .ok attributes' →
    attributes' = attributes

theorem requireTextOf_eq_ok {name text : String} {value : Option Value}
    (h : requireTextOf name value = .ok text) : ∃ v, value = some (.text v) ∧ text = strip v := by
  unfold requireTextOf at h
  split at h
  · next v =>
    split at h
    · cases h
    · exact ⟨v, rfl, (Except.ok.inj h).symm⟩
  · cases h

/-- What `require_text` returns of a stripped attribute is stored where it was. -/
theorem store_of_stripped {attributes : Attributes} (hs : attributes.Stripped) {name text : String}
    (h : requireTextOf name (attributes name) = .ok text) :
    attributes.store name text = attributes := by
  obtain ⟨v, hv, rfl⟩ := requireTextOf_eq_ok h
  rw [hs name v hv, Attributes.store, ← hv]
  exact Function.update_eq_self name attributes

@[simp] theorem keeps_requireText (name : String) : Check.Keeps (requireText name) := by
  intro attributes attributes' hs h
  obtain ⟨text, htext, h⟩ := bind_eq_ok_iff.mp h
  cases h
  exact store_of_stripped hs htext

@[simp] theorem keeps_requireCurrency (name : String) : Check.Keeps (requireCurrency name) := by
  intro attributes attributes' hs h
  obtain ⟨text, htext, h⟩ := bind_eq_ok_iff.mp h
  obtain ⟨_, -, h⟩ := bind_eq_ok_iff.mp h
  cases h
  exact store_of_stripped hs htext

@[simp] theorem keeps_requireDecimal (name : String) (allowNegative allowZero : Bool) :
    Check.Keeps (requireDecimal name allowNegative allowZero) := by
  intro attributes attributes' _ h
  unfold requireDecimal at h
  split at h
  · obtain ⟨_, -, h⟩ := bind_eq_ok_iff.mp h
    obtain ⟨_, -, h⟩ := bind_eq_ok_iff.mp h
    exact (Except.ok.inj h).symm
  · cases h
  · cases h

@[simp] theorem keeps_requireAwareDatetime (name : String) :
    Check.Keeps (requireAwareDatetime name) := by
  intro attributes attributes' _ h
  unfold requireAwareDatetime at h
  split at h
  · split at h
    · cases h
    · exact (Except.ok.inj h).symm
  · cases h

@[simp] theorem keeps_requireDate (name : String) : Check.Keeps (requireDate name) := by
  intro attributes attributes' _ h
  unfold requireDate at h
  split at h
  · exact (Except.ok.inj h).symm
  · cases h

@[simp] theorem keeps_requireMember (name : String) (enumeration : Enumeration) :
    Check.Keeps (requireMember name enumeration) := by
  intro attributes attributes' _ h
  unfold requireMember at h
  split at h
  · split at h
    · exact (Except.ok.inj h).symm
    · cases h
  · cases h

@[simp] theorem keeps_requireThat (condition : Attributes → Bool) (error : ModelError) :
    Check.Keeps (requireThat condition error) := by
  intro attributes attributes' _ h
  unfold requireThat at h
  split at h
  · exact (Except.ok.inj h).symm
  · cases h

@[simp] theorem keeps_ifGiven {name : String} {check : Check} (h : check.Keeps) :
    Check.Keeps (ifGiven name check) := by
  intro attributes attributes' hs hok
  unfold ifGiven at hok
  split at hok
  · exact (Except.ok.inj hok).symm
  · exact h attributes attributes' hs hok

theorem keeps_total (total : Total) : Check.Keeps total.check :=
  fun _ _ _ h => (Total.check_eq_ok.mp h).2

/-- Every check of a list leaves stripped attributes as they are. -/
def AllKeep (checks : List Check) : Prop := ∀ check ∈ checks, Check.Keeps check

@[simp] theorem allKeep_nil : AllKeep [] := List.forall_mem_nil _

@[simp] theorem allKeep_cons {check : Check} {checks : List Check} :
    AllKeep (check :: checks) ↔ Check.Keeps check ∧ AllKeep checks :=
  List.forall_mem_cons

@[simp] theorem allKeep_append {a b : List Check} :
    AllKeep (a ++ b) ↔ AllKeep a ∧ AllKeep b :=
  List.forall_mem_append

@[simp] theorem allKeep_forEach {names : List String} {check : String → Check}
    (h : ∀ name, Check.Keeps (check name)) : AllKeep (forEach names check) :=
  forall_forEach h

@[simp] theorem allKeep_forEachGiven {names : List String} {check : String → Check}
    (h : ∀ name, Check.Keeps (check name)) : AllKeep (forEachGiven names check) :=
  forall_forEachGiven fun name => keeps_ifGiven (h name)

@[simp] theorem allKeep_totals (totals : List Total) : AllKeep (totals.map Total.check) :=
  List.forall_mem_map.mpr fun total _ => keeps_total total

/-- Such checks are passed if each of them is. -/
theorem runChecks_eq_ok_iff {checks : List Check} (hkeep : AllKeep checks)
    {attributes attributes' : Attributes} (hs : attributes.Stripped) :
    runChecks checks attributes = .ok attributes' ↔
      attributes' = attributes ∧ ∀ check ∈ checks, check attributes = .ok attributes := by
  induction checks with
  | nil =>
    constructor
    · intro h
      exact ⟨(Except.ok.inj h).symm, List.forall_mem_nil _⟩
    · rintro ⟨rfl, -⟩
      rfl
  | cons check checks ih =>
    obtain ⟨hcheck, hkeep⟩ := allKeep_cons.mp hkeep
    rw [runChecks, List.foldlM_cons, bind_eq_ok_iff]
    constructor
    · rintro ⟨next, hnext, h⟩
      obtain rfl := hcheck attributes next hs hnext
      obtain ⟨hlast, hrest⟩ := (ih hkeep).mp h
      exact ⟨hlast, List.forall_mem_cons.mpr ⟨hnext, hrest⟩⟩
    · rintro ⟨hlast, hall⟩
      obtain ⟨hnext, hrest⟩ := List.forall_mem_cons.mp hall
      exact ⟨attributes, hnext, (ih hkeep).mpr ⟨hlast, hrest⟩⟩

/-- The arguments give all fields that the model requires. -/
def Model.Given (model : Model) (arguments : List (String × Option Value)) : Prop :=
  ∀ name ∈ model.required, (arguments.lookup name).isSome = true

theorem Model.missing_eq_nil {model : Model} {arguments : List (String × Option Value)} :
    (model.required.filter fun name => (arguments.lookup name).isNone) = [] ↔
      model.Given arguments := by
  simp [Model.Given, List.filter_eq_nil_iff, Option.isSome_iff_ne_none]

/-- **A model has the attributes that it was given**, if their texts are stripped. -/
theorem construct_eq_ok_iff {model : Model} {checks : List Check} (hkeep : AllKeep checks)
    {arguments : List (String × Option Value)} (hs : (model.initial arguments).Stripped)
    {attributes : Attributes} :
    model.construct checks arguments = .ok attributes ↔
      model.Given arguments ∧ attributes = model.initial arguments ∧
        ∀ check ∈ checks, check (model.initial arguments) = .ok (model.initial arguments) := by
  simp only [Model.construct]
  split
  · next hmissing =>
    have hgiven : model.Given arguments := Model.missing_eq_nil.mp hmissing
    exact (runChecks_eq_ok_iff hkeep hs).trans (and_iff_right hgiven).symm
  · next hmissing =>
    exact iff_of_false nofun fun h => hmissing (Model.missing_eq_nil.mpr h.1)

theorem allKeep_bankChecks : AllKeep bankChecks := by
  simp [bankChecks]

theorem allKeep_gatewayChecks : AllKeep gatewayChecks := by
  simp [gatewayChecks]

theorem allKeep_gatewayRest (py : Runtime) : AllKeep (gatewayRest py) := by
  simp [gatewayRest]

theorem allKeep_allGatewayChecks (py : Runtime) :
    AllKeep (gatewayChecks ++ (gatewayTotals py.limits).map Total.check ++ gatewayRest py) :=
  allKeep_append.mpr ⟨allKeep_append.mpr ⟨allKeep_gatewayChecks, allKeep_totals _⟩,
    allKeep_gatewayRest py⟩

theorem allKeep_lineChecks : AllKeep lineChecks := by
  simp [lineChecks]

theorem allKeep_invoiceChecks (lines : List Record) : AllKeep (invoiceChecks lines) := by
  simp [invoiceChecks]

end ReconcileFlow.Ingestion
