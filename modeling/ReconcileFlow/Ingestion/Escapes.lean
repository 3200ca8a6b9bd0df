import ReconcileFlow.Ingestion.Headers
import ReconcileFlow.Ingestion.Validation

/-!
# Ingestion — Escapes

Which exceptions other than `IngestionError` leave the loaders.  Everything up to the rows of
canonical fields raises ingestion errors only, and so do the conversions, but for `int` of an
infinity; of the checks only the totals, which overflow.  So nothing else leaves the loader of bank
transactions.  `errors_contained_iff` says when nothing else leaves the other two.
-/

namespace ReconcileFlow.Ingestion

open Support

/-- The computation raises ingestion errors only. -/
abbrev Contained {α : Type} (x : Except Failure α) : Prop :=
  RaisesOnly (fun e => e.isIngestion = true) x

/-- The construction of a model does not overflow. -/
abbrev Bounded {α : Type} (x : Except ModelError α) : Prop := RaisesOnly (fun e => e ≠ .overflow) x

section

variable {py : Runtime} {config : IngestionConfig}

theorem contained_mappedRows {canonical required : List String} {data : List (List Cell)} :
    Contained (mappedRows py config canonical required data) :=
  raisesOnly_mapError.mpr fun _ _ => rfl

/-! ### Conversions -/

/-- The text of the cell is an infinity. -/
def isInfinite (py : Runtime) (cell : Cell) : Bool :=
  match decimalOf py (cell.str py) with
  | .ok (.infinity _) => true
  | _ => false

theorem decimalOf_ne_overflowError {text : String} :
    decimalOf py text ≠ .error .overflowError := by
  unfold decimalOf
  split <;> exact nofun

theorem caught_ne_overflowError {α : Type} {parsed : Except String α} :
    caught parsed ≠ .error .overflowError := by
  cases parsed <;> exact nofun

theorem dateOf_ne_overflowError {cell : Cell} : dateOf py cell ≠ .error .overflowError := by
  unfold dateOf
  split
  · exact nofun
  · exact nofun
  · exact caught_ne_overflowError

theorem datetimeOf_ne_overflowError {cell : Cell} :
    datetimeOf py cell ≠ .error .overflowError := by
  unfold datetimeOf
  split
  · exact nofun
  · exact caught_ne_overflowError

theorem isInfinite_iff {cell : Cell} : isInfinite py cell = true ↔
    ∃ negative, decimalOf py (cell.str py) = .ok (.infinity negative) := by
  delta isInfinite
  split
  · next negative h => exact iff_of_true rfl ⟨negative, h⟩
  · next hnot =>
    refine iff_of_false Bool.false_ne_true ?_
    rintro ⟨negative, h⟩
    exact hnot negative h

/-- Only the conversion of an infinity to `int` is an `OverflowError`. -/
theorem convertValue_overflowError {zone : Zone} {cell : Cell} {kind : Kind} :
    convertValue py zone cell kind = .error .overflowError ↔
      kind = .int ∧ isInfinite py cell = true := by
  cases kind with
  | str => exact ⟨nofun, nofun⟩
  | decimal =>
    refine ⟨fun h => ?_, nofun⟩
    exact absurd (map_eq_error_iff.mp h) decimalOf_ne_overflowError
  | int =>
    rw [isInfinite_iff]
    constructor
    · intro h
      rcases bind_eq_error_iff.mp h with h | ⟨value, hvalue, hw⟩
      · exact absurd h decimalOf_ne_overflowError
      · cases value with
        | finite d =>
          simp only [wholeOf] at hw
          split at hw <;> cases hw
        | infinity negative => exact ⟨rfl, negative, hvalue⟩
        | nan signaling => cases signaling <;> cases hw
    · rintro ⟨-, negative, hvalue⟩
      exact bind_eq_error_iff.mpr (.inr ⟨_, hvalue, rfl⟩)
  | bool =>
    refine ⟨fun h => ?_, nofun⟩
    simp only [convertValue] at h
    split at h
    · cases h
    · split at h <;> cases h
  | date =>
    refine ⟨fun h => ?_, nofun⟩
    exact absurd (map_eq_error_iff.mp h) dateOf_ne_overflowError
  | datetime =>
    refine ⟨fun h => ?_, nofun⟩
    rcases bind_eq_error_iff.mp h with h | ⟨value, -, h⟩
    · exact absurd h datetimeOf_ne_overflowError
    · cases h
  | enum enumeration =>
    refine ⟨fun h => ?_, nofun⟩
    simp only [convertValue] at h
    split at h <;> cases h

theorem contained_convert {zone : Zone} {row : Nat} {column : String} {kind : Kind} {cell : Cell} :
    Contained (convert py zone row column kind cell) ↔
      (cell.isBlank = false → kind = .int → isInfinite py cell = false) := by
  simp only [convert]
  split
  · next hblank => simp [hblank]
  · next hblank =>
    split
    · next value hvalue =>
      have hnot := mt convertValue_overflowError.mpr (by rw [hvalue]; rintro ⟨⟩)
      simp only [raisesOnly_ok, true_iff]
      exact fun _ hkind => Bool.eq_false_iff.mpr fun hinf => hnot ⟨hkind, hinf⟩
    · next reason hvalue =>
      have hnot := mt convertValue_overflowError.mpr (by rw [hvalue]; rintro ⟨⟩)
      simp only [raisesOnly_error, Failure.isIngestion, true_iff]
      exact fun _ hkind => Bool.eq_false_iff.mpr fun hinf => hnot ⟨hkind, hinf⟩
    · next hvalue =>
      obtain ⟨hkind, hinf⟩ := convertValue_overflowError.mp hvalue
      simp only [raisesOnly_error, Failure.isIngestion, hkind, hinf, hblank]
      simp

/-- The names whose kind is `int`. -/
theorem kindOf_eq_int {statusKind : Option Enumeration} {name : String}
    (h : kindOf statusKind name = .int) : name = "line_number" := by
  by_contra hname
  unfold kindOf at h
  simp only [hname, if_false] at h
  split_ifs at h <;> split at h <;> cases h

theorem kindOf_lineNumber (statusKind : Option Enumeration) :
    kindOf statusKind "line_number" = .int := by
  rw [kindOf, if_neg (by decide), if_neg (by decide), if_neg (by decide), if_neg (by decide),
    if_pos rfl]

theorem contained_argument {statusKind : Option Enumeration} {row : MappedRow} {name : String} :
    Contained (argument py config statusKind row name) ↔
      ((row.cell name).isBlank = false → kindOf statusKind name = .int →
        isInfinite py (row.cell name) = false) := by
  refine raisesOnly_bind.trans ⟨fun h => contained_convert.mp h.1, fun h => ?_⟩
  exact ⟨contained_convert.mpr h, fun _ _ => raisesOnly_pure _⟩

/-- The arguments are converted but for an infinite `line_number` that is come to. -/
theorem contained_kwargs {statusKind : Option Enumeration} {names : List String}
    {row : MappedRow} :
    Contained (kwargs py config statusKind names row) ↔
      ∀ before after, names.filter row.gives = before ++ "line_number" :: after →
        (∀ name ∈ before, ∃ a, argument py config statusKind row name = .ok a) →
        isInfinite py (row.cell "line_number") = false := by
  refine raisesOnly_mapM.trans ?_
  constructor
  · intro h before after hsplit hbefore
    have hgives : row.gives "line_number" = true := by
      refine (List.of_mem_filter (a := "line_number") (l := names)) ?_
      rw [hsplit]
      exact List.mem_append_right _ List.mem_cons_self
    exact contained_argument.mp (h before _ after hsplit hbefore)
      (by simpa [MappedRow.gives] using hgives) (kindOf_lineNumber statusKind)
  · intro h before name after hsplit hbefore
    refine contained_argument.mpr fun _ hkind => ?_
    obtain rfl := kindOf_eq_int hkind
    exact h before after hsplit hbefore

theorem contained_kwargs_of_not_mem {statusKind : Option Enumeration} {names : List String}
    {row : MappedRow} (h : "line_number" ∉ names) :
    Contained (kwargs py config statusKind (py.order names) row) := by
  refine contained_kwargs.mpr fun before after hsplit _ => absurd ?_ h
  refine (py.order_perm names).mem_iff.mp (List.mem_of_mem_filter (p := row.gives) ?_)
  rw [hsplit]
  exact List.mem_append_right _ List.mem_cons_self

theorem contained_extra {row : MappedRow} : Contained (extra py row) := by
  unfold extra
  split
  · exact raisesOnly_ok _
  · split
    · exact raisesOnly_error.mpr rfl
    · exact raisesOnly_ok _
    · exact raisesOnly_error.mpr rfl

/-! ### Checks -/

theorem bounded_requireTextOf {name : String} {value : Option Value} :
    Bounded (requireTextOf name value) := by
  unfold requireTextOf
  split
  · split
    · exact raisesOnly_error.mpr nofun
    · exact raisesOnly_ok _
  · exact raisesOnly_error.mpr nofun

/-- The check does not overflow. -/
def Check.IsBounded (check : Check) : Prop := ∀ attributes, Bounded (check attributes)

@[simp] theorem isBounded_requireText (name : String) : Check.IsBounded (requireText name) :=
  fun _ => raisesOnly_bind.mpr ⟨bounded_requireTextOf, fun _ _ => raisesOnly_pure _⟩

@[simp] theorem isBounded_requireCurrency (name : String) :
    Check.IsBounded (requireCurrency name) := by
  refine fun _ => raisesOnly_bind.mpr ⟨bounded_requireTextOf, fun _ _ => ?_⟩
  exact raisesOnly_bind.mpr ⟨raisesOnly_must.mpr fun _ => nofun, fun _ _ => raisesOnly_pure _⟩

@[simp] theorem isBounded_requireDecimal (name : String) (allowNegative allowZero : Bool) :
    Check.IsBounded (requireDecimal name allowNegative allowZero) := by
  intro attributes
  unfold requireDecimal
  split
  · refine raisesOnly_bind.mpr ⟨raisesOnly_must.mpr fun _ => nofun, fun _ _ => ?_⟩
    exact raisesOnly_bind.mpr ⟨raisesOnly_must.mpr fun _ => nofun, fun _ _ => raisesOnly_pure _⟩
  · exact raisesOnly_error.mpr nofun
  · exact raisesOnly_error.mpr nofun

@[simp] theorem isBounded_requireAwareDatetime (name : String) :
    Check.IsBounded (requireAwareDatetime name) := by
  intro attributes
  unfold requireAwareDatetime
  split
  · split
    · exact raisesOnly_error.mpr nofun
    · exact raisesOnly_ok _
  · exact raisesOnly_error.mpr nofun

@[simp] theorem isBounded_requireDate (name : String) : Check.IsBounded (requireDate name) := by
  intro attributes
  unfold requireDate
  split
  · exact raisesOnly_ok _
  · exact raisesOnly_error.mpr nofun

@[simp] theorem isBounded_requireMember (name : String) (enumeration : Enumeration) :
    Check.IsBounded (requireMember name enumeration) := by
  intro attributes
  unfold requireMember
  split
  · split
    · exact raisesOnly_ok _
    · exact raisesOnly_error.mpr nofun
  · exact raisesOnly_error.mpr nofun

@[simp] theorem isBounded_requireThat {condition : Attributes → Bool} {error : ModelError}
    (h : error ≠ .overflow) : Check.IsBounded (requireThat condition error) := by
  intro attributes
  unfold requireThat
  split
  · exact raisesOnly_ok _
  · exact raisesOnly_error.mpr h

/-- Every check of a list does not overflow. -/
def AllBounded (checks : List Check) : Prop := ∀ check ∈ checks, Check.IsBounded check

@[simp] theorem allBounded_nil : AllBounded [] := List.forall_mem_nil _

@[simp] theorem allBounded_cons {check : Check} {checks : List Check} :
    AllBounded (check :: checks) ↔ Check.IsBounded check ∧ AllBounded checks :=
  List.forall_mem_cons

@[simp] theorem allBounded_append {a b : List Check} :
    AllBounded (a ++ b) ↔ AllBounded a ∧ AllBounded b :=
  List.forall_mem_append

@[simp] theorem allBounded_forEach {names : List String} {check : String → Check}
    (h : ∀ name, Check.IsBounded (check name)) : AllBounded (forEach names check) :=
  forall_forEach h

@[simp] theorem allBounded_forEachGiven {names : List String} {check : String → Check}
    (h : ∀ name, Check.IsBounded (check name)) : AllBounded (forEachGiven names check) := by
  refine forall_forEachGiven fun name attributes => ?_
  unfold ifGiven
  split
  · exact raisesOnly_ok _
  · exact h name attributes

theorem bounded_runChecks {checks : List Check} (h : AllBounded checks)
    (attributes : Attributes) : Bounded (runChecks checks attributes) :=
  raisesOnly_foldlM h attributes

/-- Each total is in the range of the arithmetic, if those before it hold. -/
def InRange : List Total → Attributes → Prop
  | [], _ => True
  | total :: totals, attributes =>
    (total.value attributes).isSome = true ∧ (total.Holds attributes → InRange totals attributes)

theorem Total.bounded_check {total : Total} {attributes : Attributes} :
    Bounded (total.check attributes) ↔ (total.value attributes).isSome = true := by
  unfold Total.check
  split
  · next hvalue => exact iff_of_false (fun h => h _ rfl rfl) (by simp [hvalue])
  · next value hvalue =>
    refine iff_of_true ?_ (by simp [hvalue])
    split
    · exact raisesOnly_ok _
    · exact raisesOnly_error.mpr nofun

theorem bounded_totals {totals : List Total} {attributes : Attributes} :
    Bounded (runChecks (totals.map Total.check) attributes) ↔ InRange totals attributes := by
  induction totals with
  | nil => exact iff_of_true (raisesOnly_pure _) trivial
  | cons total totals ih =>
    refine raisesOnly_bind.trans (and_congr Total.bounded_check ?_)
    constructor
    · intro h hholds
      exact ih.mp (h attributes (Total.check_eq_ok.mpr ⟨hholds, rfl⟩))
    · rintro h attributes' hcheck
      obtain ⟨hholds, rfl⟩ := Total.check_eq_ok.mp hcheck
      exact ih.mpr (h hholds)

theorem bounded_construct {model : Model} {checks : List Check}
    {arguments : List (String × Option Value)} :
    Bounded (model.construct checks arguments) ↔
      (model.Given arguments → Bounded (runChecks checks (model.initial arguments))) := by
  simp only [Model.construct]
  split
  · next hmissing =>
    exact ⟨fun h _ => h, fun h => h (Model.missing_eq_nil.mp hmissing)⟩
  · next hmissing =>
    refine iff_of_true (raisesOnly_error.mpr ?_) fun h => absurd (Model.missing_eq_nil.mpr h) hmissing
    rintro ⟨⟩

theorem contained_constructed {model : Model} {checks : List Check}
    {arguments : List (String × Option Value)} {row : Nat} :
    Contained ((model.construct checks arguments).mapError (constructionFailure row)) ↔
      Bounded (model.construct checks arguments) := by
  refine raisesOnly_mapError.trans (forall₂_congr fun e _ => ?_)
  cases e <;> simp [constructionFailure, Failure.isIngestion]

/-! ### The rows of the simple loaders -/

theorem allBounded_bankChecks : AllBounded bankChecks := by
  simp [bankChecks]

theorem allBounded_gatewayChecks : AllBounded gatewayChecks := by
  simp [gatewayChecks]

theorem allBounded_gatewayRest : AllBounded (gatewayRest py) := by
  simp [gatewayRest]

theorem allBounded_lineChecks : AllBounded lineChecks := by
  simp [lineChecks]

theorem allBounded_invoiceChecks {lines : List Record} : AllBounded (invoiceChecks lines) := by
  simp [invoiceChecks]

/-- The totals that the construction comes to are in the range of the arithmetic. -/
def TotalsInRange (model : Model) (checks : List Check) (totals : List Total)
    (arguments : List (String × Option Value)) : Prop :=
  model.Given arguments → ∀ attributes, runChecks checks (model.initial arguments) = .ok attributes →
    InRange totals attributes

theorem contained_construct_totals {model : Model} {checks rest : List Check}
    {totals : List Total} {arguments : List (String × Option Value)} {row : Nat}
    (hchecks : AllBounded checks) (hrest : AllBounded rest) :
    Contained ((model.construct (checks ++ totals.map Total.check ++ rest) arguments).mapError
        (constructionFailure row)) ↔ TotalsInRange model checks totals arguments := by
  refine contained_constructed.trans (bounded_construct.trans (imp_congr_right fun _ => ?_))
  rw [runChecks_append, runChecks_append]
  refine raisesOnly_bind.trans ⟨fun h attributes hattributes => ?_, fun h => ⟨?_, ?_⟩⟩
  · exact bounded_totals.mp ((raisesOnly_bind.mp h.1).2 attributes hattributes)
  · refine raisesOnly_bind.mpr ⟨bounded_runChecks hchecks _, fun attributes hattributes => ?_⟩
    exact bounded_totals.mpr (h attributes hattributes)
  · exact fun attributes _ => bounded_runChecks hrest attributes

/-- The same, where no check follows the totals. -/
theorem contained_construct_totals_last {model : Model} {checks : List Check}
    {totals : List Total} {arguments : List (String × Option Value)} {row : Nat}
    (hchecks : AllBounded checks) :
    Contained ((model.construct (checks ++ totals.map Total.check) arguments).mapError
        (constructionFailure row)) ↔ TotalsInRange model checks totals arguments := by
  have h : Contained ((model.construct (checks ++ totals.map Total.check ++ []) arguments).mapError
      (constructionFailure row)) ↔ TotalsInRange model checks totals arguments :=
    contained_construct_totals hchecks allBounded_nil
  rwa [List.append_nil] at h

/-- Nothing but ingestion errors leaves the loader of bank transactions. -/
theorem contained_loadBankTransactions {data : List (List Cell)} :
    Contained (loadBankTransactions py config data) := by
  refine raisesOnly_bind.mpr ⟨contained_mappedRows, fun mapped _ => ?_⟩
  refine raisesOnly_mapM.mpr fun before row after _ _ => ?_
  refine raisesOnly_bind.mpr ⟨contained_kwargs_of_not_mem (by decide), fun arguments _ => ?_⟩
  refine raisesOnly_bind.mpr ⟨contained_extra, fun extraData _ => ?_⟩
  refine raisesOnly_bind.mpr ⟨?_, fun _ _ => raisesOnly_pure _⟩
  refine contained_constructed.mpr (bounded_construct.mpr fun _ => ?_)
  exact bounded_runChecks allBounded_bankChecks _

/-- The net amount of an entry that the loader comes to is in the range of the arithmetic. -/
def GatewayRowInRange (py : Runtime) (config : IngestionConfig) (row : MappedRow) : Prop :=
  ∀ arguments, kwargs py config (some .gatewayStatus) (py.order gatewaySettlementEntry.fields) row =
      .ok arguments → ∀ extraData, extra py row = .ok extraData →
    TotalsInRange gatewaySettlementEntry gatewayChecks (gatewayTotals py.limits) arguments

/-- So is that of every row after rows that load. -/
def GatewayInRange (py : Runtime) (config : IngestionConfig) (data : List (List Cell)) : Prop :=
  ∀ mapped, mappedRows py config
      (gatewaySettlementEntry.fields ++ ["extra_data", "extra_data_json"])
      gatewaySettlementEntry.required data = .ok mapped →
    ∀ before row after, mapped = before ++ row :: after →
      (∀ r ∈ before, ∃ record, loadRow py config gatewaySettlementEntry
        (gatewayChecks ++ (gatewayTotals py.limits).map Total.check ++ gatewayRest py) .gatewayStatus
        r = .ok record) →
      GatewayRowInRange py config row

theorem contained_loadGatewaySettlements {data : List (List Cell)} :
    Contained (loadGatewaySettlements py config data) ↔ GatewayInRange py config data := by
  refine raisesOnly_bind.trans (Iff.trans (and_iff_right contained_mappedRows) ?_)
  refine forall₂_congr fun mapped _ => raisesOnly_mapM.trans ?_
  refine forall₄_congr fun before row after _ => imp_congr_right fun _ => ?_
  refine raisesOnly_bind.trans (Iff.trans
    (and_iff_right (contained_kwargs_of_not_mem (by decide))) (forall₂_congr fun arguments _ => ?_))
  refine raisesOnly_bind.trans (Iff.trans (and_iff_right contained_extra)
    (forall₂_congr fun extraData _ => ?_))
  refine raisesOnly_bind.trans (Iff.trans (and_iff_left fun _ _ => raisesOnly_pure _) ?_)
  exact contained_construct_totals allBounded_gatewayChecks allBounded_gatewayRest

/-! ### The rows of invoices -/

/-- A line that the loader comes to: its number is no infinity, if the names that are converted
before it convert, and its totals are in the range of the arithmetic. -/
structure LineInRange (py : Runtime) (config : IngestionConfig) (row : MappedRow) : Prop where
  number : ∀ before after,
    (py.order invoiceLine.fields).filter row.gives = before ++ "line_number" :: after →
    (∀ name ∈ before, ∃ a, argument py config none row name = .ok a) →
    isInfinite py (row.cell "line_number") = false
  totals : ∀ arguments,
    kwargs py config none (py.order invoiceLine.fields) row = .ok arguments →
    TotalsInRange invoiceLine lineChecks (lineTotals py.limits) arguments

theorem contained_loadLine {first row : MappedRow} :
    Contained (loadLine py config first row) ↔
      (row.cell "invoice_id" = first.cell "invoice_id" → LineInRange py config row) := by
  refine raisesOnly_bind.trans (Iff.trans (and_iff_right (raisesOnly_must.mpr fun _ => rfl)) ?_)
  have hrest : Contained (do
      let arguments ← kwargs py config none (py.order invoiceLine.fields) row
      let checks := lineChecks ++ (lineTotals py.limits).map Total.check
      let attributes ← (invoiceLine.construct checks arguments).mapError
        (constructionFailure row.number)
      return ({ attributes, extraData := fun _ => none } : Record)) ↔ LineInRange py config row := by
    refine raisesOnly_bind.trans ((and_congr contained_kwargs ?_).trans
      ⟨fun h => ⟨h.1, h.2⟩, fun h => ⟨h.number, h.totals⟩⟩)
    refine forall₂_congr fun arguments _ => raisesOnly_bind.trans ?_
    refine Iff.trans (and_iff_left fun _ _ => raisesOnly_pure _) ?_
    exact contained_construct_totals_last allBounded_lineChecks
  constructor
  · exact fun h hcell => hrest.mp (h () (must_eq_ok_iff.mpr hcell))
  · exact fun h _ hcell => hrest.mpr (h (must_eq_ok_iff.mp hcell))

/-- The header of an invoice that the loader comes to: its first row has the cell of the invoice
type, if its other fields convert, and its totals are in the range of the arithmetic. -/
structure HeaderInRange (py : Runtime) (config : IngestionConfig) (lines : List Record)
    (first : MappedRow) : Prop where
  type : ∀ arguments,
    kwargs py config (some .invoiceStatus) (py.order erpInvoice.fields) first = .ok arguments →
    (first.values.lookup "invoice_type").isSome = true
  totals : ∀ arguments,
    kwargs py config (some .invoiceStatus) (py.order erpInvoice.fields) first = .ok arguments →
    ∀ invoiceType, invoiceTypeOf py config first = .ok invoiceType →
    ∀ extraData, extra py first = .ok extraData →
    TotalsInRange erpInvoice (invoiceChecks lines) (invoiceTotals py.limits lines)
      (("invoice_type", invoiceType) :: arguments)

theorem contained_invoiceTypeOf {first : MappedRow} :
    Contained (invoiceTypeOf py config first) ↔
      (first.values.lookup "invoice_type").isSome = true := by
  unfold invoiceTypeOf
  split
  · next h => exact iff_of_false (fun hc => absurd (hc _ rfl) nofun) (by simp [h])
  · next cell h => exact iff_of_true (contained_convert.mpr nofun) (by simp [h])

theorem contained_loadHeader {lines : List Record} {first : MappedRow} :
    Contained (loadHeader py config lines first) ↔ HeaderInRange py config lines first := by
  refine raisesOnly_bind.trans (Iff.trans
    (and_iff_right (contained_kwargs_of_not_mem (by decide))) ?_)
  have hrest : ∀ arguments, Contained (do
      let invoiceType ← invoiceTypeOf py config first
      let extraData ← extra py first
      let checks := invoiceChecks lines ++ (invoiceTotals py.limits lines).map Total.check
      let attributes ← (erpInvoice.construct checks
        (("invoice_type", invoiceType) :: arguments)).mapError (constructionFailure first.number)
      return ({ attributes, extraData, lines } : Invoice)) ↔
      (first.values.lookup "invoice_type").isSome = true ∧
        ∀ invoiceType, invoiceTypeOf py config first = .ok invoiceType →
          ∀ extraData, extra py first = .ok extraData →
          TotalsInRange erpInvoice (invoiceChecks lines) (invoiceTotals py.limits lines)
            (("invoice_type", invoiceType) :: arguments) := fun arguments => by
    refine raisesOnly_bind.trans (and_congr contained_invoiceTypeOf
      (forall₂_congr fun invoiceType _ => ?_))
    refine raisesOnly_bind.trans (Iff.trans (and_iff_right contained_extra)
      (forall₂_congr fun extraData _ => ?_))
    refine raisesOnly_bind.trans (Iff.trans (and_iff_left fun _ _ => raisesOnly_pure _) ?_)
    exact contained_construct_totals_last allBounded_invoiceChecks
  constructor
  · intro h
    exact ⟨fun arguments ha => ((hrest arguments).mp (h arguments ha)).1,
      fun arguments ha => ((hrest arguments).mp (h arguments ha)).2⟩
  · intro h arguments ha
    exact (hrest arguments).mpr ⟨h.type arguments ha, h.totals arguments ha⟩

/-- An ERP export whose rows all have the invoice cell, once they are under the canonical fields,
and whose lines and headers are in range as the loader comes to them. -/
structure ErpInRange (py : Runtime) (config : IngestionConfig) (mapped : List MappedRow) :
    Prop where
  key : ∀ row ∈ mapped, (row.values.lookup "invoice_id").isSome = true
  line : ∀ groups, groupRows py mapped = .ok groups → ∀ before group after,
    groups = before ++ group :: after → (∀ g ∈ before, ∃ i, loadInvoice py config g = .ok i) →
    ∀ earlier row later, group.members = earlier ++ row :: later →
    (∀ r ∈ earlier, ∃ line, loadLine py config group.first r = .ok line) →
    row.cell "invoice_id" = group.first.cell "invoice_id" → LineInRange py config row
  header : ∀ groups, groupRows py mapped = .ok groups → ∀ before group after,
    groups = before ++ group :: after → (∀ g ∈ before, ∃ i, loadInvoice py config g = .ok i) →
    ∀ lines, group.members.mapM (loadLine py config group.first) = .ok lines →
    HeaderInRange py config lines group.first

theorem contained_groupRows {mapped : List MappedRow} :
    Contained (groupRows py mapped) ↔
      ∀ row ∈ mapped, (row.values.lookup "invoice_id").isSome = true := by
  refine raisesOnly_bind.trans (Iff.trans (and_iff_left fun _ _ => raisesOnly_pure _) ?_)
  exact raisesOnly_forM_must.trans (or_iff_left nofun)

theorem contained_loadErpInvoices {data : List (List Cell)} :
    Contained (loadErpInvoices py config data) ↔
      ∀ mapped, mappedRows py config erpFields erpRequired data = .ok mapped →
        ErpInRange py config mapped := by
  refine raisesOnly_bind.trans (Iff.trans (and_iff_right contained_mappedRows) ?_)
  refine forall₂_congr fun mapped _ => raisesOnly_bind.trans ?_
  constructor
  · rintro ⟨hkey, hgroups⟩
    refine ⟨contained_groupRows.mp hkey, fun groups hok before group after hsplit hbefore => ?_,
      fun groups hok before group after hsplit hbefore lines hlines => ?_⟩
    · intro earlier row later hrows hearlier
      have hgroup := raisesOnly_mapM.mp (hgroups groups hok) before group after hsplit hbefore
      have hline := raisesOnly_mapM.mp (raisesOnly_bind.mp hgroup).1 earlier row later hrows hearlier
      exact contained_loadLine.mp hline
    · have hgroup := raisesOnly_mapM.mp (hgroups groups hok) before group after hsplit hbefore
      exact contained_loadHeader.mp ((raisesOnly_bind.mp hgroup).2 lines hlines)
  · intro h
    refine ⟨contained_groupRows.mpr h.key, fun groups hok => raisesOnly_mapM.mpr ?_⟩
    intro before group after hsplit hbefore
    refine raisesOnly_bind.mpr ⟨raisesOnly_mapM.mpr ?_, fun lines hlines => ?_⟩
    · intro earlier row later hrows hearlier
      exact contained_loadLine.mpr
        (h.line groups hok before group after hsplit hbefore earlier row later hrows hearlier)
    · exact contained_loadHeader.mpr (h.header groups hok before group after hsplit hbefore lines hlines)

end

/-- **When only ingestion errors leave the loaders.**  Nothing else ever leaves the loader of bank
transactions.  Nothing else leaves that of gateway settlements if and only if the net amount of each
row it comes to is in the range of the decimal arithmetic, and that of ERP invoices if and only if
every row has the invoice cell, no line number it comes to is an infinity, the first row of each
invoice it comes to has the cell of the type, and the totals it comes to are in range. -/
theorem errors_contained_iff (py : Runtime) (config : IngestionConfig) (data : List (List Cell)) :
    Contained (loadBankTransactions py config data) ∧
      (Contained (loadGatewaySettlements py config data) ↔ GatewayInRange py config data) ∧
      (Contained (loadErpInvoices py config data) ↔
        ∀ mapped, mappedRows py config erpFields erpRequired data = .ok mapped →
          ErpInRange py config mapped) :=
  ⟨contained_loadBankTransactions, contained_loadGatewaySettlements, contained_loadErpInvoices⟩

/-- The required headers, with that of the invoice last. -/
def invoiceLast : List String := erpRequired.filter (· ≠ "invoice_id") ++ ["invoice_id"]

theorem nodup_invoiceLast : invoiceLast.Nodup := by
  refine List.nodup_append'.mpr ⟨nodup_erpRequired.filter _, List.nodup_singleton _, ?_⟩
  refine List.disjoint_singleton.mpr fun hmem => ?_
  exact of_decide_eq_true (List.mem_filter.mp hmem).2 rfl

theorem mem_invoiceLast {name : String} : name ∈ invoiceLast ↔ name ∈ erpRequired := by
  have hinvoice : "invoice_id" ∈ erpRequired := by decide
  rw [invoiceLast, List.mem_append, List.mem_filter, List.mem_singleton, decide_eq_true_iff]
  by_cases hname : name = "invoice_id"
  · subst hname
    exact iff_of_true (.inr rfl) hinvoice
  · exact ⟨fun h => (h.resolve_right hname).1, fun h => .inl ⟨h, hname⟩⟩

/-- An export with a row that ends before the cell of the invoice. -/
def shortExport : List (List Cell) := [invoiceLast.map Cell.text, [.text "E"]]

/-- The `KeyError` of the row leaves the loader. -/
theorem short_row_escapes : ¬ Contained (loadErpInvoices plainRuntime {} shortExport) := by
  have hmapped := mappedRows_sample nodup_invoiceLast
    (fun _ hname => List.mem_append_left _ (mem_invoiceLast.mp hname))
    (fun _ hname => mem_invoiceLast.mpr hname) [[.text "E"]]
  intro h
  have hkey := (contained_loadErpInvoices.mp h _ hmapped).key
  revert hkey
  decide +kernel

end ReconcileFlow.Ingestion
