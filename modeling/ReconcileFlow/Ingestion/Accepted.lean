import ReconcileFlow.Ingestion.Headers
import ReconcileFlow.Ingestion.Validation

/-!
# Ingestion — Accepted

What a table that a loader accepts says about the records it returns.  The cells of a row that gives
a record convert, and the record has their values (`Described`).  The rows of the simple loaders give
a record each (`loadSimple_eq_ok`); those of an ERP export give the lines of the invoice of their
group, which has the values of the first row of the group (`loadErpInvoices_eq_ok`).
-/

namespace ReconcileFlow.Ingestion

open Support

section

variable {py : Runtime} {config : IngestionConfig} {statusKind : Option Enumeration}

/-- The cell under a name converts to a value, or to nothing if it is blank. -/
def Converts (py : Runtime) (config : IngestionConfig) (statusKind : Option Enumeration)
    (row : MappedRow) (name : String) (value : Option Value) : Prop :=
  convert py config.sourceTimezone row.number name (kindOf statusKind name) (row.cell name) =
    .ok value

theorem argument_eq_ok_iff {row : MappedRow} {name : String} {p : String × Option Value} :
    argument py config statusKind row name = .ok p ↔
      p.1 = name ∧ Converts py config statusKind row name p.2 := by
  obtain ⟨name', value⟩ := p
  refine bind_eq_ok_iff.trans ⟨?_, ?_⟩
  · rintro ⟨_, hvalue, h⟩
    cases h
    exact ⟨rfl, hvalue⟩
  · rintro ⟨rfl, hvalue⟩
    exact ⟨value, hvalue, rfl⟩

theorem convert_of_isBlank {zone : Zone} {row : Nat} {column : String} {kind : Kind} {cell : Cell}
    (h : cell.isBlank = true) : convert py zone row column kind cell = .ok none := by
  rw [convert, if_pos h]

/-- A cell that converts and is not blank has a value. -/
theorem convert_eq_ok {zone : Zone} {row : Nat} {column : String} {kind : Kind} {cell : Cell}
    (hblank : cell.isBlank = false) {v : Option Value}
    (h : convert py zone row column kind cell = .ok v) :
    ∃ value, v = some value ∧ convertValue py zone cell kind = .ok value := by
  rw [convert, if_neg (Bool.eq_false_iff.mp hblank)] at h
  split at h
  · next value hvalue => exact ⟨value, (Except.ok.inj h).symm, hvalue⟩
  · cases h
  · cases h

theorem convertValue_text {zone : Zone} {kind : Kind} {cell : Cell} {text : String}
    (h : convertValue py zone cell kind = .ok (.text text)) : text = textOf py cell := by
  cases kind with
  | str => exact (Value.text.inj (Except.ok.inj h)).symm
  | decimal =>
    obtain ⟨_, -, h⟩ := map_eq_ok_iff.mp h
    cases h
  | int =>
    obtain ⟨_, -, h⟩ := bind_eq_ok_iff.mp h
    obtain ⟨_, -, h⟩ := map_eq_ok_iff.mp h
    cases h
  | bool =>
    simp only [convertValue] at h
    split at h
    · cases h
    · split at h <;> cases h
  | date =>
    obtain ⟨_, -, h⟩ := map_eq_ok_iff.mp h
    cases h
  | datetime =>
    obtain ⟨_, -, h⟩ := bind_eq_ok_iff.mp h
    cases h
  | enum enumeration =>
    simp only [convertValue] at h
    split at h <;> cases h

/-- The texts of arguments are stripped. -/
theorem Converts.stripped {row : MappedRow} {name text : String}
    (h : Converts py config statusKind row name (some (.text text))) : strip text = text := by
  cases hblank : (row.cell name).isBlank with
  | true =>
    rw [Converts, convert_of_isBlank hblank] at h
    cases h
  | false =>
    obtain ⟨value, hvalue, hconvert⟩ := convert_eq_ok hblank h
    obtain rfl := Option.some.inj hvalue
    rw [convertValue_text hconvert]
    exact strip_textOf py _

/-! ### The arguments of a row -/

theorem kwargs_eq_ok {names : List String} {row : MappedRow}
    {arguments : List (String × Option Value)}
    (h : kwargs py config statusKind names row = .ok arguments) :
    List.Forall₂ (fun name p => p.1 = name ∧ Converts py config statusKind row name p.2)
      (names.filter row.gives) arguments :=
  (mapM_eq_ok_iff.mp h).imp fun _ _ => argument_eq_ok_iff.mp

/-- The attributes of a model are the values of the cells, with the defaults for those that are
blank. -/
def HasFields (py : Runtime) (config : IngestionConfig) (statusKind : Option Enumeration)
    (model : Model) (row : MappedRow) (attributes : Attributes) : Prop :=
  (∀ name ∈ model.fields, ∃ value, Converts py config statusKind row name value ∧
      attributes name = value.or (model.defaults.lookup name)) ∧
    ∀ name ∉ model.fields, attributes name = model.defaults.lookup name

theorem hasFields_initial {model : Model} {row : MappedRow}
    {arguments : List (String × Option Value)}
    (h : kwargs py config statusKind (py.order model.fields) row = .ok arguments) :
    HasFields py config statusKind model row (model.initial arguments) := by
  have hargs := kwargs_eq_ok h
  have hmem (name : String) : name ∈ (py.order model.fields).filter row.gives ↔
      name ∈ model.fields ∧ (row.cell name).isBlank = false := by
    rw [List.mem_filter, (py.order_perm model.fields).mem_iff]
    simp [MappedRow.gives]
  refine ⟨fun name hname => ?_, fun name hname => ?_⟩
  · cases hblank : (row.cell name).isBlank with
    | true =>
      refine ⟨none, convert_of_isBlank hblank, ?_⟩
      have hnot : name ∉ (py.order model.fields).filter row.gives := by
        rw [hmem, hblank]
        exact fun hboth => Bool.noConfusion hboth.2
      rw [Model.initial, lookup_of_forall₂_not_mem hargs hnot]
      rfl
    | false =>
      obtain ⟨v, hv, hconverts⟩ := lookup_of_forall₂ hargs ((hmem name).mpr ⟨hname, hblank⟩)
      obtain ⟨value, rfl, -⟩ := convert_eq_ok hblank hconverts
      refine ⟨some value, hconverts, ?_⟩
      rw [Model.initial, hv]
      rfl
  · have hnot : name ∉ (py.order model.fields).filter row.gives := fun hin =>
      hname ((hmem name).mp hin).1
    rw [Model.initial, lookup_of_forall₂_not_mem hargs hnot]

/-- The defaults of a model are no texts. -/
def Model.Textless (model : Model) : Prop :=
  ∀ name text, model.defaults.lookup name ≠ some (.text text)

theorem HasFields.stripped {model : Model} (hmodel : model.Textless) {row : MappedRow}
    {attributes : Attributes} (h : HasFields py config statusKind model row attributes) :
    attributes.Stripped := by
  intro name text htext
  by_cases hname : name ∈ model.fields
  · obtain ⟨value, hconverts, hvalue⟩ := h.1 name hname
    rw [htext] at hvalue
    cases value with
    | none => exact absurd hvalue.symm (hmodel name text)
    | some value =>
      obtain rfl := Option.some.inj hvalue
      exact hconverts.stripped
  · exact absurd ((h.2 name hname).symm.trans htext) (hmodel name text)

/-- The attributes are those of a row, and pass each check. -/
structure Described (py : Runtime) (config : IngestionConfig) (statusKind : Option Enumeration)
    (model : Model) (checks : List Check) (row : MappedRow) (attributes : Attributes) : Prop where
  fields : HasFields py config statusKind model row attributes
  passed : ∀ check ∈ checks, check attributes = .ok attributes

theorem described_of_construct {model : Model} (hmodel : model.Textless) {checks : List Check}
    (hkeep : AllKeep checks) {row : MappedRow} {arguments : List (String × Option Value)}
    (hfields : HasFields py config statusKind model row (model.initial arguments))
    {attributes : Attributes} (h : model.construct checks arguments = .ok attributes) :
    Described py config statusKind model checks row attributes := by
  obtain ⟨-, rfl, hpassed⟩ := (construct_eq_ok_iff hkeep (hfields.stripped hmodel)).mp h
  exact ⟨hfields, hpassed⟩

/-! ### The simple loaders -/

theorem loadRow_eq_ok {model : Model} (hmodel : model.Textless) {checks : List Check}
    (hkeep : AllKeep checks) {statusKind : Enumeration} {row : MappedRow} {record : Record}
    (h : loadRow py config model checks statusKind row = .ok record) :
    Described py config (some statusKind) model checks row record.attributes ∧
      extra py row = .ok record.extraData := by
  obtain ⟨arguments, harguments, h⟩ := bind_eq_ok_iff.mp h
  obtain ⟨extraData, hextra, h⟩ := bind_eq_ok_iff.mp h
  obtain ⟨attributes, hconstruct, h⟩ := bind_eq_ok_iff.mp h
  cases h
  have hfields := hasFields_initial harguments
  exact ⟨described_of_construct hmodel hkeep hfields (mapError_eq_ok_iff.mp hconstruct), hextra⟩

theorem loadSimple_eq_ok {model : Model} (hmodel : model.Textless) {checks : List Check}
    (hkeep : AllKeep checks) {statusKind : Enumeration} {data : List (List Cell)}
    {mapped : List MappedRow} {records : List Record}
    (hmapped : mappedRows py config (model.fields ++ ["extra_data", "extra_data_json"])
      model.required data = .ok mapped)
    (h : loadSimple py config model checks statusKind data = .ok records) :
    List.Forall₂ (fun row record =>
      Described py config (some statusKind) model checks row record.attributes ∧
        extra py row = .ok record.extraData) mapped records := by
  obtain ⟨mapped', hmapped', h⟩ := bind_eq_ok_iff.mp h
  obtain rfl := Except.ok.inj (hmapped.symm.trans hmapped')
  exact (mapM_eq_ok_iff.mp h).imp fun _ _ => loadRow_eq_ok hmodel hkeep

theorem textless_bankTransaction : bankTransaction.Textless := by
  intro name text h
  have := mem_of_lookup h
  simp [bankTransaction] at this

theorem textless_gatewaySettlementEntry : gatewaySettlementEntry.Textless := nofun

theorem textless_invoiceLine : invoiceLine.Textless := by
  intro name text h
  have := mem_of_lookup h
  simp [invoiceLine] at this

theorem textless_erpInvoice : erpInvoice.Textless := nofun

/-! ### ERP invoices -/

/-- The checks of a line. -/
def allLineChecks (py : Runtime) : List Check :=
  lineChecks ++ (lineTotals py.limits).map Total.check

/-- The checks of an invoice. -/
def allInvoiceChecks (py : Runtime) (lines : List Record) : List Check :=
  invoiceChecks lines ++ (invoiceTotals py.limits lines).map Total.check

/-- The line that a row gives to an invoice. -/
structure LoadedLine (py : Runtime) (config : IngestionConfig) (first row : MappedRow)
    (line : Record) : Prop where
  cell : row.cell "invoice_id" = first.cell "invoice_id"
  described : Described py config none invoiceLine (allLineChecks py) row line.attributes
  extra : line.extraData = fun _ => none

theorem loadLine_eq_ok {first row : MappedRow} {line : Record}
    (h : loadLine py config first row = .ok line) : LoadedLine py config first row line := by
  obtain ⟨_, hcell, h⟩ := bind_eq_ok_iff.mp h
  obtain ⟨arguments, harguments, h⟩ := bind_eq_ok_iff.mp h
  obtain ⟨attributes, hconstruct, h⟩ := bind_eq_ok_iff.mp h
  cases h
  have hkeep : AllKeep (allLineChecks py) :=
    allKeep_append.mpr ⟨allKeep_lineChecks, allKeep_totals _⟩
  exact ⟨must_eq_ok_iff.mp hcell, described_of_construct textless_invoiceLine hkeep
    (hasFields_initial harguments) (mapError_eq_ok_iff.mp hconstruct), rfl⟩

theorem kindOf_invoiceType : kindOf (some .invoiceStatus) "invoice_type" = .enum .invoiceType := by
  decide +kernel

/-- The invoice type is converted a second time, in the same way. -/
theorem converts_invoiceTypeOf {first : MappedRow} {value : Option Value}
    (h : invoiceTypeOf py config first = .ok value) :
    Converts py config (some .invoiceStatus) first "invoice_type" value := by
  unfold invoiceTypeOf at h
  split at h
  · cases h
  · next cell hcell =>
    rw [Converts, kindOf_invoiceType, MappedRow.cell, hcell]
    exact h

theorem hasFields_invoiceType {first : MappedRow} {arguments : List (String × Option Value)}
    {invoiceType : Option Value}
    (h : HasFields py config (some .invoiceStatus) erpInvoice first (erpInvoice.initial arguments))
    (htype : invoiceTypeOf py config first = .ok invoiceType) :
    HasFields py config (some .invoiceStatus) erpInvoice first
      (erpInvoice.initial (("invoice_type", invoiceType) :: arguments)) := by
  have hother {name : String} (hname : name ≠ "invoice_type") :
      erpInvoice.initial (("invoice_type", invoiceType) :: arguments) name =
        erpInvoice.initial arguments name := by
    rw [Model.initial, Model.initial, List.lookup_cons, beq_eq_false_iff_ne.mpr hname]
  have hfield : "invoice_type" ∈ erpInvoice.fields := by decide
  refine ⟨fun name hname => ?_, fun name hname => ?_⟩
  · by_cases htypeName : name = "invoice_type"
    · subst htypeName
      refine ⟨invoiceType, converts_invoiceTypeOf htype, ?_⟩
      rw [Model.initial, List.lookup_cons_self]
      cases invoiceType <;> rfl
    · rw [hother htypeName]
      exact h.1 name hname
  · rw [hother fun heq : name = "invoice_type" => hname (heq ▸ hfield)]
    exact h.2 name hname

/-- The invoice of a group: its lines are those of the rows of the group, in order, and it has the
values of the first row. -/
structure LoadedInvoice (py : Runtime) (config : IngestionConfig) (group : Group String MappedRow)
    (invoice : Invoice) : Prop where
  lines : List.Forall₂ (LoadedLine py config group.first) group.members invoice.lines
  described : Described py config (some .invoiceStatus) erpInvoice
    (allInvoiceChecks py invoice.lines) group.first invoice.attributes
  extra : extra py group.first = .ok invoice.extraData

theorem loadInvoice_eq_ok {group : Group String MappedRow} {invoice : Invoice}
    (h : loadInvoice py config group = .ok invoice) : LoadedInvoice py config group invoice := by
  obtain ⟨lines, hlines, h⟩ := bind_eq_ok_iff.mp h
  obtain ⟨arguments, harguments, h⟩ := bind_eq_ok_iff.mp h
  obtain ⟨invoiceType, htype, h⟩ := bind_eq_ok_iff.mp h
  obtain ⟨extraData, hextra, h⟩ := bind_eq_ok_iff.mp h
  obtain ⟨attributes, hconstruct, h⟩ := bind_eq_ok_iff.mp h
  cases h
  have hkeep : AllKeep (allInvoiceChecks py lines) :=
    allKeep_append.mpr ⟨allKeep_invoiceChecks lines, allKeep_totals _⟩
  exact ⟨(mapM_eq_ok_iff.mp hlines).imp fun _ _ => loadLine_eq_ok,
    described_of_construct textless_erpInvoice hkeep
      (hasFields_invoiceType (hasFields_initial harguments) htype)
      (mapError_eq_ok_iff.mp hconstruct), hextra⟩

/-- The groups of the rows of an ERP export. -/
def groupsOf (py : Runtime) (mapped : List MappedRow) : List (Group String MappedRow) :=
  groupOn (· == ·) (invoiceKey py) mapped

theorem loadErpInvoices_eq_ok {data : List (List Cell)} {mapped : List MappedRow}
    {invoices : List Invoice}
    (hmapped : mappedRows py config erpFields erpRequired data = .ok mapped)
    (h : loadErpInvoices py config data = .ok invoices) :
    List.Forall₂ (LoadedInvoice py config) (groupsOf py mapped) invoices := by
  obtain ⟨mapped', hmapped', h⟩ := bind_eq_ok_iff.mp h
  obtain rfl := Except.ok.inj (hmapped.symm.trans hmapped')
  obtain ⟨groups, hgroups, h⟩ := bind_eq_ok_iff.mp h
  obtain ⟨_, -, hgroups⟩ := bind_eq_ok_iff.mp hgroups
  cases hgroups
  exact (mapM_eq_ok_iff.mp h).imp fun _ _ => loadInvoice_eq_ok

end

/-! ### A sample export -/

/-- The cells of a row, in the order of the sample's headers. -/
def sampleCells (invoiceId currency subtotal lineId : String) (lineNumber : Int)
    (quantity unitPrice net : String) (channel : Cell) : List Cell :=
  [.text "E", .text "1", .text invoiceId, .text "1", .text "INVOICE", .text "OPEN",
    .datetime ⟨739927, 0, none⟩, .text currency, .text "S", .text "S", .text "C", .text "C",
    .text subtotal, .text "0", .text "0", .text "0", .text subtotal, .text "0", .text "0",
    .text subtotal, .datetime ⟨739927, 0, none⟩, .text lineId, .int lineNumber, .text "I",
    .text quantity, .text unitPrice, .text net, .text "0", .text "0", .text net, channel]

def firstCells : List Cell := sampleCells "1" "EUR" "500" "1" 1 "1" "200" "200" .absent

/-- Another line of the invoice, with another currency, a decimal comma and a cell that no field
takes. -/
def secondCells : List Cell := sampleCells "1" "USD" "500" "2" 2 "1,50" "2" "300" (.text "web")

/-- The line of another invoice, whose cell has a space in front. -/
def paddedCells : List Cell := sampleCells " 1" "EUR" "2" "1" 1 "1" "2" "2" .absent

def sampleExport : List (List Cell) :=
  [sampleHeaders.map Cell.text, firstCells, secondCells, paddedCells]

/-- A row of the sample under the canonical fields. -/
def sampleRow (number : Nat) (cells : List Cell) (unknown : List (String × Cell)) : MappedRow where
  number := number
  values := erpRequired.zip cells
  unknown := unknown

def firstRow : MappedRow := sampleRow 2 firstCells []

def secondRow : MappedRow := sampleRow 3 secondCells [("channel", .text "web")]

def paddedRow : MappedRow := sampleRow 4 paddedCells []

def sampleRows : List MappedRow := [firstRow, secondRow, paddedRow]

theorem sample_mapped :
    mappedRows plainRuntime {} erpFields erpRequired sampleExport = .ok sampleRows := by
  have hnodup : sampleHeaders.Nodup := by
    simp [sampleHeaders, erpRequired, erpInvoice, invoiceLine]
  refine (mappedRows_sample hnodup (List.Subset.refl _) (List.subset_append_left _ _) _).trans ?_
  decide +kernel

theorem sample_accepted :
    ∃ invoices, loadErpInvoices plainRuntime {} sampleExport = .ok invoices := by
  have hgroups : groupRows plainRuntime sampleRows = .ok (groupsOf plainRuntime sampleRows) := by
    refine bind_eq_ok_iff.mpr ⟨(), ?_, rfl⟩
    decide +kernel
  have hload :
      ((groupsOf plainRuntime sampleRows).mapM (loadInvoice plainRuntime {})).isOk = true := by
    decide +kernel
  cases h : (groupsOf plainRuntime sampleRows).mapM (loadInvoice plainRuntime {}) with
  | error e =>
    rw [h] at hload
    cases hload
  | ok invoices =>
    refine ⟨invoices, bind_eq_ok_iff.mpr ⟨_, sample_mapped, ?_⟩⟩
    exact bind_eq_ok_iff.mpr ⟨_, hgroups, h⟩

end ReconcileFlow.Ingestion
