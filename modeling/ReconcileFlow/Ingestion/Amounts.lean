import ReconcileFlow.Ingestion.Accepted
import ReconcileFlow.Ingestion.Escapes
import ReconcileFlow.Support.DecimalLiteral

/-!
# Ingestion — Amounts

The decimal fields of the records and the texts of the cells they come from.  The conversion drops
every comma and hands what is left to a parser that reads more than plain literals.  A value is
exactly the number for which its text is a plain literal if and only if the text is `regular`
(`exact_iff`).  The later rows of an invoice are not read for the fields of the document, so these
rows have to repeat the numbers of the first row.  `amounts_exact_iff` says both for the loaders.
-/

namespace ReconcileFlow.Ingestion

open Support Support.DecimalText

/-! ### Texts without commas -/

theorem isSpace_of_isPlain {c : Char} (h : isPlain c = true) : isSpace c = false := by
  rcases Bool.or_eq_true_iff.mp h with hdigit | hmark
  · exact isSpace_of_isDigit hdigit
  · have hmem : c = '+' ∨ c = '-' ∨ c = '.' ∨ c = ',' := by simpa using hmark
    rcases hmem with rfl | rfl | rfl | rfl <;> decide

/-- A text is the stripped text between spaces. -/
theorem exists_spaces (text : String) :
    ∃ front back, text.toList = front ++ ((strip text).toList ++ back) ∧
      (∀ c ∈ front, isSpace c = true) ∧ ∀ c ∈ back, isSpace c = true := by
  set middle := text.toList.dropWhile isSpace with hmiddle
  refine ⟨text.toList.takeWhile isSpace, (middle.reverse.takeWhile isSpace).reverse, ?_,
    List.all_eq_true.mp List.all_takeWhile, fun c hc => ?_⟩
  · rw [strip, String.toList_ofList, ← hmiddle, ← List.reverse_append,
      List.takeWhile_append_dropWhile, List.reverse_reverse, hmiddle,
      List.takeWhile_append_dropWhile]
  · exact List.all_eq_true.mp List.all_takeWhile c (List.mem_reverse.mp hc)

/-- What has no spaces in it is left of a text when spaces around it are stripped. -/
theorem strip_of_spaces {text : String} {front core back : List Char}
    (htext : text.toList = front ++ (core ++ back)) (hfront : ∀ c ∈ front, isSpace c = true)
    (hcore : ∀ c ∈ core, isSpace c = false) (hback : ∀ c ∈ back, isSpace c = true) :
    strip text = String.ofList core := by
  cases hcases : core with
  | nil =>
    rw [hcases, List.nil_append] at htext
    refine strip_eq_empty (List.all_eq_true.mpr fun c hc => ?_)
    rw [htext] at hc
    exact (List.mem_append.mp hc).elim (hfront c) (hback c)
  | cons c rest =>
    have hhead : ∀ d, (core ++ back).head? = some d → isSpace d = false := by
      intro d hd
      rw [hcases] at hd
      refine hcore d ?_
      rw [hcases, ← Option.some.inj hd]
      exact List.mem_cons_self
    have hlast : ∀ d, core.reverse.head? = some d → isSpace d = false := fun d hd =>
      hcore d (List.mem_reverse.mp (List.mem_of_head? hd))
    have hbackwards : ∀ d ∈ back.reverse, isSpace d = true := fun d hd =>
      hback d (List.mem_reverse.mp hd)
    rw [strip, htext, dropWhile_front hfront hhead, List.reverse_append,
      dropWhile_front hbackwards hlast, List.reverse_reverse, hcases]

/-- Spaces may be stripped before the commas are dropped, if none stand next to a comma. -/
theorem strip_dropCommas {text : String} (h : ∀ c ∈ (strip text).toList, isSpace c = false) :
    strip (dropCommas text) = String.ofList (withoutCommas (strip text).toList) := by
  obtain ⟨front, back, htext, hfront, hback⟩ := exists_spaces text
  have hdropped : (dropCommas text).toList =
      withoutCommas front ++ (withoutCommas (strip text).toList ++ withoutCommas back) := by
    rw [dropCommas, String.toList_ofList, ← withoutCommas_append, ← withoutCommas_append, ← htext,
      withoutCommas]
  exact strip_of_spaces hdropped (fun c hc => hfront c (mem_of_mem_withoutCommas hc))
    (fun c hc => h c (mem_of_mem_withoutCommas hc)) fun c hc => hback c (mem_of_mem_withoutCommas hc)

/-! ### One cell -/

/-- The value is exactly the number for which the text, stripped, is a plain literal. -/
def Exact (text : String) (value : Option Value) : Prop :=
  ∃ d, value = some (.decimal (.finite d)) ∧ IsLiteral (strip text).toList d.toRat

section

variable {py : Runtime} {config : IngestionConfig}

/-- A regular text is read as the number that it has without its commas. -/
theorem plainNumber_of_decimalOf {text : String} (hregular : regular (strip text).toList = true)
    {value : DecimalValue} (h : decimalOf py (dropCommas text) = .ok value) :
    ∃ d, value = .finite d ∧ plainNumber (strip text).toList = some d := by
  have hplain : ∀ c ∈ (strip text).toList, isPlain c = true := by
    simp only [regular, Bool.and_eq_true] at hregular
    exact List.all_eq_true.mp hregular.1.1
  have hstrip := strip_dropCommas fun c hc => isSpace_of_isPlain (hplain c hc)
  have hwithout : ∀ c ∈ withoutCommas (strip text).toList, isPlain c = true := fun c hc =>
    hplain c (mem_of_mem_withoutCommas hc)
  rw [decimalOf, hstrip, String.toList_ofList, parse_of_isPlain _ hwithout] at h
  split at h
  · next value' hvalue =>
    obtain rfl := Except.ok.inj h
    obtain ⟨d, hd, rfl⟩ := Option.map_eq_some_iff.mp hvalue
    exact ⟨d, rfl, Option.filter_eq_some_iff.mp hd |>.1⟩
  · cases h

/-- **When a text is read exactly**: if and only if it is regular. -/
theorem exact_iff {zone : Zone} {text : String} {value : Value}
    (h : convertValue py zone (.text text) .decimal = .ok value) :
    Exact text (some value) ↔ regular (strip text).toList = true := by
  constructor
  · rintro ⟨d, -, hliteral⟩
    exact (isLiteral_iff.mp hliteral).1
  · intro hregular
    obtain ⟨value, hvalue, rfl⟩ := map_eq_ok_iff.mp h
    obtain ⟨d, rfl, hnumber⟩ := plainNumber_of_decimalOf hregular hvalue
    exact ⟨d, rfl, isLiteral_iff.mpr ⟨hregular, d, hnumber, rfl⟩⟩

/-! ### Rows -/

/-- The row gives a text under a name. -/
def GivesText (row : MappedRow) (name text : String) : Prop :=
  row.cell name = .text text ∧ ReconcileFlow.isBlank text = false

/-- The decimal fields of a model. -/
def Model.decimals (model : Model) : List String :=
  model.fields.filter fun name => decide (name ∈ Ingestion.decimals)

/-- The texts of the decimal fields are read exactly. -/
def ExactRow (model : Model) (row : MappedRow) (attributes : Attributes) : Prop :=
  ∀ name ∈ model.decimals, ∀ text, GivesText row name text → Exact text (attributes name)

/-- The texts of the decimal fields are regular. -/
def RegularRow (model : Model) (row : MappedRow) : Prop :=
  ∀ name ∈ model.decimals, ∀ text, GivesText row name text → regular (strip text).toList = true

theorem kindOf_of_mem_decimals {statusKind : Option Enumeration} {name : String}
    (h : name ∈ decimals) : kindOf statusKind name = .decimal := by
  rw [kindOf, if_pos h]

/-- The value of a decimal field of a row that gives a text for it. -/
theorem HasFields.exists_decimal {statusKind : Option Enumeration} {model : Model} {row : MappedRow}
    {attributes : Attributes} (h : HasFields py config statusKind model row attributes)
    {name text : String} (hname : name ∈ model.decimals) (htext : GivesText row name text) :
    ∃ value, attributes name = some value ∧
      convertValue py config.sourceTimezone (.text text) .decimal = .ok value := by
  obtain ⟨hfield, hdecimal⟩ := List.mem_filter.mp hname
  obtain ⟨value, hconverts, hattribute⟩ := h.1 name hfield
  obtain ⟨hcell, hblank⟩ := htext
  rw [Converts, kindOf_of_mem_decimals (of_decide_eq_true hdecimal), hcell] at hconverts
  have hgiven : (Cell.text text).isBlank = false := hblank
  obtain ⟨v, rfl, hconvert⟩ := convert_eq_ok hgiven hconverts
  exact ⟨v, hattribute, hconvert⟩

theorem exactRow_iff {statusKind : Option Enumeration} {model : Model} {row : MappedRow}
    {attributes : Attributes} (h : HasFields py config statusKind model row attributes) :
    ExactRow model row attributes ↔ RegularRow model row := by
  refine forall₂_congr fun name hname => forall₂_congr fun text htext => ?_
  obtain ⟨value, hattribute, hconvert⟩ := h.exists_decimal hname htext
  rw [hattribute]
  exact exact_iff hconvert

/-! ### Invoices -/

/-- The number of a cell, as the conversion reads it. -/
def numberOf (py : Runtime) (cell : Cell) : Option Decimal :=
  if cell.isBlank then none
  else
    match decimalOf py (dropCommas (cell.str py)) with
    | .ok (.finite d) => some d
    | _ => none

/-- The row repeats the numbers that the first row has in the decimal fields of the document. -/
def Repeats (py : Runtime) (first row : MappedRow) : Prop :=
  ∀ name ∈ erpInvoice.decimals, ∀ text, GivesText row name text →
    ∃ d d', plainNumber (strip text).toList = some d ∧ numberOf py (first.cell name) = some d' ∧
      d.toRat = d'.toRat

/-- The decimal fields of the lines and of the document are read exactly, in all rows. -/
structure ExactInvoice (group : Group String MappedRow) (invoice : Invoice) : Prop where
  lines : List.Forall₂ (fun row line => ExactRow invoiceLine row line.attributes) group.members
    invoice.lines
  document : ∀ row ∈ group.members, ExactRow erpInvoice row invoice.attributes

/-- The rows of a group are regular, and repeat the numbers of the document. -/
structure RegularGroup (py : Runtime) (group : Group String MappedRow) : Prop where
  lines : ∀ row ∈ group.members, RegularRow invoiceLine row
  document : ∀ row ∈ group.members, RegularRow erpInvoice row ∧ Repeats py group.first row

/-- The number of a decimal field is that of the cell, if it is finite. -/
theorem numberOf_eq_some_iff {statusKind : Option Enumeration} {row : MappedRow} {name : String}
    {value : Option Value} (hname : name ∈ decimals)
    (h : Converts py config statusKind row name value) {d : Decimal} :
    numberOf py (row.cell name) = some d ↔ value = some (.decimal (.finite d)) := by
  rw [Converts, kindOf_of_mem_decimals hname] at h
  unfold numberOf
  cases hblank : (row.cell name).isBlank with
  | true =>
    rw [convert_of_isBlank hblank] at h
    obtain rfl := Except.ok.inj h
    simp
  | false =>
    obtain ⟨v, rfl, hconvert⟩ := convert_eq_ok hblank h
    obtain ⟨number, hnumber, rfl⟩ := map_eq_ok_iff.mp hconvert
    rw [if_neg Bool.false_ne_true, hnumber]
    cases number <;> simp

/-- A row is read exactly for the fields of the document if it is regular and repeats the first. -/
theorem exactRow_document_iff {group : Group String MappedRow} {invoice : Invoice}
    (h : LoadedInvoice py config group invoice) {row : MappedRow} :
    ExactRow erpInvoice row invoice.attributes ↔
      RegularRow erpInvoice row ∧ Repeats py group.first row := by
  have hnumber {name : String} (hname : name ∈ erpInvoice.decimals) {d : Decimal} :
      numberOf py (group.first.cell name) = some d ↔
        invoice.attributes name = some (.decimal (.finite d)) := by
    obtain ⟨hfield, hdecimal⟩ := List.mem_filter.mp hname
    obtain ⟨value, hconverts, hattribute⟩ := h.described.fields.1 name hfield
    have hdefault : value.or (erpInvoice.defaults.lookup name) = value := Option.or_none
    rw [hattribute, hdefault]
    exact numberOf_eq_some_iff (of_decide_eq_true hdecimal) hconverts
  constructor
  · intro hexact
    refine ⟨fun name hname text htext => ?_, fun name hname text htext => ?_⟩
    · obtain ⟨d, -, hliteral⟩ := hexact name hname text htext
      exact (isLiteral_iff.mp hliteral).1
    · obtain ⟨d, hattribute, hliteral⟩ := hexact name hname text htext
      obtain ⟨-, d', hplain, heq⟩ := isLiteral_iff.mp hliteral
      exact ⟨d', d, hplain, (hnumber hname).mpr hattribute, heq⟩
  · rintro ⟨hregular, hrepeats⟩ name hname text htext
    obtain ⟨d, d', hplain, hfirst, heq⟩ := hrepeats name hname text htext
    exact ⟨d', (hnumber hname).mp hfirst,
      isLiteral_iff.mpr ⟨hregular name hname text htext, d, hplain, heq⟩⟩

theorem exactInvoice_iff {group : Group String MappedRow} {invoice : Invoice}
    (h : LoadedInvoice py config group invoice) :
    ExactInvoice group invoice ↔ RegularGroup py group := by
  have hlines : List.Forall₂ (fun row line => ExactRow invoiceLine row line.attributes) group.members
        invoice.lines ↔ ∀ row ∈ group.members, RegularRow invoiceLine row :=
    forall₂_iff_forall h.lines fun _ _ hline => exactRow_iff hline.described.fields
  have hdocument : (∀ row ∈ group.members, ExactRow erpInvoice row invoice.attributes) ↔
      ∀ row ∈ group.members, RegularRow erpInvoice row ∧ Repeats py group.first row :=
    forall₂_congr fun row _ => exactRow_document_iff h
  constructor
  · rintro ⟨hexact, hexact'⟩
    exact ⟨hlines.mp hexact, hdocument.mp hexact'⟩
  · rintro ⟨hregular, hregular'⟩
    exact ⟨hlines.mpr hregular, hdocument.mpr hregular'⟩

/-! ### The loaders -/

theorem exactRows_iff {model : Model} (hmodel : model.Textless) {checks : List Check}
    (hkeep : AllKeep checks) {statusKind : Enumeration} {data : List (List Cell)}
    {mapped : List MappedRow} {records : List Record}
    (hmapped : mappedRows py config (model.fields ++ ["extra_data", "extra_data_json"])
      model.required data = .ok mapped)
    (h : loadSimple py config model checks statusKind data = .ok records) :
    List.Forall₂ (fun row record => ExactRow model row record.attributes) mapped records ↔
      ∀ row ∈ mapped, RegularRow model row :=
  forall₂_iff_forall (loadSimple_eq_ok hmodel hkeep hmapped h) fun _ _ hrow =>
    exactRow_iff hrow.1.fields

theorem exactInvoices_iff {data : List (List Cell)} {mapped : List MappedRow}
    {invoices : List Invoice} (hmapped : mappedRows py config erpFields erpRequired data = .ok mapped)
    (h : loadErpInvoices py config data = .ok invoices) :
    List.Forall₂ ExactInvoice (groupsOf py mapped) invoices ↔
      ∀ group ∈ groupsOf py mapped, RegularGroup py group :=
  forall₂_iff_forall (loadErpInvoices_eq_ok hmapped h) fun _ _ => exactInvoice_iff

end

/-- **When decimal texts are read exactly**: if and only if those of an accepted table are regular,
and the later rows of an invoice repeat the numbers of its first row.  A text that does not convert
is rejected with an `IngestionError`. -/
theorem amounts_exact_iff (py : Runtime) (config : IngestionConfig) (data : List (List Cell)) :
    (∀ mapped records, mappedRows py config
        (bankTransaction.fields ++ ["extra_data", "extra_data_json"]) bankTransaction.required data =
          .ok mapped →
      loadBankTransactions py config data = .ok records →
      (List.Forall₂ (fun row record => ExactRow bankTransaction row record.attributes) mapped
        records ↔ ∀ row ∈ mapped, RegularRow bankTransaction row)) ∧
    (∀ mapped records, mappedRows py config
        (gatewaySettlementEntry.fields ++ ["extra_data", "extra_data_json"])
        gatewaySettlementEntry.required data = .ok mapped →
      loadGatewaySettlements py config data = .ok records →
      (List.Forall₂ (fun row record => ExactRow gatewaySettlementEntry row record.attributes) mapped
        records ↔ ∀ row ∈ mapped, RegularRow gatewaySettlementEntry row)) ∧
    (∀ mapped invoices, mappedRows py config erpFields erpRequired data = .ok mapped →
      loadErpInvoices py config data = .ok invoices →
      (List.Forall₂ ExactInvoice (groupsOf py mapped) invoices ↔
        ∀ group ∈ groupsOf py mapped, RegularGroup py group)) ∧
    ∀ statusKind row name, name ∈ decimals → Contained (argument py config statusKind row name) := by
  refine ⟨fun mapped records hmapped h => ?_, fun mapped records hmapped h => ?_,
    fun mapped invoices hmapped h => exactInvoices_iff hmapped h, fun statusKind row name hname => ?_⟩
  · exact exactRows_iff textless_bankTransaction allKeep_bankChecks hmapped h
  · exact exactRows_iff textless_gatewaySettlementEntry (allKeep_allGatewayChecks py) hmapped h
  · refine contained_argument.mpr fun _ hint => ?_
    rw [kindOf_of_mem_decimals hname] at hint
    cases hint

theorem amounts_exact_sample : ∃ invoices,
    loadErpInvoices plainRuntime {} sampleExport = .ok invoices ∧
      (List.Forall₂ ExactInvoice (groupsOf plainRuntime sampleRows) invoices ↔
        ∀ group ∈ groupsOf plainRuntime sampleRows, RegularGroup plainRuntime group) := by
  obtain ⟨invoices, haccepted⟩ := sample_accepted
  exact ⟨invoices, haccepted,
    (amounts_exact_iff plainRuntime {} sampleExport).2.2.1 _ _ sample_mapped haccepted⟩

/-- A decimal comma is dropped: the line of the text `1,50` has the quantity `150`. -/
theorem decimal_comma_misread : ∃ invoices,
    loadErpInvoices plainRuntime {} sampleExport = .ok invoices ∧
      (∃ invoice ∈ invoices, ∃ line ∈ invoice.lines,
        line.attributes "quantity" = some (.decimal (.finite ⟨false, 150, 0⟩))) ∧
      ¬ List.Forall₂ ExactInvoice (groupsOf plainRuntime sampleRows) invoices := by
  obtain ⟨invoices, haccepted⟩ := sample_accepted
  have hmem : secondRow ∈ sampleRows := List.mem_cons_of_mem _ List.mem_cons_self
  obtain ⟨group, hgroup, hrow⟩ := exists_group (· == ·) (invoiceKey plainRuntime) hmem
  have hname : "quantity" ∈ invoiceLine.decimals := by decide +kernel
  have htext : GivesText secondRow "quantity" "1,50" := by
    unfold GivesText
    decide +kernel
  refine ⟨invoices, haccepted, ?_, fun hexact => ?_⟩
  · obtain ⟨invoice, hinvoice, hloaded⟩ :=
      exists_right_of_mem (loadErpInvoices_eq_ok sample_mapped haccepted) hgroup
    obtain ⟨line, hline, hrowLine⟩ := exists_right_of_mem hloaded.lines hrow
    obtain ⟨value, hattribute, hconvert⟩ := hrowLine.described.fields.exists_decimal hname htext
    refine ⟨invoice, hinvoice, line, hline, hattribute.trans (congrArg some ?_)⟩
    have hnumber : (convertValue plainRuntime ({} : IngestionConfig).sourceTimezone (.text "1,50")
        .decimal).toOption = some (.decimal (.finite ⟨false, 150, 0⟩)) := by decide +kernel
    rw [hconvert] at hnumber
    exact Option.some.inj hnumber
  · have hregular := (exactInvoices_iff sample_mapped haccepted).mp hexact group hgroup
    have := hregular.lines secondRow hrow "quantity" hname "1,50" htext
    revert this
    decide +kernel

end ReconcileFlow.Ingestion
