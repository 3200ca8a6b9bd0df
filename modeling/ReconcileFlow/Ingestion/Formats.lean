import ReconcileFlow.Ingestion.Columns
import ReconcileFlow.Ingestion.Files
import ReconcileFlow.Ingestion.Invoices

/-!
# Ingestion — Formats

A table is loaded alike from a CSV file and from a workbook.  The two have an empty cell differently:
as an empty text and as nothing.  Rows that differ in this alone (`MappedRow.Alike`) give the same
records, whatever the field.  Only the grouping of invoices sees a difference, as the text of nothing
is `None`; but an invoice without an id is not loaded anyway (`loadErpInvoices_alike`).  So
`formats_agree`.
-/

namespace ReconcileFlow.Ingestion

open Support

/-! ### Cells that are alike -/

/-- The first cell is as in a workbook, and the second as in a CSV file. -/
inductive Cell.Alike : Cell → Cell → Prop
  | same (cell : Cell) : Alike cell cell
  | empty : Alike .absent (.text "")

namespace Cell.Alike

variable {py : Runtime} {c c' : Cell}

theorem isBlank_eq (h : c.Alike c') : c'.isBlank = c.isBlank := by
  cases h <;> rfl

theorem isPresent_eq (h : c.Alike c') : c'.isPresent = c.isPresent := by
  cases h <;> rfl

theorem headerOf_eq (h : c.Alike c') : headerOf py c' = headerOf py c := by
  cases h <;> rfl

theorem eq_of_nonblank (h : c.Alike c') (hblank : c.isBlank = false) : c' = c := by
  cases h with
  | same => rfl
  | empty => cases hblank

theorem eq_of_isPresent (h : c.Alike c') (hpresent : c.isPresent = true) : c' = c := by
  cases h with
  | same => rfl
  | empty => cases hpresent

end Cell.Alike

/-- The cells under one header, or field. -/
abbrev EntryAlike (p p' : String × Cell) : Prop := p'.1 = p.1 ∧ p.2.Alike p'.2

theorem lookup_alike {l l' : List (String × Cell)} (h : List.Forall₂ EntryAlike l l') (k : String) :
    Option.Rel Cell.Alike (l.lookup k) (l'.lookup k) := by
  induction h with
  | nil => exact .none
  | @cons p p' l l' hp _ ih =>
    obtain ⟨name, cell⟩ := p
    obtain ⟨name', cell'⟩ := p'
    obtain ⟨rfl, hcell⟩ := hp
    rw [List.lookup_cons, List.lookup_cons]
    cases k == name' with
    | true => exact .some hcell
    | false => exact ih

/-- Those that are present are the same. -/
theorem filter_alike {l l' : List (String × Cell)} (h : List.Forall₂ EntryAlike l l')
    (q : String → Bool) :
    l'.filter (fun p => q p.1 && p.2.isPresent) = l.filter fun p => q p.1 && p.2.isPresent := by
  induction h with
  | nil => rfl
  | @cons p p' l l' hp _ ih =>
    obtain ⟨name, cell⟩ := p
    obtain ⟨name', cell'⟩ := p'
    obtain ⟨rfl, hcell⟩ := hp
    have hpresent : cell'.isPresent = cell.isPresent := hcell.isPresent_eq
    rw [List.filter_cons, List.filter_cons, ih]
    simp only [hpresent]
    cases hc : cell.isPresent with
    | false => simp
    | true =>
      have hsame : cell' = cell := hcell.eq_of_isPresent hc
      rw [hsame]

/-! ### Rows that are alike -/

structure Row.Alike (r r' : Row) : Prop where
  number : r.number = r'.number
  values : List.Forall₂ EntryAlike r.values r'.values

structure MappedRow.Alike (r r' : MappedRow) : Prop where
  number : r.number = r'.number
  values : ∀ name, Option.Rel Cell.Alike (r.values.lookup name) (r'.values.lookup name)
  unknown : r.unknown = r'.unknown

theorem zip_alike {cells cells' : List Cell} (h : List.Forall₂ Cell.Alike cells cells') :
    ∀ headers : List String, List.Forall₂ EntryAlike (headers.zip cells) (headers.zip cells') := by
  induction h with
  | nil =>
    intro headers
    cases headers <;> exact .nil
  | cons hcell _ ih =>
    intro headers
    cases headers with
    | nil => exact .nil
    | cons header headers => exact .cons ⟨rfl, hcell⟩ (ih headers)

theorem any_isPresent_alike {cells cells' : List Cell} (h : List.Forall₂ Cell.Alike cells cells') :
    cells'.any Cell.isPresent = cells.any Cell.isPresent := by
  induction h with
  | nil => rfl
  | cons hcell _ ih => rw [List.any_cons, List.any_cons, hcell.isPresent_eq, ih]

theorem headers_alike {py : Runtime} {cells cells' : List Cell}
    (h : List.Forall₂ Cell.Alike cells cells') :
    cells'.map (headerOf py) = cells.map (headerOf py) :=
  (map_eq_map_of_forall₂ h fun _ _ hcell => hcell.headerOf_eq.symm).symm

theorem rowsOf_alike {data data' : List (List Cell)}
    (h : List.Forall₂ (List.Forall₂ Cell.Alike) data data') (headers : List String) :
    List.Forall₂ Row.Alike (rowsOf headers data) (rowsOf headers data') := by
  unfold rowsOf
  generalize 2 = n
  induction h generalizing n with
  | nil => exact .nil
  | @cons cells cells' data data' hcells _ ih =>
    rw [List.zipIdx_cons, List.zipIdx_cons, List.filter_cons, List.filter_cons]
    simp only [any_isPresent_alike hcells]
    split
    · exact .cons ⟨rfl, zip_alike hcells headers⟩ (ih (n + 1))
    · exact ih (n + 1)

/-- Both tables are read, with the same headers and rows that are alike, or neither is. -/
theorem read_alike {py : Runtime} {data data' : List (List Cell)}
    (h : List.Forall₂ (List.Forall₂ Cell.Alike) data data') :
    (∃ e, read py data = .error e ∧ read py data' = .error e) ∨
      ∃ headers rows rows', read py data = .ok (headers, rows) ∧
        read py data' = .ok (headers, rows') ∧ List.Forall₂ Row.Alike rows rows' := by
  cases h with
  | nil => exact .inl ⟨_, rfl, rfl⟩
  | @cons first first' rest rest' hfirst hrest =>
    simp only [read, any_isPresent_alike hfirst, headers_alike hfirst]
    generalize hheaders : first.map (headerOf py) = headers
    have hrows := rowsOf_alike hrest headers
    by_cases hpresent : first.any Cell.isPresent = true
    · by_cases hblank : "" ∉ headers
      · simp only [must, hpresent, hblank, not_false_eq_true, if_true]
        cases (headers.map (key py)).find? fun name =>
            decide (1 < (headers.map (key py)).count name) with
        | some duplicate => exact .inl ⟨_, rfl, rfl⟩
        | none => exact .inr ⟨headers, _, _, rfl, rfl, hrows⟩
      · refine .inl ⟨{ message := "header names cannot be blank", row := some 1 }, ?_, ?_⟩ <;>
          simp only [must, hpresent, hblank, if_true, if_false] <;> rfl
    · refine .inl ⟨{ message := "file has no header row" }, ?_, ?_⟩ <;>
        simp only [must, hpresent] <;> rfl

theorem mapRow_alike {r r' : Row} (h : r.Alike r') (resolved : List (String × String)) :
    (mapRow resolved r).Alike (mapRow resolved r') where
  number := h.number
  values := by
    refine lookup_alike ?_
    simp only [mapRow]
    refine List.rel_filterMap (R := EntryAlike) ?_ h.values
    rintro ⟨header, cell⟩ ⟨header', cell'⟩ ⟨rfl, hcell⟩
    dsimp only
    cases resolved.lookup header' with
    | none => exact .none
    | some target => exact .some ⟨rfl, hcell⟩
  unknown := (filter_alike h.values fun header => (resolved.lookup header).isNone).symm

section Loaders

variable {py : Runtime} {config : IngestionConfig}

/-- Of the rows `_map_rows` asks nothing. -/
theorem mapRows_eq (canonical headers required : List String) :
    ∃ checked : Except IngestionError (List (String × String)), ∀ rows,
      mapRows py config canonical headers rows required =
        (fun resolved => rows.map (mapRow resolved)) <$> checked := by
  refine ⟨do
    must (invalidTargets py config canonical = []) {
      message := "mapping targets unknown fields: " ++
        ", ".intercalate (invalidTargets py config canonical) }
    let resolved ← resolveHeaders py config canonical headers
    let missing := sortOn id (required.filter fun name => decide (name ∉ resolved.map Prod.snd))
    must (missing = []) {
      message := "missing required columns: " ++ ", ".intercalate missing
      row := some 1 }
    return resolved, fun rows => ?_⟩
  unfold mapRows
  rw [map_bind]
  refine congrArg _ (funext fun _ => ?_)
  rw [map_bind]
  refine congrArg _ (funext fun resolved => ?_)
  rw [map_bind]
  rfl

theorem mappedRows_alike {data data' : List (List Cell)}
    (h : List.Forall₂ (List.Forall₂ Cell.Alike) data data') (canonical required : List String) :
    (∃ e, mappedRows py config canonical required data = .error e ∧
        mappedRows py config canonical required data' = .error e) ∨
      ∃ mapped mapped', mappedRows py config canonical required data = .ok mapped ∧
        mappedRows py config canonical required data' = .ok mapped' ∧
        List.Forall₂ MappedRow.Alike mapped mapped' := by
  unfold mappedRows
  rcases @read_alike py _ _ h with ⟨e, he, he'⟩ | ⟨headers, rows, rows', hr, hr', hrows⟩
  · rw [he, he']
    exact .inl ⟨_, rfl, rfl⟩
  · obtain ⟨checked, hchecked⟩ := @mapRows_eq py config canonical headers required
    rw [hr, hr']
    simp only [bind, Except.bind, hchecked]
    cases checked with
    | error e => exact .inl ⟨_, rfl, rfl⟩
    | ok resolved =>
      refine .inr ⟨_, _, rfl, rfl, ?_⟩
      rw [List.forall₂_map_left_iff, List.forall₂_map_right_iff]
      exact hrows.imp fun _ _ hrow => mapRow_alike hrow resolved

/-! ### Loading rows that are alike -/

variable {r r' : MappedRow}

theorem MappedRow.Alike.cell (h : r.Alike r') (name : String) :
    (r.cell name).Alike (r'.cell name) := by
  have hname := h.values name
  rw [MappedRow.cell, MappedRow.cell]
  generalize r.values.lookup name = found, r'.values.lookup name = found' at hname
  cases hname with
  | none => exact .same _
  | some hcell => exact hcell

theorem MappedRow.Alike.gives (h : r.Alike r') : r'.gives = r.gives := by
  funext name
  rw [MappedRow.gives, MappedRow.gives, (h.cell name).isBlank_eq]

theorem argument_alike (h : r.Alike r') (statusKind : Option Enumeration) {name : String}
    (hgives : r.gives name = true) :
    argument py config statusKind r' name = argument py config statusKind r name := by
  have hcell := (h.cell name).eq_of_nonblank (by simpa [MappedRow.gives] using hgives)
  rw [argument, argument, hcell, h.number]

theorem kwargs_alike (h : r.Alike r') (statusKind : Option Enumeration) (names : List String) :
    kwargs py config statusKind names r' = kwargs py config statusKind names r := by
  rw [kwargs, kwargs, h.gives]
  refine mapM_congr (List.forall₂_same.mpr fun name hname => ?_)
  exact argument_alike h statusKind (List.mem_filter.mp hname).2

theorem extra_alike (h : r.Alike r') : extra py r' = extra py r := by
  have hunknown : unknownData r' = unknownData r := by
    funext header
    rw [unknownData, unknownData, h.unknown]
  have hcell := h.cell "extra_data_json"
  unfold extra
  rw [hunknown, hcell.isBlank_eq]
  cases hblank : (r.cell "extra_data_json").isBlank with
  | true => rfl
  | false =>
    have hsame := hcell.eq_of_nonblank hblank
    have hinvalid : invalidExtraData r' = invalidExtraData r := by
      funext reason
      rw [invalidExtraData, invalidExtraData, hsame, h.number]
    rw [hsame, hinvalid]

theorem loadRow_alike (h : r.Alike r') (model : Model) (checks : List Check)
    (statusKind : Enumeration) :
    loadRow py config model checks statusKind r' = loadRow py config model checks statusKind r := by
  rw [loadRow, loadRow, kwargs_alike h, extra_alike h, h.number]

/-- The simple loaders give the same of both tables, errors included. -/
theorem loadSimple_alike {data data' : List (List Cell)}
    (h : List.Forall₂ (List.Forall₂ Cell.Alike) data data') (model : Model) (checks : List Check)
    (statusKind : Enumeration) :
    loadSimple py config model checks statusKind data' =
      loadSimple py config model checks statusKind data := by
  unfold loadSimple
  rcases @mappedRows_alike py config _ _ h (model.fields ++ ["extra_data", "extra_data_json"])
    model.required with ⟨e, he, he'⟩ | ⟨mapped, mapped', hm, hm', hrows⟩
  · rw [he, he']
  · rw [hm, hm']
    exact (mapM_congr (hrows.imp fun _ _ hrow => (loadRow_alike hrow model checks statusKind).symm)).symm

/-- Rows that are alike and have an invoice. -/
structure Invoiced (r r' : MappedRow) : Prop extends r.Alike r' where
  nonblank : (r.cell "invoice_id").isBlank = false

theorem Invoiced.cell_eq (h : Invoiced r r') : r'.cell "invoice_id" = r.cell "invoice_id" :=
  (h.cell "invoice_id").eq_of_nonblank h.nonblank

theorem loadLine_alike {first first' : MappedRow} (hfirst : Invoiced first first')
    (h : Invoiced r r') :
    loadLine py config first' r' = loadLine py config first r := by
  rw [loadLine, loadLine, kwargs_alike h.toAlike, h.number, h.cell_eq, hfirst.cell_eq]

theorem invoiceTypeOf_alike (h : r.Alike r') :
    invoiceTypeOf py config r' = invoiceTypeOf py config r := by
  have hlookup := h.values "invoice_type"
  unfold invoiceTypeOf
  rw [← h.number]
  generalize r.values.lookup "invoice_type" = found, r'.values.lookup "invoice_type" = found'
    at hlookup
  cases hlookup with
  | none => rfl
  | some hcell =>
    cases hcell with
    | same => rfl
    | empty => rfl

theorem loadHeader_alike (h : r.Alike r') (lines : List Record) :
    loadHeader py config lines r' = loadHeader py config lines r := by
  rw [loadHeader, loadHeader, kwargs_alike h, invoiceTypeOf_alike h, extra_alike h, h.number]

theorem loadInvoice_alike {g g' : Group String MappedRow} (h : g.Similar Invoiced g') :
    loadInvoice py config g' = loadInvoice py config g := by
  have hlines : g.members.mapM (loadLine py config g.first) =
      g'.members.mapM (loadLine py config g'.first) :=
    mapM_congr (h.members.imp fun _ _ hrow => (loadLine_alike h.first hrow).symm)
  have hheader : (loadHeader py config · g'.first) = (loadHeader py config · g.first) := by
    funext lines
    exact loadHeader_alike h.first.toAlike lines
  rw [loadInvoice, loadInvoice, hlines]
  exact congrArg _ hheader

variable {mapped mapped' : List MappedRow}

/-- Rows of invoices that are loaded have the ids of these. -/
theorem nonblank_of_loaded {groups : List (Group String MappedRow)} {invoices : List Invoice}
    (hgroups : groupRows py mapped = .ok groups)
    (h : groups.mapM (loadInvoice py config) = .ok invoices) :
    ∀ row ∈ mapped, (row.cell "invoice_id").isBlank = false := by
  intro row hrow
  obtain ⟨_, -, hok⟩ := bind_eq_ok_iff.mp hgroups
  cases hok
  have hloaded := (mapM_eq_ok_iff.mp h).imp fun _ _ => loadInvoice_eq_ok
  obtain ⟨group, hgroup, hmem⟩ := exists_group (· == ·) (invoiceKey py) hrow
  obtain ⟨invoice, -, hinvoice⟩ := exists_right_of_mem hloaded hgroup
  obtain ⟨id, hid, -⟩ := hinvoice.invoiceId
  rw [hinvoice.cell_eq hmem]
  by_contra hblank
  rw [invoiceIdOf, text, if_pos (by simpa using hblank)] at hid
  cases hid

/-- The loading of the invoices, of the rows. -/
abbrev loadGroups (py : Runtime) (config : IngestionConfig) (mapped : List MappedRow) :
    Except Failure (List Invoice) :=
  groupRows py mapped >>= fun groups => groups.mapM (loadInvoice py config)

theorem loadGroups_alike (h : List.Forall₂ MappedRow.Alike mapped mapped')
    (hblank : ∀ row ∈ mapped, (row.cell "invoice_id").isBlank = false) :
    loadGroups py config mapped' = loadGroups py config mapped := by
  have hrows : List.Forall₂ Invoiced mapped mapped' :=
    forall₂_imp_of_mem h fun r r' hr hrow => ⟨hrow, hblank r hr⟩
  have hchecked : (mapped'.forM fun row => must ((row.values.lookup "invoice_id").isSome = true)
        (Failure.keyError "invoice_id")) =
      mapped.forM fun row => must ((row.values.lookup "invoice_id").isSome = true)
        (Failure.keyError "invoice_id") := by
    refine (forM_congr (h.imp fun r r' hrow => ?_)).symm
    have hlookup := hrow.values "invoice_id"
    generalize r.values.lookup "invoice_id" = found, r'.values.lookup "invoice_id" = found'
      at hlookup
    cases hlookup <;> rfl
  have hgroups : List.Forall₂ (Group.Similar Invoiced) (groupOn (· == ·) (invoiceKey py) mapped)
      (groupOn (· == ·) (invoiceKey py) mapped') :=
    groupOn_similar (fun x y hxy => by rw [invoiceKey, invoiceKey, hxy.cell_eq]) hrows
  have hloaded : (groupOn (· == ·) (invoiceKey py) mapped).mapM (loadInvoice py config) =
      (groupOn (· == ·) (invoiceKey py) mapped').mapM (loadInvoice py config) :=
    mapM_congr (hgroups.imp fun _ _ hgroup => (loadInvoice_alike hgroup).symm)
  unfold loadGroups groupRows
  rw [hchecked]
  cases mapped.forM fun row => must ((row.values.lookup "invoice_id").isSome = true)
      (Failure.keyError "invoice_id") with
  | error e => rfl
  | ok _ => exact hloaded.symm

/-- Invoices are the same of both tables, or both tables are rejected. -/
theorem loadErpInvoices_alike {data data' : List (List Cell)}
    (h : List.Forall₂ (List.Forall₂ Cell.Alike) data data') :
    (loadErpInvoices py config data').toOption = (loadErpInvoices py config data).toOption := by
  unfold loadErpInvoices
  rcases @mappedRows_alike py config _ _ h erpFields erpRequired with
    ⟨e, he, he'⟩ | ⟨mapped, mapped', hm, hm', hrows⟩
  · rw [he, he']
  rw [hm, hm']
  change (loadGroups py config mapped').toOption = (loadGroups py config mapped).toOption
  by_cases hblank : ∀ row ∈ mapped, (row.cell "invoice_id").isBlank = false
  · rw [loadGroups_alike hrows hblank]
  · -- a row without an invoice is loaded from neither
    have hblank' : ¬ ∀ row ∈ mapped', (row.cell "invoice_id").isBlank = false := by
      intro hall
      refine hblank fun row hrow => ?_
      obtain ⟨row', hrow', halike⟩ := exists_right_of_mem hrows hrow
      rw [← (halike.cell "invoice_id").isBlank_eq]
      exact hall row' hrow'
    have hnone {rows : List MappedRow}
        (hrows : ¬ ∀ row ∈ rows, (row.cell "invoice_id").isBlank = false) :
        (loadGroups py config rows).toOption = none := by
      cases hok : loadGroups py config rows with
      | error e => rfl
      | ok invoices =>
        obtain ⟨groups, hgroups, hload⟩ := bind_eq_ok_iff.mp hok
        exact absurd (nonblank_of_loaded hgroups hload) hrows
    rw [hnone hblank, hnone hblank']

end Loaders

/-! ### Files -/

/-- The cell of a workbook has the text. -/
inductive Shows : Cell → String → Prop
  | text (value : String) : Shows (.text value) value
  | absent : Shows .absent ""

theorem Shows.alike {cell : Cell} {value : String} (h : Shows cell value) :
    cell.Alike (.text value) := by
  cases h with
  | text => exact .same _
  | absent => exact .empty

/-- **The format of a file does not matter.**  A CSV file of the texts that the cells of a sheet have
is loaded as the workbook is. -/
theorem formats_agree (py : Runtime) (loadWorkbook : LoadWorkbook) (config : SourceConfig)
    {csv workbook : SourceFile} {contents : List UInt8} {sheet : List (List Cell)}
    {texts : List (List String)} (hshows : List.Forall₂ (List.Forall₂ Shows) sheet texts)
    (hsheet : cellsOf py loadWorkbook config workbook = .ok sheet)
    (hsuffix : sourceSuffix py csv.path = ".csv") (hcontents : csv.contents = some contents)
    (hholds : Holds contents texts)
    (hlimit : ∀ row ∈ texts, ∀ text ∈ row, text.length ≤ fieldSizeLimit) :
    loadFile py loadWorkbook (loadBankTransactions py) config csv =
        loadFile py loadWorkbook (loadBankTransactions py) config workbook ∧
      loadFile py loadWorkbook (loadGatewaySettlements py) config csv =
        loadFile py loadWorkbook (loadGatewaySettlements py) config workbook ∧
      (loadFile py loadWorkbook (loadErpInvoices py) config csv).toOption =
        (loadFile py loadWorkbook (loadErpInvoices py) config workbook).toOption := by
  have hcsv : cellsOf py loadWorkbook config csv = .ok (texts.map fun row => row.map .text) := by
    rw [cellsOf, hcontents]
    simp only [hsuffix, if_true]
    exact readCsv_document hholds hlimit
  have halike : List.Forall₂ (List.Forall₂ Cell.Alike) sheet
      (texts.map fun row => row.map .text) := by
    rw [List.forall₂_map_right_iff]
    refine hshows.imp fun cells row hrow => ?_
    rw [List.forall₂_map_right_iff]
    exact hrow.imp fun _ _ hcell => hcell.alike
  have hloaded {α : Type} (load : IngestionConfig → List (List Cell) → Except Failure α) :
      loadFile py loadWorkbook load config csv =
          (load config.toIngestionConfig (texts.map fun row => row.map .text)).mapError .loader ∧
        loadFile py loadWorkbook load config workbook =
          (load config.toIngestionConfig sheet).mapError .loader := by
    rw [loadFile, loadFile, hcsv, hsheet]
    exact ⟨rfl, rfl⟩
  have htoOption {α : Type} (x : Except Failure α) :
      (x.mapError FileFailure.loader).toOption = x.toOption := by
    cases x <;> rfl
  refine ⟨?_, ?_, ?_⟩
  · rw [(hloaded _).1, (hloaded _).2, loadBankTransactions, loadSimple_alike halike]
    rfl
  · rw [(hloaded _).1, (hloaded _).2, loadGatewaySettlements, loadSimple_alike halike]
    rfl
  · rw [(hloaded _).1, (hloaded _).2, htoOption, htoOption]
    exact loadErpInvoices_alike halike

/-- The texts of an ERP export with one line, whose channel is empty. -/
def plainTexts : List (List String) :=
  [sampleHeaders, ["E", "1", "1", "1", "INVOICE", "OPEN", "2026-01-05", "EUR", "S", "S", "C", "C",
    "200", "0", "0", "0", "200", "0", "0", "200", "2026-01-05", "1", "1", "I", "1", "200", "200",
    "0", "0", "200", ""]]

/-- The sheet with these texts. -/
def plainSheet : List (List Cell) :=
  plainTexts.map fun row => row.map fun value => if value = "" then .absent else .text value

theorem shows_plainSheet : List.Forall₂ (List.Forall₂ Shows) plainSheet plainTexts := by
  rw [plainSheet, List.forall₂_map_left_iff, List.forall₂_same]
  intro row _
  rw [List.forall₂_map_left_iff, List.forall₂_same]
  intro value _
  split
  · next h =>
    rw [h]
    exact .absent
  · exact .text value

theorem formats_agree_plain :
    let workbook : LoadWorkbook := fun _ => .ok ⟨[("Sheet", some plainSheet)], some plainSheet⟩
    let csv : SourceFile := ⟨"erp.csv", some (Utf8.mark ++ Utf8.encode
      (Csv.document (plainTexts.map fun row => row.map String.toList)))⟩
    let xlsx : SourceFile := ⟨"erp.xlsx", some [0x50, 0x4B]⟩
    loadFile plainRuntime workbook (loadBankTransactions plainRuntime) {} csv =
        loadFile plainRuntime workbook (loadBankTransactions plainRuntime) {} xlsx ∧
      loadFile plainRuntime workbook (loadGatewaySettlements plainRuntime) {} csv =
        loadFile plainRuntime workbook (loadGatewaySettlements plainRuntime) {} xlsx ∧
      (loadFile plainRuntime workbook (loadErpInvoices plainRuntime) {} csv).toOption =
        (loadFile plainRuntime workbook (loadErpInvoices plainRuntime) {} xlsx).toOption := by
  have hcsv : sourceSuffix plainRuntime "erp.csv" = ".csv" := by decide +kernel
  have hxlsx : sourceSuffix plainRuntime "erp.xlsx" = ".xlsx" := by decide +kernel
  refine formats_agree plainRuntime _ {} shows_plainSheet ?_ hcsv rfl (holds_mark _)
    (by decide +kernel)
  simp only [cellsOf, hxlsx]
  rfl

end ReconcileFlow.Ingestion
