import ReconcileFlow.Ingestion.Accepted

/-!
# Ingestion — ExtraData

The cells that no field takes.  A record has those of the row that its extra data are made of, where
the row's own JSON object has no other value under the header; the cells of a header for the field
`extra_data` itself are dropped, and so are those of all rows of an invoice but the first.
`extra_preserved_iff` says when none is lost.
-/

namespace ReconcileFlow.Ingestion

open Support

section

variable {py : Runtime} {config : IngestionConfig}

/-- The members of the JSON object of a row. -/
def jsonMembers (py : Runtime) (row : MappedRow) : List (String × Datum) :=
  if (row.cell "extra_data_json").isBlank then []
  else
    match py.loads ((row.cell "extra_data_json").str py) with
    | .ok (.object members) => members
    | _ => []

theorem extra_eq_ok {row : MappedRow} {extraData : String → Option Datum}
    (h : extra py row = .ok extraData) (header : String) :
    extraData header = ((jsonMembers py row).lookup header).or (unknownData row header) := by
  unfold extra at h
  unfold jsonMembers
  split at h
  · next hblank =>
    cases h
    rw [if_pos hblank]
    rfl
  · next hblank =>
    rw [if_neg hblank]
    split at h
    · cases h
    · next members hmembers =>
      cases h
      rw [hmembers]
    · cases h

/-- No other value of the row's JSON object replaces the cell, which is there otherwise. -/
def Keeps (py : Runtime) (row : MappedRow) (header : String) (cell : Cell) (otherwise : Prop) :
    Prop :=
  match (jsonMembers py row).lookup header with
  | some datum => datum = .cell cell
  | none => otherwise

/-- The extra data of a row have a cell, where it is kept. -/
theorem extra_iff_keeps {row : MappedRow} {extraData : String → Option Datum}
    (h : extra py row = .ok extraData) {header : String} {cell : Cell} {otherwise : Prop}
    (hunknown : row.unknown.lookup header = some cell ↔ otherwise) :
    extraData header = some (.cell cell) ↔ Keeps py row header cell otherwise := by
  rw [extra_eq_ok h, Keeps]
  cases (jsonMembers py row).lookup header with
  | some datum => simp
  | none => simp [unknownData, ← hunknown]

/-! ### The simple loaders -/

/-- The cells of a row that are not blank and whose header gives no field that is loaded. -/
def strayCells (py : Runtime) (config : IngestionConfig) (canonical loaded : List String)
    (row : Row) : List (String × Cell) :=
  row.values.filter fun (header, cell) =>
    !cell.isBlank && (resolve py config canonical header).all fun name => decide (name ∉ loaded)

theorem isPresent_of_isBlank {cell : Cell} (h : cell.isBlank = false) : cell.isPresent = true := by
  refine Bool.and_eq_true_iff.mpr ⟨decide_eq_true ?_, decide_eq_true ?_⟩
  · rintro rfl
    cases h
  · rintro rfl
    cases h

/-- The unknown cells of a row are those whose header has no field. -/
theorem lookup_unknown {canonical : List String} {data : List (List Cell)} {headers : List String}
    {rows : List Row} (hread : read py data = .ok (headers, rows)) {row : Row} (hrow : row ∈ rows)
    {header : String} {cell : Cell} (hmem : (header, cell) ∈ row.values)
    (hblank : cell.isBlank = false) :
    (mapRow (resolution py config canonical headers) row).unknown.lookup header = some cell ↔
      resolve py config canonical header = none := by
  have hnodup := nodup_values_of_read hread hrow
  have hheader : header ∈ headers := by
    obtain ⟨values, hvalues⟩ := row_of_read hread hrow
    rw [hvalues] at hmem
    exact (List.of_mem_zip hmem).1
  have hkeys : ((mapRow (resolution py config canonical headers) row).unknown.map Prod.fst).Nodup :=
    hnodup.sublist (List.filter_sublist.map _)
  rw [lookup_eq_some_iff_mem hkeys, mapRow, List.mem_filter]
  simp [hmem, isPresent_of_isBlank hblank, lookup_resolution hheader]

/-- The cells of a row that no field of the model takes. -/
def Model.strayCells (py : Runtime) (config : IngestionConfig) (model : Model) (row : Row) :
    List (String × Cell) :=
  Ingestion.strayCells py config (model.fields ++ ["extra_data", "extra_data_json"])
    (model.fields ++ ["extra_data_json"]) row

/-- Every record has the stray cells of its row in its extra data. -/
def Preserved (py : Runtime) (config : IngestionConfig) (model : Model) (rows : List Row)
    (records : List Record) : Prop :=
  List.Forall₂ (fun row record => ∀ p ∈ model.strayCells py config row,
    record.extraData p.1 = some (.cell p.2)) rows records

/-- No stray cell is replaced, and one under a header for `extra_data` is among the members of the
row's JSON object. -/
def Undisturbed (py : Runtime) (config : IngestionConfig) (model : Model) (headers : List String)
    (rows : List Row) : Prop :=
  let canonical := model.fields ++ ["extra_data", "extra_data_json"]
  ∀ row ∈ rows, ∀ p ∈ model.strayCells py config row,
    Keeps py (mapRow (resolution py config canonical headers) row) p.1 p.2
      (resolve py config canonical p.1 = none)

theorem preserved_iff {model : Model} (hmodel : model.Textless) {checks : List Check}
    (hkeep : AllKeep checks) {statusKind : Enumeration} {data : List (List Cell)}
    {headers : List String} {rows : List Row} {records : List Record}
    (hread : read py data = .ok (headers, rows))
    (h : loadSimple py config model checks statusKind data = .ok records) :
    Preserved py config model rows records ↔ Undisturbed py config model headers rows := by
  obtain ⟨mapped, hmapped, -⟩ := bind_eq_ok_iff.mp h
  obtain ⟨headers', rows', hheaded, rfl⟩ := mappedRows_eq_ok_iff.mp hmapped
  obtain ⟨rfl, rfl⟩ := Prod.mk.inj (Except.ok.inj (hread.symm.trans hheaded.read))
  have hloaded := List.forall₂_map_left_iff.mp (loadSimple_eq_ok hmodel hkeep hmapped h)
  have hcell {row : Row} (hrow : row ∈ rows) {record : Record}
      (hextra : extra py (mapRow (resolution py config
        (model.fields ++ ["extra_data", "extra_data_json"]) headers) row) = .ok record.extraData)
      {p : String × Cell} (hp : p ∈ model.strayCells py config row) :
      record.extraData p.1 = some (.cell p.2) ↔ Keeps py
        (mapRow (resolution py config (model.fields ++ ["extra_data", "extra_data_json"]) headers) row)
        p.1 p.2 (resolve py config (model.fields ++ ["extra_data", "extra_data_json"]) p.1 = none) := by
    obtain ⟨hmem, hstray⟩ := List.mem_filter.mp hp
    have hblank : p.2.isBlank = false := by simpa using (Bool.and_eq_true_iff.mp hstray).1
    exact extra_iff_keeps hextra (lookup_unknown hread hrow hmem hblank)
  constructor
  · intro hpreserved row hrow p hp
    obtain ⟨record, -, hrecord, hextra⟩ :=
      exists_right_of_mem (forall₂_and hpreserved hloaded) hrow
    exact (hcell hrow hextra.2 hp).mp (hrecord p hp)
  · intro hundisturbed
    refine forall₂_imp_of_mem hloaded fun row record hrow hextra p hp => ?_
    exact (hcell hrow hextra.2 hp).mpr (hundisturbed row hrow p hp)

/-! ### ERP invoices -/

/-- Every invoice, or the line of the row, has the cells of its rows that no field takes. -/
def ErpPreserved (py : Runtime) (mapped : List MappedRow) (invoices : List Invoice) : Prop :=
  List.Forall₂ (fun group invoice => List.Forall₂ (fun row line => ∀ p ∈ row.unknown,
      p.2.isBlank = false → invoice.extraData p.1 = some (.cell p.2) ∨
        line.extraData p.1 = some (.cell p.2)) group.members invoice.lines)
    (groupsOf py mapped) invoices

/-- The first row of each invoice has such cells of all its rows, and none is replaced. -/
def ErpUndisturbed (py : Runtime) (mapped : List MappedRow) : Prop :=
  ∀ group ∈ groupsOf py mapped, ∀ row ∈ group.members, ∀ p ∈ row.unknown, p.2.isBlank = false →
    Keeps py group.first p.1 p.2 (p ∈ group.first.unknown)

/-- The unknown cells of a row are under different headers. -/
theorem nodup_unknown {canonical required : List String} {data : List (List Cell)}
    {mapped : List MappedRow} (h : mappedRows py config canonical required data = .ok mapped)
    {row : MappedRow} (hrow : row ∈ mapped) : (row.unknown.map Prod.fst).Nodup := by
  obtain ⟨headers, rows, hheaded, rfl⟩ := mappedRows_eq_ok_iff.mp h
  obtain ⟨raw, hraw, rfl⟩ := List.mem_map.mp hrow
  exact (nodup_values_of_read hheaded.read hraw).sublist (List.filter_sublist.map _)

theorem erpPreserved_iff {data : List (List Cell)} {mapped : List MappedRow}
    {invoices : List Invoice}
    (hmapped : mappedRows py config erpFields erpRequired data = .ok mapped)
    (h : loadErpInvoices py config data = .ok invoices) :
    ErpPreserved py mapped invoices ↔ ErpUndisturbed py mapped := by
  have hloaded := loadErpInvoices_eq_ok hmapped h
  have hcell {group : Group String MappedRow} (hgroup : group ∈ groupsOf py mapped)
      {invoice : Invoice} (hinvoice : LoadedInvoice py config group invoice) (p : String × Cell) :
      invoice.extraData p.1 = some (.cell p.2) ↔
        Keeps py group.first p.1 p.2 (p ∈ group.first.unknown) :=
    extra_iff_keeps hinvoice.extra
      (lookup_eq_some_iff_mem (nodup_unknown hmapped (mem_of_mem_members hgroup group.first_mem)))
  constructor
  · intro hpreserved group hgroup row hrow p hp hblank
    obtain ⟨invoice, -, hlines, hinvoice⟩ :=
      exists_right_of_mem (forall₂_and hpreserved hloaded) hgroup
    obtain ⟨line, -, hline, hload⟩ := exists_right_of_mem (forall₂_and hlines hinvoice.lines) hrow
    refine (hcell hgroup hinvoice p).mp ((hline p hp hblank).resolve_right ?_)
    rw [hload.extra]
    exact nofun
  · intro hundisturbed
    refine forall₂_imp_of_mem hloaded fun group invoice hgroup hinvoice => ?_
    refine forall₂_imp_of_mem hinvoice.lines fun row line hrow _ p hp hblank => .inl ?_
    exact (hcell hgroup hinvoice p).mpr (hundisturbed group hgroup row hrow p hp hblank)

end

/-- **When no cell is lost**: for the simple loaders, if and only if no cell that no field takes is
under a header for `extra_data`, nor replaced by another value of the row's JSON object; for ERP
invoices, if and only if the first row of each invoice has all such cells of its rows, and its JSON
object replaces none. -/
theorem extra_preserved_iff (py : Runtime) (config : IngestionConfig) (data : List (List Cell)) :
    (∀ headers rows records, read py data = .ok (headers, rows) →
      loadBankTransactions py config data = .ok records →
      (Preserved py config bankTransaction rows records ↔
        Undisturbed py config bankTransaction headers rows)) ∧
    (∀ headers rows records, read py data = .ok (headers, rows) →
      loadGatewaySettlements py config data = .ok records →
      (Preserved py config gatewaySettlementEntry rows records ↔
        Undisturbed py config gatewaySettlementEntry headers rows)) ∧
    ∀ mapped invoices, mappedRows py config erpFields erpRequired data = .ok mapped →
      loadErpInvoices py config data = .ok invoices →
      (ErpPreserved py mapped invoices ↔ ErpUndisturbed py mapped) := by
  refine ⟨fun headers rows records hread h => ?_, fun headers rows records hread h => ?_,
    fun mapped invoices hmapped h => erpPreserved_iff hmapped h⟩
  · exact preserved_iff textless_bankTransaction allKeep_bankChecks hread h
  · exact preserved_iff textless_gatewaySettlementEntry (allKeep_allGatewayChecks py) hread h

theorem extra_preserved_sample : ∃ invoices,
    loadErpInvoices plainRuntime {} sampleExport = .ok invoices ∧
      (ErpPreserved plainRuntime sampleRows invoices ↔ ErpUndisturbed plainRuntime sampleRows) := by
  obtain ⟨invoices, haccepted⟩ := sample_accepted
  exact ⟨invoices, haccepted,
    (extra_preserved_iff plainRuntime {} sampleExport).2.2 _ _ sample_mapped haccepted⟩

/-- A cell of the second row of an invoice that no field takes is lost. -/
theorem later_cell_lost : ∃ invoices,
    loadErpInvoices plainRuntime {} sampleExport = .ok invoices ∧
      ¬ ErpPreserved plainRuntime sampleRows invoices := by
  obtain ⟨invoices, haccepted⟩ := sample_accepted
  refine ⟨invoices, haccepted, fun hpreserved => ?_⟩
  have hundisturbed := (erpPreserved_iff sample_mapped haccepted).mp hpreserved
  have hkept : ∀ group ∈ groupsOf plainRuntime sampleRows, ∀ row ∈ group.members,
      ∀ p ∈ row.unknown, p.2.isBlank = false → p ∈ group.first.unknown :=
    fun group hgroup row hrow p hp hblank => by
      have hkeeps := hundisturbed group hgroup row hrow p hp hblank
      have hmembers : jsonMembers plainRuntime group.first = [] := by
        unfold jsonMembers
        split <;> rfl
      rwa [Keeps, hmembers] at hkeeps
  revert hkept
  decide +kernel

end ReconcileFlow.Ingestion
