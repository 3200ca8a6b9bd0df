import ReconcileFlow.Ingestion.Accepted

/-!
# Ingestion — Columns

Neither the order of the columns nor the spelling of the headers matters.  The rows of two tables
that differ in these alone have the same cells under the same fields (`same_of_table`), and the
loaders only ever look cells up (`loadErpInvoices_congr`), so `columns_irrelevant`: they load the
same records of both, or raise on both.
-/

namespace ReconcileFlow.Ingestion

open Support

/-! ### Rows with the same cells -/

/-- Rows with the same cells under the fields, and under the headers without one. -/
structure MappedRow.Same (r r' : MappedRow) : Prop where
  number : r.number = r'.number
  values : ∀ name, r.values.lookup name = r'.values.lookup name
  unknown : ∀ header, r.unknown.lookup header = r'.unknown.lookup header

section Congruence

variable {py : Runtime} {config : IngestionConfig} {r r' : MappedRow}

theorem MappedRow.Same.cell (h : r.Same r') (name : String) : r.cell name = r'.cell name := by
  rw [MappedRow.cell, MappedRow.cell, h.values]

theorem kwargs_congr (h : r.Same r') (statusKind : Option Enumeration) (names : List String) :
    kwargs py config statusKind names r = kwargs py config statusKind names r' := by
  have hgives : r.gives = r'.gives := by
    funext name
    rw [MappedRow.gives, MappedRow.gives, h.cell]
  have hargument : argument py config statusKind r = argument py config statusKind r' := by
    funext name
    rw [argument, argument, h.cell, h.number]
  rw [kwargs, kwargs, hgives, hargument]

theorem extra_congr (h : r.Same r') : extra py r = extra py r' := by
  have hunknown : unknownData r = unknownData r' := by
    funext header
    rw [unknownData, unknownData, h.unknown]
  have hinvalid : invalidExtraData r = invalidExtraData r' := by
    funext reason
    rw [invalidExtraData, invalidExtraData, h.cell, h.number]
  rw [extra, extra, h.cell, hunknown, hinvalid]

theorem loadRow_congr (h : r.Same r') (model : Model) (checks : List Check)
    (statusKind : Enumeration) :
    loadRow py config model checks statusKind r = loadRow py config model checks statusKind r' := by
  rw [loadRow, loadRow, kwargs_congr h, extra_congr h, h.number]

theorem loadLine_congr {first first' : MappedRow} (hfirst : first.Same first') (h : r.Same r') :
    loadLine py config first r = loadLine py config first' r' := by
  rw [loadLine, loadLine, kwargs_congr h, h.number]
  simp only [h.cell, hfirst.cell]

theorem loadHeader_congr (h : r.Same r') (lines : List Record) :
    loadHeader py config lines r = loadHeader py config lines r' := by
  have htype : invoiceTypeOf py config r = invoiceTypeOf py config r' := by
    rw [invoiceTypeOf, invoiceTypeOf, h.values, h.number]
  rw [loadHeader, loadHeader, kwargs_congr h, htype, extra_congr h, h.number]

theorem loadInvoice_congr {g g' : Group String MappedRow} (h : g.Similar MappedRow.Same g') :
    loadInvoice py config g = loadInvoice py config g' := by
  have hlines : g.members.mapM (loadLine py config g.first) =
      g'.members.mapM (loadLine py config g'.first) :=
    mapM_congr (h.members.imp fun _ _ hrow => loadLine_congr h.first hrow)
  have hheader : (loadHeader py config · g.first) = (loadHeader py config · g'.first) := by
    funext lines
    exact loadHeader_congr h.first lines
  rw [loadInvoice, loadInvoice, hlines]
  exact congrArg _ hheader

variable {mapped mapped' : List MappedRow}

theorem groupRows_congr (h : List.Forall₂ MappedRow.Same mapped mapped') :
    (∃ e, groupRows py mapped = .error e ∧ groupRows py mapped' = .error e) ∨
      ∃ groups groups', groupRows py mapped = .ok groups ∧ groupRows py mapped' = .ok groups' ∧
        List.Forall₂ (Group.Similar MappedRow.Same) groups groups' := by
  have hchecked : (mapped.forM fun row => must ((row.values.lookup "invoice_id").isSome = true)
        (Failure.keyError "invoice_id")) =
      mapped'.forM fun row => must ((row.values.lookup "invoice_id").isSome = true)
        (Failure.keyError "invoice_id") :=
    forM_congr (h.imp fun _ _ hrow => by rw [hrow.values])
  have hgroups : List.Forall₂ (Group.Similar MappedRow.Same) (groupOn (· == ·) (invoiceKey py) mapped)
      (groupOn (· == ·) (invoiceKey py) mapped') :=
    groupOn_similar (fun x y hxy => by rw [invoiceKey, invoiceKey, hxy.cell]) h
  unfold groupRows
  rw [hchecked]
  cases mapped'.forM fun row => must ((row.values.lookup "invoice_id").isSome = true)
      (Failure.keyError "invoice_id") with
  | error e => exact .inl ⟨e, rfl, rfl⟩
  | ok _ => exact .inr ⟨_, _, rfl, rfl, hgroups⟩

end Congruence

/-! ### Tables by their columns -/

section Table

variable {ι : Type*}

/-- A rectangular table: the header of each column, and the cells that the rows have in it. -/
def table (columns : List ι) (header : ι → Cell) (rows : List (ι → Cell)) : List (List Cell) :=
  columns.map header :: rows.map fun row => columns.map row

/-- Every rectangular table is one. -/
theorem exists_table {first : List Cell} {rest : List (List Cell)}
    (h : ∀ row ∈ rest, row.length = first.length) :
    ∃ header rows, first :: rest = table (List.range first.length) header rows := by
  have hcells {row : List Cell} (hrow : row.length = first.length) :
      row = (List.range first.length).map fun i => row.getD i .absent := by
    refine List.ext_getElem (by simp [hrow]) fun i hi _ => ?_
    simp [hi]
  refine ⟨fun i => first.getD i .absent, rest.map fun row i => row.getD i .absent, ?_⟩
  rw [table, ← hcells rfl, List.map_map]
  refine congrArg _ ?_
  conv_lhs => rw [← List.map_id rest]
  exact List.map_congr_left fun row hrow => hcells (h row hrow)

section Mapped

variable (py : Runtime) (canonical : List String) (header : ι → Cell)

/-- The field of a column. -/
def fieldOf (c : ι) : Option String := resolve py {} canonical (headerOf py (header c))

/-- The headers of a table are those of a file that the loaders read, with the required fields. -/
structure Loadable (required : List String) (columns : List ι) : Prop where
  present : columns.any (fun c => (header c).isPresent) = true
  named : ∀ c ∈ columns, headerOf py (header c) ≠ ""
  distinct : (columns.map fun c => key py (headerOf py (header c))).Nodup
  fields : (columns.filterMap (fieldOf py canonical header)).Nodup
  complete : required ⊆ columns.filterMap (fieldOf py canonical header)

/-- A row of the table under the fields. -/
def tableRow (columns : List ι) (p : (ι → Cell) × Nat) : MappedRow where
  number := p.2
  values := columns.filterMap fun c => (fieldOf py canonical header c).map fun name => (name, p.1 c)
  unknown := (columns.filter fun c =>
    (fieldOf py canonical header c).isNone && (p.1 c).isPresent).map
      fun c => (headerOf py (header c), p.1 c)

/-- The rows of the table that have a cell. -/
def presentRows (columns : List ι) (rows : List (ι → Cell)) : List ((ι → Cell) × Nat) :=
  (rows.zipIdx 2).filter fun p => columns.any fun c => (p.1 c).isPresent

theorem targets_table (columns : List ι) :
    (resolution py {} canonical ((columns.map header).map (headerOf py))).map Prod.snd =
      columns.filterMap (fieldOf py canonical header) := by
  rw [resolution, List.map_filterMap, List.map_map, List.filterMap_map]
  refine List.filterMap_congr fun c _ => ?_
  rw [Function.comp_apply, Option.map_map]
  exact Option.map_id'

theorem lookup_table {columns : List ι} {c : ι} (hc : c ∈ columns) :
    (resolution py {} canonical ((columns.map header).map (headerOf py))).lookup
        (headerOf py (header c)) = fieldOf py canonical header c :=
  lookup_resolution (List.mem_map_of_mem (List.mem_map_of_mem hc))

theorem mapRow_table (columns : List ι) (row : ι → Cell) (number : Nat) :
    mapRow (resolution py {} canonical ((columns.map header).map (headerOf py)))
        ⟨number, ((columns.map header).map (headerOf py)).zip (columns.map row)⟩ =
      tableRow py canonical header columns (row, number) := by
  set targets := resolution py {} canonical ((columns.map header).map (headerOf py)) with htargets
  have hlookup {c : ι} (hc : c ∈ columns) :
      targets.lookup (headerOf py (header c)) = fieldOf py canonical header c :=
    htargets ▸ lookup_table py canonical header hc
  rw [List.map_map, List.zip_map']
  refine MappedRow.mk.injEq _ _ _ _ _ _ ▸ ⟨rfl, ?_, ?_⟩
  · rw [List.filterMap_map]
    exact List.filterMap_congr fun c hc =>
      congrArg (Option.map fun name => (name, row c)) (hlookup hc)
  · rw [List.filter_map]
    refine congrArg _ (List.filter_congr fun c hc => ?_)
    exact congrArg (fun target : Option String => target.isNone && (row c).isPresent) (hlookup hc)

theorem mapRow_rows_table (columns : List ι) (rows : List (ι → Cell)) :
    (rowsOf ((columns.map header).map (headerOf py))
        (rows.map fun row => columns.map row)).map
        (mapRow (resolution py {} canonical ((columns.map header).map (headerOf py)))) =
      (presentRows columns rows).map (tableRow py canonical header columns) := by
  rw [rowsOf, presentRows, List.zipIdx_map, List.filter_map, List.map_map, List.map_map]
  have hfilter : (fun p : List Cell × Nat => p.1.any Cell.isPresent) ∘
      Prod.map (fun row : ι → Cell => columns.map row) id =
        fun p => columns.any fun c => (p.1 c).isPresent := by
    funext p
    exact List.any_map
  rw [← hfilter]
  exact List.map_congr_left fun p _ => mapRow_table py canonical header columns p.1 p.2

theorem mappedRows_table_iff {required : List String} {columns : List ι} {rows : List (ι → Cell)}
    {mapped : List MappedRow} :
    mappedRows py {} canonical required (table columns header rows) = .ok mapped ↔
      Loadable py canonical header required columns ∧
        mapped = (presentRows columns rows).map (tableRow py canonical header columns) := by
  set headers := (columns.map header).map (headerOf py) with hheaders
  have hfields := targets_table py canonical header columns
  have hrows := mapRow_rows_table py canonical header columns rows
  rw [mappedRows_eq_ok_iff]
  constructor
  · rintro ⟨headers', rows', h, rfl⟩
    obtain ⟨_, _, hdata, hpresent, rfl, hblank, hnodup, rfl⟩ := read_eq_ok_iff.mp h.read
    obtain ⟨rfl, rfl⟩ := List.cons.inj hdata
    have hdistinct := h.distinct
    have hcomplete := h.complete
    rw [← hheaders, hfields] at hdistinct hcomplete
    rw [← hheaders, hrows]
    refine ⟨⟨?_, ?_, ?_, hdistinct, hcomplete⟩, rfl⟩
    · rwa [List.any_map] at hpresent
    · intro c hc hname
      exact hblank (hname ▸ List.mem_map_of_mem (List.mem_map_of_mem hc))
    · rwa [List.map_map, List.map_map] at hnodup
  · rintro ⟨h, rfl⟩
    refine ⟨headers, _, ⟨?_, rfl, ?_, ?_⟩, hrows.symm⟩
    · refine read_eq_ok_iff.mpr ⟨_, _, rfl, ?_, hheaders, ?_, ?_, rfl⟩
      · rw [List.any_map]
        exact h.present
      · rw [hheaders, List.map_map]
        intro hmem
        obtain ⟨c, hc, hname⟩ := List.mem_map.mp hmem
        exact h.named c hc hname
      · rw [hheaders, List.map_map, List.map_map]
        exact h.distinct
    · rw [hfields]
      exact h.fields
    · rw [hfields]
      exact h.complete

end Mapped

/-! ### Columns in another order, headers in another spelling -/

/-- The header is the same, or both are spellings of one field. -/
def Respelled (py : Runtime) (canonical : List String) (cell cell' : Cell) : Prop :=
  cell' = cell ∨ headerOf py cell ≠ "" ∧ headerOf py cell' ≠ "" ∧
    ∃ name, resolve py {} canonical (headerOf py cell) = some name ∧
      resolve py {} canonical (headerOf py cell') = some name

/-- A table with its columns in another order and headers of fields in another spelling, that are
distinct if the first ones were. -/
structure Rearranged (py : Runtime) (canonical : List String) (columns columns' : List ι)
    (header header' : ι → Cell) : Prop where
  perm : columns.Perm columns'
  respelled : ∀ c ∈ columns, Respelled py canonical (header c) (header' c)
  distinct : (columns.map fun c => key py (headerOf py (header c))).Nodup →
    (columns'.map fun c => key py (headerOf py (header' c))).Nodup

section Rearranged

variable {py : Runtime} {canonical : List String} {columns columns' : List ι}
  {header header' : ι → Cell}

theorem Rearranged.fieldOf_eq (h : Rearranged py canonical columns columns' header header') {c : ι}
    (hc : c ∈ columns) : fieldOf py canonical header' c = fieldOf py canonical header c := by
  rcases h.respelled c hc with hsame | ⟨-, -, name, hname, hname'⟩
  · rw [fieldOf, fieldOf, hsame]
  · rw [fieldOf, fieldOf, hname, hname']

/-- A header without a field is the same. -/
theorem Rearranged.header_eq (h : Rearranged py canonical columns columns' header header') {c : ι}
    (hc : c ∈ columns) (hfield : fieldOf py canonical header c = none) : header' c = header c := by
  rcases h.respelled c hc with hsame | ⟨-, -, name, hname, -⟩
  · exact hsame
  · rw [fieldOf, hname] at hfield
    cases hfield

theorem isPresent_of_headerOf {cell : Cell} (h : headerOf py cell ≠ "") : cell.isPresent = true := by
  refine Bool.and_eq_true_iff.mpr ⟨decide_eq_true ?_, decide_eq_true ?_⟩
  · rintro rfl
    exact h rfl
  · rintro rfl
    exact h rfl

theorem Rearranged.fields_perm (h : Rearranged py canonical columns columns' header header') :
    (columns.filterMap (fieldOf py canonical header)).Perm
      (columns'.filterMap (fieldOf py canonical header')) := by
  have hsame : columns'.filterMap (fieldOf py canonical header') =
      columns'.filterMap (fieldOf py canonical header) :=
    List.filterMap_congr fun c hc => h.fieldOf_eq (h.perm.mem_iff.mpr hc)
  rw [hsame]
  exact h.perm.filterMap _

/-- The second table loads if and only if the first does.  Headers of the first that are the same
after normalization have the same field, which two headers of the second then have, or none, and
then they are headers of the second. -/
theorem Rearranged.loadable_iff (h : Rearranged py canonical columns columns' header header')
    {required : List String} :
    Loadable py canonical header' required columns' ↔
      Loadable py canonical header required columns := by
  have hpresent : columns'.any (fun c => (header' c).isPresent) =
      columns.any (fun c => (header c).isPresent) := by
    rw [Bool.eq_iff_iff, List.any_eq_true, List.any_eq_true]
    refine exists_congr fun c => ?_
    rw [h.perm.mem_iff]
    refine and_congr_right fun hc => ?_
    rcases h.respelled c (h.perm.mem_iff.mpr hc) with hsame | ⟨hname, hname', -⟩
    · rw [hsame]
    · exact iff_of_true (isPresent_of_headerOf hname') (isPresent_of_headerOf hname)
  have hnamed : (∀ c ∈ columns', headerOf py (header' c) ≠ "") ↔
      ∀ c ∈ columns, headerOf py (header c) ≠ "" := by
    refine forall_congr' fun c => ?_
    rw [h.perm.mem_iff]
    refine imp_congr_right fun hc => ?_
    rcases h.respelled c (h.perm.mem_iff.mpr hc) with hsame | ⟨hname, hname', -⟩
    · rw [hsame]
    · exact iff_of_true hname' hname
  have hfields := h.fields_perm.nodup_iff
  have hcomplete : required ⊆ columns'.filterMap (fieldOf py canonical header') ↔
      required ⊆ columns.filterMap (fieldOf py canonical header) :=
    forall₂_congr fun name _ => h.fields_perm.symm.mem_iff
  constructor
  · intro h'
    refine ⟨hpresent ▸ h'.present, hnamed.mp h'.named, ?_, hfields.mpr h'.fields,
      hcomplete.mp h'.complete⟩
    have hcolumns : columns.Nodup := h.perm.nodup_iff.mpr h'.distinct.of_map
    refine hcolumns.map_on fun a ha b hb hkey => ?_
    have hfield : fieldOf py canonical header a = fieldOf py canonical header b := by
      rw [fieldOf, fieldOf, resolve, resolve, hkey]
    cases hname : fieldOf py canonical header a with
    | none =>
      refine List.inj_on_of_nodup_map h'.distinct (h.perm.mem_iff.mp ha) (h.perm.mem_iff.mp hb) ?_
      rw [h.header_eq ha hname, h.header_eq hb (hfield.symm.trans hname), hkey]
    | some name =>
      exact eq_of_nodup_filterMap (hfields.mpr h'.fields) ha hb hname (hfield.symm.trans hname)
  · intro h'
    exact ⟨hpresent.trans h'.present, hnamed.mpr h'.named, h.distinct h'.distinct,
      hfields.mp h'.fields, hcomplete.mpr h'.complete⟩

/-- The rows of both tables have the same cells. -/
theorem Rearranged.same_tableRow
    (h : Rearranged py canonical columns columns' header header') {required : List String}
    (hload : Loadable py canonical header required columns) (p : (ι → Cell) × Nat) :
    (tableRow py canonical header columns p).Same (tableRow py canonical header' columns' p) where
  number := rfl
  values name := by
    have hkeys : ((tableRow py canonical header columns p).values.map Prod.fst).Nodup := by
      have hfields : (tableRow py canonical header columns p).values.map Prod.fst =
          columns.filterMap (fieldOf py canonical header) := by
        rw [tableRow, List.map_filterMap]
        refine List.filterMap_congr fun c _ => ?_
        rw [Option.map_map]
        exact Option.map_id'
      rw [hfields]
      exact hload.fields
    refine lookup_perm ?_ hkeys name
    have hsame : (tableRow py canonical header' columns' p).values =
        columns'.filterMap fun c => (fieldOf py canonical header c).map fun name => (name, p.1 c) :=
      List.filterMap_congr fun c hc =>
        congrArg (Option.map fun name => (name, p.1 c)) (h.fieldOf_eq (h.perm.mem_iff.mpr hc))
    rw [hsame]
    exact h.perm.filterMap _
  unknown name := by
    have hkeys : ((tableRow py canonical header columns p).unknown.map Prod.fst).Nodup := by
      rw [tableRow, List.map_map]
      have hnodup : (columns.map fun c => headerOf py (header c)).Nodup := by
        refine List.Nodup.of_map (key py) ?_
        rw [List.map_map]
        exact hload.distinct
      exact hnodup.sublist (List.filter_sublist.map _)
    refine lookup_perm ?_ hkeys name
    have hsame : (tableRow py canonical header' columns' p).unknown =
        (columns'.filter fun c => (fieldOf py canonical header c).isNone && (p.1 c).isPresent).map
          fun c => (headerOf py (header c), p.1 c) := by
      have hfilter : (columns'.filter fun c =>
            (fieldOf py canonical header' c).isNone && (p.1 c).isPresent) =
          columns'.filter fun c => (fieldOf py canonical header c).isNone && (p.1 c).isPresent :=
        List.filter_congr fun c hc => by rw [h.fieldOf_eq (h.perm.mem_iff.mpr hc)]
      rw [tableRow, hfilter]
      refine List.map_congr_left fun c hc => ?_
      obtain ⟨hmem, hnone⟩ := List.mem_filter.mp hc
      have hfield := Option.isNone_iff_eq_none.mp (Bool.and_eq_true_iff.mp hnone).1
      rw [h.header_eq (h.perm.mem_iff.mpr hmem) hfield]
    rw [hsame]
    exact (h.perm.filter _).map _

/-- The rows of both tables load, and have the same cells, or neither loads. -/
theorem Rearranged.mappedRows (h : Rearranged py canonical columns columns' header header')
    (required : List String) (rows : List (ι → Cell)) :
    (∃ e e', mappedRows py {} canonical required (table columns header rows) = .error e ∧
        mappedRows py {} canonical required (table columns' header' rows) = .error e') ∨
      ∃ mapped mapped',
        mappedRows py {} canonical required (table columns header rows) = .ok mapped ∧
        mappedRows py {} canonical required (table columns' header' rows) = .ok mapped' ∧
        List.Forall₂ MappedRow.Same mapped mapped' := by
  have hrows : presentRows columns' rows = presentRows columns rows :=
    List.filter_congr fun p _ => (h.perm.any_eq).symm
  by_cases hload : Loadable py canonical header required columns
  · refine .inr ⟨_, _, (mappedRows_table_iff ..).mpr ⟨hload, rfl⟩,
      (mappedRows_table_iff ..).mpr ⟨h.loadable_iff.mpr hload, rfl⟩, ?_⟩
    rw [hrows, List.forall₂_map_left_iff, List.forall₂_map_right_iff, List.forall₂_same]
    exact fun p _ => h.same_tableRow hload p
  · refine .inl ?_
    cases hok : Ingestion.mappedRows py {} canonical required (table columns header rows) with
    | ok mapped => exact absurd ((mappedRows_table_iff ..).mp hok).1 hload
    | error e =>
      cases hok' : Ingestion.mappedRows py {} canonical required (table columns' header' rows) with
      | ok mapped =>
        exact absurd (h.loadable_iff.mp ((mappedRows_table_iff ..).mp hok').1) hload
      | error e' => exact ⟨e, e', rfl, rfl⟩

theorem Rearranged.loadSimple {model : Model}
    (h : Rearranged py (model.fields ++ ["extra_data", "extra_data_json"]) columns columns' header
      header') (checks : List Check) (statusKind : Enumeration) (rows : List (ι → Cell)) :
    (loadSimple py {} model checks statusKind (table columns header rows)).toOption =
      (loadSimple py {} model checks statusKind (table columns' header' rows)).toOption := by
  unfold Ingestion.loadSimple
  rcases h.mappedRows model.required rows with
    ⟨e, e', he, he'⟩ | ⟨mapped, mapped', hmapped, hmapped', hsame⟩
  · rw [he, he']
    rfl
  · rw [hmapped, hmapped']
    refine congrArg Except.toOption (mapM_congr ?_)
    exact hsame.imp fun _ _ hrow => loadRow_congr hrow model checks statusKind

theorem Rearranged.loadErpInvoices (h : Rearranged py erpFields columns columns' header header')
    (rows : List (ι → Cell)) :
    (loadErpInvoices py {} (table columns header rows)).toOption =
      (loadErpInvoices py {} (table columns' header' rows)).toOption := by
  unfold Ingestion.loadErpInvoices
  rcases h.mappedRows erpRequired rows with
    ⟨e, e', he, he'⟩ | ⟨mapped, mapped', hmapped, hmapped', hsame⟩
  · rw [he, he']
    rfl
  · rw [hmapped, hmapped']
    refine congrArg Except.toOption ?_
    change (groupRows py mapped >>= _) = groupRows py mapped' >>= _
    have hgroups := @groupRows_congr py _ _ hsame
    rcases hgroups with ⟨e, he, he'⟩ | ⟨groups, groups', hg, hg', hsimilar⟩
    · rw [he, he']
    · rw [hg, hg']
      exact mapM_congr (hsimilar.imp fun _ _ hgroup => loadInvoice_congr hgroup)

end Rearranged

/-- **The order of the columns and the spelling of the headers do not matter.**  Tables that differ
in these alone give the same records, or both are rejected. -/
theorem columns_irrelevant (py : Runtime) (columns columns' : List ι) (header header' : ι → Cell)
    (rows : List (ι → Cell)) :
    (Rearranged py (bankTransaction.fields ++ ["extra_data", "extra_data_json"]) columns columns'
        header header' →
      (loadBankTransactions py {} (table columns header rows)).toOption =
        (loadBankTransactions py {} (table columns' header' rows)).toOption) ∧
    (Rearranged py (gatewaySettlementEntry.fields ++ ["extra_data", "extra_data_json"]) columns
        columns' header header' →
      (loadGatewaySettlements py {} (table columns header rows)).toOption =
        (loadGatewaySettlements py {} (table columns' header' rows)).toOption) ∧
    (Rearranged py erpFields columns columns' header header' →
      (loadErpInvoices py {} (table columns header rows)).toOption =
        (loadErpInvoices py {} (table columns' header' rows)).toOption) :=
  ⟨fun h => h.loadSimple _ _ rows, fun h => h.loadSimple _ _ rows, fun h => h.loadErpInvoices rows⟩

end Table

/-- The header of a column of the sample. -/
def sampleHeader (i : Nat) : Cell := (sampleHeaders.map Cell.text).getD i .absent

/-- The same with a hyphen in that of the invoice. -/
def hyphenHeader (i : Nat) : Cell := if i = 2 then .text "invoice-id" else sampleHeader i

theorem key_hyphen : key plainRuntime "invoice-id" = key plainRuntime "invoice_id" := by
  have hchars : keyChars "invoice-id".toList = keyChars "invoice_id".toList := by decide +kernel
  rw [key_eq, key_eq, hchars]

theorem rearranged_sample :
    Rearranged plainRuntime erpFields (List.range 31) (List.range 31).reverse sampleHeader
      hyphenHeader := by
  have hname : headerOf plainRuntime (sampleHeader 2) = "invoice_id" := strip_of_isText (by decide)
  have hhyphen : headerOf plainRuntime (hyphenHeader 2) = "invoice-id" := strip_of_isText (by decide)
  have hresolve : resolve plainRuntime {} erpFields "invoice_id" = some "invoice_id" :=
    resolve_required (by decide)
  refine ⟨(List.reverse_perm _).symm, fun c _ => ?_, fun hdistinct => ?_⟩
  · by_cases hc : c = 2
    · subst hc
      refine .inr ⟨by rw [hname]; decide, by rw [hhyphen]; decide, "invoice_id", ?_, ?_⟩
      · rw [hname]
        exact hresolve
      · rw [hhyphen, resolve, key_hyphen]
        exact hresolve
    · exact .inl (if_neg hc)
  · have hkeys : (fun c => key plainRuntime (headerOf plainRuntime (hyphenHeader c))) =
        fun c => key plainRuntime (headerOf plainRuntime (sampleHeader c)) := by
      funext c
      by_cases hc : c = 2
      · subst hc
        rw [hname, hhyphen, key_hyphen]
      · rw [hyphenHeader, if_neg hc]
    rw [hkeys, List.map_reverse]
    exact List.nodup_reverse.mpr hdistinct

theorem columns_irrelevant_sample :
    let rows : List (Nat → Cell) :=
      [firstCells, secondCells, paddedCells].map fun row i => row.getD i .absent
    (loadErpInvoices plainRuntime {} (table (List.range 31) sampleHeader rows)).toOption =
      (loadErpInvoices plainRuntime {} (table (List.range 31).reverse hyphenHeader rows)).toOption :=
  (columns_irrelevant plainRuntime _ _ _ _ _).2.2 rearranged_sample

end ReconcileFlow.Ingestion
