import ReconcileFlow.Ingestion.Accepted

/-!
# Ingestion — Invoices

The invoices of an ERP export and the rows they come from.  The values of an invoice are those of the
first row of its group alone: `rows_agree_iff` says when all rows have them, with values compared as
`==` compares them (`sameValue`).  The rows are grouped by the text of the invoice cell as it stands,
but the invoices have it stripped, or as a whole number: `rows_partitioned_iff` says when the invoices
part the rows by their ids.
-/

namespace ReconcileFlow.Ingestion

open Support

section

variable {py : Runtime} {config : IngestionConfig} {data : List (List Cell)}
  {mapped : List MappedRow} {invoices : List Invoice}

/-- An attribute that has passed `require_text` is a text. -/
theorem exists_text_of_requireText {name : String} {attributes attributes' : Attributes}
    (h : requireText name attributes = .ok attributes') :
    ∃ text, attributes name = some (.text text) := by
  obtain ⟨text, htext, -⟩ := bind_eq_ok_iff.mp h
  obtain ⟨v, hv, -⟩ := requireTextOf_eq_ok htext
  exact ⟨v, hv⟩

/-- A field of an invoice has the value of the cell of the first row. -/
theorem LoadedInvoice.converts {group : Group String MappedRow} {invoice : Invoice}
    (h : LoadedInvoice py config group invoice) {name : String} (hname : name ∈ erpInvoice.fields) :
    Converts py config (some .invoiceStatus) group.first name (invoice.attributes name) := by
  obtain ⟨value, hconverts, hvalue⟩ := h.described.fields.1 name hname
  have hdefault : value.or (erpInvoice.defaults.lookup name) = value := Option.or_none
  rw [hvalue, hdefault]
  exact hconverts

/-! ### The values of an invoice -/

/-- The fields of the document, which every row repeats. -/
def documentFields : List String :=
  erpInvoice.fields.filter fun name => decide (name ∉ ["source_record_id", "ingested_at"])

/-- `==` of two values of a field: numbers are compared by value, datetimes by the time that they
are. -/
def Value.eq (py : Runtime) : Value → Value → Bool
  | .decimal a, .decimal b => DecimalValue.eq a b
  | .datetime a, .datetime b => py.sameTime a b
  | a, b => decide (a = b)

/-- `==` of two values, either of which may be absent. -/
def sameValue (py : Runtime) : Option Value → Option Value → Bool
  | none, none => true
  | some a, some b => a.eq py b
  | _, _ => false

theorem Value.eq_symm {a b : Value} (h : a.eq py b = true) : b.eq py a = true := by
  cases a <;> cases b <;> simp only [Value.eq, decide_eq_true_eq, reduceCtorEq] at h ⊢
  case decimal.decimal => exact DecimalValue.eq_symm h
  case datetime.datetime => exact py.sameTime_equivalence.symm h
  all_goals exact h.symm

theorem Value.eq_trans {a b c : Value} (hab : a.eq py b = true) (hbc : b.eq py c = true) :
    a.eq py c = true := by
  cases a <;> cases b <;> simp only [Value.eq, decide_eq_true_eq, reduceCtorEq] at hab
  case decimal.decimal =>
    cases c <;> simp only [Value.eq, decide_eq_true_eq, reduceCtorEq] at hbc ⊢
    exact DecimalValue.eq_trans hab hbc
  case datetime.datetime =>
    cases c <;> simp only [Value.eq, decide_eq_true_eq, reduceCtorEq] at hbc ⊢
    exact py.sameTime_equivalence.trans hab hbc
  all_goals
    rw [hab]
    exact hbc

theorem sameValue_symm {v w : Option Value} (h : sameValue py v w = true) :
    sameValue py w v = true := by
  cases v <;> cases w <;> simp only [sameValue, Bool.false_eq_true] at h ⊢
  exact Value.eq_symm h

theorem sameValue_trans {v w x : Option Value} (hvw : sameValue py v w = true)
    (hwx : sameValue py w x = true) : sameValue py v x = true := by
  cases v <;> cases w <;> cases x <;> simp only [sameValue, Bool.false_eq_true] at hvw hwx ⊢
  exact Value.eq_trans hvw hwx

/-- `500` and `500.00` are one amount. -/
example : sameValue plainRuntime (some (.decimal (.finite ⟨false, 500, 0⟩)))
    (some (.decimal (.finite ⟨false, 50000, -2⟩))) = true := by decide +kernel

/-- The row has the document's values that the invoice has, compared after conversion. -/
def Agrees (py : Runtime) (config : IngestionConfig) (row : MappedRow) (invoice : Invoice) : Prop :=
  ∀ name ∈ documentFields, ∃ value,
    Converts py config (some .invoiceStatus) row name value ∧
      sameValue py value (invoice.attributes name) = true

/-- Rows with the same invoice cell have the same values of the document, compared after
conversion. -/
def Consistent (py : Runtime) (config : IngestionConfig) (mapped : List MappedRow) : Prop :=
  ∀ r ∈ mapped, ∀ r' ∈ mapped, invoiceKey py r = invoiceKey py r' →
    ∀ name ∈ documentFields, ∃ value value',
      Converts py config (some .invoiceStatus) r name value ∧
      Converts py config (some .invoiceStatus) r' name value' ∧
      sameValue py value value' = true

theorem invoiceKey_of_mem {group : Group String MappedRow} (hg : group ∈ groupsOf py mapped)
    {row : MappedRow} (hrow : row ∈ group.members) : invoiceKey py row = group.key :=
  (eq_of_beq (same_of_mem beq_self_eq_true hg hrow)).symm

/-- Rows with the same invoice cell are in one group. -/
theorem mem_members_of_invoiceKey {group : Group String MappedRow}
    (hg : group ∈ groupsOf py mapped) {r r' : MappedRow} (hr : r ∈ group.members)
    (hr' : r' ∈ mapped) (hkey : invoiceKey py r = invoiceKey py r') : r' ∈ group.members := by
  rw [members_eq_filter hg, List.mem_filter]
  refine ⟨hr', beq_iff_eq.mpr ?_⟩
  rw [← hkey]
  exact invoiceKey_of_mem hg hr

/-- Rows that agree with their invoices have the same values as each other. -/
theorem consistent_of_agrees
    (hagree : List.Forall₂ (fun group invoice => ∀ row ∈ group.members, Agrees py config row invoice)
      (groupsOf py mapped) invoices) : Consistent py config mapped := by
  intro r hr r' hr' hkey name hname
  obtain ⟨group, hgroup, hrg⟩ := exists_group (· == ·) (invoiceKey py) hr
  obtain ⟨invoice, -, hinvoice⟩ := exists_right_of_mem hagree hgroup
  have hrg' : r' ∈ group.members := mem_members_of_invoiceKey hgroup hrg hr' hkey
  obtain ⟨value, hconverts, hsame⟩ := hinvoice r hrg name hname
  obtain ⟨value', hconverts', hsame'⟩ := hinvoice r' hrg' name hname
  exact ⟨value, value', hconverts, hconverts', sameValue_trans hsame (sameValue_symm hsame')⟩

/-- **When the rows of the invoices agree with them**: if and only if rows with the same invoice cell
have the same values of the document. -/
theorem rows_agree_iff (hmapped : mappedRows py config erpFields erpRequired data = .ok mapped)
    (haccepted : loadErpInvoices py config data = .ok invoices) :
    List.Forall₂ (fun group invoice => ∀ row ∈ group.members, Agrees py config row invoice)
      (groupsOf py mapped) invoices ↔ Consistent py config mapped := by
  have hloaded := loadErpInvoices_eq_ok hmapped haccepted
  have hfield {name : String} (hname : name ∈ documentFields) : name ∈ erpInvoice.fields :=
    List.mem_of_mem_filter hname
  refine ⟨consistent_of_agrees, fun hconsistent => ?_⟩
  refine forall₂_imp_of_mem hloaded fun group invoice hgroup hinvoice row hrow name hname => ?_
  have hkey : invoiceKey py group.first = invoiceKey py row :=
    (invoiceKey_of_mem hgroup group.first_mem).trans (invoiceKey_of_mem hgroup hrow).symm
  obtain ⟨value, value', hfirst, hconverts, hsame⟩ :=
    hconsistent group.first (mem_of_mem_members hgroup group.first_mem) row
      (mem_of_mem_members hgroup hrow) hkey name hname
  obtain rfl := Except.ok.inj (hfirst.symm.trans (hinvoice.converts (hfield hname)))
  exact ⟨value', hconverts, sameValue_symm hsame⟩

theorem rows_agree_sample : ∃ invoices,
    loadErpInvoices plainRuntime {} sampleExport = .ok invoices ∧
      (List.Forall₂
        (fun group invoice => ∀ row ∈ group.members, Agrees plainRuntime {} row invoice)
        (groupsOf plainRuntime sampleRows) invoices ↔ Consistent plainRuntime {} sampleRows) := by
  obtain ⟨invoices, haccepted⟩ := sample_accepted
  exact ⟨invoices, haccepted, rows_agree_iff sample_mapped haccepted⟩

/-- The second row of an invoice is in another currency, which nobody reads. -/
theorem other_currency_accepted : ∃ invoices,
    loadErpInvoices plainRuntime {} sampleExport = .ok invoices ∧
      ¬ List.Forall₂
        (fun group invoice => ∀ row ∈ group.members, Agrees plainRuntime {} row invoice)
        (groupsOf plainRuntime sampleRows) invoices := by
  obtain ⟨invoices, haccepted⟩ := sample_accepted
  refine ⟨invoices, haccepted, fun hagree => ?_⟩
  have hgroups := consistent_of_agrees hagree
  obtain ⟨value, value', hfirst, hsecond, hsame⟩ := hgroups firstRow List.mem_cons_self secondRow
    (List.mem_cons_of_mem _ List.mem_cons_self) rfl "currency" (by decide +kernel)
  have heuro : Converts plainRuntime {} (some .invoiceStatus) firstRow "currency"
      (some (.text "EUR")) := by
    unfold Converts
    decide +kernel
  have hdollar : Converts plainRuntime {} (some .invoiceStatus) secondRow "currency"
      (some (.text "USD")) := by
    unfold Converts
    decide +kernel
  obtain rfl := Except.ok.inj (hfirst.symm.trans heuro)
  obtain rfl := Except.ok.inj (hsecond.symm.trans hdollar)
  revert hsame
  decide +kernel

/-! ### The rows of an invoice -/

/-- The id that a row gives to an invoice. -/
def invoiceIdOf (py : Runtime) (row : MappedRow) : Option String := text py (row.cell "invoice_id")

/-- The invoices part the rows: their ids differ, every invoice has a line for each row of its id, in
the order of the rows, and every row is of some invoice. -/
structure Partitions (py : Runtime) (config : IngestionConfig) (mapped : List MappedRow)
    (invoices : List Invoice) : Prop where
  distinct : (invoices.map fun invoice => invoice.attributes "invoice_id").Nodup
  lines : ∀ invoice ∈ invoices, ∃ id, invoice.attributes "invoice_id" = some (.text id) ∧
    List.Forall₂
      (fun row line => Described py config none invoiceLine (allLineChecks py) row line.attributes)
      (mapped.filter fun row => decide (invoiceIdOf py row = some id)) invoice.lines
  rows : ∀ row ∈ mapped, ∃ invoice ∈ invoices, ∃ id,
    invoiceIdOf py row = some id ∧ invoice.attributes "invoice_id" = some (.text id)

/-- The id of an invoice is that of its first row. -/
theorem LoadedInvoice.invoiceId {group : Group String MappedRow} {invoice : Invoice}
    (h : LoadedInvoice py config group invoice) :
    ∃ id, invoiceIdOf py group.first = some id ∧
      invoice.attributes "invoice_id" = some (.text id) := by
  have hcheck : requireText "invoice_id" ∈ allInvoiceChecks py invoice.lines := by
    refine List.mem_append_left _ ?_
    simp only [invoiceChecks, List.append_assoc]
    refine List.mem_append_left _ (List.mem_map_of_mem ?_)
    decide
  obtain ⟨id, hid⟩ := exists_text_of_requireText (h.described.passed _ hcheck)
  have hconverts : Converts py config (some .invoiceStatus) group.first "invoice_id"
      (invoice.attributes "invoice_id") := h.converts (by decide)
  rw [hid] at hconverts
  refine ⟨id, ?_, hid⟩
  cases hblank : (group.first.cell "invoice_id").isBlank with
  | true =>
    rw [Converts, convert_of_isBlank hblank] at hconverts
    cases hconverts
  | false =>
    obtain ⟨value, hvalue, hconvert⟩ := convert_eq_ok hblank hconverts
    obtain rfl := Option.some.inj hvalue
    rw [convertValue_text hconvert, invoiceIdOf, text, if_neg (Bool.eq_false_iff.mp hblank)]

/-- The rows of an invoice have the same invoice cell. -/
theorem LoadedInvoice.cell_eq {group : Group String MappedRow} {invoice : Invoice}
    (h : LoadedInvoice py config group invoice) {row : MappedRow} (hrow : row ∈ group.members) :
    row.cell "invoice_id" = group.first.cell "invoice_id" := by
  obtain ⟨line, -, hline⟩ := exists_right_of_mem h.lines hrow
  exact hline.cell

/-- The ids of the invoices are those of the first rows of the groups. -/
theorem map_invoiceId
    (hloaded : List.Forall₂ (LoadedInvoice py config) (groupsOf py mapped) invoices) :
    (groupsOf py mapped).map (fun group => (invoiceIdOf py group.first).map Value.text) =
      invoices.map fun invoice => invoice.attributes "invoice_id" := by
  refine map_eq_map_of_forall₂ hloaded fun group invoice h => ?_
  obtain ⟨id, hid, hattribute⟩ := h.invoiceId
  rw [hid, hattribute]
  rfl

theorem invoiceIdOf_of_mem
    (hloaded : List.Forall₂ (LoadedInvoice py config) (groupsOf py mapped) invoices)
    {group : Group String MappedRow} (hgroup : group ∈ groupsOf py mapped) {row : MappedRow}
    (hrow : row ∈ group.members) : invoiceIdOf py row = invoiceIdOf py group.first := by
  obtain ⟨invoice, -, hinvoice⟩ := exists_right_of_mem hloaded hgroup
  rw [invoiceIdOf, hinvoice.cell_eq hrow, invoiceIdOf]

/-- The invoices that part the rows have ids for their cells as they stand. -/
theorem key_eq_of_partitions
    (hloaded : List.Forall₂ (LoadedInvoice py config) (groupsOf py mapped) invoices)
    (hparts : Partitions py config mapped invoices) {r r' : MappedRow} (hr : r ∈ mapped)
    (hr' : r' ∈ mapped) (hid : invoiceIdOf py r = invoiceIdOf py r') :
    invoiceKey py r = invoiceKey py r' := by
  obtain ⟨group, hgroup, hrg⟩ := exists_group (· == ·) (invoiceKey py) hr
  obtain ⟨group', hgroup', hrg'⟩ := exists_group (· == ·) (invoiceKey py) hr'
  have hnodup := hparts.distinct
  rw [← map_invoiceId hloaded] at hnodup
  have hfirst : invoiceIdOf py group.first = invoiceIdOf py group'.first := by
    rw [← invoiceIdOf_of_mem hloaded hgroup hrg, hid, invoiceIdOf_of_mem hloaded hgroup' hrg']
  obtain rfl := List.inj_on_of_nodup_map hnodup hgroup hgroup' (congrArg _ hfirst)
  exact (invoiceKey_of_mem hgroup hrg).trans (invoiceKey_of_mem hgroup' hrg').symm

/-- **When the invoices part the rows by their ids**: if and only if invoice cells that give one id
are the same text as they stand. -/
theorem rows_partitioned_iff
    (hmapped : mappedRows py config erpFields erpRequired data = .ok mapped)
    (haccepted : loadErpInvoices py config data = .ok invoices) :
    Partitions py config mapped invoices ↔ ∀ r ∈ mapped, ∀ r' ∈ mapped,
      invoiceIdOf py r = invoiceIdOf py r' → invoiceKey py r = invoiceKey py r' := by
  have hloaded := loadErpInvoices_eq_ok hmapped haccepted
  have hkeyed : Keyed (· == ·) (invoiceKey py) (groupsOf py mapped) :=
    keyed_groupOn (invoiceKey py) beq_self_eq_true mapped
  constructor
  · intro hparts r hr r' hr' hid
    exact key_eq_of_partitions hloaded hparts hr hr' hid
  · intro hapart
    have hfirst {group : Group String MappedRow} (hgroup : group ∈ groupsOf py mapped) :
        group.first ∈ mapped := mem_of_mem_members hgroup group.first_mem
    refine ⟨?_, fun invoice hinvoice => ?_, fun row hrow => ?_⟩
    · rw [← map_invoiceId hloaded, List.Nodup, List.pairwise_map]
      refine hkeyed.apart.imp_of_mem fun {a b} ha hb hne heq => ?_
      have hid : invoiceIdOf py a.first = invoiceIdOf py b.first :=
        Option.map_injective (fun _ _ => Value.text.inj) heq
      have hkey := hapart _ (hfirst ha) _ (hfirst hb) hid
      rw [invoiceKey_of_mem ha a.first_mem, invoiceKey_of_mem hb b.first_mem] at hkey
      exact beq_eq_false_iff_ne.mp hne hkey
    · obtain ⟨group, hgroup, hload⟩ := exists_left_of_mem hloaded hinvoice
      obtain ⟨id, hid, hattribute⟩ := hload.invoiceId
      refine ⟨id, hattribute, ?_⟩
      have hmembers : mapped.filter (fun row => decide (invoiceIdOf py row = some id)) =
          group.members := by
        rw [members_eq_filter hgroup]
        refine List.filter_congr fun row hrow => ?_
        rw [Bool.eq_iff_iff, decide_eq_true_iff, beq_iff_eq,
          ← invoiceKey_of_mem hgroup group.first_mem]
        constructor
        · intro hrowId
          exact hapart row hrow _ (hfirst hgroup) (hrowId.trans hid.symm)
        · intro hkey
          have hin := mem_members_of_invoiceKey hgroup group.first_mem hrow hkey.symm
          rw [invoiceIdOf_of_mem hloaded hgroup hin, hid]
      rw [hmembers]
      exact hload.lines.imp fun _ _ hline => hline.described
    · obtain ⟨group, hgroup, hrg⟩ := exists_group (· == ·) (invoiceKey py) hrow
      obtain ⟨invoice, hinvoice, hload⟩ := exists_right_of_mem hloaded hgroup
      obtain ⟨id, hid, hattribute⟩ := hload.invoiceId
      exact ⟨invoice, hinvoice, id, (invoiceIdOf_of_mem hloaded hgroup hrg).trans hid, hattribute⟩

theorem rows_partitioned_sample : ∃ invoices,
    loadErpInvoices plainRuntime {} sampleExport = .ok invoices ∧
      (Partitions plainRuntime {} sampleRows invoices ↔ ∀ r ∈ sampleRows, ∀ r' ∈ sampleRows,
        invoiceIdOf plainRuntime r = invoiceIdOf plainRuntime r' →
          invoiceKey plainRuntime r = invoiceKey plainRuntime r') := by
  obtain ⟨invoices, haccepted⟩ := sample_accepted
  exact ⟨invoices, haccepted, rows_partitioned_iff sample_mapped haccepted⟩

/-- A space in front of an invoice cell makes a second invoice of the same id. -/
theorem padded_invoice_split : ∃ invoices,
    loadErpInvoices plainRuntime {} sampleExport = .ok invoices ∧
      ¬ Partitions plainRuntime {} sampleRows invoices := by
  obtain ⟨invoices, haccepted⟩ := sample_accepted
  refine ⟨invoices, haccepted, fun hparts => ?_⟩
  have hkey : invoiceKey plainRuntime firstRow = invoiceKey plainRuntime paddedRow :=
    key_eq_of_partitions (loadErpInvoices_eq_ok sample_mapped haccepted) hparts List.mem_cons_self
      (List.mem_cons_of_mem _ (List.mem_cons_of_mem _ List.mem_cons_self)) (by decide +kernel)
  revert hkey
  decide +kernel

end

end ReconcileFlow.Ingestion
