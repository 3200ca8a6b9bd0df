import ReconcileFlow.Reconciliation.Outcome

/-!
# Reconciliation — References

The references by which exact matches are found.  The second rule searches each identifier of an
invoice in the reference texts of a bank entry as a substring (`mentions`), so that the identifier
may be a part of a longer one.  A text names the invoice when the identifier stands in it by
itself: no alphanumeric character precedes or follows some occurrence (`Delimited`,
`mentionsToken`).  `reconcile_tokens_iff` says when every exact match is by name: when the second
rule never takes up an unused invoice whose one candidate only embeds its identifiers.

Which characters are alphanumeric is a parameter, as the case folding is.
-/

namespace ReconcileFlow.Reconciliation

open Support ReconciliationEngine

/-- The word occurs in the text, neither preceded nor followed by what is `inner`. -/
def Delimited {α : Type} (inner : α → Bool) (word text : List α) : Prop :=
  ∃ before after, text = before ++ (word ++ after) ∧
    (∀ c ∈ before.getLast?, inner c = false) ∧ ∀ c ∈ after.head?, inner c = false

/-- An occurrence is where the text is cut before it. -/
theorem delimited_iff {α : Type} {inner : α → Bool} {word text : List α} :
    Delimited inner word text ↔ ∃ n ∈ List.range (text.length + 1), word <+: text.drop n ∧
      (∀ c ∈ (text.take n).getLast?, inner c = false) ∧
      ∀ c ∈ (text.drop (n + word.length)).head?, inner c = false := by
  constructor
  · rintro ⟨before, after, rfl, hbefore, hafter⟩
    refine ⟨before.length, List.mem_range.mpr ?_, ?_, ?_, ?_⟩
    · rw [List.length_append]
      omega
    · rw [List.drop_left]
      exact List.prefix_append word after
    · rwa [List.take_left]
    · rwa [← List.drop_drop, List.drop_left, List.drop_left]
  · rintro ⟨n, -, ⟨after, hafter⟩, hl, hr⟩
    refine ⟨text.take n, after, ?_, hl, ?_⟩
    · rw [hafter, List.take_append_drop]
    · rwa [← List.drop_drop, ← hafter, List.drop_left] at hr

instance {α : Type} [DecidableEq α] (inner : α → Bool) (word text : List α) :
    Decidable (Delimited inner word text) :=
  decidable_of_iff' _ delimited_iff

/-- `mentions`, of identifiers that stand by themselves. -/
def mentionsToken (alnum : Char → Bool) (py : Runtime) (bank : BankTransaction)
    (invoice : ERPInvoice) : Bool :=
  let needles := [py.casefold invoice.invoiceId, py.casefold invoice.invoiceNumber] ++
    ((truthy invoice.paymentReference).map py.casefold).toList
  needles.any fun needle => (references py bank).any fun reference =>
    decide (Delimited alnum needle.toList reference.toList)

/-- The entry mentions the invoice within longer words only. -/
def embeds (alnum : Char → Bool) (py : Runtime) (bank : BankTransaction) (invoice : ERPInvoice) :
    Bool :=
  mentions py bank invoice && !mentionsToken alnum py bank invoice

/-- An exact match is of an entry and an invoice that the entry names. -/
def TokenMatched (alnum : Char → Bool) (py : Runtime) (banks : List BankTransaction)
    (erp : List ERPInvoice) (v : ResultValues) : Prop :=
  v.status = .exactMatch → ∃ bank ∈ banks, ∃ invoice ∈ erp,
    v.bankSourceRecordIds = [bank.sourceRecordId] ∧ v.erpInvoiceIds = [invoice.invoiceId] ∧
      mentionsToken alnum py bank invoice = true

instance (alnum : Char → Bool) (py : Runtime) (banks : List BankTransaction)
    (erp : List ERPInvoice) (v : ResultValues) : Decidable (TokenMatched alnum py banks erp v) :=
  inferInstanceAs (Decidable (_ → _))

namespace ReconciliationEngine

/-- In no state in which the second rule takes up an unused invoice does its one candidate only
embed the invoice's identifiers. -/
def NoEmbeddedCandidate (self : ReconciliationEngine) (alnum : Char → Bool) (inp : Inputs) : Prop :=
  ∀ w ∈ visits (self.exactStep inp) (self.afterDuplicates inp) inp.erp,
    w.2.invoiceId ∉ w.1.usedInvoices → ∀ bank, self.exactCandidates inp w.1 w.2 = [bank] →
      embeds alnum self.runtime bank w.2 = false

variable {self : ReconciliationEngine} {inp : Inputs} {s : State} {v : ResultValues}
  {alnum : Char → Bool}

/-- The records of an exact match are those of the turn that made it. -/
theorem tokenMatched_iff (hids : ∀ source, (inp.ids source).Nodup) {bank : BankTransaction}
    {invoice : ERPInvoice} (hi : invoice ∈ inp.erp)
    (hb : bank ∈ self.exactCandidates inp s invoice) :
    TokenMatched alnum self.runtime inp.banks inp.erp (exactResult bank invoice) ↔
      embeds alnum self.runtime bank invoice = false := by
  obtain ⟨hbank, -, -, -, -, hmentions, -⟩ := mem_exactCandidates.mp hb
  have hembeds : embeds alnum self.runtime bank invoice = false ↔
      mentionsToken alnum self.runtime bank invoice = true := by
    simp [embeds, hmentions]
  rw [hembeds]
  constructor
  · intro h
    obtain ⟨bank', hbank', invoice', hi', hbankId, hinvoiceId, htoken⟩ := h rfl
    obtain rfl : bank = bank' := List.inj_on_of_nodup_map (hids .bank) hbank hbank'
      (List.head_eq_of_cons_eq hbankId)
    obtain rfl : invoice = invoice' := List.inj_on_of_nodup_map (hids .erp) hi hi'
      (List.head_eq_of_cons_eq hinvoiceId)
    exact htoken
  · intro htoken _
    exact ⟨bank, hbank, invoice, hi, rfl, rfl, htoken⟩

theorem tokenMatched_values_iff (hids : ∀ source, (inp.ids source).Nodup) :
    (∀ v ∈ (self.afterUnmatched inp).values, TokenMatched alnum self.runtime inp.banks inp.erp v) ↔
      self.NoEmbeddedCandidate alnum inp := by
  refine (forall_emitted_iff mem_values_exactMatch).trans (forall₂_congr fun w hw => ?_)
  constructor
  · intro h hunused bank hbank
    have hemits := exactEmits_eq_some.mpr ⟨hunused, bank, hbank, rfl⟩
    exact (tokenMatched_iff hids (mem_of_visits hw) (hbank ▸ List.mem_singleton_self bank)).mp
      fun _ => h _ hemits
  · intro h v hemits
    obtain ⟨hunused, bank, hbank, rfl⟩ := exactEmits_eq_some.mp hemits
    exact (tokenMatched_iff hids (mem_of_visits hw) (hbank ▸ List.mem_singleton_self bank)).mpr
      (h hunused bank hbank) rfl

end ReconciliationEngine

/-- **When every exact match is by name.**  In every exact match an identifier of the invoice
stands by itself in a reference text of the bank entry if and only if the second rule never takes
up an unused invoice whose one candidate only embeds its identifiers in longer words. -/
theorem reconcile_tokens_iff (self : ReconciliationEngine) (alnum : Char → Bool)
    (banks : List BankTransaction) (erp : List ERPInvoice)
    (gateways : List GatewaySettlementEntry) :
    (∀ results, self.reconcile banks erp gateways = .ok results →
        ∀ r ∈ results, TokenMatched alnum self.runtime banks erp r.toResultValues) ↔
      ((∀ source, (recordIds banks erp gateways source).Nodup) →
        self.NoEmbeddedCandidate alnum (sortInputs banks erp gateways)) := by
  rw [self.forall_results_iff]
  refine forall_congr' fun hids => ?_
  have hsorted := fun source =>
    (ids_sortInputs_perm banks erp gateways source).nodup_iff.mpr (hids source)
  rw [← tokenMatched_values_iff hsorted]
  refine forall₂_congr fun v _ => ?_
  simp only [TokenMatched, sortInputs, mem_sortOn]

/-- A credit of 100 EUR for another invoice, `INV-10`. -/
def otherDeposit : BankTransaction :=
  { deposit with description := "Payment of INV-10", description_text := by decide }

/-- The payment of `INV-10` is matched to the invoice `INV-1`. -/
theorem payment_of_other_matched :
    ¬ ∀ results, (⟨.ascii, {}⟩ : ReconciliationEngine).reconcile [otherDeposit] [depositInvoice] [] =
        .ok results →
      ∀ r ∈ results,
        TokenMatched Char.isAlphanum .ascii [otherDeposit] [depositInvoice] r.toResultValues := by
  intro h
  have htokens := h _ rfl
  revert htokens
  decide +kernel

end ReconcileFlow.Reconciliation
