import ReconcileFlow.AI.Application
import ReconcileFlow.AI.Closing
import ReconcileFlow.AI.Decisions
import ReconcileFlow.AI.Evaluation
import ReconcileFlow.AI.OpenAICompatible
import ReconcileFlow.AI.References
import ReconcileFlow.AI.Renaming
import ReconcileFlow.AI.Selection
import ReconcileFlow.AI.Serial
import ReconcileFlow.Access.Escalation
import ReconcileFlow.Access.Families
import ReconcileFlow.Access.Owners
import ReconcileFlow.Access.Revocation
import ReconcileFlow.Api.LoginProtection
import ReconcileFlow.Api.Serial
import ReconcileFlow.Exporting.Reading
import ReconcileFlow.Exporting.Results
import ReconcileFlow.Ingestion.Amounts
import ReconcileFlow.Ingestion.Columns
import ReconcileFlow.Ingestion.Escapes
import ReconcileFlow.Ingestion.ExtraData
import ReconcileFlow.Ingestion.Formats
import ReconcileFlow.Ingestion.Invoices
import ReconcileFlow.Maintenance.Retention
import ReconcileFlow.Persistence.Metadata
import ReconcileFlow.Queue.Consistency
import ReconcileFlow.Queue.Waiting
import ReconcileFlow.Reconciliation.Accounts
import ReconcileFlow.Reconciliation.Balance
import ReconcileFlow.Reconciliation.Currencies
import ReconcileFlow.Reconciliation.Determinism
import ReconcileFlow.Reconciliation.Documents
import ReconcileFlow.Reconciliation.Leftovers
import ReconcileFlow.Reconciliation.Links
import ReconcileFlow.Reconciliation.Populations
import ReconcileFlow.Reconciliation.Ranges
import ReconcileFlow.Reconciliation.References
import ReconcileFlow.Reconciliation.Soundness
import ReconcileFlow.Results.Paging
import ReconcileFlow.Storage.Abandoned
import ReconcileFlow.Storage.Histories
import ReconcileFlow.Storage.Objects
import ReconcileFlow.Storage.Quota
import ReconcileFlow.Support.Footprint
import ReconcileFlow.Tenancy.Isolation
import ReconcileFlow.Tenancy.Requests
import ReconcileFlow.Worker.Agreement
import ReconcileFlow.Worker.Cancellation
import ReconcileFlow.Worker.History
import ReconcileFlow.Worker.Inputs
import ReconcileFlow.Worker.Lease
import ReconcileFlow.Worker.Outcome
import ReconcileFlow.Worker.Polling
import ReconcileFlow.Worker.Saving
import ReconcileFlow.Workflow
