import OpenAssetWatch.Library.Comparator
import OpenAssetWatch.Library.TupleOrder
import OpenAssetWatch.Library.Dict
import OpenAssetWatch.Library.Run
import OpenAssetWatch.Library.Newest
import OpenAssetWatch.Library.Guard
import OpenAssetWatch.Clock
import OpenAssetWatch.Text.Unicode
import OpenAssetWatch.Text.Normalize
import OpenAssetWatch.Text.Purl
import OpenAssetWatch.Version.Compare
import OpenAssetWatch.Version.DebianOrder
import OpenAssetWatch.Version.Preorder
import OpenAssetWatch.Vulnerability.Matching
import OpenAssetWatch.Vulnerability.Candidates
import OpenAssetWatch.Vulnerability.CandidateIndex
import OpenAssetWatch.Vulnerability.Store
import OpenAssetWatch.Vulnerability.StoreRows
import OpenAssetWatch.Vulnerability.History
import OpenAssetWatch.Vulnerability.CommitOrder
import OpenAssetWatch.Vulnerability.Scope
import OpenAssetWatch.Finding.Risk
import OpenAssetWatch.Finding.RiskOrder
import OpenAssetWatch.Finding.Store
import OpenAssetWatch.Finding.Lifecycle
import OpenAssetWatch.Finding.StoreRows
import OpenAssetWatch.Finding.CommitOrder
import OpenAssetWatch.Finding.InMemory
import OpenAssetWatch.Finding.TwinRows
import OpenAssetWatch.Finding.Twin
import OpenAssetWatch.Finding.LifecycleLaw
import OpenAssetWatch.Library.Replacement
import OpenAssetWatch.Component.Store
import OpenAssetWatch.Component.Convergence
import OpenAssetWatch.Component.Presence
import OpenAssetWatch.Component.PresenceSound
import OpenAssetWatch.Text.Json
import OpenAssetWatch.Component.Observation
import OpenAssetWatch.Ingestion.Envelope
import OpenAssetWatch.Ingestion.Assets
import OpenAssetWatch.Ingestion.AssetAuthority
import OpenAssetWatch.Ingestion.Admission
import OpenAssetWatch.Ingestion.AdmissionLocks
import OpenAssetWatch.Ingestion.Idempotent
import OpenAssetWatch.Ingestion.EvaluationWork
import OpenAssetWatch.Library.Best
import OpenAssetWatch.Ingestion.ComponentEvidence
import OpenAssetWatch.Ingestion.Endpoint
import OpenAssetWatch.Ingestion.EndpointEnvelope
import OpenAssetWatch.Ingestion.NativeRecords
import OpenAssetWatch.Ingestion.EndpointTrace
import OpenAssetWatch.Ingestion.NativeEvidence
import OpenAssetWatch.Library.Rounding
import OpenAssetWatch.Temporal.Contracts
import OpenAssetWatch.Temporal.Assessment
import OpenAssetWatch.Temporal.Expectation
import OpenAssetWatch.Temporal.Deviation
import OpenAssetWatch.Temporal.Evaluation
import OpenAssetWatch.Temporal.Persistence
import OpenAssetWatch.Temporal.PersistenceExists
import OpenAssetWatch.Temporal.Range
import OpenAssetWatch.Temporal.AssessmentConstructible
import OpenAssetWatch.Library.Weight
import OpenAssetWatch.Sensor.Address
import OpenAssetWatch.Sensor.Contract
import OpenAssetWatch.Sensor.Wire
import OpenAssetWatch.Sensor.Spool
import OpenAssetWatch.Sensor.SpoolCapacity
import OpenAssetWatch.Sensor.SpoolFifo
import OpenAssetWatch.Ingestion.BoundedJson
import OpenAssetWatch.Ingestion.Adapters
import OpenAssetWatch.Ingestion.Noninterference
import OpenAssetWatch.Ingestion.Standing
import OpenAssetWatch.Text.Strip
import OpenAssetWatch.Sensor.HubFields
import OpenAssetWatch.Sensor.HubAccepts
import OpenAssetWatch.Sensor.HubEnvelope
import OpenAssetWatch.Sensor.HubRefinement
import OpenAssetWatch.Sensor.SpoolCrash
import OpenAssetWatch.Library.Ranking
import OpenAssetWatch.Classification.Evidence
import OpenAssetWatch.Classification.Signals
import OpenAssetWatch.Classification.Classifier
import OpenAssetWatch.Classification.OrderIndependence
import OpenAssetWatch.Classification.Preselection
import OpenAssetWatch.Classification.Timeline
import OpenAssetWatch.Sensor.GoStrings
import OpenAssetWatch.Agent.Software
import OpenAssetWatch.Agent.FinalizeLaw
import OpenAssetWatch.Agent.FinalizeRun
import OpenAssetWatch.Agent.Accounting
import OpenAssetWatch.Classification.Revocation
import OpenAssetWatch.Component.Upsert
import OpenAssetWatch.Ingestion.ComponentOrder
import OpenAssetWatch.Temporal.Robustness
import OpenAssetWatch.Ingestion.AdmissionBound
import OpenAssetWatch.Advisory.Reimport
import OpenAssetWatch.Identity.StateMachine
import OpenAssetWatch.Library.Decimal
import OpenAssetWatch.Version.Tokens
import OpenAssetWatch.Version.Dpkg
import OpenAssetWatch.Version.Rpm
import OpenAssetWatch.Version.Semver
import OpenAssetWatch.Version.Maven
import OpenAssetWatch.Version.Interval
import OpenAssetWatch.Advisory.RangeCheck
import OpenAssetWatch.Vulnerability.VerdictJoin
import OpenAssetWatch.Finding.SiteRiskLaw
import OpenAssetWatch.Vulnerability.Aggregation
import OpenAssetWatch.Decode.DhcpOptions
import OpenAssetWatch.Aggregate.Aggregator
import OpenAssetWatch.Aggregate.Recency
import OpenAssetWatch.Aggregate.Agreement
import OpenAssetWatch.Sensor.BatchIdentity
import OpenAssetWatch.Ingestion.CollectorNetwork
import OpenAssetWatch.Identity.EnrollmentLimiter
import OpenAssetWatch.Kev.Reevaluation
import OpenAssetWatch.Kev.Text
import OpenAssetWatch.Kev.Canonical
import OpenAssetWatch.Kev.CatalogClosed
import OpenAssetWatch.Vendor.InstallationLaw
import OpenAssetWatch.Provenance.AdvisoryLaw
import OpenAssetWatch.Schema.SqlItems
import OpenAssetWatch.Registry.NormalizationLaw
import OpenAssetWatch.Collector.SchedulerRun
import OpenAssetWatch.Identity.Attempts
import OpenAssetWatch.Sensor.Acknowledgement
import OpenAssetWatch.Kev.Publisher
import OpenAssetWatch.Advisory.SyncHistory
import OpenAssetWatch.Schema.MigrationHistory
import OpenAssetWatch.Sensor.Delivery
import OpenAssetWatch.Advisory.Mirror
