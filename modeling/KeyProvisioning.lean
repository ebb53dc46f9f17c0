import KeyProvisioning.Certificate.KeyRecord
import KeyProvisioning.Message.KeyResponse
import KeyProvisioning.Message.SignedChains
import KeyProvisioning.Pool
import KeyProvisioning.SecurityLevel
import KeyProvisioning.Stop
import KeyProvisioning.Toml.Document
import KeyProvisioning.Config
import KeyProvisioning.Settings.Store
import KeyProvisioning.Server.Exchange
import KeyProvisioning.Cycle.Rehearsal
import KeyProvisioning.Cycle.Job
import KeyProvisioning.Proofs.Cycle.Plan
import KeyProvisioning.Proofs.Cycle.Course
import KeyProvisioning.Proofs.Cycle.Borders
import KeyProvisioning.Proofs.Cycle.CallPlan
import KeyProvisioning.Proofs.Cycle.Heeding
import KeyProvisioning.Proofs.Cycle.Truncation
import KeyProvisioning.Proofs.Cycle.Exits
import KeyProvisioning.Proofs.Cycle.Keeping
import KeyProvisioning.Proofs.Cycle.SettingsEffect
import KeyProvisioning.Proofs.Cycle.KillSwitch
import KeyProvisioning.Proofs.Cycle.Succession
import KeyProvisioning.Proofs.Cycle.Dormancy
import KeyProvisioning.Proofs.Pool.Reconciliation
import KeyProvisioning.Proofs.Cycle.Provenance
import KeyProvisioning.Proofs.Cycle.Adoption
import KeyProvisioning.Proofs.Cycle.FailureCount
import KeyProvisioning.Proofs.Text.Characters
import KeyProvisioning.Proofs.Toml.Counts
import KeyProvisioning.Proofs.Toml.Quoting
import KeyProvisioning.Proofs.Toml.Lines
import KeyProvisioning.Proofs.Settings.Document
import KeyProvisioning.Proofs.Settings.FileStore
import KeyProvisioning.Proofs.Settings.Refinement
import KeyProvisioning.Proofs.Settings.Policy
import KeyProvisioning.Proofs.Cycle.CountPeriod
import KeyProvisioning.Proofs.Cycle.Storing
import KeyProvisioning.Proofs.Cbor.Items
import KeyProvisioning.Proofs.Message.Envelope
import KeyProvisioning.Proofs.Message.SignedChains
import KeyProvisioning.Proofs.Message.DeviceConfig
import KeyProvisioning.Proofs.Message.KeyResponse
import KeyProvisioning.Proofs.Message.KeyMaterial
import KeyProvisioning.Proofs.Message.PolicyEntries
import KeyProvisioning.Proofs.Der.Elements
import KeyProvisioning.Proofs.Certificate.Chain
import KeyProvisioning.Proofs.Pool.Watermark
import KeyProvisioning.Proofs.Pool.TopUp
import KeyProvisioning.Proofs.Settings.Replacement
import KeyProvisioning.Proofs.Settings.Persistence
import KeyProvisioning.Proofs.Settings.Interleaving
import KeyProvisioning.Proofs.Settings.Poisoning
import KeyProvisioning.Proofs.Cycle.Recovery
import KeyProvisioning.Proofs.Certificate.Leaf
import KeyProvisioning.Proofs.Server.Challenge
import KeyProvisioning.Proofs.Stop.Handles
import KeyProvisioning.Proofs.Cycle.Crash
import KeyProvisioning.Proofs.Cycle.Job
import KeyProvisioning.Proofs.Url.Continuation
import KeyProvisioning.Proofs.Url.Place
import KeyProvisioning.Proofs.Server.Origin
import KeyProvisioning.Proofs.Toml.Words
import KeyProvisioning.Proofs.Toml.Continuation
import KeyProvisioning.Proofs.Toml.Rows
import KeyProvisioning.Proofs.Toml.Fields
import KeyProvisioning.Proofs.Settings.Overriding
import KeyProvisioning.Proofs.Calendar.Dates
import KeyProvisioning.Proofs.Calendar.Moments
import KeyProvisioning.Proofs.Certificate.WrittenTimes
import KeyProvisioning.Proofs.Certificate.Expiration
import KeyProvisioning.Proofs.Stop.Sharing
import KeyProvisioning.Proofs.Stop.Families
import KeyProvisioning.Proofs.Stop.Waits
