import StandingQuery.Engine.Lifecycle
import StandingQuery.Engine.Startup
import StandingQuery.Engine.Timeline
import StandingQuery.Registry.Unreliable
import StandingQuery.Settings.Load
import StandingQuery.Proofs.Interaction
import StandingQuery.Proofs.Cluster
import StandingQuery.Proofs.Holding
import StandingQuery.Proofs.Exclusion
import StandingQuery.Proofs.Handles
import StandingQuery.Proofs.Staff
import StandingQuery.Proofs.Tending
import StandingQuery.Proofs.Backing
import StandingQuery.Proofs.Instants
import StandingQuery.Proofs.NextInstant
import StandingQuery.Proofs.TimerRuns
import StandingQuery.Proofs.Amid
import StandingQuery.Proofs.Courses
import StandingQuery.Proofs.PastEnd
import StandingQuery.Proofs.Enumeration
import StandingQuery.Proofs.Rhythm
import StandingQuery.Proofs.WholeLife
import StandingQuery.Proofs.LeastInstant
import StandingQuery.Proofs.Reports
import StandingQuery.Proofs.Deliveries
import StandingQuery.Proofs.ActivationRuns
import StandingQuery.Proofs.AllOrNothing
import StandingQuery.Proofs.Siblings
import StandingQuery.Proofs.Turns
import StandingQuery.Proofs.Together
import StandingQuery.Proofs.TimerTurns
import StandingQuery.Proofs.Separation
import StandingQuery.Proofs.RegistryKinds
import StandingQuery.Proofs.TimerChanges
import StandingQuery.Proofs.Confinement
import StandingQuery.Proofs.EmbeddedQueries
import StandingQuery.Proofs.Stopping
import StandingQuery.Proofs.CreateDelete
import StandingQuery.Proofs.LaggingLink
import StandingQuery.Proofs.Updates
import StandingQuery.Proofs.Lockstep
import StandingQuery.Proofs.Batches
import StandingQuery.Proofs.CalendarDates
import StandingQuery.Proofs.WrittenDigits
import StandingQuery.Proofs.WrittenInstants
import StandingQuery.Proofs.ScannedParts
import StandingQuery.Proofs.CivilTimes
import StandingQuery.Proofs.RecordedInstants
import StandingQuery.Proofs.WrittenIdentifiers
import StandingQuery.Proofs.KeyedMaps
import StandingQuery.Proofs.Routing
import StandingQuery.Proofs.RowsAsMemory
import StandingQuery.Proofs.ElapsedUnits
import StandingQuery.Proofs.Delays
import StandingQuery.Proofs.MergedLayers
import StandingQuery.Proofs.EnvironmentLayer
import StandingQuery.Proofs.ReadSettings
import StandingQuery.Proofs.LayeredSettings
import StandingQuery.Proofs.TakenText
import StandingQuery.Proofs.DecodedShapes
import StandingQuery.Proofs.PersistedValues
import StandingQuery.Proofs.CheckedSchedules
import StandingQuery.Proofs.SwitchedOff
import StandingQuery.Proofs.SharedTimes
import StandingQuery.Proofs.Attempts
import StandingQuery.Proofs.MailedAddresses
import StandingQuery.Proofs.GuessedNumbers
import StandingQuery.Proofs.WrittenValues
import StandingQuery.Proofs.TakenValues
import StandingQuery.Proofs.GuessedValues
import StandingQuery.Proofs.TextSettings
import StandingQuery.Proofs.CalendarEnd
import StandingQuery.Proofs.NestedReports
import StandingQuery.Proofs.ElapsedTime
import StandingQuery.Proofs.OnceDue
import StandingQuery.Proofs.TrackedTimers
