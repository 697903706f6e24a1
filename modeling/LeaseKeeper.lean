import LeaseKeeper.Observability
import LeaseKeeper.Proofs.Schedule
import LeaseKeeper.Proofs.Session.Onward
import LeaseKeeper.Proofs.Session.Queue
import LeaseKeeper.Rehearsal.Credentials
import LeaseKeeper.Rehearsal.Keeper
import LeaseKeeper.Rehearsal.Leases
import LeaseKeeper.Rehearsal.Multicaster
import LeaseKeeper.Rehearsal.Scheduler
import LeaseKeeper.Rehearsal.Server
import LeaseKeeper.Rehearsal.Session
import LeaseKeeper.Proofs.Session.Care
import LeaseKeeper.Proofs.Session.Shifts
import LeaseKeeper.Proofs.Session.SingleFlight
import LeaseKeeper.Proofs.Session.History
import LeaseKeeper.Proofs.Session.Freshness
import LeaseKeeper.Proofs.Session.Hands
import LeaseKeeper.Proofs.Session.Rest
import LeaseKeeper.Proofs.Session.Shutdown
import LeaseKeeper.Proofs.Leases.Entries
import LeaseKeeper.Proofs.Leases.Frames
import LeaseKeeper.Proofs.Leases.Deeds
import LeaseKeeper.Proofs.Leases.Advance
import LeaseKeeper.Proofs.Leases.Queue
import LeaseKeeper.Proofs.Leases.Tending
import LeaseKeeper.Proofs.Leases.Care
import LeaseKeeper.Proofs.Leases.Record
import LeaseKeeper.Proofs.Leases.Scenes
import LeaseKeeper.Proofs.Leases.Acts
import LeaseKeeper.Proofs.Leases.Soundness
import LeaseKeeper.Proofs.Leases.Asides
import LeaseKeeper.Proofs.Leases.Course
import LeaseKeeper.Proofs.Leases.Stages
import LeaseKeeper.Proofs.Leases.Partings
import LeaseKeeper.Proofs.Leases.Removal
import LeaseKeeper.Proofs.Leases.Losses
import LeaseKeeper.Proofs.Leases.Shutdown
import LeaseKeeper.Proofs.Timing
import LeaseKeeper.Proofs.Session.Traces
import LeaseKeeper.Proofs.Session.Fates
import LeaseKeeper.Proofs.Session.Lineage
import LeaseKeeper.Proofs.Session.Supply
import LeaseKeeper.Proofs.Session.Continuity
import LeaseKeeper.Proofs.Leases.Confinement
import LeaseKeeper.Proofs.Leases.Service
import LeaseKeeper.Proofs.Leases.Continuity
import LeaseKeeper.Proofs.Leases.Renaming
import LeaseKeeper.Proofs.Leases.Mirrors
import LeaseKeeper.Proofs.Leases.Echoes
import LeaseKeeper.Proofs.Leases.Reflection
import LeaseKeeper.Proofs.Leases.Upkeep
import LeaseKeeper.Proofs.Leases.Chronicles
import LeaseKeeper.Proofs.Leases.Independence
import LeaseKeeper.Proofs.Config
import LeaseKeeper.Proofs.Multicaster
import LeaseKeeper.Proofs.Session.Renewals
import LeaseKeeper.Proofs.Keeper.Shutdown
import LeaseKeeper.Proofs.Session.Desertion
import LeaseKeeper.Proofs.Leases.Desertion
import LeaseKeeper.Proofs.Desertion
import LeaseKeeper.Proofs.Clockwork
import LeaseKeeper.Proofs.Metrics
import LeaseKeeper.Proofs.Session.Tokens
import LeaseKeeper.Proofs.Leases.Contents
import LeaseKeeper.Proofs.Secrecy
import LeaseKeeper.Proofs.Environment
import LeaseKeeper.Proofs.Session.Overdue
import LeaseKeeper.Proofs.Leases.Failures
import LeaseKeeper.Proofs.Retries.Tempo
import LeaseKeeper.Proofs.Session.Retries
import LeaseKeeper.Proofs.Leases.Pursuits
import LeaseKeeper.Proofs.Leases.Retries
import LeaseKeeper.Proofs.Retries
import LeaseKeeper.Proofs.Delays
import LeaseKeeper.Proofs.Registrations
import LeaseKeeper.Proofs.Overload
import LeaseKeeper.Proofs.Clockwork.Calls
import LeaseKeeper.Proofs.Clockwork.Manual
