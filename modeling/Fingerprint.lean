import Fingerprint.AuditLog
import Fingerprint.Bytes
import Fingerprint.Calendar
import Fingerprint.Configuration
import Fingerprint.Connection
import Fingerprint.Coordinator
import Fingerprint.Digest.Crypto
import Fingerprint.Digest.Hmac
import Fingerprint.Digest.Sha256
import Fingerprint.Dispatcher
import Fingerprint.Event
import Fingerprint.Event.Bus
import Fingerprint.Event.Json
import Fingerprint.Execution
import Fingerprint.Fault
import Fingerprint.FileSystem
import Fingerprint.Liveness
import Fingerprint.Lockout
import Fingerprint.Main
import Fingerprint.Numeral
import Fingerprint.Path
import Fingerprint.Proofs.Acquisition
import Fingerprint.Proofs.Affinity
import Fingerprint.Proofs.Alternation
import Fingerprint.Proofs.Attempts
import Fingerprint.Proofs.Attendance
import Fingerprint.Proofs.AuditLog
import Fingerprint.Proofs.Batching
import Fingerprint.Proofs.Bereavement
import Fingerprint.Proofs.Bookkeeping
import Fingerprint.Proofs.Calm
import Fingerprint.Proofs.Chain
import Fingerprint.Proofs.Composition
import Fingerprint.Proofs.Conduct
import Fingerprint.Proofs.Configuration
import Fingerprint.Proofs.Confinement
import Fingerprint.Proofs.Connection
import Fingerprint.Proofs.Conservation
import Fingerprint.Proofs.Containment
import Fingerprint.Proofs.Custody
import Fingerprint.Proofs.Delivery
import Fingerprint.Proofs.Device
import Fingerprint.Proofs.Disguise
import Fingerprint.Proofs.Dispatcher
import Fingerprint.Proofs.Ending
import Fingerprint.Proofs.Episode
import Fingerprint.Proofs.Escape
import Fingerprint.Proofs.Exclusion
import Fingerprint.Proofs.FileSystem
import Fingerprint.Proofs.Format
import Fingerprint.Proofs.Gapless
import Fingerprint.Proofs.Gate
import Fingerprint.Proofs.Grammar
import Fingerprint.Proofs.Gregorian
import Fingerprint.Proofs.Guard
import Fingerprint.Proofs.Heedless
import Fingerprint.Proofs.Independence
import Fingerprint.Proofs.Indifference
import Fingerprint.Proofs.Inventory
import Fingerprint.Proofs.Journal
import Fingerprint.Proofs.Json
import Fingerprint.Proofs.Ledger
import Fingerprint.Proofs.Likeness
import Fingerprint.Proofs.Lockout
import Fingerprint.Proofs.Loss
import Fingerprint.Proofs.Milestone
import Fingerprint.Proofs.Notification
import Fingerprint.Proofs.Occupancy
import Fingerprint.Proofs.Order
import Fingerprint.Proofs.Outcome
import Fingerprint.Proofs.Parallel
import Fingerprint.Proofs.Performance
import Fingerprint.Proofs.Preemption
import Fingerprint.Proofs.Privacy
import Fingerprint.Proofs.Prompt
import Fingerprint.Proofs.Queue
import Fingerprint.Proofs.Record
import Fingerprint.Proofs.Redaction
import Fingerprint.Proofs.Registration
import Fingerprint.Proofs.Resolution
import Fingerprint.Proofs.Retention
import Fingerprint.Proofs.Roster
import Fingerprint.Proofs.Rotation
import Fingerprint.Proofs.Routing
import Fingerprint.Proofs.Run
import Fingerprint.Proofs.Sensor
import Fingerprint.Proofs.Service
import Fingerprint.Proofs.Shelf
import Fingerprint.Proofs.Slots
import Fingerprint.Proofs.Standstill
import Fingerprint.Proofs.Starting
import Fingerprint.Proofs.Table
import Fingerprint.Proofs.Tale
import Fingerprint.Proofs.Timeline
import Fingerprint.Proofs.Timer
import Fingerprint.Proofs.Timestamp
import Fingerprint.Proofs.Transience
import Fingerprint.Proofs.Transparency
import Fingerprint.Proofs.Triple
import Fingerprint.Proofs.Turns
import Fingerprint.Proofs.Twin
import Fingerprint.Proofs.Unavailability
import Fingerprint.Proofs.Usage
import Fingerprint.Proofs.Verification
import Fingerprint.Proofs.View
import Fingerprint.Proofs.Volume
import Fingerprint.Proofs.Wiring
import Fingerprint.Rehearsal.Perform
import Fingerprint.Rehearsal.Report
import Fingerprint.Rehearsal.Script
import Fingerprint.Rehearsal.Stage
import Fingerprint.Service
import Fingerprint.Session
import Fingerprint.Simulator.Command
import Fingerprint.Simulator.Console
import Fingerprint.Simulator.Machine
import Fingerprint.System
import Fingerprint.TaskQueue
import Fingerprint.TemplateStore
