import Passcode.Log.Line
import Passcode.Scenario.DeliveryScript
import Passcode.Scenario.DirectoryScript
import Passcode.Scenario.MetricsScript
import Passcode.Scenario.OutcomeScript
import Passcode.Scenario.TaskScript
import Passcode.Settings.Environment
import Passcode.Scenario.CauseScript
import Passcode.Proofs.StoreHistory
import Passcode.Proofs.Logins
import Passcode.Proofs.Sweeps
import Passcode.Proofs.Isolation
import Passcode.Proofs.Answers
import Passcode.Proofs.Overlaps
import Passcode.Proofs.Conservation
import Passcode.Proofs.Closings
import Passcode.Proofs.Addressees
import Passcode.Proofs.Retractions
import Passcode.Proofs.Secrecy
import Passcode.Proofs.Gauges
import Passcode.Proofs.Memberships
import Passcode.Proofs.Frames
import Passcode.Proofs.Accounts
import Passcode.Proofs.Hindrances
import Passcode.Proofs.Lookups
import Passcode.Proofs.Evictions
import Passcode.Proofs.FreshDraws
import Passcode.Proofs.Exchanges
import Passcode.Proofs.Recipients
import Passcode.Proofs.Templates
import Passcode.Proofs.Variables
import Passcode.Proofs.Exports
import Passcode.Proofs.Acceptance
import Passcode.Proofs.Numerals
import Passcode.Proofs.WordForms
import Passcode.Proofs.Guarantees
import Passcode.Proofs.Timers
import Passcode.Proofs.TaskScripts
