import MessageRouter.Config
import MessageRouter.Decimal.Reading
import MessageRouter.Error
import MessageRouter.Identifier
import MessageRouter.Json.Decode
import MessageRouter.Json.Writer
import MessageRouter.Pattern
import MessageRouter.Principal
import MessageRouter.Properties
import MessageRouter.QualifiedName
import MessageRouter.Telemetry
import MessageRouter.Text.Blank
import MessageRouter.Text.Bytes
import MessageRouter.Text.LowerCase
import MessageRouter.Text.Quoted
import MessageRouter.Filter.Parser
import MessageRouter.Filter.Matching
import MessageRouter.Regex.Parser
import MessageRouter.Regex.Matching
import MessageRouter.Authorization.Basic
import MessageRouter.Stored
import MessageRouter.Message
import MessageRouter.Shelf
import MessageRouter.Exchange.SendRules
import MessageRouter.Router
import MessageRouter.Engine.Step
import MessageRouter.Scenario.Command
import MessageRouter.View
import MessageRouter.Scenario.World
import MessageRouter.Scenario.Run
import MessageRouter.Proofs.FilterText
import MessageRouter.Proofs.FilterGrammar
import MessageRouter.Proofs.FilterFaults
import MessageRouter.Proofs.Wildcards
import MessageRouter.Proofs.AccessLists
import MessageRouter.Proofs.Decisions
import MessageRouter.Proofs.RegexMatching
import MessageRouter.Proofs.RegexReading
import MessageRouter.Proofs.NamePatterns
import MessageRouter.Proofs.Run
import MessageRouter.Proofs.Script
import MessageRouter.Proofs.Duties
import MessageRouter.Proofs.Steps
import MessageRouter.Proofs.Stacks
import MessageRouter.Proofs.Effects
import MessageRouter.Proofs.RouterState
import MessageRouter.Proofs.Turns
import MessageRouter.Proofs.SendRules
import MessageRouter.Proofs.Custody
import MessageRouter.Proofs.Closing
import MessageRouter.Proofs.Verdicts
import MessageRouter.Proofs.Ledger
import MessageRouter.Proofs.Pins
import MessageRouter.Proofs.Tasks
import MessageRouter.Proofs.Accounts
import MessageRouter.Proofs.Refusals
import MessageRouter.Proofs.Waiting
import MessageRouter.Proofs.Sends
import MessageRouter.Proofs.Tidings
import MessageRouter.Proofs.Tiers
import MessageRouter.Proofs.Stations
import MessageRouter.Proofs.Breakdowns
import MessageRouter.Proofs.Conversation
import MessageRouter.Proofs.FirstHops
import MessageRouter.Proofs.Handing
import MessageRouter.Proofs.Failures
import MessageRouter.Proofs.Rendezvous
import MessageRouter.Proofs.DeadEnds
import MessageRouter.Proofs.Parties
import MessageRouter.Proofs.LaterHops
import MessageRouter.Proofs.Attendance
import MessageRouter.Proofs.Registrations
import MessageRouter.Proofs.Journeys
import MessageRouter.Proofs.Catalogue
import MessageRouter.Proofs.Listings
import MessageRouter.Proofs.Selection
import MessageRouter.Proofs.Streams
import MessageRouter.Proofs.Copies
import MessageRouter.Proofs.Denials
import MessageRouter.Proofs.StraightHops
import MessageRouter.Proofs.ClosedChannels
import MessageRouter.Proofs.WrittenNames
import MessageRouter.Proofs.LateFailures
import MessageRouter.Proofs.UnheardSteps
import MessageRouter.Proofs.Onlookers
import MessageRouter.Proofs.Audiences
import MessageRouter.Proofs.Commands
import MessageRouter.Proofs.Undisturbed
