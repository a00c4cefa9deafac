import MovePlan.Cli.Run
import MovePlan.Flow.DryRun
import MovePlan.Compose.Session
import MovePlan.Plan.Encode
import MovePlan.Main
import MovePlan.Host.Console
import MovePlan.Host.Http
import MovePlan.Proofs.Compose.Build
import MovePlan.Proofs.Validation.Linearity
import MovePlan.Proofs.Plan.Undo
import MovePlan.Proofs.Plan.Stability
import MovePlan.Proofs.Plan.Restraint
import MovePlan.Proofs.Plan.RoundTrip
import MovePlan.Proofs.Plan.Canonical
import MovePlan.Proofs.Plan.Refused
import MovePlan.Proofs.Flow.Carried
import MovePlan.Proofs.Flow.Verdicts
import MovePlan.Proofs.Graph.History
import MovePlan.Proofs.Validation.Cached
import MovePlan.Proofs.Simulation.Readings
import MovePlan.Proofs.Compose.Sequential
import MovePlan.Proofs.Node.Lookups
import MovePlan.Proofs.Cli.Analyze
import MovePlan.Proofs.Simulation.Spelling
import MovePlan.Proofs.Graph.DataFlow
import MovePlan.Proofs.Simulation.StoreAddress
import MovePlan.Proofs.Simulation.OwnStores
import MovePlan.Proofs.Compose.Dialogue
import MovePlan.Proofs.Validation.Extension
import MovePlan.Proofs.Validation.Signers
import MovePlan.Graph.Register
import MovePlan.Proofs.Abi.Droppable
import MovePlan.Proofs.Graph.Register
import MovePlan.Proofs.Plan.Account
import MovePlan.Proofs.Plan.Grammar
import MovePlan.Proofs.Plan.Literal
import MovePlan.Proofs.Move.FunctionId
import MovePlan.Proofs.Diagnosis.Rules
import MovePlan.Proofs.Simulation.Symbols
import MovePlan.Proofs.Simulation.Positions
import MovePlan.Proofs.Tracking.Amount
import MovePlan.Proofs.Config.Assignments
import MovePlan.Proofs.Flow.Journal
import MovePlan.Proofs.Json.WellFormed
import MovePlan.Proofs.Flow.Recorded
import MovePlan.Proofs.Simulation.AddressBytes
import MovePlan.Proofs.Config.Settings
import MovePlan.Proofs.Storage.WriteWhole
