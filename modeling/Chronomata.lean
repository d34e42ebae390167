import Chronomata.Definition.Draft
import Chronomata.Main
import Chronomata.Proofs.Automaton.Checking
import Chronomata.Proofs.Automaton.Rescaling
import Chronomata.Proofs.Automaton.Saving
import Chronomata.Proofs.Fleet.Log
import Chronomata.Proofs.Instance.Protocol
import Chronomata.Proofs.Instance.Likeness
import Chronomata.Proofs.Instance.Cycles
import Chronomata.Proofs.Instance.Seeds
import Chronomata.Proofs.Station.Lifecycle
import Chronomata.Proofs.Station.Overlap
import Chronomata.Proofs.TimeTravel.Bookmarks
import Chronomata.Proofs.TimeTravel.Exports
import Chronomata.Proofs.TimeTravel.Imports
import Chronomata.Proofs.TimeTravel.Playback
import Chronomata.Proofs.Gateway.Messages
import Chronomata.Proofs.Gateway.Agreement
import Chronomata.Proofs.Gateway.Conservation
import Chronomata.Proofs.Fleet.Solo
import Chronomata.Proofs.CommandLine.Detached
import Chronomata.Proofs.Decimal.Error
import Chronomata.Proofs.Decimal.Difference
import Chronomata.Proofs.Selection.Totals
import Chronomata.Proofs.Selection.Normalization
import Chronomata.Proofs.Selection.Odds
import Chronomata.Proofs.Selection.Intervals
import Chronomata.Proofs.Random.Messages
import Chronomata.Proofs.Host.Negation
import Chronomata.Proofs.Fleet.Summaries
