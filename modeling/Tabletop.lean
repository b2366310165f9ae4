import Tabletop.Json.Reader
import Tabletop.Main
import Tabletop.Proofs.Check.Agreement
import Tabletop.Proofs.Command.Normalised
import Tabletop.Proofs.Json.Distinct
import Tabletop.Proofs.Robot.Refinement
import Tabletop.Proofs.Settings.Leaf
import Tabletop.Proofs.Simulation.Checkpoint
import Tabletop.Proofs.Simulation.Idle
import Tabletop.Proofs.Source.File
import Tabletop.Proofs.Settings.Spelling
import Tabletop.Proofs.Settings.Variables
import Tabletop.Proofs.Settings.Precedence
import Tabletop.Proofs.Settings.Escape
import Tabletop.Proofs.CommandLine.Crash
import Tabletop.Proofs.CommandLine.Script
import Tabletop.Proofs.CommandLine.Switches
import Tabletop.Proofs.Simulation.Resume
import Tabletop.Proofs.Simulation.Bookkeeping
import Tabletop.Proofs.CommandLine.Flagged
import Tabletop.Proofs.Display.Showable
import Tabletop.Proofs.Robot.Transposed
import Tabletop.Proofs.CommandLine.Exit
import Tabletop.Proofs.CommandLine.Showing
import Tabletop.Proofs.CommandLine.Input
import Tabletop.Proofs.Json.ReadBack
import Tabletop.Proofs.Display.ReadBack
import Tabletop.Proofs.Log.Lines
import Tabletop.Proofs.CommandLine.Named
import Tabletop.Proofs.Command.Canonical
import Tabletop.Proofs.Source.Lifecycle
import Tabletop.Proofs.Settings.Nearest
import Tabletop.Proofs.Robot.Advance
import Tabletop.Proofs.Check.Warning
import Tabletop.Proofs.Robot.Heading
import Tabletop.Proofs.Display.Rejected
import Tabletop.Proofs.Text.Quoted
import Tabletop.Proofs.Command.Offending
import Tabletop.Proofs.CommandLine.Sides
import Tabletop.Proofs.Simulation.Reach
