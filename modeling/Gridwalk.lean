import Gridwalk.Board.Sprite
import Gridwalk.Main
import Gridwalk.Proofs.Config.Document
import Gridwalk.Proofs.Config.Solutions
import Gridwalk.Proofs.Cycle.Account
import Gridwalk.Proofs.Cycle.Arrivals
import Gridwalk.Proofs.Cycle.Atomicity
import Gridwalk.Proofs.Cycle.Conservation
import Gridwalk.Proofs.Cycle.Scenery
import Gridwalk.Proofs.Cycle.Simultaneous
import Gridwalk.Proofs.Cycle.Undoing
import Gridwalk.Proofs.Cycle.Wandering
import Gridwalk.Proofs.Grid.Coherence
import Gridwalk.Proofs.Json.Grammar
import Gridwalk.Proofs.Json.Literal
import Gridwalk.Proofs.Json.Reading
import Gridwalk.Proofs.Level.Contents
import Gridwalk.Proofs.Level.Document
import Gridwalk.Proofs.Level.Drawing
import Gridwalk.Proofs.Level.Fit
import Gridwalk.Proofs.Level.Leniency
import Gridwalk.Proofs.Level.Rewriting
import Gridwalk.Proofs.Level.Shape
import Gridwalk.Proofs.Script.Cut
import Gridwalk.Proofs.Script.Escapes
import Gridwalk.Proofs.Script.Failure
import Gridwalk.Proofs.Script.Fault
import Gridwalk.Proofs.Script.Grammar
import Gridwalk.Proofs.Script.Joining
import Gridwalk.Proofs.Script.Listing
import Gridwalk.Proofs.Script.Report
import Gridwalk.Proofs.Script.Spacing
import Gridwalk.Proofs.Script.Writing
import Gridwalk.Proofs.Session.Failing
import Gridwalk.Proofs.Session.Protocol
import Gridwalk.Proofs.Session.Selection
import Gridwalk.Proofs.Session.View
import Gridwalk.Proofs.Symbols
import Gridwalk.Proofs.Symbols.Keys
import Gridwalk.Proofs.Table
import Gridwalk.Proofs.Terminal.LineBreaks
import Gridwalk.Proofs.Text.ByteOrder
import Gridwalk.Proofs.Text.Lines
import Gridwalk.Proofs.Text.Trimming
