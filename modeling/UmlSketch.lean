import UmlSketch.Bracket
import UmlSketch.Builder
import UmlSketch.Color.Basic
import UmlSketch.Color.Fill
import UmlSketch.Color.Names
import UmlSketch.CommandLine.Arguments
import UmlSketch.CommandLine.Run
import UmlSketch.CommandLine.Workspace
import UmlSketch.Compilation
import UmlSketch.Configuration.Basic
import UmlSketch.Configuration.Reading
import UmlSketch.Decimal.Basic
import UmlSketch.Decimal.Fixed
import UmlSketch.Decimal.Shortest
import UmlSketch.Diagnostic
import UmlSketch.Diagram
import UmlSketch.Dialect.Basic
import UmlSketch.Document
import UmlSketch.Expr
import UmlSketch.Failure
import UmlSketch.Files.Error
import UmlSketch.Files.Tree
import UmlSketch.Graph.Attributes
import UmlSketch.Graph.Basic
import UmlSketch.Graph.Description
import UmlSketch.Label
import UmlSketch.Main
import UmlSketch.Problem
import UmlSketch.Registry
import UmlSketch.Report
import UmlSketch.Sequence.Drawing
import UmlSketch.Sequence.Layout
import UmlSketch.Sequence.Model
import UmlSketch.Span
import UmlSketch.Svg.Element
import UmlSketch.Svg.Picture
import UmlSketch.Token
import UmlSketch.Toml.Document
import UmlSketch.Proofs.Draft.Lines
import UmlSketch.Proofs.Draft.Numbering
import UmlSketch.Proofs.Draft.Edges
import UmlSketch.Proofs.Description.Documents
import UmlSketch.Proofs.Draft.Nodes
import UmlSketch.Proofs.Label.Guarded
import UmlSketch.Proofs.Token.Loop
import UmlSketch.Proofs.Text.Trim
import UmlSketch.Proofs.Document.Cover
import UmlSketch.Proofs.Token.Unclosed
import UmlSketch.Proofs.Dialect.Unclosed
import UmlSketch.Proofs.Text.Marks
import UmlSketch.Proofs.Dialect.EscapedMarks
import UmlSketch.Proofs.Token.Items
import UmlSketch.Proofs.Document.Failures
import UmlSketch.Proofs.Document.Rearranged
import UmlSketch.Proofs.Sequence.Documents
import UmlSketch.Proofs.Dialect.Continuation
import UmlSketch.Proofs.CommandLine.Precedence
import UmlSketch.Proofs.Draft.Ports
import UmlSketch.Proofs.Draft.Bars
import UmlSketch.Proofs.Draft.Notes
import UmlSketch.Proofs.Svg.Pieces
import UmlSketch.Proofs.Draft.Directions
import UmlSketch.Proofs.Document.Fills
import UmlSketch.Proofs.Sequence.Bounds
import UmlSketch.Proofs.Dialect.Signals
import UmlSketch.Proofs.Dialect.Associations
import UmlSketch.Proofs.Text.Occurrences
import UmlSketch.Proofs.Color
import UmlSketch.Proofs.Bracket
import UmlSketch.Proofs.Text.Wrapping
import UmlSketch.Proofs.Label.Shown
import UmlSketch.Proofs.Description.Quoting
import UmlSketch.Proofs.Fill
import UmlSketch.Proofs.Token.Units
import UmlSketch.Proofs.Graph.Index
