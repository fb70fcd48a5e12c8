import SqlFront.Segment
import SqlFront.Tree.Indented
import SqlFront.Tree.Encoded
import SqlFront.Text.Quoted
import SqlFront.Text.Style
import SqlFront.Label
import SqlFront.Analysis
import SqlFront.Config
import SqlFront.Files.InMemory
import SqlFront.Main
import SqlFront.Proofs.Reader.Reading
import SqlFront.Proofs.Statement.Reading
import SqlFront.Proofs.Statement.Derivation
import SqlFront.Proofs.Reduction.Content
import SqlFront.Proofs.Reduction.Meaning
import SqlFront.Proofs.Reader.Blame
import SqlFront.Proofs.Reduction.Spelling
import SqlFront.Proofs.Statement.Blame
import SqlFront.Proofs.Text.Apart
import SqlFront.Proofs.Segment.Cover
import SqlFront.Proofs.Segment.Written
import SqlFront.Proofs.Segment.Append
import SqlFront.Proofs.Segment.Blank
import SqlFront.Proofs.Text.Letters
import SqlFront.Proofs.Segment.Respelled
import SqlFront.Proofs.Token.Alike
import SqlFront.Proofs.Reader.Alike
import SqlFront.Proofs.Tree.Alike
import SqlFront.Proofs.Tree.Place
import SqlFront.Proofs.Tree.Nodes
import SqlFront.Proofs.Statement.Mirror
import SqlFront.Proofs.Statement.Labels
import SqlFront.Proofs.Statement.Alike
import SqlFront.Proofs.Statement.Classes
import SqlFront.Proofs.Analysis.Literal
import SqlFront.Proofs.Analysis.Single
import SqlFront.Proofs.Reader.Failure
import SqlFront.Proofs.Statement.Refusal
import SqlFront.Proofs.Token.Recased
import SqlFront.Proofs.Analysis.Case
import SqlFront.Proofs.Analysis.Account
import SqlFront.Proofs.Cli.Session
import SqlFront.Proofs.Statement.Missing
import SqlFront.Proofs.Cli.Settings
import SqlFront.Proofs.Reduction.Elements
import SqlFront.Proofs.Reduction.Regrouped
import SqlFront.Proofs.Reduction.Outcome
import SqlFront.Proofs.Reduction.Kinds
import SqlFront.Proofs.Reduction.Shape
import SqlFront.Proofs.Tree.Indented
import SqlFront.Proofs.Analysis.Legible
import SqlFront.Proofs.Cli.Painted
import SqlFront.Proofs.Json.Scan
import SqlFront.Proofs.Json.Read
import SqlFront.Proofs.Analysis.Encoded
import SqlFront.Proofs.Json.Sorted
import SqlFront.Proofs.Cli.Report
import SqlFront.Proofs.Cli.Trim
import SqlFront.Proofs.Segment.Word
import SqlFront.Proofs.Token.Class
import SqlFront.Proofs.Toml.Written
