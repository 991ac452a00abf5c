import SecretScan.Command.Arguments
import SecretScan.Command.Options
import SecretScan.Command.Run
import SecretScan.Config.Basic
import SecretScan.Config.Decode
import SecretScan.Files.Path
import SecretScan.Files.Resolve
import SecretScan.Files.Tree
import SecretScan.Files.Walk
import SecretScan.Json.Value
import SecretScan.Json.Writer
import SecretScan.Main
import SecretScan.Number.Rounding
import SecretScan.Pattern.BuiltIn
import SecretScan.Pattern.Matcher
import SecretScan.Pattern.Source
import SecretScan.Pattern.Sources
import SecretScan.Pattern.Unescape
import SecretScan.Pool.Run
import SecretScan.Pool.Step
import SecretScan.Regex.Basic
import SecretScan.Regex.CharSet
import SecretScan.Regex.Meaning
import SecretScan.Regex.Prune
import SecretScan.Regex.Reader
import SecretScan.Regex.Reader.Basic
import SecretScan.Regex.Reader.Bounds
import SecretScan.Regex.Reader.Bracket
import SecretScan.Regex.Reader.Escape
import SecretScan.Regex.Reader.Group
import SecretScan.Regex.Search
import SecretScan.Report.Duration
import SecretScan.Report.Json
import SecretScan.Report.Text
import SecretScan.Report.Timestamp
import SecretScan.Scan.Content
import SecretScan.Scan.Matchers
import SecretScan.Scan.Request
import SecretScan.Tally
import SecretScan.Terminal.Strip
import SecretScan.Terminal.Style
import SecretScan.Text.Blank
import SecretScan.Text.CaseFold
import SecretScan.Text.CodeRanges
import SecretScan.Text.Line
import SecretScan.Text.Lowercase
import SecretScan.Text.Property
import SecretScan.Text.Property.Age
import SecretScan.Text.Property.Binary
import SecretScan.Text.Property.Category
import SecretScan.Text.Property.GraphemeBreak
import SecretScan.Text.Property.Script
import SecretScan.Text.Property.ScriptExtension
import SecretScan.Text.Property.SentenceBreak
import SecretScan.Text.Property.WordBreak
import SecretScan.Text.Replace
import SecretScan.Text.Utf8
import SecretScan.Text.Word
import SecretScan.Toml.Reader
import SecretScan.Toml.Scalar
import SecretScan.Toml.Table
import SecretScan.Toml.Text
import SecretScan.Toml.Value
import SecretScan.Proofs.Text.Line
import SecretScan.Proofs.Text.Utf8
import SecretScan.Proofs.Text.Blank
import SecretScan.Proofs.Regex.First
import SecretScan.Proofs.Regex.Search
import SecretScan.Proofs.Regex.Matches
import SecretScan.Proofs.Regex.Extent
import SecretScan.Proofs.Regex.Containment
import SecretScan.Proofs.Regex.Reader.Runs
import SecretScan.Proofs.Pattern.Alternation
import SecretScan.Proofs.Pattern.Stage
import SecretScan.Proofs.Pattern.BuiltIn
import SecretScan.Proofs.Files.Path
import SecretScan.Proofs.Tally.Counts
import SecretScan.Proofs.Tally.Recording
import SecretScan.Proofs.Tally.Ranking
import SecretScan.Proofs.Files.Walk
import SecretScan.Proofs.Files.Opening
import SecretScan.Proofs.Files.Candidates
import SecretScan.Proofs.Pool.Invariant
import SecretScan.Proofs.Pool.Outcome
import SecretScan.Proofs.Pool.Trace
import SecretScan.Proofs.Pool.Failure
import SecretScan.Proofs.Pool.Liveness
import SecretScan.Proofs.Pool.Stopping
import SecretScan.Proofs.Scan.Content
import SecretScan.Proofs.Scan.Lines
import SecretScan.Proofs.Scan.Screen
import SecretScan.Proofs.Scan.Request
import SecretScan.Proofs.Scan.Failure
import SecretScan.Proofs.Scan.Excerpt
import SecretScan.Proofs.Files.Write
import SecretScan.Proofs.Command.Run
import SecretScan.Proofs.Regex.Shape
import SecretScan.Proofs.Text.CaseFold
import SecretScan.Proofs.Scan.Detection
import SecretScan.Proofs.Pattern.Appended
import SecretScan.Proofs.Scan.Appended
import SecretScan.Proofs.Json.Grammar
import SecretScan.Proofs.Json.Reader
import SecretScan.Proofs.Report.Arrival
import SecretScan.Proofs.Json.Writer
import SecretScan.Proofs.Report.ReadBack
import SecretScan.Proofs.Command.Document
import SecretScan.Proofs.Pattern.Faults
import SecretScan.Proofs.Command.Precedence
import SecretScan.Proofs.Pattern.Lines
import SecretScan.Proofs.Scan.Monotone
import SecretScan.Proofs.Text.Lowercase
import SecretScan.Proofs.Files.Suffix
import SecretScan.Proofs.Terminal.Strip
import SecretScan.Proofs.Report.Plain
import SecretScan.Proofs.Command.Output
import SecretScan.Proofs.Report.TopFiles
import SecretScan.Proofs.Command.Extensions
import SecretScan.Proofs.Pattern.Splitting
import SecretScan.Proofs.Toml.Fields
import SecretScan.Proofs.Toml.Grammar
import SecretScan.Proofs.Toml.Values
import SecretScan.Proofs.Toml.Reader
import SecretScan.Proofs.Toml.Writer
import SecretScan.Proofs.Config.ReadBack
import SecretScan.Proofs.Pattern.Escape
import SecretScan.Proofs.Config.Excluded
import SecretScan.Proofs.Report.Duration
