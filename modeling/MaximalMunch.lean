import MaximalMunch.Position
import MaximalMunch.CharClass
import MaximalMunch.Cursor
import MaximalMunch.Reading
import MaximalMunch.Finding
import MaximalMunch.Writing
import MaximalMunch.Division
import MaximalMunch.Scanner.Basic
import MaximalMunch.Scanner.Pull
import MaximalMunch.Scanner.Reachable
import MaximalMunch.Scanner.Restart
import MaximalMunch.Scanner.Sequence
import MaximalMunch.Scanner.History
import MaximalMunch.Scanner.Session
import MaximalMunch.Log.Record
import MaximalMunch.Files.Content
import MaximalMunch.Files.Tree
import MaximalMunch.Failure
import MaximalMunch.CommandLine.Flag
import MaximalMunch.CommandLine.Word
import MaximalMunch.CommandLine.Arguments
import MaximalMunch.Run.Host
import MaximalMunch.Run.World
import MaximalMunch.Run.Program
import MaximalMunch.Main
import MaximalMunch.Proofs.Languages
import MaximalMunch.Proofs.Spelling
import MaximalMunch.Proofs.LongestMatch
import MaximalMunch.Proofs.Partition
import MaximalMunch.Proofs.RoundTrip
import MaximalMunch.Proofs.MalformedRuns
import MaximalMunch.Proofs.Progress
import MaximalMunch.Proofs.Extension
import MaximalMunch.Proofs.BlankBoundary
import MaximalMunch.Proofs.Acceptance
import MaximalMunch.Proofs.Schedules
import MaximalMunch.Proofs.Positions
import MaximalMunch.Scanner.Buffered
import MaximalMunch.Proofs.Buffering
import MaximalMunch.Proofs.Resumption
import MaximalMunch.CommandLine.Prefixed
import MaximalMunch.Run.Lines
import MaximalMunch.Proofs.FailFast
import MaximalMunch.Proofs.StringLiterals
import MaximalMunch.Scanner.Logged
import MaximalMunch.Run.Performance
import MaximalMunch.Run.Outcome
import MaximalMunch.Run.Account
import MaximalMunch.Proofs.Logging
import MaximalMunch.Proofs.BrokenOutput
import MaximalMunch.Text.Unquoted
import MaximalMunch.Proofs.Columns
import MaximalMunch.Proofs.LosslessRecord
import MaximalMunch.Proofs.LineEndings
import MaximalMunch.Proofs.Order
import MaximalMunch.Place
import MaximalMunch.Proofs.Seams
import MaximalMunch.Proofs.Locality
import MaximalMunch.Proofs.Keywords
import MaximalMunch.CommandLine.Grammar
import MaximalMunch.Proofs.CommandLines
import MaximalMunch.Proofs.Lookahead
