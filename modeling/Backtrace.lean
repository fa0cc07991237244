import Backtrace.Main
import Backtrace.World.FileTree
import Backtrace.Proofs.Text.Ascii
import Backtrace.Proofs.Text.Words
import Backtrace.Proofs.Text.Characters
import Backtrace.Proofs.Text.Lines
import Backtrace.Proofs.Text.EncodedLines
import Backtrace.Proofs.Text.Trimming
import Backtrace.Proofs.Text.Listed
import Backtrace.Proofs.Path.Components
import Backtrace.Proofs.Path.FileName
import Backtrace.Proofs.Frame.Spelling
import Backtrace.Proofs.Frame.Shape
import Backtrace.Proofs.Frame.Grammar
import Backtrace.Proofs.Frame.Edits
import Backtrace.Proofs.Sink.Room
import Backtrace.Proofs.Writer.Lossless
import Backtrace.Proofs.Trace.LineMachine
import Backtrace.Proofs.Trace.Moments
import Backtrace.Proofs.Trace.Reading
import Backtrace.Proofs.Trace.Frames
import Backtrace.Proofs.Trace.FrameBytes
import Backtrace.Proofs.Trace.WholeText
import Backtrace.Proofs.Trace.Pulls
import Backtrace.Proofs.Decoding.OverLines
import Backtrace.Proofs.Decoding.Answers
import Backtrace.Proofs.Decoding.Outcome
import Backtrace.Proofs.Decoding.FirstFault
import Backtrace.Proofs.Decoding.Invocations
import Backtrace.Proofs.Decoding.OverAnswers
import Backtrace.Proofs.Decoding.Concatenation
import Backtrace.Proofs.Decoding.Noninterference
import Backtrace.Proofs.Decoding.OutputLines
import Backtrace.Proofs.Decoding.Limits
import Backtrace.Proofs.Decoding.Accounting
import Backtrace.Proofs.Decoding.Entries
import Backtrace.Proofs.Decoding.Kept
import Backtrace.Proofs.Resolver.Replies
import Backtrace.Proofs.Session.Reporting
import Backtrace.Proofs.Session.Launching
import Backtrace.Proofs.Session.OutputLines
import Backtrace.Proofs.Session.Records
import Backtrace.Proofs.Options.LastAssigned
import Backtrace.Proofs.Options.Spelling
import Backtrace.Proofs.Options.RoundTrip
import Backtrace.Proofs.Options.Grammar
import Backtrace.Proofs.Options.Rewriting
import Backtrace.Proofs.Layout.Components
import Backtrace.Proofs.Configuration.Classification
import Backtrace.Proofs.CommandLine.Outcome
import Backtrace.Proofs.CommandLine.ExplicitForm
import Backtrace.Proofs.CommandLine.Classification
import Backtrace.Proofs.CommandLine.ProgramName
