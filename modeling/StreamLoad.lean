import StreamLoad.Main
import StreamLoad.Proofs.Benchmark.Delivery
import StreamLoad.Proofs.Attempt.Registry
import StreamLoad.Proofs.Churn.Operations
import StreamLoad.Proofs.Churn.Accounting
import StreamLoad.Proofs.Churn.Moves
import StreamLoad.Proofs.Churn.Performed
import StreamLoad.Proofs.Churn.Goal
import StreamLoad.Proofs.Churn.Wiring
import StreamLoad.Proofs.Churn.Deadlines
import StreamLoad.Proofs.Churn.Connections
import StreamLoad.Proofs.Benchmark.Phases
import StreamLoad.Proofs.Event.Lines
import StreamLoad.Proofs.Event.Written
import StreamLoad.Proofs.Event.Cuttings
import StreamLoad.Proofs.Net.Host
import StreamLoad.Proofs.Net.Url
import StreamLoad.Proofs.Net.Publish
import StreamLoad.Proofs.Benchmark.Actions
import StreamLoad.Proofs.Benchmark.Publishing
import StreamLoad.Proofs.Benchmark.Turns
import StreamLoad.Proofs.Benchmark.Members
import StreamLoad.Proofs.Event.Short
import StreamLoad.Proofs.Benchmark.Wiring
import StreamLoad.Proofs.Benchmark.Streams
import StreamLoad.Proofs.Benchmark.Confluence
import StreamLoad.Proofs.Benchmark.Joining
import StreamLoad.Proofs.Benchmark.Heard
import StreamLoad.Proofs.Benchmark.Rounds
import StreamLoad.Proofs.Churn.Turns
import StreamLoad.Proofs.Churn.Actions
import StreamLoad.Proofs.Churn.Pacing
import StreamLoad.Proofs.Churn.Probing
import StreamLoad.Proofs.Metrics
import StreamLoad.Proofs.Greeting
import StreamLoad.Proofs.Churn.Answers
import StreamLoad.Proofs.Churn.Endings
import StreamLoad.Proofs.Churn.Confluence
import StreamLoad.Proofs.CommandLine.Fields
import StreamLoad.Proofs.CommandLine.Groups
import StreamLoad.Proofs.CommandLine.Layering
import StreamLoad.Proofs.CommandLine.Separation
import StreamLoad.Proofs.Cycle
import StreamLoad.Proofs.Event.Framing
import StreamLoad.Proofs.Event.Reader
import StreamLoad.Proofs.Ticker
import StreamLoad.Proofs.Churn.Cadence
import StreamLoad.Proofs.Benchmark.Cadence
import StreamLoad.Proofs.Cadence
import StreamLoad.Proofs.Churn.Search
import StreamLoad.Proofs.Churn.Log
import StreamLoad.Proofs.Churn.Stirring
import StreamLoad.Proofs.Churn.Stages
import StreamLoad.Proofs.Churn.Fates
import StreamLoad.Proofs.Churn.Outcomes
import StreamLoad.Proofs.Churn.Kinds
import StreamLoad.Proofs.Event.Echo
import StreamLoad.Proofs.Net.HostForm
import StreamLoad.Proofs.Net.Target
import StreamLoad.Proofs.Attempt.Lifecycle
import StreamLoad.Proofs.Benchmark.Timing
import StreamLoad.Proofs.Event.Resumption
import StreamLoad.Proofs.Attempt.Membership
import StreamLoad.Proofs.Stopwatch
