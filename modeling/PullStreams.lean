import PullStreams.ByteSource.Scripted
import PullStreams.CommandLine
import PullStreams.Demux.Demultiplexer
import PullStreams.Demux.Desk
import PullStreams.Demux.Script
import PullStreams.Engine.Scripted
import PullStreams.EventQueue.Monitor
import PullStreams.EventQueue.Run
import PullStreams.Feeder.Exchange
import PullStreams.Feeder.Loop
import PullStreams.Main
import PullStreams.Media.Token
import PullStreams.Proofs.Reading.Readers
import PullStreams.Proofs.Requests.Barrier
import PullStreams.Proofs.Requests.Order
import PullStreams.Proofs.Session.PresentationEnd
import PullStreams.Proofs.Session.Coherence
import PullStreams.Proofs.Session.Terminal
import PullStreams.Session.Run
import PullStreams.Proofs.Session.Protocol
import PullStreams.Proofs.Session.Posting
import PullStreams.Proofs.Session.Starting
import PullStreams.Proofs.Session.EndHistory
import PullStreams.Proofs.Demux.Recorded
import PullStreams.Proofs.Demux.Buffering
import PullStreams.Proofs.Session.OpenedOnce
import PullStreams.Proofs.Demux.Rules
import PullStreams.Proofs.Feeder.Teardown
import PullStreams.Proofs.Session.Pulling
import PullStreams.Proofs.Session.Selection
import PullStreams.Proofs.Layout.Binding
import PullStreams.Proofs.Layout.Order
import PullStreams.Proofs.Layout.Matching
import PullStreams.Proofs.Reading.Delivery
import PullStreams.Proofs.Feeder.Serving
import PullStreams.Proofs.Reading.Overrun
import PullStreams.Proofs.Reading.Splits
import PullStreams.Proofs.Demux.Freshness
import PullStreams.Proofs.Demux.Probing
import PullStreams.Proofs.Number.Value
import PullStreams.Proofs.Session.Rates
import PullStreams.Proofs.Session.Failing
