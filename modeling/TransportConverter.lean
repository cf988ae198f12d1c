import TransportConverter.Foundations.Loops
import TransportConverter.Foundations.Records
import TransportConverter.Foundations.Refinement
import TransportConverter.Codec.Options
import TransportConverter.Codec.Grammar
import TransportConverter.Codec.ParserCorrect
import TransportConverter.Codec.ParserEnds
import TransportConverter.Codec.Acceptance
import TransportConverter.Codec.Writer
import TransportConverter.Codec.WriterLayout
import TransportConverter.Codec.RoundTrip
import TransportConverter.Client.Redirect
import TransportConverter.Client.ConnectTruth
import TransportConverter.Client.ReplyStream
import TransportConverter.Client.TrackedSet
import TransportConverter.Server.Batch
import TransportConverter.Server.ReadStream
import TransportConverter.Server.Tables
import TransportConverter.Server.Teardown
import TransportConverter.EndToEnd.Redirect
import TransportConverter.EndToEnd.Decoders
import TransportConverter.EndToEnd.Replies
import TransportConverter.Codec.Encoder
import TransportConverter.Codec.Normalise
import TransportConverter.Client.ReadOpts
import TransportConverter.Client.Framing
import TransportConverter.Client.Fallback
import TransportConverter.Codec.ParserHeap
import TransportConverter.Client.ReplyHeap
import TransportConverter.Client.Concurrency
import TransportConverter.Server.Loggers
import TransportConverter.Foundations.InetText
import TransportConverter.EndToEnd.Destinations
import TransportConverter.Codec.ParserReads
import TransportConverter.Performance.Attribution
import TransportConverter.Performance.Stored
import TransportConverter.Client.SocketStates
import TransportConverter.EndToEnd.Transparency
import TransportConverter.Performance.Alignment
import TransportConverter.Performance.PlotScript
import TransportConverter.Performance.ReadBack
import TransportConverter.Client.Readers
import TransportConverter.Client.Startup
import TransportConverter.Evaluation.Conversation
