import HttpExchange.Bytes
import HttpExchange.Client.ChannelPool
import HttpExchange.Client.Completion
import HttpExchange.Client.Exchange
import HttpExchange.Client.Monitor
import HttpExchange.Client.Network
import HttpExchange.Client.Pool
import HttpExchange.Client.Request
import HttpExchange.Client.RoundTrip
import HttpExchange.Client.Session
import HttpExchange.Client.Sharing
import HttpExchange.Compression.Bits
import HttpExchange.Compression.Deflate
import HttpExchange.Compression.Huffman
import HttpExchange.Compression.Inflate
import HttpExchange.Compression.Lookback
import HttpExchange.Compression.OptimalCode
import HttpExchange.Compression.Repetition
import HttpExchange.Compression.Wrapped
import HttpExchange.Config
import HttpExchange.ContentCoding
import HttpExchange.Demo
import HttpExchange.Duration
import HttpExchange.Failure
import HttpExchange.Headers
import HttpExchange.Main
import HttpExchange.Message
import HttpExchange.Parser
import HttpExchange.Parser.Loose
import HttpExchange.Percent
import HttpExchange.Proofs.Agreement
import HttpExchange.Proofs.Client.Correspondence
import HttpExchange.Proofs.Client.Custody
import HttpExchange.Proofs.Client.Exchange
import HttpExchange.Proofs.Client.Keeping
import HttpExchange.Proofs.Client.Monitor
import HttpExchange.Proofs.Client.Ownership
import HttpExchange.Proofs.Client.Parting
import HttpExchange.Proofs.Client.Pool
import HttpExchange.Proofs.Client.Rendezvous
import HttpExchange.Proofs.Client.Request
import HttpExchange.Proofs.Client.RoundTrip
import HttpExchange.Proofs.Client.Sharing
import HttpExchange.Proofs.Client.Uses
import HttpExchange.Proofs.ContentCoding
import HttpExchange.Proofs.ContentCoding.Lossless
import HttpExchange.Proofs.Delivery
import HttpExchange.Proofs.Headers
import HttpExchange.Proofs.Headers.History
import HttpExchange.Proofs.Headers.Merge
import HttpExchange.Proofs.LineEnd
import HttpExchange.Proofs.Parser.Completion
import HttpExchange.Proofs.Parser.Discipline
import HttpExchange.Proofs.Parser.Grammar
import HttpExchange.Proofs.Parser.Head
import HttpExchange.Proofs.Parser.Loose
import HttpExchange.Proofs.Parser.Pieces
import HttpExchange.Proofs.Parser.Refusal
import HttpExchange.Proofs.Parser.Resumption
import HttpExchange.Proofs.Parser.Step
import HttpExchange.Proofs.Presence
import HttpExchange.Proofs.Regex.Brackets
import HttpExchange.Proofs.Regex.Branches
import HttpExchange.Proofs.Regex.Course
import HttpExchange.Proofs.Regex.Search
import HttpExchange.Proofs.Regex.Wrapping
import HttpExchange.Proofs.Replacement
import HttpExchange.Proofs.Router
import HttpExchange.Proofs.Router.WholePath
import HttpExchange.Proofs.Server.Framing
import HttpExchange.Proofs.Server.HeadOnly
import HttpExchange.Proofs.Server.Isolation
import HttpExchange.Proofs.Server.LifeCycle
import HttpExchange.Proofs.Server.Reading
import HttpExchange.Proofs.Server.Relay
import HttpExchange.Proofs.Server.Workers
import HttpExchange.Proofs.StartLine
import HttpExchange.Proofs.Text.Blank
import HttpExchange.Proofs.Text.Decimal
import HttpExchange.Proofs.Text.Utf8
import HttpExchange.Proofs.Url
import HttpExchange.Proofs.Wire
import HttpExchange.Proofs.Wire.Stability
import HttpExchange.Proofs.Wire.Values
import HttpExchange.Reactor
import HttpExchange.Regex.Assembly
import HttpExchange.Regex.Automaton
import HttpExchange.Regex.Bracket
import HttpExchange.Regex.CharSet
import HttpExchange.Regex.Escape
import HttpExchange.Regex.Pattern
import HttpExchange.Regex.Reader
import HttpExchange.Regex.Search
import HttpExchange.Regex.SetPiece
import HttpExchange.Regex.WordTree
import HttpExchange.Request
import HttpExchange.Response
import HttpExchange.Router
import HttpExchange.Server
import HttpExchange.Server.Connection
import HttpExchange.Server.Conversation
import HttpExchange.Server.OneShot
import HttpExchange.Server.Queue
import HttpExchange.Server.Relay
import HttpExchange.Server.Workers
import HttpExchange.Socket
import HttpExchange.StartLine
import HttpExchange.Status
import HttpExchange.Text.Basic
import HttpExchange.Text.CaseFolding
import HttpExchange.Text.Category
import HttpExchange.Text.Composition
import HttpExchange.Text.CompositionTable
import HttpExchange.Text.Direction
import HttpExchange.Text.Edition
import HttpExchange.Text.Mapping
import HttpExchange.Text.Property
import HttpExchange.Text.Quoted
import HttpExchange.Text.Runs
import HttpExchange.Text.Script
import HttpExchange.Text.TraitTable
import HttpExchange.Text.Utf8
import HttpExchange.Tls.Acceptor
import HttpExchange.Tls.Base64
import HttpExchange.Tls.Certificate
import HttpExchange.Tls.Curve
import HttpExchange.Tls.CurveKey
import HttpExchange.Tls.Der
import HttpExchange.Tls.Edwards
import HttpExchange.Tls.Fault
import HttpExchange.Tls.Pem
import HttpExchange.Tls.PrivateKey
import HttpExchange.Tls.Registry
import HttpExchange.Tls.RsaKey
import HttpExchange.Tls.Sha512
import HttpExchange.Url
import HttpExchange.Url.Host
import HttpExchange.Url.Name
import HttpExchange.Url.NameMapping
import HttpExchange.Url.Punycode
import HttpExchange.Wire
import HttpExchange.Yaml.Cursor
import HttpExchange.Yaml.Document
import HttpExchange.Yaml.Event
import HttpExchange.Yaml.Scalar
import HttpExchange.Yaml.Tag
import HttpExchange.Yaml.Token
