import TgWsProxy.Library.Bytes
import TgWsProxy.Library.StreamCipher
import TgWsProxy.Library.ObfuscatedStream
import TgWsProxy.Library.Framing
import TgWsProxy.Library.Io
import TgWsProxy.Library.Transition
import TgWsProxy.Library.Expiry
import TgWsProxy.Library.Numerals
import TgWsProxy.Library.Tokens
import TgWsProxy.Source.Std.Utf8
import TgWsProxy.Source.Std.Utf8Text
import TgWsProxy.Source.Std.Text
import TgWsProxy.Source.Std.IpAddr
import TgWsProxy.Source.Std.IpAddrText
import TgWsProxy.Source.Telegram.Init
import TgWsProxy.Source.Telegram.Splitter
import TgWsProxy.Source.Telegram.Catalog
import TgWsProxy.Source.Ws.Frame
import TgWsProxy.Source.Ws.Handshake
import TgWsProxy.Source.Ws.ResponseHead
import TgWsProxy.Source.Ws.Client
import TgWsProxy.Source.Socks
import TgWsProxy.Source.Socks.Auth
import TgWsProxy.Source.Config
import TgWsProxy.Source.Relay
import TgWsProxy.Source.Relay.Metered
import TgWsProxy.Source.Relay.Tcp
import TgWsProxy.Source.Routing.Backoff
import TgWsProxy.Source.Routing.Ipv6Cache
import TgWsProxy.Source.Routing
import TgWsProxy.Source.Runtime
import TgWsProxy.Source.Config.Links
import TgWsProxy.Source.Main
import TgWsProxy.Guarantees.MessageBoundaries
import TgWsProxy.Guarantees.AlignedChunks
import TgWsProxy.Guarantees.PlainSplitter
import TgWsProxy.Guarantees.WsRoundTrip
import TgWsProxy.Guarantees.FrameHeaders
import TgWsProxy.Guarantees.RecvAgreement
import TgWsProxy.Guarantees.BridgeLock
import TgWsProxy.Guarantees.BridgeUpstream
import TgWsProxy.Guarantees.ClientFrames
import TgWsProxy.Guarantees.BridgeDownstream
import TgWsProxy.Guarantees.BridgeBackpressure
import TgWsProxy.Guarantees.BridgeLiveness
import TgWsProxy.Guarantees.BridgeDelivery
import TgWsProxy.Guarantees.BridgeSummary
import TgWsProxy.Guarantees.SocksHandshake
import TgWsProxy.Guarantees.SocksRefusals
import TgWsProxy.Guarantees.SocksAccounts
import TgWsProxy.Guarantees.SocksUsers
import TgWsProxy.Guarantees.SocksLogins
import TgWsProxy.Guarantees.WsBackoff
import TgWsProxy.Guarantees.BackoffPurge
import TgWsProxy.Guarantees.InitField
import TgWsProxy.Guarantees.InitRouting
import TgWsProxy.Guarantees.AddressTables
import TgWsProxy.Guarantees.MappedAddresses
import TgWsProxy.Guarantees.Ipv6Learning
import TgWsProxy.Guarantees.RealDcs
import TgWsProxy.Guarantees.Sessions
import TgWsProxy.Guarantees.SessionOrder
import TgWsProxy.Guarantees.PlainTcp
import TgWsProxy.Guarantees.RouteDecision
import TgWsProxy.Guarantees.HandshakeHead
import TgWsProxy.Guarantees.WsUpgrade
import TgWsProxy.Guarantees.ReservedBits
import TgWsProxy.Guarantees.UpgradeRequest
import TgWsProxy.Guarantees.RouteVerdicts
import TgWsProxy.Guarantees.AcceptLoops
import TgWsProxy.Guarantees.AnnouncedLinks
import TgWsProxy.Guarantees.Admission
import TgWsProxy.Guarantees.Transparency
import TgWsProxy.Guarantees.EndToEnd
