import HttpRequestClient.Hpack.RoundTrip
import HttpRequestClient.Http2.HeaderBlocks
import HttpRequestClient.Http2.CallbackOrder
import HttpRequestClient.Http2.FlowControl
import HttpRequestClient.Http2.StreamIds
import HttpRequestClient.Http2.RequestFrames
import HttpRequestClient.Http2.Answers
import HttpRequestClient.Http2.StreamCredit
import HttpRequestClient.Http2.Outcome
import HttpRequestClient.Http11.HeaderLimit
import HttpRequestClient.Collector
import HttpRequestClient.CompressHandler
import HttpRequestClient.StreamedBodies
import HttpRequestClient.Client.Retry
import HttpRequestClient.Client.Reclaim
import HttpRequestClient.Client.Pool
import HttpRequestClient.Client.Identity
import HttpRequestClient.Client.EstablishLock
import HttpRequestClient.Client.TlsSessionCache
import HttpRequestClient.Truncation
import HttpRequestClient.SocketHandler
import HttpRequestClient.ResponsePayload
import HttpRequestClient.Client.Polls
import HttpRequestClient.Client.Registry
import HttpRequestClient.Client.Modes
import HttpRequestClient.Http11.RequestBytes
import HttpRequestClient.Http2.DataFrames
import HttpRequestClient.Hpack.BufferSizes
import HttpRequestClient.Http2.SentHeaders
import HttpRequestClient.Client.SessionKeys
import HttpRequestClient.Client.PoolSlots
import HttpRequestClient.Http2.SplitBlocks
import HttpRequestClient.Http2.ResponseBlocks
import HttpRequestClient.UrlTarget
import HttpRequestClient.HeaderCapacity
import HttpRequestClient.ContentLength
import HttpRequestClient.CookieFields
import HttpRequestClient.HostField
import HttpRequestClient.Options
import HttpRequestClient.Client.Expiry
import HttpRequestClient.Hpack.Access
import HttpRequestClient.Hpack.TableLimit
import HttpRequestClient.Hpack.BrokenBlocks
import HttpRequestClient.BrowserProfiles
import HttpRequestClient.ProxyTunnel
import HttpRequestClient.UrlBounds
import HttpRequestClient.Client.TimeoutErrors
import HttpRequestClient.Client.Deadlines
import HttpRequestClient.Hpack.Integers
import HttpRequestClient.CookieLoops
import HttpRequestClient.OneShot
import HttpRequestClient.Http11.KeepAlive
import HttpRequestClient.Http2.SharedWrites
import HttpRequestClient.Http2.Delivery
import HttpRequestClient.Client.LockUse
import HttpRequestClient.Client.SessionResources
import HttpRequestClient.StreamedBodies
