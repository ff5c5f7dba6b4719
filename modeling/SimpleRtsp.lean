import SimpleRtsp.Rtp.Depacketize
import SimpleRtsp.Session.Fifo
import SimpleRtsp.Session.Callback
import SimpleRtsp.Session.Stream
import SimpleRtsp.Session.Accounting
import SimpleRtsp.Session.TearDown
import SimpleRtsp.Session.Overwrite
import SimpleRtsp.Rtsp.UdpSetup
import SimpleRtsp.Session.Interleave
import SimpleRtsp.Media.AnnexB
import SimpleRtsp.Rtsp.Paths
import SimpleRtsp.Session.Startup
import SimpleRtsp.Session.Batch
import SimpleRtsp.Session.Locks
import SimpleRtsp.Session.Routing
import SimpleRtsp.Rtsp.Segments
import SimpleRtsp.Session.Sockets
import SimpleRtsp.Session.Ownership
import SimpleRtsp.Rtp.SamePackets
import SimpleRtsp.Session.Rejoin
import SimpleRtsp.Session.Capacity
import SimpleRtsp.Session.ModuleDel
import SimpleRtsp.Rtsp.HeaderValue
import SimpleRtsp.Rtsp.DigestHeader
import SimpleRtsp.Rtsp.SafeAuthorization
import SimpleRtsp.Rtsp.Nonce
import SimpleRtsp.Rtsp.RtpSockets
import SimpleRtsp.Rtsp.Confined
import SimpleRtsp.Lib.Numeral
import SimpleRtsp.Rtsp.Sdp
import SimpleRtsp.Rtsp.AacConfig
import SimpleRtsp.Rtsp.HostAddress
import SimpleRtsp.Rtsp.Channels
import SimpleRtsp.Rtp.Fragments
import SimpleRtsp.Rtp.Results
import SimpleRtsp.Camera.Stream
import SimpleRtsp.Rtsp.Peer
import SimpleRtsp.Rtp.Footprint
import SimpleRtsp.Session.Copies
import SimpleRtsp.Lib.Sampling
import SimpleRtsp.Rtp.Timestamp
import SimpleRtsp.Push.VideoCallback
import SimpleRtsp.Lib.CppString
import SimpleRtsp.Camera.HandleRequest
import SimpleRtsp.Md5.Update
import SimpleRtsp.Rtsp.Playback
import SimpleRtsp.Session.Receiver
import SimpleRtsp.Media.Thread
import SimpleRtsp.Session.Broadcast
import SimpleRtsp.Lib.MessageStream
import SimpleRtsp.Lib.Scan
import SimpleRtsp.Rtsp.ReplyStream
import SimpleRtsp.Rtsp.Tracks
import SimpleRtsp.Lib.Arrivals
import SimpleRtsp.Rtp.Trains
import SimpleRtsp.Session.Datagrams
import SimpleRtsp.Lib.MixedStream
import SimpleRtsp.Camera.Server
import SimpleRtsp.Rtsp.Protected
import SimpleRtsp.Session.OwnSend
