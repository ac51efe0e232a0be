import Frrpc.Lib.Bytes
import Frrpc.Lib.Stream
import Frrpc.Lib.Sweep
import Frrpc.Lib.TreeMap
import Frrpc.Lib.Tokens
import Frrpc.Lib.Tagged
import Frrpc.Lib.History
import Frrpc.Lib.Wire
import Frrpc.Lib.RemoteCall
import Frrpc.Lib.Machine
import Frrpc.Lib.Rotation
import Frrpc.Lib.Binary64
import Frrpc.Lib.Protobuf.Wire
import Frrpc.Lib.Protobuf.Codec
import Frrpc.Public.Define
import Frrpc.Pb.Message
import Frrpc.Pb.Wire
import Frrpc.Public.Net
import Frrpc.Public.Serializable
import Frrpc.Public.Frame
import Frrpc.Public.Pb2js
import Frrpc.Public.Correctness.RoundTrip
import Frrpc.Public.Correctness.Bounds
import Frrpc.Public.Correctness.Pb2js
import Frrpc.Rpc.NetBase
import Frrpc.Rpc.NetChannel
import Frrpc.Rpc.NetServer
import Frrpc.Rpc.Channel
import Frrpc.Rpc.Server
import Frrpc.Rpc.Machine
import Frrpc.Rpc.Sync
import Frrpc.Rpc.Pipeline
import Frrpc.Rpc.Cancel
import Frrpc.Rpc.Register
import Frrpc.Rpc.AddService
import Frrpc.Rpc.Correctness.LinkId
import Frrpc.Rpc.Correctness.Receive
import Frrpc.Rpc.Correctness.Split
import Frrpc.Rpc.Correctness.Request
import Frrpc.Rpc.Correctness.Register
import Frrpc.Rpc.Correctness.Threads
import Frrpc.Rpc.Correctness.Custody
import Frrpc.Rpc.Correctness.Expire
import Frrpc.Rpc.Correctness.Timeout
import Frrpc.Rpc.Correctness.Objects
import Frrpc.Rpc.Correctness.Sweep
import Frrpc.Rpc.Correctness.SweepRun
import Frrpc.Rpc.Correctness.Orphan
import Frrpc.Rpc.Correctness.Sync
import Frrpc.Rpc.Correctness.Server
import Frrpc.Rpc.Correctness.AddService
import Frrpc.Rpc.Correctness.Dispatch
import Frrpc.Rpc.Correctness.Order
import Frrpc.Rpc.Correctness.Cancel
import Frrpc.Rpc.Correctness.Body
import Frrpc.Rpc.Correctness.Framing
import Frrpc.Rpc.Correctness.Emit
import Frrpc.Rpc.Correctness.Multicast
import Frrpc.Rpc.Correctness.MulticastResult
import Frrpc.Public.Heart
import Frrpc.Public.HeartClock
import Frrpc.Public.Correctness.Heart
import Frrpc.Public.Correctness.HeartClock
import Frrpc.Route.Services
import Frrpc.Route.Route
import Frrpc.Route.Machine
import Frrpc.Route.Start
import Frrpc.Route.Correctness.Frame
import Frrpc.Route.Correctness.Bounds
import Frrpc.Route.Correctness.Split
import Frrpc.Route.Correctness.Transparent
import Frrpc.Route.Correctness.Effect
import Frrpc.Route.Correctness.Registry
import Frrpc.Route.Correctness.Failed
import Frrpc.Route.Correctness.Binding
import Frrpc.Route.Correctness.Rebind
import Frrpc.Route.Correctness.Disconnect
import Frrpc.Route.Correctness.RoundRobin
import Frrpc.Route.Correctness.Tables
import Frrpc.Route.Correctness.Start
import Frrpc.Route.Correctness.Forward
import Frrpc.Route.Correctness.Source
import Frrpc.Route.Correctness.Kick
import Frrpc.Rpc.Push
import Frrpc.Deployment.Machine
import Frrpc.Deployment.Correctness.Frames
import Frrpc.Deployment.Correctness.Gateway
import Frrpc.Deployment.Correctness.Endpoint
import Frrpc.Deployment.Correctness.Client
import Frrpc.Deployment.Correctness.Sending
import Frrpc.Deployment.Correctness.Serving
import Frrpc.Deployment.Correctness.ServerProcess
import Frrpc.Deployment.Correctness.Causal
import Frrpc.Deployment.Correctness.Calls
import Frrpc.Deployment.Correctness.Delivery
import Frrpc.Deployment.Correctness.Notify
import Frrpc.Deployment.Correctness.Startup
