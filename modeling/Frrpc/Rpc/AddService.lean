import Frrpc.Rpc.NetServer
import Frrpc.Rpc.Server

/-!
# `Rpc.AddService` — the services of a server (`Server::AddService`)

A service is put into `name_2service_`, and its name is then sent to every gateway. What has been answered to
the calls so far is kept beside the server.
-/

namespace Frrpc

open Lib Std

structure Server where
  rpcNet : RpcServerRoute
  name2Service : ExtTreeMap ServiceName Service
  serviceAddr : ServiceAddr

/-- A server with its `AddService` calls, by the name of the service and the result. -/
structure ServerCalls where
  server : Server
  results : List (ServiceName × Bool)

namespace ServerCalls

/-- A server with this many gateways, as `StartRoute` leaves it. -/
def started (gateways : Nat) (serviceAddr : ServiceAddr) : ServerCalls :=
  ⟨⟨.new gateways, ∅, serviceAddr⟩, []⟩

/-- A call of `AddService`. -/
structure Event where
  serviceName : ServiceName
  service : Service

end ServerCalls

variable [Protobuf] [FrNet]

def Server.addService (s : Server) (serviceName : ServiceName) (service : Service) : Server × Bool :=
  if s.name2Service.contains serviceName then (s, false)
  else
    let (rpcNet, ret) := s.rpcNet.registerService serviceName s.serviceAddr
    ({ s with rpcNet, name2Service := s.name2Service.insertIfNew serviceName service }, ret)

def ServerCalls.step (s : ServerCalls) (e : Event) : Option ServerCalls :=
  let (server, ret) := s.server.addService e.serviceName e.service
  some ⟨server, s.results ++ [(e.serviceName, ret)]⟩

end Frrpc
