import Chronomata.Snapshot.Basic
import Chronomata.Sorted.Map

-- What stands between running instances and the network: it keeps inputs until they are fetched, and hands
-- what one instance sends to all others that listen.
namespace Chronomata

inductive Service where
  | register
  | fetch
  | deliver
  | status
  | drain
  deriving DecidableEq, Repr

def Service.all : List Service := [.register, .fetch, .deliver, .status, .drain]

def Service.name : Service → String
  | .register => "register"
  | .fetch => "fetch"
  | .deliver => "deliver"
  | .status => "status"
  | .drain => "drain"

inductive GatewayError where
  | unavailable (service : Service)
  | unknownInstance (key : InstanceKey)
  deriving DecidableEq

def GatewayError.message : GatewayError → String
  | .unavailable service => s!"gateway unavailable: {service.name}"
  | .unknownInstance key => s!"instance {key.display} is not registered with the gateway"

structure Gateway where
  listeners : SortedMap String (SortedSet InstanceKey)
  -- Inputs that have not been fetched, oldest first, of the instances that are known.
  waiting : SortedMap InstanceKey (List (String × Value))
  -- What is known of devices. Others are connected.
  connections : SortedMap String Connection
  observed : List Communication
  outages : List Service
  deriving DecidableEq

namespace Gateway

def empty : Gateway := ⟨SortedMap.empty, SortedMap.empty, SortedMap.empty, [], []⟩

def withOutages (g : Gateway) (outages : List Service) : Gateway := { g with outages }

def require (g : Gateway) (service : Service) : Except GatewayError Unit :=
  if g.outages.contains service then .error (.unavailable service) else .ok ()

def push (g : Gateway) (key : InstanceKey) (name : String) (value : Value) : Gateway :=
  { g with waiting := g.waiting.insert key ((g.waiting.get? key).getD [] ++ [(name, value)]) }

def setStatus (g : Gateway) (device : String) (connection : Connection) : Gateway :=
  { g with connections := g.connections.insert device connection }

def connection (g : Gateway) (device : String) : Connection :=
  (g.connections.get? device).getD .connected

def status (g : Gateway) (device : String) : Except GatewayError Connection := do
  g.require .status
  return g.connection device

def register (g : Gateway) (key : InstanceKey) (channels : List String) :
    Except GatewayError Gateway := do
  g.require .register
  let listen := fun (listeners : SortedMap String (SortedSet InstanceKey)) channel =>
    listeners.insert channel (((listeners.get? channel).getD SortedMap.empty).add key)
  return { g with
    listeners := channels.foldl listen g.listeners
    waiting := g.waiting.insertNew key [] }

def fetch (g : Gateway) (key : InstanceKey) :
    Except GatewayError (Gateway × List (String × Value)) := do
  g.require .fetch
  match g.waiting.get? key with
  | none => throw (.unknownInstance key)
  | some inputs => return ({ g with waiting := g.waiting.insert key [] }, inputs)

-- Hand one value to one listener. What is sent to a device that cannot be reached is lost.
def send (now : Instant) (sender : InstanceKey) (channel : String) (value : Value) (g : Gateway)
    (receiver : InstanceKey) : Gateway :=
  if g.connection receiver.device = .disconnected then g
  else
    let g := g.push receiver channel value
    { g with observed := g.observed ++ [⟨now, sender, receiver, channel, value⟩] }

def receivers (g : Gateway) (sender : InstanceKey) (channel : String) : List InstanceKey :=
  ((g.listeners.get? channel).getD SortedMap.empty).toList.filter (· != sender)

def deliver (g : Gateway) (sender : InstanceKey) (outputs : Values) (now : Instant) :
    Except GatewayError Gateway := do
  g.require .deliver
  return outputs.entries.foldl (fun g (channel, value) =>
    (g.receivers sender channel).foldl (send now sender channel value) g) g

def drain (g : Gateway) : Except GatewayError (Gateway × List Communication) := do
  g.require .drain
  return ({ g with observed := [] }, g.observed)

end Gateway

end Chronomata
