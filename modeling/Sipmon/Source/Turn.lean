import Mathlib.Data.List.MinMax
import Sipmon.Lib.FiniteMap
import Sipmon.Source.Diagnostics
import Sipmon.Source.Stun

/-!
# TURN tracking (`src/correlate/turn.rs`)

The learned allocations and relay addresses, their bounds, the relay leg of a
media flow, and what one STUN datagram does. A hash set is a list without
duplicates.
-/
namespace Sipmon.Source
open Lib (FiniteMap Iteration)
open Lib.ByteReader (Bytes)

structure TurnAlloc where
  client : SocketAddr
  server : SocketAddr
  relayed : Option SocketAddr
  lifetime : UInt32
  createdAtUs : UInt64
  lastRefreshUs : UInt64
  channels : FiniteMap UInt16 SocketAddr

/-- The side of a relay a media flow runs on. -/
inductive Leg where
  | client | peer
  deriving DecidableEq, Repr

def Leg.label : Leg → String
  | .client => "client"
  | .peer => "peer"

/-- How media reached the monitor. -/
inductive Encap where
  | direct | channelData | sendIndication
  deriving DecidableEq, Repr

structure TurnTracker where
  allocs : FiniteMap SocketAddr TurnAlloc
  turnServers : List IpAddr
  relays : List SocketAddr
  pktsTurn : Nat

namespace TurnTracker

def maxAllocs : Nat := 8192
def maxRelays : Nat := 4096
def maxServers : Nat := 512

def new (iter : Iteration) (configured : List IpAddr) : TurnTracker :=
  let servers := configured.dedup
  { allocs := FiniteMap.empty
    turnServers := if maxServers < servers.length then (iter.order servers).take maxServers
      else servers
    relays := [], pktsTurn := 0 }

/-- Configured servers survive a clear. -/
def clear (turn : TurnTracker) : TurnTracker :=
  { turn with allocs := FiniteMap.empty, relays := [], pktsTurn := 0 }

def dropOldest (iter : Iteration) (allocs : FiniteMap SocketAddr TurnAlloc) :
    FiniteMap SocketAddr TurnAlloc :=
  match (iter.order allocs.toList).argmin fun e => e.2.createdAtUs.toNat with
  | some (k, _) => allocs.erase k
  | none => allocs

def prune (iter : Iteration) (turn : TurnTracker) : TurnTracker :=
  { turn with
    allocs := (dropOldest iter)^[turn.allocs.size - maxAllocs] turn.allocs
    relays := if maxRelays < turn.relays.length then (iter.order turn.relays).take maxRelays
      else turn.relays
    turnServers := if maxServers < turn.turnServers.length then
        (iter.order turn.turnServers).take maxServers
      else turn.turnServers }

def legOf (turn : TurnTracker) (flow : Flow5Tuple) : Option Leg :=
  if flow.dst ∈ turn.relays ∧ flow.src ∉ turn.relays then some .client
  else if flow.src ∈ turn.relays ∧ flow.dst ∉ turn.relays then some .peer
  else none

def isTurnServer (turn : TurnTracker) (ip : IpAddr) : Bool := turn.turnServers.contains ip

/-- `turn_servers.insert`. -/
def addServer (turn : TurnTracker) (ip : IpAddr) : TurnTracker :=
  if turn.isTurnServer ip then turn else { turn with turnServers := turn.turnServers ++ [ip] }

/-- `relays.insert`. -/
def addRelay (turn : TurnTracker) (addr : SocketAddr) : TurnTracker :=
  if addr ∈ turn.relays then turn else { turn with relays := turn.relays ++ [addr] }

/-- Which side of the flow is the server. -/
def serverSide (turn : TurnTracker) (flow : Flow5Tuple) (method : UInt16) : SocketAddr :=
  if turn.isTurnServer flow.dst.ip then flow.dst
  else if turn.isTurnServer flow.src.ip then flow.src
  else if method = Stun.methodAllocate then flow.dst
  else flow.src

/-- `Self::diag`, without a call. -/
def note (ts : UInt64) (severity : Severity) (code : DiagCode) (message : String) : Diagnostic :=
  diag ts "" severity code message

/-- An Allocate success: the relay address and lifetime of a known allocation. -/
def allocated (turn : TurnTracker) (ts : UInt64) (client : SocketAddr) (msg : StunMessage) :
    TurnTracker × List Diagnostic :=
  match turn.allocs.lookup client with
  | none => (turn, [])
  | some alloc =>
    let relayed := msg.relayedAddress.or alloc.relayed
    let lifetime := (msg.attrs.findSome? StunAttribute.lifetime).getD alloc.lifetime
    let learned := match msg.relayedAddress with
      | some r => (turn.addRelay r).addServer r.ip
      | none => turn
    ({ learned with allocs := turn.allocs.insert client { alloc with relayed, lifetime } },
      [note ts .info .turnAllocOk
        ("TURN allocation ok client=" ++ client.display ++ " relayed=" ++
          (relayed.map SocketAddr.display).getD "-" ++ " lifetime=" ++
          toString lifetime.toNat ++ "s")])

/-- The code and reason a failure is reported with. -/
def failure (msg : StunMessage) : String :=
  let (code, reason) := msg.errorCode.getD (0, "?")
  toString code.toNat ++ " " ++ reason

/-- A channel number bound to a peer, on a known allocation. -/
def bindChannel (turn : TurnTracker) (client : SocketAddr) (msg : StunMessage) : TurnTracker :=
  match turn.allocs.lookup client, msg.attrs.findSome? StunAttribute.channelNumber,
      msg.peerAddress with
  | some alloc, some ch, some peer =>
    { turn with allocs :=
        turn.allocs.insert client { alloc with channels := alloc.channels.insert ch peer } }
  | _, _, _ => turn

/-- `ingest`: the diagnostics and the media payloads of one datagram. -/
def ingest (turn : TurnTracker) (ts : UInt64) (flow : Flow5Tuple) (payload : Bytes) :
    TurnTracker × List Diagnostic × List Bytes :=
  let turn := { turn with pktsTurn := turn.pktsTurn + 1 }
  match Stun.parse payload with
  | none => (turn, [], [])
  | some msg =>
    let server := turn.serverSide flow msg.method
    let turn := if msg.method = Stun.methodAllocate then turn.addServer server.ip else turn
    if msg.method = Stun.methodAllocate then
      match msg.cls with
      | .request =>
        let alloc : TurnAlloc :=
          { client := flow.src, server := flow.dst, relayed := none, lifetime := 0
            createdAtUs := ts, lastRefreshUs := ts, channels := FiniteMap.empty }
        ({ turn with allocs := turn.allocs.insert flow.src alloc }, [], [])
      | .success =>
        let (turn, diags) := turn.allocated ts flow.dst msg
        (turn, diags, [])
      | .error =>
        ({ turn with allocs := turn.allocs.erase flow.dst },
          [note ts .warn .turnAllocFailed
            ("TURN allocation failed client=" ++ flow.dst.display ++ " server=" ++ server.display ++
              " error=" ++ failure msg)], [])
      | .indication => (turn, [], [])
    else if msg.method = Stun.methodRefresh then
      match msg.cls with
      | .request =>
        ({ turn with allocs := turn.allocs.modify flow.src ({ · with lastRefreshUs := ts }) }, [], [])
      | .error =>
        (turn, [note ts .info .turnRefreshFailed
          ("TURN refresh failed client=" ++ flow.dst.display ++ " error=" ++ failure msg)], [])
      | _ => (turn, [], [])
    else if msg.method = Stun.methodChannelBind ∧ msg.cls = .request then
      (turn.bindChannel flow.src msg, [], [])
    else if (msg.method = Stun.methodSend ∨ msg.method = Stun.methodData) ∧
        msg.cls = .indication then
      (turn, [], msg.dataPayload.toList)
    else (turn, [], [])

end TurnTracker
end Sipmon.Source
