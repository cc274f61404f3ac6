import Sipmon.Lib.FiniteMap
import Sipmon.Source.Sip

/-!
# The legs of a call (`src/store/registry.rs`)

What the focus payload tells of the dialogs in a call.
-/
namespace Sipmon.Source
open Lib (FiniteMap)

/-- `from_tag`, else `branch`, else nothing. -/
def legKey (msg : SipMsg) : String := (msg.fromTag.or msg.branch).getD ""

/-- The leg of one message; a new key takes the next index, saturating at `u8::MAX`. -/
def assignLeg (legOf : FiniteMap String UInt8) (msg : SipMsg) : UInt8 × FiniteMap String UInt8 :=
  let key := legKey msg
  if key = "" then (0, legOf)
  else
    let n := UInt8.ofNat (min legOf.size 255)
    match legOf.lookup key with
    | some leg => (leg, legOf)
    | none => (n, legOf.insert key n)

def assignLegs (legOf : FiniteMap String UInt8) : List SipMsg → List UInt8 × FiniteMap String UInt8
  | [] => ([], legOf)
  | msg :: rest =>
    let (leg, legOf) := assignLeg legOf msg
    let (legs, legOf) := assignLegs legOf rest
    (leg :: legs, legOf)

/-- `dialog_legs`: the leg of every message and the number of legs. -/
def dialogLegs (msgs : List SipMsg) : List UInt8 × UInt8 :=
  let (legs, legOf) := assignLegs FiniteMap.empty msgs
  (legs, UInt8.ofNat (min (max legOf.size 1) 255))

structure B2buaInfo where
  addr : Option IpAddr
  legs : UInt8
  deriving DecidableEq

/-- The addresses of the messages of a leg, `none` where the leg has no message. -/
def legIps (msgs : List SipMsg) (legs : List UInt8) (leg : UInt8) : Option (List IpAddr) :=
  match (msgs.zip legs).filter (fun p => p.2 = leg) with
  | [] => none
  | own => some (own.flatMap fun p => [p.1.flow.src.ip, p.1.flow.dst.ip])

/-- `common_flow_ip`. -/
def commonFlowIp (msgs : List SipMsg) (legs : List UInt8) : Option IpAddr := do
  let l0 ← legIps msgs legs 0
  let l1 ← legIps msgs legs 1
  match l0.filter (l1.contains ·) with
  | [shared] => some shared
  | _ => none

/-- The B2BUA evidence of `focus_detail`, for a call without linked leg. -/
def b2bua (msgs : List SipMsg) : Option B2buaInfo :=
  let (legs, count) := dialogLegs msgs
  if 2 ≤ count then some { addr := commonFlowIp msgs legs, legs := count } else none

end Sipmon.Source
