import Sipmon.Source.Sip
import Sipmon.Source.Text

/-!
# Call filter rules (`src/filter.rs`)
-/
namespace Sipmon.Source
open Text

/-- One filter token; needles are lower case. -/
inductive Rule where
  | ip (needle : Chars) (addr : Option IpAddr)
  | caller (needle : Chars)
  | callee (needle : Chars)
  | callId (needle : Chars)
  | any (needle : Chars) (addr : Option IpAddr)
  deriving DecidableEq

/-- The fields the filter reads (`CallLike`). -/
structure CallLike where
  callId : String
  caller : Option String
  callee : Option String
  callerIp : Option IpAddr
  ips : List IpAddr

def Call.like (call : Call) : CallLike :=
  { callId := call.callId, caller := call.fromUser, callee := call.toUser
    callerIp := call.inviteKey, ips := call.ips }

namespace Filter

/-- An address, or an address with a port that is ignored. -/
def parseAddr (text : Chars) : Option IpAddr :=
  (parseIpAddr text).or ((parseSocketAddr text).map SocketAddr.ip)

/-- A lone prefix is dropped. -/
def tokenRule (token : Chars) : Option Rule :=
  let lower := toAsciiLowercase token
  let withValue := fun (v : Chars) (rule : Chars → Rule) => if v.isEmpty then none else some (rule v)
  match stripPrefix "callid:".toList lower with
  | some v => withValue v .callId
  | none => match stripPrefix "caller:".toList lower with
    | some v => withValue v .caller
    | none => match stripPrefix "callee:".toList lower with
      | some v => withValue v .callee
      | none => match stripPrefix "ip:".toList lower with
        | some v => withValue v fun v => .ip v (parseAddr v)
        | none => some (.any lower (parseAddr lower))

def parse (query : Chars) : List Rule := (splitWhitespace query).filterMap tokenRule

def textHit (value : Option String) (needle : Chars) : Bool :=
  value.any fun s => contains needle (toAsciiLowercase s.toList)

def ipHit (c : CallLike) (needle : Chars) (addr : Option IpAddr) : Bool :=
  match addr with
  | some a => c.callerIp == some a || c.ips.contains a
  | none =>
    c.callerIp.any (fun ip => contains needle ip.display.toList) ||
      c.ips.any fun ip => contains needle ip.display.toList

def matchesRule (c : CallLike) : Rule → Bool
  | .ip needle addr => ipHit c needle addr
  | .caller needle => textHit c.caller needle
  | .callee needle => textHit c.callee needle
  | .callId needle => contains needle (toAsciiLowercase c.callId.toList)
  | .any needle addr =>
    contains needle (toAsciiLowercase c.callId.toList) || textHit c.caller needle ||
      textHit c.callee needle || ipHit c needle addr

/-- Every rule must match. -/
def matchesAll (c : CallLike) (rules : List Rule) : Bool := rules.all (matchesRule c)

end Filter
end Sipmon.Source
