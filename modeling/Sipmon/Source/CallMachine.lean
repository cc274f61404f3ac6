import Sipmon.Source.Sip
import Sipmon.Source.Text

/-!
# The call state machine (`src/correlate/call.rs`)

`applySip` is split at its `return`s: the initial INVITE, the other requests,
and the provisional, successful and failed responses. Timestamps subtract with
wrap-around, as `u64` does in the release build.
-/
namespace Sipmon.Source
open Lib.ByteReader (Bytes)
open Text

/-- `user_of`: the user part of a From or To header value. -/
def userOf (value : String) : Option String :=
  let text := value.toList
  let candidate := match afterFirst '<' text with
    | some rest => beforeFirst '>' rest
    | none => text
  let after := ((stripPrefix "sips:".toList candidate).or
    (stripPrefix "sip:".toList candidate)).getD candidate
  let noParams := beforeFirst ';' after
  let userhost := trim ((beforeLast '@' noParams).getD noParams)
  if userhost.isEmpty then none else some (String.ofList userhost)

/-- `extract_attr`: the value of `name=` up to a separator, without quotes. -/
def extractAttr (text name : Chars) : Option Chars :=
  (afterNeedle (name ++ ['=']) text).map fun rest =>
    trimMatches '"' (rest.takeWhile fun ch => !([';', ' ', '\t', '\r', '\n'].contains ch))

/-- The cause and text of one `Reason:` line. -/
def reasonFromLine (line : Chars) : Option (UInt32 × String) := do
  let rest ← stripPrefix "Reason:".toList line
  let rest := trim rest
  let cause ← (extractAttr rest "cause".toList).bind (parseUnsigned (2 ^ 32))
  let text := (extractAttr rest "text".toList).map (trimMatches '"')
  return (UInt32.ofNat cause, String.ofList (text.getD []))

/-- `reason_from_raw`: the first Reason header with a numeric cause. -/
def reasonFromRaw (raw : Bytes) : Option (UInt32 × String) := do
  let text ← fromUtf8 raw
  (lines text.toList).findSome? reasonFromLine

namespace SipMsg

def isInitialInvite (msg : SipMsg) : Bool :=
  msg.method == some .invite && msg.isRequest && msg.toTag.isNone

/-- `cm.is_some_and(|m| m.eq_ignore_ascii_case(name))`. -/
def cseqIs (msg : SipMsg) (name : String) : Bool :=
  msg.cseqMethod.any (eqIgnoreAsciiCase · name)

/-- `cm.is_none_or(|m| m.eq_ignore_ascii_case("INVITE"))`. -/
def cseqInviteOrUnknown (msg : SipMsg) : Bool :=
  msg.cseqMethod.all (eqIgnoreAsciiCase · "INVITE")

end SipMsg

namespace Call

/-- The counters every message moves. -/
def touch (call : Call) (msg : SipMsg) : Call :=
  { call with pktsSip := call.pktsSip + 1, bytes := call.bytes + msg.raw.length,
              lastTsUs := msg.tsUs }

/-- Identities come from the first INVITE that carries them. -/
def identify (call : Call) (msg : SipMsg) : Call :=
  if msg.method = some .invite then
    let call := if call.fromUri.isNone then
        { call with fromUri := msg.fromUri, fromUser := msg.fromUri.bind userOf }
      else call
    if call.toUri.isNone then
      { call with toUri := msg.toUri, toUser := msg.toUri.bind userOf }
    else call
  else call

def dial (call : Call) (msg : SipMsg) : Call :=
  { call with
    inviteTs := call.inviteTs.or (some msg.tsUs)
    inviteKey := call.inviteKey.or (some msg.flow.src.ip)
    inviteSrc := call.inviteSrc.or (some msg.flow.src)
    activeIps := if call.activeIps.isEmpty then [msg.flow.src.ip, msg.flow.dst.ip]
      else call.activeIps
    ips := call.ips ++ [msg.flow.src.ip, msg.flow.dst.ip]
    state := .dialing }

/-- Who hung up: the source of the BYE against the source of the INVITE. -/
def byeInitiator (call : Call) (msg : SipMsg) : Option HangupBy :=
  call.inviteKey.map fun caller => if caller = msg.flow.src.ip then .caller else .callee

def onBye (call : Call) (msg : SipMsg) : Call :=
  let call := { call with byeTs := call.byeTs.or (some msg.tsUs)
                          hangupBy := call.hangupBy.or (call.byeInitiator msg) }
  match reasonFromRaw msg.raw with
  | some (code, text) =>
    { call with hangup := { code := some code
                            reason := if text.isEmpty then call.hangup.reason else some text } }
  | none => call

def onRequest (call : Call) (msg : SipMsg) : Call :=
  match msg.method with
  | some .bye => call.onBye msg
  | some .cancel =>
    if call.state = .completed ∨ call.state = .failed then call
    else { call with state := .canceled, endTs := some msg.tsUs
                     hangupBy := call.hangupBy.or (some .caller) }
  | _ => call

/-- Milliseconds since an earlier time of the call. -/
def msSince (now start : UInt64) : UInt32 := ((now - start) / 1000).toUInt32

def onProvisional (call : Call) (msg : SipMsg) (code : UInt16) : Call :=
  let call := if call.tryingTs.isNone && call.ringingTs.isNone then
      { call with pddMs := some (msSince msg.tsUs (call.inviteTs.getD msg.tsUs)) }
    else call
  if (180 ≤ code.toNat ∧ code.toNat < 190) ∨ code = 183 then
    { call with
      ringingTs := call.ringingTs.or (some msg.tsUs)
      ringCode := call.ringCode.or (some code)
      earlyMedia := call.earlyMedia || (code == 183 && msg.hasSdp)
      state := .ringing }
  else if 100 ≤ code.toNat ∧ call.tryingTs.isNone = true then
    { call with tryingTs := some msg.tsUs }
  else call

/-- The state after a final response that ends the call. -/
def closedState (call : Call) : CallState :=
  if call.answerTs.isSome then .completed else .failed

def onSuccess (call : Call) (msg : SipMsg) : Call :=
  if msg.cseqIs "BYE" then
    { call with endTs := call.endTs.or (some msg.tsUs), state := call.closedState }
  else if call.answerTs.isNone then
    { call with
      answerTs := some msg.tsUs
      setupMs := (call.inviteTs.map (msSince msg.tsUs)).or call.setupMs
      ringMs := (call.ringingTs.map (msSince msg.tsUs)).or call.ringMs
      state := .active
      outcome := .answered }
  else call

def onFailure (call : Call) (msg : SipMsg) (code : UInt16) : Call :=
  let call := { call with hangup := { call.hangup with code := some code.toUInt32 } }
  if msg.cseqIs "BYE" then
    { call with state := call.closedState, endTs := call.endTs.or (some msg.tsUs) }
  else if code = 487 then
    { call with state := .canceled, outcome := .canceled
                hangupBy := call.hangupBy.or (some .caller) }
  else if call.state = .dialing ∨ call.state = .ringing then
    { call with
      state := .failed
      outcome := if 400 ≤ code.toNat ∧ code.toNat < 500 then .rejected else .failed
      hangupBy := call.hangupBy.or (some .reject)
      endTs := call.endTs.or (some msg.tsUs) }
  else { call with state := call.closedState, endTs := call.endTs.or (some msg.tsUs) }

def onResponse (call : Call) (msg : SipMsg) (code : UInt16) : Call :=
  if (100 ≤ code.toNat ∧ code.toNat < 200) ∧ msg.cseqInviteOrUnknown = true ∧
      (call.state = .dialing ∨ call.state = .ringing) then
    call.onProvisional msg code
  else if 200 ≤ code.toNat ∧ code.toNat < 300 then call.onSuccess msg
  else if 300 ≤ code.toNat then call.onFailure msg code
  else call

/-- `apply_sip`. -/
def applySip (call : Call) (msg : SipMsg) : Call :=
  let call := (call.touch msg).identify msg
  if msg.isInitialInvite then call.dial msg
  else if msg.isRequest then call.onRequest msg
  else match msg.status with
    | some code => call.onResponse msg code
    | none => call

end Call
end Sipmon.Source
