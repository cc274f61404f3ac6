import Sipmon.Source.Sip
import Sipmon.Source.Text

/-!
# Decoding SIP (`src/decode/sip.rs`)

The message parser of `rsipstack` is a parameter: it yields the start line and
the header values the decoder reads.
-/
namespace Sipmon.Source
open Lib.ByteReader (Bytes)
open Text

inductive StartLine where
  | request (method : Method)
  | response (code : UInt16)
  deriving DecidableEq

/-- What the decoder reads of a parsed message. -/
structure ParsedSip where
  start : StartLine
  callId : Option String
  cseq : Option String
  topVia : Option String
  fromValue : Option String
  toValue : Option String
  contact : Option String
  contentType : Option String
  /-- The header named `c`, the compact form of Content-Type. -/
  compactType : Option String
  routes : Nat
  recordRoutes : Nat
  deriving DecidableEq

/-- `sip::parser::parse_message`. -/
abbrev SipParser := Bytes → Option ParsedSip

/-- The text after `name=`, names compared without case. -/
def afterParam (name : Chars) : Chars → Option Chars
  | [] => none
  | c :: rest =>
    let text := c :: rest
    if toAsciiLowercase (text.take name.length) == toAsciiLowercase name &&
        text[name.length]? == some '=' then
      some (text.drop (name.length + 1))
    else afterParam name rest

/-- `param`: the value of a `;name=value` parameter, without quotes. -/
def param (value name : String) : Option String :=
  (afterParam name.toList value.toList).map fun rest =>
    String.ofList (trimMatches '"' (rest.takeWhile fun ch =>
      !([';', ' ', '\t', '\r', '\n'].contains ch)))

def cseqNumber (msg : ParsedSip) : Option UInt32 := do
  let value ← msg.cseq
  let word ← (splitWhitespace value.toList)[0]?
  (parseUnsigned (2 ^ 32) word).map UInt32.ofNat

def cseqMethod (msg : ParsedSip) : Option String := do
  let value ← msg.cseq
  (splitWhitespace value.toList)[1]?.map String.ofList

/-- The request methods `looks_like_sip` knows, each with the space after it. -/
def startTexts : List String :=
  ["INVITE ", "ACK ", "BYE ", "CANCEL ", "REGISTER ", "OPTIONS ", "PRACK ", "UPDATE ", "SUBSCRIBE ",
    "NOTIFY ", "PUBLISH ", "INFO ", "REFER ", "MESSAGE "]

def startsWith (text : String) (payload : Bytes) : Bool := text.toUTF8.toList.isPrefixOf payload

def looksLikeSip (payload : Bytes) : Bool :=
  8 ≤ payload.length && (startsWith "SIP/" payload || startTexts.any (startsWith · payload))

/-- `extract_sockaddr`: the host and port of a URI-bearing header value. -/
def extractSockaddr (value : String) : Option SocketAddr :=
  let text := value.toList
  let candidate := match afterFirst '<' text with
    | some rest => beforeFirst '>' rest
    | none => text
  let after := ((stripPrefix "sips:".toList candidate).or
    (stripPrefix "sip:".toList candidate)).getD candidate
  let addr := beforeFirst ';' after
  let hostport := match beforeLast '@' addr with
    | some user => addr.drop (user.length + 1)
    | none => addr
  parseSocketAddr (trim hostport)

/-- The text after the first blank line starts with `v=0`. -/
def bodyIsSdp : Bytes → Bool
  | [] => false
  | b :: rest =>
    if [13, 10, 13, 10].isPrefixOf (b :: rest) then "v=0".toUTF8.toList.isPrefixOf ((b :: rest).drop 4)
    else bodyIsSdp rest

/-- Whether a message carries SDP, by its type or by its body. -/
def carriesSdp (msg : ParsedSip) (raw : Bytes) : Bool :=
  msg.contentType.any (eqIgnoreAsciiCase · "application/sdp") || msg.compactType.isSome ||
    bodyIsSdp raw

/-- `parse_sip`: the stored text is cut, everything else is read from the whole. -/
def parseSip (parseMessage : SipParser) (rawTruncate : Option Nat) (tsUs : UInt64)
    (flow : Flow5Tuple) (raw : Bytes) : Option SipMsg :=
  if !looksLikeSip raw then none
  else do
    let msg ← parseMessage raw
    let callId ← msg.callId
    let trimmed := fun value : String => String.ofList (trim value.toList)
    return {
      tsUs, flow
      isRequest := match msg.start with
        | .request _ => true
        | .response _ => false
      method := match msg.start with
        | .request method => some method
        | .response _ => none
      status := match msg.start with
        | .request _ => none
        | .response code => some code
      callId := trimmed callId
      cseq := cseqNumber msg
      cseqMethod := cseqMethod msg
      branch := msg.topVia.bind (param · "branch")
      fromTag := msg.fromValue.bind (param · "tag")
      toTag := msg.toValue.bind (param · "tag")
      fromUri := msg.fromValue.map trimmed
      toUri := msg.toValue.map trimmed
      raw := match rawTruncate with
        | some n => raw.take n
        | none => raw
      contactAddr := msg.contact.bind extractSockaddr
      routeCount := msg.routes
      recordRouteCount := msg.recordRoutes
      hasSdp := carriesSdp msg raw }

end Sipmon.Source
