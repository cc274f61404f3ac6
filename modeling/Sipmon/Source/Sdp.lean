import Mathlib.Data.List.Sort
import Sipmon.Source.Packet
import Sipmon.Source.Text

/-!
# SDP (`src/decode/sdp.rs`)
-/
namespace Sipmon.Source
open Lib.ByteReader (Bytes)
open Text

structure SdpCodec where
  pt : UInt8
  name : String
  clockRate : UInt32
  deriving DecidableEq, Repr

structure SdpMedia where
  media : String
  port : UInt16
  proto : String
  formats : List String
  connectionIp : Option IpAddr
  codecs : List SdpCodec
  deriving DecidableEq

structure SdpSession where
  connectionIp : Option IpAddr := none
  media : List SdpMedia := []
  deriving DecidableEq

def staticCodecName (pt : UInt8) : Option String :=
  match pt.toNat with
  | 0 => some "PCMU"
  | 8 => some "PCMA"
  | 9 => some "G.722"
  | 18 => some "G.729"
  | 4 | 15 | 16 => some "G.723"
  | 13 => some "CN"
  | 97 | 98 | 111 | 112 | 115 => some "OPUS"
  | 101 => some "telephone-event"
  | _ => none

/-- `f.parse::<u8>().ok()`. -/
def parseU8 (text : Chars) : Option UInt8 := (parseUnsigned 256 text).map UInt8.ofNat

namespace SdpSession

/-- Every advertised `ip:port`, resolved against the session's connection IP. -/
def endpoints (session : SdpSession) : List SocketAddr :=
  session.media.filterMap fun m =>
    if m.port = 0 then none
    else (m.connectionIp.or session.connectionIp).map fun ip => ⟨ip, m.port⟩

/-- The union of the payload types, ascending. -/
def payloadTypes (session : SdpSession) : List UInt8 :=
  let pts := session.media.flatMap fun m => m.formats.filterMap fun f => parseU8 f.toList
  pts.dedup.insertionSort (· ≤ ·)

/-- The first `a=rtpmap` entry for `pt`, media line by media line. -/
def codecForPt (session : SdpSession) (pt : UInt8) : Option SdpCodec :=
  session.media.findSome? fun m => m.codecs.find? fun c => c.pt == pt

def codecNameForPt (session : SdpSession) (pt : UInt8) : Option String :=
  ((session.codecForPt pt).map SdpCodec.name).or (staticCodecName pt)

def clockRateForPt (session : SdpSession) (pt : UInt8) : Option UInt32 :=
  (session.codecForPt pt).map SdpCodec.clockRate

end SdpSession

/-- `parse_ip`: the last word is an address. -/
def parseConnectionIp (text : Chars) : Option IpAddr :=
  (splitWhitespace (trim text)).getLast?.bind fun word =>
    ((parseIpv4Addr word).map IpAddr.v4).or ((parseIpv6Addr word).map IpAddr.v6)

/-- What the line scan of `sdp::parse` carries. -/
structure SdpScan where
  session : SdpSession := {}
  current : Option SdpMedia := none
  rtpmap : List SdpCodec := []

namespace SdpScan

/-- Close the open media section. -/
def close (scan : SdpScan) : SdpScan :=
  match scan.current with
  | some m => { scan with session := { scan.session with media := scan.session.media ++ [m] }
                          current := none }
  | none => scan

def connectionLine (scan : SdpScan) (val : Chars) : SdpScan :=
  let ip := parseConnectionIp val
  match scan.current with
  | some m => { scan with current := some { m with connectionIp := ip } }
  | none => { scan with session := { scan.session with connectionIp := ip } }

def mediaLine (scan : SdpScan) (val : Chars) : SdpScan :=
  let parts := splitWhitespace val
  { scan.close with
    current := some
      { media := (parts[0]?.map String.ofList).getD "audio"
        port := UInt16.ofNat ((parts[1]?.bind (parseUnsigned 65536)).getD 0)
        proto := (parts[2]?.map String.ofList).getD "RTP/AVP"
        formats := (parts.drop 3).map String.ofList
        connectionIp := none
        codecs := [] } }

/-- `a=rtpmap:<pt> <codec>/<clock>[/<enc>]`. -/
def attributeLine (scan : SdpScan) (val : Chars) : SdpScan :=
  let codec : Option SdpCodec := do
    let rest ← stripPrefix "rtpmap:".toList val
    let (ptText, desc) ← splitOnce ' ' rest
    let pt ← parseU8 (trim ptText)
    let parts := split '/' (trim desc)
    let clock := UInt32.ofNat ((parts[1]?.bind (parseUnsigned (2 ^ 32))).getD 8000)
    return { pt, name := String.ofList (parts.headD []), clockRate := clock }
  match codec with
  | some codec => { scan with rtpmap := scan.rtpmap ++ [codec] }
  | none => scan

def line (scan : SdpScan) (text : Chars) : SdpScan :=
  match splitOnce '=' (trim text) with
  | some (['c'], val) => scan.connectionLine (trim val)
  | some (['m'], val) => scan.mediaLine (trim val)
  | some (['a'], val) => scan.attributeLine (trim val)
  | _ => scan

end SdpScan

/-- `sdp::parse`: codecs are attached to the media lines that list their payload type. -/
def parseSdp (body : Bytes) : Option SdpSession := do
  let text ← fromUtf8 body
  let scan := ((lines text.toList).foldl SdpScan.line {}).close
  return { scan.session with
    media := scan.session.media.map fun m =>
      { m with codecs := m.codecs ++
          scan.rtpmap.filter fun c => m.formats.contains (toString c.pt.toNat) } }

end Sipmon.Source
