import Mathlib.Algebra.Order.Ring.Nat
import Sipmon.Lib.FiniteMap
import Sipmon.Lib.Framing
import Sipmon.Source.Packet
import Sipmon.Source.Text

/-!
# SIP over TCP buffers (`src/decode/tcp_reasm.rs`)

`usize` has 64 bits, and the length of a message wraps, as in the release build.
-/
namespace Sipmon.Source
open Lib (FiniteMap)
open Lib.ByteReader (Bytes)
open Text

structure FlowBuf where
  data : Bytes
  lastUs : UInt64
  deriving DecidableEq

abbrev TcpReassembler := FiniteMap Flow5Tuple FlowBuf

namespace TcpReassembler

def maxStreamBuf : Nat := 2 ^ 20
def idleUs : Nat := 60000000

def new : TcpReassembler := FiniteMap.empty

/-- Drop flows idle for `idle` of capture time. -/
def prune (reasm : TcpReassembler) (nowUs : UInt64) (idle : Nat) : TcpReassembler :=
  reasm.retain fun _ b => nowUs.toNat - b.lastUs.toNat < idle

/-- `find_double_crlf`: where the first blank line starts. -/
def findDoubleCrlf : Bytes → Option Nat
  | [] => none
  | b :: rest =>
    if [13, 10, 13, 10].isPrefixOf (b :: rest) then some 0 else (findDoubleCrlf rest).map (· + 1)

/-- The value of a Content-Length line, long or compact; 0 when it is no `usize`. -/
def contentLengthOf (line : Chars) : Option Nat :=
  match splitOnce ':' line with
  | some (name, val) =>
    let name := String.ofList (trim name)
    if eqIgnoreAsciiCase name "content-length" || eqIgnoreAsciiCase name "l" then
      some ((parseUnsigned (2 ^ 64) (trim val)).getD 0)
    else none
  | none => none

/-- `extract_content_length`: the first such line counts, without one it is 0. -/
def extractContentLength (headers : Bytes) : Nat :=
  ((lines (fromUtf8Lossy headers).toList).findSome? contentLengthOf).getD 0

/-- One iteration of the loop in `feed`: the message it drains and what stays. -/
def nextMessage : Lib.Framing.Framer UInt8 := fun data =>
  match findDoubleCrlf data with
  | some sep =>
    let headerEnd := sep + 4
    let contentLength := extractContentLength (data.take sep)
    let total := (headerEnd + contentLength) % 2 ^ 64
    -- the body is not complete yet
    if data.length < total then none else some (data.take total, data.drop total)
  | none => none

/-- The bytes buffered for a flow. -/
def buffered (reasm : TcpReassembler) (flow : Flow5Tuple) : Bytes :=
  ((reasm.lookup flow).map FlowBuf.data).getD []

/-- `feed`, its loop cut off after `fuel` iterations. A flow past the cap and a
flow with nothing left are dropped. -/
def feed (fuel : Nat) (reasm : TcpReassembler) (flow : Flow5Tuple) (data : Bytes) (tsUs : UInt64) :
    Option (List Bytes × TcpReassembler) :=
  let grown := reasm.buffered flow ++ data
  if maxStreamBuf < grown.length then some ([], reasm.erase flow)
  else (Lib.Framing.drain nextMessage fuel grown).map fun drained =>
    (drained.1,
      if drained.2.isEmpty then reasm.erase flow
      else reasm.insert flow { data := drained.2, lastUs := tsUs })

end TcpReassembler
end Sipmon.Source
