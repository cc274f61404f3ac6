import Mathlib.Data.List.Basic
import Sipmon.Lib.BigEndian

/-!
# Addresses and flows (`src/model/packet.rs`, `std::net`)

A `SocketAddr` has no IPv6 scope or flow-info field: the capture path builds
every address from an IP and a port, and the event log stores nothing else.
`IpAddr.display` and `parseIpAddr` follow `std`'s `Display` and `FromStr`.
-/
namespace Sipmon.Source

structure Ipv4Addr where
  a : UInt8
  b : UInt8
  c : UInt8
  d : UInt8
  deriving DecidableEq, Repr

structure Ipv6Addr where
  octets : Vector UInt8 16
  deriving DecidableEq, Repr

inductive IpAddr where
  | v4 (ip : Ipv4Addr)
  | v6 (ip : Ipv6Addr)
  deriving DecidableEq, Repr

structure SocketAddr where
  ip : IpAddr
  port : UInt16
  deriving DecidableEq, Repr

inductive Proto where
  | udp | tcp
  deriving DecidableEq, Repr

def Proto.asStr : Proto → String
  | .udp => "UDP"
  | .tcp => "TCP"

structure Flow5Tuple where
  proto : Proto
  src : SocketAddr
  dst : SocketAddr
  deriving DecidableEq, Repr

def Flow5Tuple.reverse (flow : Flow5Tuple) : Flow5Tuple :=
  { proto := flow.proto, src := flow.dst, dst := flow.src }

/-! ## Octets -/

namespace Ipv4Addr

def octets (ip : Ipv4Addr) : List UInt8 := [ip.a, ip.b, ip.c, ip.d]

/-- `Ipv4Addr::from([u8; 4])`, on the bytes a reader returned. -/
def ofOctets : List UInt8 → Ipv4Addr
  | [a, b, c, d] => ⟨a, b, c, d⟩
  | _ => ⟨0, 0, 0, 0⟩

@[simp] theorem ofOctets_octets (ip : Ipv4Addr) : ofOctets ip.octets = ip := rfl
@[simp] theorem octets_length (ip : Ipv4Addr) : ip.octets.length = 4 := rfl

def isPrivate (ip : Ipv4Addr) : Bool :=
  ip.a == 10 || (ip.a == 172 && 16 ≤ ip.b && ip.b ≤ 31) || (ip.a == 192 && ip.b == 168)
def isLoopback (ip : Ipv4Addr) : Bool := ip.a == 127
def isLinkLocal (ip : Ipv4Addr) : Bool := ip.a == 169 && ip.b == 254
def isUnspecified (ip : Ipv4Addr) : Bool := ip == ⟨0, 0, 0, 0⟩
def isBroadcast (ip : Ipv4Addr) : Bool := ip == ⟨255, 255, 255, 255⟩
def isMulticast (ip : Ipv4Addr) : Bool := 224 ≤ ip.a && ip.a ≤ 239

end Ipv4Addr

namespace Ipv6Addr

/-- `Ipv6Addr::from([u8; 16])`, on the bytes a reader returned. -/
def ofOctets (bs : List UInt8) : Ipv6Addr :=
  if h : bs.toArray.size = 16 then ⟨⟨bs.toArray, h⟩⟩ else ⟨Vector.replicate 16 0⟩

@[simp] theorem octets_length (ip : Ipv6Addr) : ip.octets.toList.length = 16 := by simp

@[simp] theorem ofOctets_octets (ip : Ipv6Addr) : ofOctets ip.octets.toList = ip := by
  rcases ip with ⟨⟨array, size⟩⟩
  simp [ofOctets, Vector.toList, size]

/-- The eight 16-bit groups, as numbers. -/
def segments (ip : Ipv6Addr) : List Nat :=
  (List.range 8).map fun i =>
    (ip.octets.toList.getD (2 * i) 0).toNat * 256 + (ip.octets.toList.getD (2 * i + 1) 0).toNat

def ofSegments (groups : List Nat) : Ipv6Addr :=
  ofOctets (groups.flatMap (Lib.BigEndian.toBytes 2))

def isLoopback (ip : Ipv6Addr) : Bool := ip.segments == [0, 0, 0, 0, 0, 0, 0, 1]
def isUnicastLinkLocal (ip : Ipv6Addr) : Bool := ip.segments.headD 0 / 64 == 0xfe80 / 64

end Ipv6Addr

/-! ## Text forms -/

/-- Lower-case hexadecimal without a prefix (`{:x}`). -/
def hex (n : Nat) : String := String.ofList (Nat.toDigits 16 n)

def Ipv4Addr.display (ip : Ipv4Addr) : String :=
  toString ip.a.toNat ++ "." ++ toString ip.b.toNat ++ "." ++ toString ip.c.toNat ++ "." ++
    toString ip.d.toNat

/-- Start and length of the first longest run of zero groups, scanned from index
`i` with the current run `(start, len)` and the best one so far. -/
def longestZeroRun : List Nat → Nat → Nat × Nat → Nat × Nat → Nat × Nat
  | [], _, _, best => best
  | g :: rest, i, current, best =>
    if g = 0 then
      let current := (if current.2 = 0 then i else current.1, current.2 + 1)
      longestZeroRun rest (i + 1) current (if best.2 < current.2 then current else best)
    else longestZeroRun rest (i + 1) (0, 0) best

/-- IPv4-mapped addresses are dotted, the first longest zero run of two or more
groups is elided, everything else is colon-separated hexadecimal. -/
def Ipv6Addr.display (ip : Ipv6Addr) : String :=
  let groups := ip.segments
  if groups.take 6 = [0, 0, 0, 0, 0, 0xffff] then
    "::ffff:" ++ (Ipv4Addr.ofOctets (ip.octets.toList.drop 12)).display
  else
    let run := longestZeroRun groups 0 (0, 0) (0, 0)
    let colons := fun part : List Nat => ":".intercalate (part.map hex)
    if 1 < run.2 then colons (groups.take run.1) ++ "::" ++ colons (groups.drop (run.1 + run.2))
    else colons groups

def IpAddr.display : IpAddr → String
  | .v4 ip => ip.display
  | .v6 ip => ip.display

def SocketAddr.display (addr : SocketAddr) : String :=
  match addr.ip with
  | .v4 ip => ip.display ++ ":" ++ toString addr.port.toNat
  | .v6 ip => "[" ++ ip.display ++ "]:" ++ toString addr.port.toNat

def Flow5Tuple.display (flow : Flow5Tuple) : String :=
  flow.proto.asStr ++ "/" ++ flow.src.display ++ "->" ++ flow.dst.display

/-! ## Parsing, as `core::net`'s recursive-descent parser -/

/-- Value of a digit in `radix` (`char::to_digit`). -/
def toDigit (radix : Nat) (ch : Char) : Option Nat :=
  let n := ch.toNat
  let v := if 48 ≤ n ∧ n ≤ 57 then some (n - 48)
    else if 97 ≤ n ∧ n ≤ 122 then some (n - 87)
    else if 65 ≤ n ∧ n ≤ 90 then some (n - 55)
    else none
  v.filter (· < radix)

/-- `read_number` with a digit limit: a longer digit string fails, as does a
leading zero where octal forms are forbidden. -/
def readNumber (radix maxDigits limit : Nat) (allowZeroPrefix : Bool) (text : List Char) :
    Option (Nat × List Char) :=
  let digits := text.takeWhile fun ch => (toDigit radix ch).isSome
  let result := digits.foldl (fun acc ch => acc * radix + (toDigit radix ch).getD 0) 0
  if digits.isEmpty || maxDigits < digits.length then none
  else if !allowZeroPrefix && digits.head? == some '0' && 1 < digits.length then none
  else if limit < result then none
  else some (result, text.drop digits.length)

/-- `read_separator`: element `i` of a list is preceded by `sep` unless it is the first. -/
def readSeparator (sep : Char) (i : Nat) (text : List Char) : Option (List Char) :=
  if i = 0 then some text
  else match text with
    | ch :: rest => if ch = sep then some rest else none
    | [] => none

def readIpv4Addr (text : List Char) : Option (Ipv4Addr × List Char) := do
  let (a, text) ← readNumber 10 3 255 false text
  let text ← readSeparator '.' 1 text
  let (b, text) ← readNumber 10 3 255 false text
  let text ← readSeparator '.' 2 text
  let (c, text) ← readNumber 10 3 255 false text
  let text ← readSeparator '.' 3 text
  let (d, text) ← readNumber 10 3 255 false text
  return (⟨UInt8.ofNat a, UInt8.ofNat b, UInt8.ofNat c, UInt8.ofNat d⟩, text)

/-- `read_groups`: up to `remaining` more groups starting at index `i`, with an
optional embedded IPv4 tail. Returns the groups, whether the tail was IPv4, and
the rest of the text. -/
def readGroups : Nat → Nat → List Char → List Nat × Bool × List Char
  | 0, _, text => ([], false, text)
  | remaining + 1, i, text =>
    let dotted := if 0 < remaining then (readSeparator ':' i text).bind readIpv4Addr else none
    match dotted with
    | some (ip, rest) =>
      ([ip.a.toNat * 256 + ip.b.toNat, ip.c.toNat * 256 + ip.d.toNat], true, rest)
    | none =>
      match (readSeparator ':' i text).bind (readNumber 16 4 65535 true) with
      | some (g, rest) =>
        let (groups, tail, rest) := readGroups remaining (i + 1) rest
        (g :: groups, tail, rest)
      | none => ([], false, text)

def readIpv6Addr (text : List Char) : Option (Ipv6Addr × List Char) :=
  let (head, dotted, rest) := readGroups 8 0 text
  if head.length = 8 then some (Ipv6Addr.ofSegments head, rest)
  else if dotted then none
  else match rest with
    | ':' :: ':' :: rest =>
      let (tail, _, rest) := readGroups (8 - (head.length + 1)) 0 rest
      let zeros := List.replicate (8 - head.length - tail.length) 0
      some (Ipv6Addr.ofSegments (head ++ zeros ++ tail), rest)
    | _ => none

/-- The whole text must be consumed (`parse_with`). -/
def wholeText {α : Type} (read : List Char → Option (α × List Char)) (text : List Char) : Option α :=
  match read text with
  | some (value, []) => some value
  | _ => none

/-- `s.parse::<Ipv4Addr>()`; texts longer than the longest dotted quad fail first. -/
def parseIpv4Addr (text : List Char) : Option Ipv4Addr :=
  if 15 < text.length then none else wholeText readIpv4Addr text

def parseIpv6Addr (text : List Char) : Option Ipv6Addr := wholeText readIpv6Addr text

/-- `s.parse::<IpAddr>()`. -/
def parseIpAddr (text : List Char) : Option IpAddr :=
  match wholeText readIpv4Addr text with
  | some ip => some (.v4 ip)
  | none => (parseIpv6Addr text).map .v6

/-- `read_scope_id`: an optional `%` and a 32-bit number, which a flow does not keep. -/
def dropScopeId : List Char → List Char
  | '%' :: rest =>
    match readNumber 10 rest.length 4294967295 true rest with
    | some (_, after) => after
    | none => '%' :: rest
  | text => text

/-- `s.parse::<SocketAddr>()`. -/
def parseSocketAddr (text : List Char) : Option SocketAddr :=
  let readPort : List Char → Option (Nat × List Char)
    | ':' :: rest => readNumber 10 rest.length 65535 true rest
    | _ => none
  let readV4 : List Char → Option (SocketAddr × List Char) := fun text => do
    let (ip, rest) ← readIpv4Addr text
    let (port, rest) ← readPort rest
    return (⟨.v4 ip, UInt16.ofNat port⟩, rest)
  let readV6 : List Char → Option (SocketAddr × List Char)
    | '[' :: rest => do
      let (ip, rest) ← readIpv6Addr rest
      match dropScopeId rest with
      | ']' :: rest =>
        let (port, rest) ← readPort rest
        return (⟨.v6 ip, UInt16.ofNat port⟩, rest)
      | _ => none
    | _ => none
  match wholeText readV4 text with
  | some addr => some addr
  | none => wholeText readV6 text

example : parseIpAddr "2001:db8::1".toList = (parseIpAddr "2001:db8:0:0:0:0:0:1".toList) := by
  decide +kernel

example : (parseIpAddr "2001:db8::ff00:0:1".toList).map IpAddr.display = some "2001:db8::ff00:0:1" := by
  decide +kernel

end Sipmon.Source
