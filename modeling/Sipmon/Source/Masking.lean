import Sipmon.Source.Packet
import Sipmon.Source.Text

/-!
# Privacy masking of a message (`src/ui/mod.rs`, `src/ui/call_detail.rs`)

The loops run over an index into the text. Here they run over the text itself, with the
number of letters the index has jumped ahead.
-/
namespace Sipmon.Source.Masking
open Text

/-- `mask_user`: the first three and the last four characters; a value of up to four
keeps its first. -/
def maskUser (s : Chars) : Chars :=
  let n := s.length
  if n ≤ 4 then s.mapIdx fun i c => if i = 0 then c else '*'
  else
    let backStart := max (n - 4) 3
    let mid := if 3 < backStart then "…" else "*"
    s.take 3 ++ mid.toList ++ s.drop backStart

/-- `mask_ip`: the first and last octets or hextets. -/
def maskIp : IpAddr → Chars
  | .v4 ip => (toString ip.a.toNat).toList ++ ".*.*.".toList ++ (toString ip.d.toNat).toList
  | .v6 ip => (hex (ip.segments.getD 0 0)).toList ++ ":…:".toList ++ (hex (ip.segments.getD 7 0)).toList

/-! ## URIs -/

/-- Whether a `sip:` or `sips:` URI starts here. -/
def startsUri (text : Chars) : Bool := "sips:".toList.isPrefixOf text || "sip:".toList.isPrefixOf text

/-- Whether a URI goes on with this character. -/
def inUri (c : Char) : Bool := !(['>', ' ', '\t', ',', '\r', '\n'].contains c)

/-- The URI that starts here: its scheme, and all up to a character that ends it. -/
def uriAt (text : Chars) : Chars :=
  let schemeLen := if "sips:".toList.isPrefixOf text then 5 else 4
  text.take schemeLen ++ (text.drop schemeLen).takeWhile inUri

/-- `mask_host`: a socket address, an address, or an IPv6 address in brackets. -/
def maskHost (host : Chars) : Chars :=
  match parseSocketAddr host with
  | some sock => maskIp sock.ip ++ ':' :: (toString sock.port.toNat).toList
  | none =>
    match parseIpAddr host with
    | some ip => maskIp ip
    | none =>
      let bracketed := do
        let inner ← stripPrefix ['['] host
        let inner ← if inner.getLast? = some ']' then some inner.dropLast else none
        parseIpv6Addr inner
      match bracketed with
      | some ip => '[' :: maskIp (.v6 ip) ++ [']']
      | none => host

/-- The user and the host of a URI. -/
def maskAddr (addr : Chars) : Chars :=
  match splitOnce '@' addr with
  | some (user, host) => maskUser user ++ '@' :: maskHost host
  | none => maskHost addr

/-- What stands behind the scheme, with its parameters kept. -/
def maskBody (rest : Chars) : Chars :=
  match splitOnce ';' rest with
  | some (addr, params) => maskAddr addr ++ ';' :: params
  | none => maskAddr rest

/-- `mask_uri`. -/
def maskUri (uri : Chars) : Chars :=
  match stripPrefix "sips:".toList uri with
  | some rest => "sips:".toList ++ maskBody rest
  | none =>
    match stripPrefix "sip:".toList uri with
    | some rest => "sip:".toList ++ maskBody rest
    | none => uri

/-- `mask_sip_uris`, with the characters of the last URI that are still to be passed. -/
def maskSipUrisFrom : Nat → Chars → Chars
  | _, [] => []
  | passed + 1, _ :: rest => maskSipUrisFrom passed rest
  | 0, c :: rest =>
    if startsUri (c :: rest) then
      maskUri (uriAt (c :: rest)) ++ maskSipUrisFrom ((uriAt (c :: rest)).length - 1) rest
    else c :: maskSipUrisFrom 0 rest

def maskSipUris (text : Chars) : Chars := maskSipUrisFrom 0 text

/-! ## Display names -/

/-- `mask_display_names`: a name between two quotes is masked as a user is. -/
def maskDisplayNamesFrom : Nat → Chars → Chars
  | _, [] => []
  | passed + 1, _ :: rest => maskDisplayNamesFrom passed rest
  | 0, c :: rest =>
    if c = '"' then
      match splitOnce '"' rest with
      | some (name, _) => '"' :: maskUser name ++ '"' :: maskDisplayNamesFrom (name.length + 1) rest
      | none => c :: rest
    else c :: maskDisplayNamesFrom 0 rest

def maskDisplayNames (text : Chars) : Chars := maskDisplayNamesFrom 0 text

/-! ## Addresses -/

/-- `ipv4_len`, from part `4 - parts` on, `i` characters into the text. -/
def ipv4LenFrom : Nat → Nat → Chars → Option Nat
  | 0, i, _ => some i
  | parts + 1, i, text =>
    let digits := text.takeWhile Char.isDigit
    if digits.isEmpty || 3 < digits.length || (1 < digits.length && digits.head? == some '0') then none
    else if 255 < digits.foldl (fun acc d => acc * 10 + (d.toNat - '0'.toNat)) 0 then none
    else if parts = 0 then some (i + digits.length)
    else match text.drop digits.length with
      | '.' :: rest => ipv4LenFrom parts (i + digits.length + 1) rest
      | _ => none

def ipv4Len (text : Chars) : Option Nat := ipv4LenFrom 4 0 text

/-- The `:port` that stands here, if one does (`mask_port`). -/
def maskPort : Chars → Chars
  | ':' :: rest => if (rest.head?.any Char.isDigit) then ':' :: rest.takeWhile Char.isDigit else []
  | _ => []

/-- An IPv6 address in brackets that starts here, and the text it takes. -/
def bracketedAt : Chars → Option (Ipv6Addr × Nat)
  | '[' :: rest => do
    let (inner, _) ← splitOnce ']' rest
    let ip ← parseIpv6Addr inner
    return (ip, inner.length + 2)
  | _ => none

/-- A dotted quad that starts here, and the text it takes. -/
def quadAt (text : Chars) : Option (Ipv4Addr × Nat) :=
  if text.head?.any Char.isDigit then do
    let len ← ipv4Len text
    let ip ← parseIpv4Addr (text.take len)
    return (ip, len)
  else none

def addressAt (text : Chars) : Option (IpAddr × Nat) :=
  ((bracketedAt text).map fun (ip, len) => (.v6 ip, len)).or
    ((quadAt text).map fun (ip, len) => (.v4 ip, len))

/-- `mask_ips`: every address, and the port behind it is kept. -/
def maskIpsFrom : Nat → Chars → Chars
  | _, [] => []
  | passed + 1, _ :: rest => maskIpsFrom passed rest
  | 0, c :: rest =>
    match addressAt (c :: rest) with
    | some (ip, len) =>
      let port := maskPort ((c :: rest).drop len)
      maskIp ip ++ port ++ maskIpsFrom (len + port.length - 1) rest
    | none => c :: maskIpsFrom 0 rest

def maskIps (text : Chars) : Chars := maskIpsFrom 0 text

/-! ## Messages -/

/-- The headers whose quoted names are masked. -/
def identityHeads : List Chars :=
  ["FROM".toList, "TO".toList, "P-ASSERTED-IDENTITY".toList, "REMOTE-PARTY-ID".toList]

def isIdentity (line : Chars) : Bool :=
  match splitOnce ':' (line.dropWhile isWhitespace) with
  | some (head, _) => identityHeads.contains (toAsciiUppercase head)
  | none => false

def maskLine (line : Chars) : Chars :=
  let masked := maskSipUris line
  maskIps (if isIdentity line then maskDisplayNames masked else masked)

/-- `mask_raw`, line by line. -/
def maskRaw (text : Chars) : Chars := ['\n'].intercalate ((lines text).map maskLine)

example : String.ofList (maskRaw "From: \"Alice\" <sip:13812345678@10.10.0.8>;tag=a1\r\n".toList) =
    "From: \"Ali*ce\" <sip:138…5678@10.*.*.8>;tag=a1" := by decide +kernel

end Sipmon.Source.Masking
