import Sipmon.Guarantees.LiteralPlaces

/-!
# What a masked address still tells (`mask_raw`)

Of a literal the mask shows the first and the last group. Where the passes find it, every
other literal with these groups gives the same message. A bare IPv6 address is found only
where it is the whole host of a URI.
-/
namespace Sipmon.Guarantees.MaskedAddresses
open Source Text Masking AddressText Attributes AddressEnds AddressScan MaskedText TextLines LiteralPlaces

/-! ## Literals -/

/-- An address as it is written in a text. -/
inductive AddressLiteral where
  | quad (ip : Ipv4Addr)
  | bracketed (groups : Chars) (ip : Ipv6Addr) (parsed : parseIpv6Addr groups = some ip)
  | bare (groups : Chars) (ip : Ipv6Addr) (parsed : parseIpv6Addr groups = some ip)

namespace AddressLiteral

def text : AddressLiteral → Chars
  | quad ip => ip.display.toList
  | bracketed groups _ _ => '[' :: (groups ++ [']'])
  | bare groups _ _ => groups

def ip : AddressLiteral → IpAddr
  | quad ip => .v4 ip
  | bracketed _ ip _ | bare _ ip _ => .v6 ip

def isBare : AddressLiteral → Bool
  | bare .. => true
  | _ => false

/-- The groups a mask keeps of an IPv6 address. -/
def ends (ip : Ipv6Addr) : ℕ × ℕ := (ip.segments.getD 0 0, ip.segments.getD 7 0)

/-- Another literal of the family and the form, with the same first and last group. -/
def SameEnds : AddressLiteral → AddressLiteral → Prop
  | quad ip, quad other => other.a = ip.a ∧ other.d = ip.d
  | bracketed _ ip _, bracketed _ other _ => ends other = ends ip
  | bare _ ip _, bare _ other _ => ends other = ends ip
  | _, _ => False

/-- The text behind a literal does not run on with it. -/
def EndsAt (literal : AddressLiteral) (behind : Chars) : Prop :=
  match literal with
  | quad _ => Stops 10 behind
  | bracketed .. => True
  | bare .. => ∀ c ∈ behind.head?, c.isAlphanum = false ∧ c ≠ '.' ∧ c ≠ ':'

theorem SameEnds.refl (literal : AddressLiteral) : SameEnds literal literal := by
  cases literal with
  | quad ip => exact ⟨rfl, rfl⟩
  | bracketed | bare => exact rfl

/-- The mask shows the first and the last group, and nothing else. -/
theorem SameEnds.mask {literal other : AddressLiteral} (same : SameEnds literal other) :
    maskIp other.ip = maskIp literal.ip := by
  have groups : ∀ {ip ip' : Ipv6Addr}, ends ip' = ends ip → maskIp (.v6 ip') = maskIp (.v6 ip) := by
    intro ip ip' same
    obtain ⟨first, last⟩ := Prod.mk.inj same
    rw [maskIp, maskIp, first, last]
  cases literal with
  | quad ip =>
    cases other with
    | quad other =>
      obtain ⟨first, last⟩ := same
      simp only [AddressLiteral.ip, maskIp, first, last]
    | bracketed | bare => exact same.elim
  | bracketed =>
    cases other with
    | bracketed => exact groups same
    | quad | bare => exact same.elim
  | bare =>
    cases other with
    | bare => exact groups same
    | quad | bracketed => exact same.elim

end AddressLiteral

variable {c : Char} {text rest before behind after : Chars} {ip : Ipv6Addr} {literal : AddressLiteral}

/-! ### Their letters -/

theorem groups_letter (parsed : parseIpv6Addr text = some ip) (member : c ∈ text) :
    (toDigit 16 c).isSome = true ∨ c = '.' ∨ c = ':' := by
  by_contra none_
  simp only [not_or, Bool.not_eq_true, Option.isSome_eq_false_iff, Option.isNone_iff_eq_none] at none_
  rw [parseIpv6Addr_none none_ member] at parsed
  cases parsed

theorem literal_groups (parsed : parseIpv6Addr text = some ip) : Literal text := by
  intro c member
  rw [isLiteralChar, Bool.or_eq_true]
  rcases groups_letter parsed member with digit | rfl | rfl
  · exact .inl digit
  · exact .inr (by decide)
  · exact .inr (by decide)

theorem quad_letter {ip : Ipv4Addr} (member : c ∈ ip.display.toList) : c.isDigit = true ∨ c = '.' := by
  rw [toList_ipv4] at member
  simp only [List.mem_append, List.mem_cons] at member
  rcases member with digit | rfl | digit | rfl | digit | rfl | digit
  all_goals first | exact .inr rfl | exact .inl (digits_decimal _ c digit)

theorem readGroups_colonless (plain : ':' ∉ text) (remaining i : ℕ) : (readGroups remaining (i + 1) text).1 = [] := by
  cases remaining with
  | zero => rfl
  | succ remaining =>
    have none_ : readSeparator ':' (i + 1) text = none := by
      cases text with
      | nil => rfl
      | cons d text =>
        have other : d ≠ ':' := fun same => plain (by simp [same])
        simp [readSeparator, other]
    rw [readGroups, none_]
    simp

/-- An IPv6 address has a colon. -/
theorem colon_mem (parsed : parseIpv6Addr text = some ip) : ':' ∈ text := by
  by_contra plain
  have read : readIpv6Addr text = some (ip, []) := wholeText_some parsed
  have suffix := (readGroups_passes 8 0 text).1
  have few : (readGroups 8 0 text).1.length < 8 := by
    rw [readGroups]
    dsimp only
    split
    · simp
    · split
      · next g rest group =>
        have passed := (readNumber_passes (by simpa [readSeparator] using group)).1
        have plain' : ':' ∉ rest := fun member => plain (passed.subset member)
        have none_ := readGroups_colonless plain' 7 0
        simp [none_]
      · simp
  unfold readIpv6Addr at read
  dsimp only at read
  split at read
  · omega
  · split at read
    · cases read
    · split at read
      · next more elided =>
        rw [elided] at suffix
        exact plain (suffix.subset (by simp))
      · cases read

theorem text_literal (literal : AddressLiteral) : Literal literal.text := by
  cases literal with
  | quad ip =>
    intro c member
    rw [isLiteralChar, Bool.or_eq_true]
    rcases quad_letter member with digit | rfl
    · rw [isDigit_eq] at digit
      cases hexadecimal : toDigit 16 c with
      | some d => exact .inl rfl
      | none => rw [(stops_cons hexadecimal []).decimal c rfl] at digit; cases digit
    · exact .inr (by decide)
  | bracketed groups ip parsed =>
    intro c member
    rcases List.mem_cons.mp member with rfl | member
    · decide
    · rcases List.mem_append.mp member with inside | close
      · exact literal_groups parsed c inside
      · obtain rfl := List.mem_singleton.mp close
        decide
  | bare groups ip parsed => exact literal_groups parsed

theorem text_inline (literal : AddressLiteral) : Inline literal.text := by
  have letters := text_literal literal
  refine ⟨?_, fun member => (literal_plain (letters _ member)).2.2.2.2.2.1 rfl, ?_⟩
  · cases literal with
    | quad ip =>
      intro none_
      have dot : '.' ∈ ip.display.toList := by simp [toList_ipv4]
      rw [show ip.display.toList = [] from none_] at dot
      cases dot
    | bracketed groups ip parsed => exact List.cons_ne_nil _ _
    | bare groups ip parsed => exact List.ne_nil_of_mem (colon_mem parsed)
  · rintro c last rfl
    exact (literal_plain (letters _ (List.mem_of_getLast? last))).2.2.2.2.2.2 rfl

/-- No literal reads as the head of an identity header. -/
theorem text_unnamed (literal : AddressLiteral) : Unnamed literal.text := by
  cases literal with
  | quad ip =>
    left
    refine ⟨Nat.toDigits 10 ip.a.toNat, '.', _, toList_ipv4 ip, fun member => ?_, .inl rfl⟩
    exact absurd (digits_decimal _ _ member) (by decide)
  | bracketed groups ip parsed => exact .inl ⟨[], '[', groups ++ [']'], rfl, List.not_mem_nil, .inr rfl⟩
  | bare groups ip parsed =>
    obtain ⟨digits, rest, shape, plain⟩ := List.eq_append_cons_of_mem (colon_mem parsed)
    by_cases dotted : '.' ∈ digits
    · obtain ⟨front, more, rfl, -⟩ := List.eq_append_cons_of_mem dotted
      refine .inl ⟨front, '.', more ++ ':' :: rest, ?_, fun member => plain (by simp [member]), .inl rfl⟩
      rw [AddressLiteral.text, shape]
      simp
    · refine .inr ⟨digits, rest, shape, fun d member => ?_⟩
      rcases groups_letter parsed (c := d) (by simp [shape, member]) with digit | rfl | rfl
      · exact digit
      · exact absurd member dotted
      · exact absurd member plain

/-! ## Hosts -/

/-- The address that a host has in brackets. -/
def inBrackets (host : Chars) : Option Ipv6Addr := do
  let inner ← stripPrefix ['['] host
  let inner ← if inner.getLast? = some ']' then some inner.dropLast else none
  parseIpv6Addr inner

theorem maskHost_eq (host : Chars) : maskHost host =
    match parseSocketAddr host with
    | some sock => maskIp sock.ip ++ ':' :: (toString sock.port.toNat).toList
    | none =>
      match parseIpAddr host with
      | some ip => maskIp ip
      | none =>
        match inBrackets host with
        | some ip => '[' :: maskIp (.v6 ip) ++ [']']
        | none => host := rfl

theorem inBrackets_other (other : text.head? ≠ some '[') : inBrackets text = none := by
  cases text with
  | nil => rfl
  | cons d text =>
    have unlike : d ≠ '[' := fun same => other (by rw [same]; rfl)
    simp [inBrackets, stripPrefix, unlike.symm]

theorem inBrackets_inner (inner : Chars) : inBrackets ('[' :: inner) =
    if inner.getLast? = some ']' then parseIpv6Addr inner.dropLast else none := by
  have strip : stripPrefix ['['] ('[' :: inner) = some inner := by simp [stripPrefix]
  rw [inBrackets, strip]
  simp only [Option.bind_eq_bind, Option.bind_some]
  split <;> rfl

/-- A host with an alien letter is copied. -/
theorem maskHost_alien (alien : Alien c) (member : c ∈ text) : maskHost text = text := by
  have noBrackets : inBrackets text = none := by
    cases text with
    | nil => rfl
    | cons d text =>
      by_cases bracket : d = '['
      · subst bracket
        have inside : c ∈ text := (List.mem_cons.mp member).resolve_left alien.2.1
        rw [inBrackets_inner]
        split
        · next closed =>
          have nonempty : text ≠ [] := List.ne_nil_of_mem inside
          have last : text.getLast nonempty = ']' := by
            rw [List.getLast?_eq_some_getLast nonempty] at closed
            exact Option.some.inj closed
          rw [← List.dropLast_append_getLast nonempty, last, List.mem_append] at inside
          refine parseIpv6Addr_none alien.1 (inside.resolve_right fun close => ?_)
          exact alien.2.2.1 (List.mem_singleton.mp close)
        · rfl
      · exact inBrackets_other (by simpa using bracket)
  rw [maskHost_eq, parseSocketAddr_none alien member, parseIpAddr_none alien.1 member, noBrackets]

/-- Of the literals that begin a host, the mask alone is shown, or they are all copied. -/
def Alike (literal : AddressLiteral) (behind : Chars) : Prop :=
  (∃ shown : Chars → Chars, ∀ other, literal.SameEnds other →
      maskHost (other.text ++ behind) = shown (maskIp other.ip)) ∨
    ∀ other, literal.SameEnds other → maskHost (other.text ++ behind) = other.text ++ behind

theorem host_quad (stops : Stops 10 rest) (ip : Ipv4Addr) : maskHost (ip.display.toList ++ rest) =
    match wholeText readPort rest with
    | some port => maskIp (.v4 ip) ++ ':' :: (toString (UInt16.ofNat port).toNat).toList
    | none => if rest = [] then maskIp (.v4 ip) else ip.display.toList ++ rest := by
  have noBrackets := inBrackets_other (head_of_quad (readIpv4Addr_display ip stops))
  rw [maskHost_eq, parseSocketAddr_quad ip stops, parseIpAddr_quad ip stops, noBrackets]
  cases wholeText readPort rest with
  | some port => rfl
  | none =>
    by_cases whole : rest = []
    · rw [if_pos whole, if_pos whole]
      rfl
    · rw [if_neg whole, if_neg whole]
      rfl

theorem host_bracketed (parsed : parseIpv6Addr text = some ip) (rest : Chars) :
    maskHost ('[' :: (text ++ [']']) ++ rest) =
      match wholeText readPort rest with
      | some port => maskIp (.v6 ip) ++ ':' :: (toString (UInt16.ofNat port).toNat).toList
      | none => if rest = [] then '[' :: maskIp (.v6 ip) ++ [']'] else '[' :: (text ++ [']']) ++ rest := by
  have shape : '[' :: (text ++ [']']) ++ rest = '[' :: (text ++ ']' :: rest) := by simp
  rw [shape, maskHost_eq, parseSocketAddr_bracketed parsed, parseIpAddr_bracket, inBrackets_inner]
  cases wholeText readPort rest with
  | some port => rfl
  | none =>
    by_cases whole : rest = []
    · subst whole
      rw [if_pos (by simp), List.dropLast_concat, parsed, if_pos rfl]
      rfl
    · obtain ⟨most, d, rfl⟩ := List.eq_nil_or_concat' rest |>.resolve_left whole
      have inside : parseIpv6Addr (text ++ ']' :: (most ++ [d])).dropLast = none := by
        refine parseIpv6Addr_none foreign_close ?_
        rw [show text ++ ']' :: (most ++ [d]) = (text ++ ']' :: most) ++ [d] by simp, List.dropLast_concat]
        simp
      rw [inside, if_neg whole, ite_self]
      rfl

theorem host_bare (parsed : parseIpv6Addr text = some ip) : maskHost text = maskIp (.v6 ip) := by
  rw [maskHost_eq, parseSocketAddr_bare parsed, parseIpAddr_bare parsed]

theorem head_of_groups (parsed : parseIpv6Addr text = some ip) (rest : Chars) : (text ++ rest).head? ≠ some '[' := by
  intro first
  cases text with
  | nil => exact absurd (colon_mem parsed) List.not_mem_nil
  | cons d text =>
    obtain rfl : d = '[' := by simpa using first
    rcases groups_letter parsed (List.mem_cons_self ..) with digit | dot | colon
    · exact absurd digit (by decide)
    · exact absurd dot (by decide)
    · exact absurd colon (by decide)

/-- Behind a bare address a host goes on with no letter of an address: it is copied. -/
theorem host_bare_copied (parsed : parseIpv6Addr text = some ip) (foreign : Foreign c) (rest : Chars) :
    maskHost (text ++ c :: rest) = text ++ c :: rest := by
  have unbracketed := head_of_groups parsed (c :: rest)
  have noQuad : readIpv4Addr (text ++ c :: rest) = none := by
    rw [readIpv4Addr_append foreign, readIpv4Addr_of_ipv6 parsed]
    rfl
  have noV4 : readSocketV4 (text ++ c :: rest) = none := by
    rw [readSocketV4, noQuad]
    rfl
  have noSocket : parseSocketAddr (text ++ c :: rest) = none := by
    rw [parseSocketAddr_eq, wholeText_none noV4, wholeText_none (readSocketV6_bracket unbracketed)]
    rfl
  rw [maskHost_eq, noSocket, parseIpAddr_none foreign (by simp), inBrackets_other unbracketed]

/-- A host that begins with a quad or a bracket. -/
theorem host_alike (ends : literal.EndsAt behind) (covered : literal.isBare = false) : Alike literal behind := by
  cases literal with
  | quad ip =>
    have stops : Stops 10 behind := ends
    have masked := host_quad stops
    cases port : wholeText readPort behind with
    | some n =>
      rw [port] at masked
      refine .inl ⟨(· ++ ':' :: (toString (UInt16.ofNat n).toNat).toList), fun other same => ?_⟩
      match other, same with
      | .quad other, _ => exact masked other
    | none =>
      rw [port] at masked
      by_cases nothing : behind = []
      · refine .inl ⟨id, fun other same => ?_⟩
        match other, same with
        | .quad other, _ => exact (masked other).trans (if_pos nothing)
      · refine .inr fun other same => ?_
        match other, same with
        | .quad other, _ => exact (masked other).trans (if_neg nothing)
  | bracketed groups ip parsed =>
    have masked : ∀ {t : Chars} {ip : Ipv6Addr}, parseIpv6Addr t = some ip → _ := fun parsed => host_bracketed parsed behind
    cases port : wholeText readPort behind with
    | some n =>
      rw [port] at masked
      refine .inl ⟨(· ++ ':' :: (toString (UInt16.ofNat n).toNat).toList), fun other same => ?_⟩
      match other, same with
      | .bracketed groups ip parsed, _ => exact masked parsed
    | none =>
      rw [port] at masked
      by_cases nothing : behind = []
      · refine .inl ⟨fun m => '[' :: m ++ [']'], fun other same => ?_⟩
        match other, same with
        | .bracketed groups ip parsed, _ => exact (masked parsed).trans (if_pos nothing)
      · refine .inr fun other same => ?_
        match other, same with
        | .bracketed groups ip parsed, _ => exact (masked parsed).trans (if_neg nothing)
  | bare groups ip parsed => cases covered

/-! ## The first pass -/

/-- The literal is the whole host of a URI. -/
def WholeHost (before behind : Chars) : Prop := (∃ written, placeOf before = .host written []) ∧ hostTail behind = []

/-- The first pass shows the mask of the literal only. -/
def Shown (literal : AddressLiteral) (before behind : Chars) : Prop :=
  ∃ shown : Chars → Chars, ∀ other, literal.SameEnds other →
    maskSipUris (before ++ (other.text ++ behind)) = shown (maskIp other.ip)

/-- The first pass copies the literal. -/
def Copied (literal : AddressLiteral) (before behind : Chars) : Prop :=
  ∃ after, Behind behind after ∧ ∀ other, literal.SameEnds other →
    maskSipUris (before ++ (other.text ++ behind)) = placeText before ++ (other.text ++ after)

theorem hostTail_prefix (behind : Chars) : hostTail behind <+: behind :=
  (List.takeWhile_prefix _).trans (List.takeWhile_prefix _)

theorem endsAt_tail (ends : literal.EndsAt behind) : literal.EndsAt (hostTail behind) := by
  have head : ∀ c ∈ (hostTail behind).head?, c ∈ behind.head? := by
    intro c first
    obtain ⟨more, whole⟩ := hostTail_prefix behind
    rw [← whole, List.head?_append, Option.mem_def.mp first]
    rfl
  cases literal with
  | quad ip => exact fun c first => ends c (head c first)
  | bracketed groups ip parsed => trivial
  | bare groups ip parsed => exact fun c first => ends c (head c first)

theorem host_shape {written host : Chars} (place : placeOf before = .host written host) :
    ∃ prior d, before = prior ++ d :: host ∧ isTokenChar d = false := by
  unfold placeOf at place
  split at place
  · cases place
  · next scheme u opened =>
    obtain ⟨isScheme, -, prior, rfl⟩ := openUri_shape opened
    split at place
    · cases place
    · split at place
      · next user rest cut =>
        cases place
        obtain ⟨rfl, -⟩ := splitOnce_shape cut
        exact ⟨prior ++ scheme ++ user, '@', by simp, by decide⟩
      · cases place
        rcases isScheme with rfl | rfl
        · exact ⟨prior ++ "sips".toList, ':', by simp, by decide⟩
        · exact ⟨prior ++ "sip".toList, ':', by simp, by decide⟩

/-- A host in front of the literal has an alien letter. -/
theorem host_alien {written host : Chars} (separate : Separate before) (place : placeOf before = .host written host)
    (nonempty : host ≠ []) : ∃ c ∈ host, Alien c := by
  obtain ⟨prior, d, shape, sign⟩ := host_shape place
  obtain ⟨most, e, rfl⟩ := List.eq_nil_or_concat' host |>.resolve_left nonempty
  rcases separate with rfl | ⟨front, c, rfl, apart⟩ | ⟨front, c, word, rfl, letter, alien, letters⟩
  · simp at shape
  · have shape' : front ++ [c] = (prior ++ d :: most) ++ [e] := by simpa using shape
    obtain rfl : c = e := by simpa using (List.append_inj' shape' rfl).2
    exact ⟨c, by simp, apart.alien⟩
  · have shape' : (front ++ c :: word) ++ [':'] = (prior ++ d :: most) ++ [e] := by simpa using shape
    have cut : front ++ c :: word = prior ++ d :: most := (List.append_inj' shape' rfl).1
    have outside : d ∉ c :: word := by
      intro member
      have token : isTokenChar d = true := by
        rcases List.mem_cons.mp member with rfl | inWord
        · exact letter
        · exact (letters d inWord).1
      rw [token] at sign
      cases sign
    -- The sign is no letter of the name, so the whole name is in the host.
    refine ⟨c, List.mem_append_left _ ?_, alien⟩
    rcases List.append_eq_append_iff.mp cut with ⟨between, -, same⟩ | ⟨between, -, same⟩
    · exact absurd (by rw [same]; simp) outside
    · cases between with
      | nil =>
        obtain ⟨rfl, -⟩ := List.cons.inj same
        exact absurd List.mem_cons_self outside
      | cons f between =>
        obtain ⟨-, rfl⟩ := List.cons.inj same
        simp

/-- Where no host begins at the literal, the first pass copies it. -/
theorem copied_place (separate : Separate before) (outside : ¬ InUser before behind)
    (inside : ∀ written, placeOf before ≠ .host written []) : Copied literal before behind := by
  have seamless : ∀ piece, Seamless before (piece ++ behind) := fun piece => separate.seamless _
  cases place : placeOf before with
  | copied written =>
    obtain ⟨after, shape, copies⟩ := uris_copied place behind
    refine ⟨after, shape, fun other _ => ?_⟩
    rw [copies _ (text_literal other) (seamless _), placeText, place]
  | host written host =>
    have nonempty : host ≠ [] := by
      rintro rfl
      exact inside written place
    obtain ⟨c, member, alien⟩ := host_alien separate place nonempty
    obtain ⟨after, shape, masks⟩ := uris_host place outside
    refine ⟨hostTail behind ++ after, shape, fun other _ => ?_⟩
    rw [masks _ (text_literal other) (seamless _), placeText, place, maskHost_alien alien (by simp [member])]
    simp

/-- Where a host begins at the literal, it is masked with the literal. -/
theorem shown_start {written : Chars} {shown : Chars → Chars} (separate : Separate before)
    (outside : ¬ InUser before behind) (place : placeOf before = .host written [])
    (masks : ∀ other, literal.SameEnds other → maskHost (other.text ++ hostTail behind) = shown (maskIp other.ip)) :
    Shown literal before behind := by
  obtain ⟨after, -, hosts⟩ := uris_host place outside
  refine ⟨fun mask => written ++ shown mask ++ after, fun other same => ?_⟩
  rw [hosts _ (text_literal other) (separate.seamless _), List.nil_append, masks other same]

theorem copied_start {written : Chars} (separate : Separate before) (outside : ¬ InUser before behind)
    (place : placeOf before = .host written [])
    (copies : ∀ other, literal.SameEnds other → maskHost (other.text ++ hostTail behind) = other.text ++ hostTail behind) :
    Copied literal before behind := by
  obtain ⟨after, shape, hosts⟩ := uris_host place outside
  refine ⟨hostTail behind ++ after, shape, fun other same => ?_⟩
  rw [hosts _ (text_literal other) (separate.seamless _), List.nil_append, copies other same, placeText, place]
  simp

/-! ## The message -/

/-- Another literal with the same ends gives the same masked message. -/
def Hides (literal : AddressLiteral) (before after : Chars) : Prop :=
  ∀ other, literal.SameEnds other →
    maskRaw (before ++ (other.text ++ after)) = maskRaw (before ++ (literal.text ++ after))

/-- A literal stands in the message by itself: it does not run on into other text, and is
no part of the user of a URI or of a quoted name. -/
structure StandsIn (literal : AddressLiteral) (before after : Chars) : Prop where
  front : Separate (lineFront before)
  back : literal.EndsAt (lineBack after)
  user : ¬ InUser (lineFront before) (lineBack after)
  name : ¬ Quoted (lineFront before) (lineBack after)

theorem line_literal (separate : Separate before) (literal : AddressLiteral) (behind : Chars) :
    maskLine (before ++ (literal.text ++ behind)) =
      laterPasses before (maskSipUris (before ++ (literal.text ++ behind))) := by
  rw [maskLine_eq, laterPasses, isIdentity_piece separate (text_unnamed literal)]
  rfl

theorem hides_of_line
    (line : ∀ other, literal.SameEnds other →
      maskLine (lineFront before ++ (other.text ++ lineBack after)) =
        maskLine (lineFront before ++ (literal.text ++ lineBack after))) :
    Hides literal before after := fun other same =>
  (maskRaw_eq_iff (text_inline other) (text_inline literal) before after).mpr (line other same)

theorem hides_of_shown (stands : StandsIn literal before after)
    (shown : Shown literal (lineFront before) (lineBack after)) : Hides literal before after := by
  obtain ⟨masked, shown⟩ := shown
  refine hides_of_line fun other same => ?_
  rw [line_literal stands.front, line_literal stands.front, shown other same, shown literal (.refl literal), same.mask]

/-- A copied literal is masked by the last pass, unless it is bare. -/
theorem hides_of_copied (stands : StandsIn literal before after)
    (copied : Copied literal (lineFront before) (lineBack after)) (covered : literal.isBare = false) :
    Hides literal before after := by
  obtain ⟨behind, shape, copies⟩ := copied
  obtain ⟨above, below, head, lines⟩ := copied_line stands.front stands.name shape
  have scanned : ∀ other, literal.SameEnds other → maskIps (other.text ++ below) =
      maskIp other.ip ++ maskPort below ++ maskIps (below.drop (maskPort below).length) := by
    intro other same
    cases literal with
    | quad ip =>
      cases other with
      | quad other =>
        have stops : Stops 10 below := by
          intro c first
          rw [head] at first
          exact stands.back c first
        exact ips_quad other stops
      | bracketed | bare => exact same.elim
    | bracketed groups ip parsed =>
      cases other with
      | bracketed groups ip parsed =>
        rw [AddressLiteral.text, List.cons_append, List.append_assoc, List.singleton_append]
        exact ips_bracketed parsed below
      | quad | bare => exact same.elim
    | bare groups ip parsed => cases covered
  refine hides_of_line fun other same => ?_
  rw [line_literal stands.front, line_literal stands.front, copies other same, copies literal (.refl literal),
    lines _ (text_literal other), lines _ (text_literal literal), scanned other same, scanned literal (.refl literal),
    same.mask]

/-! ### Bare addresses -/

/-- Groups with the ends of an address, and one of its own between them. -/
def twinGroups (ip : Ipv6Addr) (group : ℕ) : List ℕ :=
  [(AddressLiteral.ends ip).1, group, 1, 1, 1, 1, 1, (AddressLiteral.ends ip).2]

theorem segments_bound (ip : Ipv6Addr) (i : ℕ) : ip.segments.getD i 0 < 65536 := by
  rw [List.getD_eq_getElem?_getD]
  cases found : ip.segments[i]? with
  | none => decide
  | some g => exact segments_small ip g (List.mem_of_getElem? found)

theorem twin_parsed (ip : Ipv6Addr) {group : ℕ} (small : group < 65536) :
    parseIpv6Addr (colonized 0 (twinGroups ip group)) = some (Ipv6Addr.ofSegments (twinGroups ip group)) := by
  have bound : ∀ g ∈ twinGroups ip group, g < 65536 := by
    have first := segments_bound ip 0
    have last := segments_bound ip 7
    simp only [twinGroups, AddressLiteral.ends, List.forall_mem_cons]
    exact ⟨first, small, by decide, by decide, by decide, by decide, by decide, last, fun g member => nomatch member⟩
  have read := readIpv6Addr_colonized (by simp [twinGroups]) bound closes_nil List.not_mem_nil
  rw [List.append_nil] at read
  rw [parseIpv6Addr, wholeText_read read]

theorem twin_ends (ip : Ipv6Addr) (group : ℕ) :
    AddressLiteral.ends (Ipv6Addr.ofSegments (twinGroups ip group)) = AddressLiteral.ends ip := by
  have first : (AddressLiteral.ends ip).1 < 65536 := segments_bound ip 0
  have last : (AddressLiteral.ends ip).2 < 65536 := segments_bound ip 7
  have joined : ∀ g < 65536, (UInt8.ofNat (g / 256 % 256)).toNat * 256 + (UInt8.ofNat (g % 256)).toNat = g := by
    intro g small
    rw [UInt8.toNat_ofNat', UInt8.toNat_ofNat']
    omega
  have ends : ∀ a b c d e f g h : ℕ, AddressLiteral.ends (Ipv6Addr.ofSegments [a, b, c, d, e, f, g, h]) =
      ((UInt8.ofNat (a / 256 % 256)).toNat * 256 + (UInt8.ofNat (a % 256)).toNat,
        (UInt8.ofNat (h / 256 % 256)).toNat * 256 + (UInt8.ofNat (h % 256)).toNat) := fun a b c d e f g h => rfl
  rw [twinGroups, ends, joined _ first, joined _ last]

/-- The two bare literals that the message tells apart. -/
def twin (ip : Ipv6Addr) (group : ℕ) (small : group < 65536) : AddressLiteral :=
  .bare (colonized 0 (twinGroups ip group)) (Ipv6Addr.ofSegments (twinGroups ip group)) (twin_parsed ip small)

theorem twin_differs (ip : Ipv6Addr) : colonized 0 (twinGroups ip 1) ≠ colonized 0 (twinGroups ip 2) := by
  have one : Nat.toDigits 16 1 = ['1'] := by decide
  have two : Nat.toDigits 16 2 = ['2'] := by decide
  intro same
  simp [twinGroups, colonized, one, two] at same

theorem not_hides_of_copied (stands : StandsIn literal before after)
    (copied : Copied literal (lineFront before) (lineBack after)) (bare : literal.isBare = true) :
    ¬ Hides literal before after := by
  intro hides
  obtain ⟨behind, shape, copies⟩ := copied
  obtain ⟨above, below, head, lines⟩ := copied_line stands.front stands.name shape
  obtain ⟨groups, ip, parsed, rfl⟩ : ∃ groups ip parsed, literal = .bare groups ip parsed := by
    cases literal with
    | quad | bracketed => cases bare
    | bare groups ip parsed => exact ⟨groups, ip, parsed, rfl⟩
  have ends : ∀ d ∈ below.head?, d.isDigit = false ∧ d ≠ '.' := by
    intro d first
    rw [head] at first
    obtain ⟨plain, dot, -⟩ := stands.back d first
    have signs : (d.isAlpha || d.isDigit) = false := plain
    exact ⟨(Bool.or_eq_false_iff.mp signs).2, dot⟩
  have shown : ∀ group (small : group < 65536),
      maskLine (lineFront before ++ ((twin ip group small).text ++ lineBack after)) =
        above ++ (colonized 0 (twinGroups ip group) ++ maskIps below) := by
    intro group small
    have letters : ∀ d ∈ colonized 0 (twinGroups ip group), d ≠ '[' ∧ d ≠ '.' := by
      intro d member
      refine ⟨?_, ?_⟩
      · rintro rfl
        rcases groups_letter (twin_parsed ip small) member with digit | dot | colon
        · exact absurd digit (by decide)
        · exact absurd dot (by decide)
        · exact absurd colon (by decide)
      · rintro rfl
        exact dotless_colonized _ _ member
    have same : AddressLiteral.SameEnds (.bare groups ip parsed) (twin ip group small) := twin_ends ip group
    rw [line_literal stands.front, copies _ same, lines _ (text_literal _), ← ips_bare letters ends]
    rfl
  have line : ∀ group (small : group < 65536),
      maskLine (lineFront before ++ ((twin ip group small).text ++ lineBack after)) =
        maskLine (lineFront before ++ (groups ++ lineBack after)) := by
    intro group small
    have same : AddressLiteral.SameEnds (.bare groups ip parsed) (twin ip group small) := twin_ends ip group
    exact (maskRaw_eq_iff (text_inline _) (text_inline (.bare groups ip parsed)) before after).mp (hides _ same)
  have first := line 1 (by decide)
  rw [← line 2 (by decide), shown, shown, List.append_cancel_left_eq, List.append_cancel_right_eq] at first
  exact twin_differs ip first

theorem hides_of_covered (stands : StandsIn literal before after) (covered : literal.isBare = false) :
    Hides literal before after := by
  by_cases start : ∃ written, placeOf (lineFront before) = .host written []
  · obtain ⟨written, place⟩ := start
    rcases host_alike (endsAt_tail stands.back) covered with ⟨shown, masks⟩ | copies
    · exact hides_of_shown stands (shown_start stands.front stands.user place masks)
    · exact hides_of_copied stands (copied_start stands.front stands.user place copies) covered
  · exact hides_of_copied stands (copied_place stands.front stands.user fun written place => start ⟨written, place⟩) covered

theorem hides_of_whole (stands : StandsIn literal before after)
    (whole : WholeHost (lineFront before) (lineBack after)) (bare : literal.isBare = true) :
    Hides literal before after := by
  obtain ⟨⟨written, place⟩, tail⟩ := whole
  refine hides_of_shown stands (shown_start stands.front stands.user place (?_ : ∀ other, literal.SameEnds other →
    maskHost (other.text ++ hostTail (lineBack after)) = id (maskIp other.ip)))
  intro other same
  rw [tail, List.append_nil]
  cases literal with
  | quad | bracketed => cases bare
  | bare groups ip parsed =>
    cases other with
    | quad | bracketed => exact same.elim
    | bare groups ip parsed => exact host_bare parsed

/-- A bare address that is not the whole host is copied by the first pass. -/
theorem copied_of_bare (stands : StandsIn literal before after) (bare : literal.isBare = true)
    (part : ¬ WholeHost (lineFront before) (lineBack after)) : Copied literal (lineFront before) (lineBack after) := by
  by_cases start : ∃ written, placeOf (lineFront before) = .host written []
  · have ends := endsAt_tail stands.back
    cases tail : hostTail (lineBack after) with
    | nil => exact absurd ⟨start, tail⟩ part
    | cons c more =>
      obtain ⟨written, place⟩ := start
      refine copied_start stands.front stands.user place fun other same => ?_
      rw [tail] at ends ⊢
      cases literal with
      | quad | bracketed => cases bare
      | bare groups ip parsed =>
        cases other with
        | quad | bracketed => exact same.elim
        | bare groups ip parsed =>
          obtain ⟨plain, dot, colon⟩ := ends c rfl
          exact host_bare_copied parsed ⟨apart_digit plain 16, dot, colon⟩ more
  · exact copied_place stands.front stands.user fun written place => start ⟨written, place⟩

/-- A literal that stands in a message is hidden by its mask if and only if it is a dotted
quad, an IPv6 address in brackets, or the whole host of a URI. -/
theorem hides_unless_bare (literal : AddressLiteral) (before after : Chars) (stands : StandsIn literal before after) :
    Hides literal before after ↔
      literal.isBare = false ∨ WholeHost (lineFront before) (lineBack after) := by
  constructor
  · intro hides
    by_contra neither
    rw [not_or, Bool.not_eq_false] at neither
    exact not_hides_of_copied stands (copied_of_bare stands neither.1 neither.2) neither.1 hides
  · intro covered
    cases bare : literal.isBare with
    | false => exact hides_of_covered stands bare
    | true => exact hides_of_whole stands (covered.resolve_left (by simp [bare])) bare

/-- The sender of a request is hidden. -/
theorem via_address_is_hidden :
    Hides (.quad ⟨10, 0, 0, 8⟩) "Via: SIP/2.0/UDP ".toList ":5060;branch=z9hG4bK1".toList := by
  have outside : (front "Via: SIP/2.0/UDP ".toList).openUri = none := by decide +kernel
  have line : lineFront "Via: SIP/2.0/UDP ".toList = "Via: SIP/2.0/UDP ".toList := by decide +kernel
  refine (hides_unless_bare (.quad ⟨10, 0, 0, 8⟩) "Via: SIP/2.0/UDP ".toList ":5060;branch=z9hG4bK1".toList
    ⟨?_, ?_, ?_, ?_⟩).mpr (.inl rfl)
  · exact .inr (.inl ⟨"Via: SIP/2.0/UDP".toList, ' ', line, by decide, by decide⟩)
  · exact stops_cons (by decide) _
  · rintro ⟨scheme, u, opened, -⟩
    rw [line, outside] at opened
    cases opened
  · rintro ⟨identity, -⟩
    rw [line] at identity
    exact absurd identity (by decide +kernel)

/-- The address of an SDP connection line. -/
def connectionAddress : AddressLiteral :=
  .bare "2001:db8::1".toList (Ipv6Addr.ofSegments [0x2001, 0xdb8, 0, 0, 0, 0, 0, 1]) (by decide +kernel)

/-- It is shown whole. -/
theorem connection_address_is_shown :
    connectionAddress.text = "2001:db8::1".toList ∧ ¬ Hides connectionAddress "c=IN IP6 ".toList [] := by
  refine ⟨rfl, fun hides => ?_⟩
  have other : parseIpv6Addr "2001:abc::1".toList = some (Ipv6Addr.ofSegments [0x2001, 0xabc, 0, 0, 0, 0, 0, 1]) := by
    decide +kernel
  have ends : AddressLiteral.ends (Ipv6Addr.ofSegments [0x2001, 0xabc, 0, 0, 0, 0, 0, 1]) =
      AddressLiteral.ends (Ipv6Addr.ofSegments [0x2001, 0xdb8, 0, 0, 0, 0, 0, 1]) := by
    decide +kernel
  have same : maskRaw "c=IN IP6 2001:abc::1".toList = maskRaw "c=IN IP6 2001:db8::1".toList :=
    hides (.bare _ _ other) ends
  exact absurd same (by decide +kernel)

end Sipmon.Guarantees.MaskedAddresses
