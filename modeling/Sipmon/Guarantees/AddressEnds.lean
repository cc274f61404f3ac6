import Sipmon.Guarantees.AddressText
import Sipmon.Lib.Scan

/-!
# Where an address ends

A letter that no address has ends it: the parsers read up to it as if the text ended
there. So a text that is an address has no such letter.
-/
namespace Sipmon.Guarantees.AddressEnds
open Lib.Scan Source AddressText

/-- No address has this letter. -/
def Foreign (c : Char) : Prop := toDigit 16 c = none ∧ c ≠ '.' ∧ c ≠ ':'

instance (c : Char) : Decidable (Foreign c) := inferInstanceAs (Decidable (_ ∧ _))

variable {c : Char} {text rest : List Char}

theorem Foreign.decimal (foreign : Foreign c) : toDigit 10 c = none :=
  (stops_cons foreign.1 []).decimal c rfl

/-- A reader that leaves the same text behind, and what is appended to it. -/
def appended {α : Type} (behind : List Char) (read : α × List Char) : α × List Char := (read.1, read.2 ++ behind)

theorem readNumber_append {radix : ℕ} (other : toDigit radix c = none) (maxDigits limit : ℕ) (allowZeroPrefix : Bool) :
    readNumber radix maxDigits limit allowZeroPrefix (text ++ c :: rest) =
      (readNumber radix maxDigits limit allowZeroPrefix text).map (appended (c :: rest)) := by
  have stops : (toDigit radix c).isSome = false := by simp [other]
  have short := (List.takeWhile_prefix (fun ch => (toDigit radix ch).isSome) (l := text)).length_le
  unfold readNumber
  dsimp only
  rw [takeWhile_cut (p := fun ch => (toDigit radix ch).isSome) stops, List.drop_append_of_le_length short]
  repeat' split
  all_goals simp_all [appended]

theorem readSeparator_append {sep : Char} (other : c ≠ sep) (i : ℕ) :
    readSeparator sep i (text ++ c :: rest) = (readSeparator sep i text).map (· ++ c :: rest) := by
  unfold readSeparator
  split
  · rfl
  · cases text with
    | nil => simp [other]
    | cons d text =>
      by_cases same : d = sep <;> simp [same]

theorem bind_appended {α β : Type} {behind : List Char} {read : Option (α × List Char)}
    {next : α × List Char → Option (β × List Char)}
    (step : ∀ a text, next (a, text ++ behind) = (next (a, text)).map (appended behind)) :
    (read.map (appended behind)).bind next = (read.bind next).map (appended behind) := by
  cases read with
  | none => rfl
  | some result => exact step result.1 result.2

theorem bind_separated {β : Type} {behind : List Char} {left : Option (List Char)}
    {next : List Char → Option (β × List Char)}
    (step : ∀ text, next (text ++ behind) = (next text).map (appended behind)) :
    (left.map (· ++ behind)).bind next = (left.bind next).map (appended behind) := by
  cases left with
  | none => rfl
  | some text => exact step text

theorem readIpv4Addr_append (foreign : Foreign c) :
    readIpv4Addr (text ++ c :: rest) = (readIpv4Addr text).map (appended (c :: rest)) := by
  have number : ∀ t, readNumber 10 3 255 false (t ++ c :: rest) =
      (readNumber 10 3 255 false t).map (appended (c :: rest)) := fun t =>
    readNumber_append foreign.decimal 3 255 false
  have dot : ∀ i t, readSeparator '.' i (t ++ c :: rest) = (readSeparator '.' i t).map (· ++ c :: rest) := fun i t =>
    readSeparator_append foreign.2.1 i
  unfold readIpv4Addr
  simp only [Option.bind_eq_bind]
  rw [number]
  refine bind_appended fun first t => ?_
  rw [dot]
  refine bind_separated fun t => ?_
  rw [number]
  refine bind_appended fun second t => ?_
  rw [dot]
  refine bind_separated fun t => ?_
  rw [number]
  refine bind_appended fun third t => ?_
  rw [dot]
  refine bind_separated fun t => ?_
  rw [number]
  exact bind_appended fun fourth t => rfl

theorem readGroups_append (foreign : Foreign c) (remaining i : ℕ) :
    readGroups remaining i (text ++ c :: rest) =
      ((readGroups remaining i text).1, (readGroups remaining i text).2.1,
        (readGroups remaining i text).2.2 ++ c :: rest) := by
  induction remaining generalizing i text with
  | zero => rfl
  | succ remaining ih =>
    have colon : readSeparator ':' i (text ++ c :: rest) = (readSeparator ':' i text).map (· ++ c :: rest) :=
      readSeparator_append foreign.2.2 i
    have quad : (readSeparator ':' i (text ++ c :: rest)).bind readIpv4Addr =
        ((readSeparator ':' i text).bind readIpv4Addr).map (appended (c :: rest)) := by
      rw [colon]
      exact bind_separated fun t => readIpv4Addr_append foreign
    have group : (readSeparator ':' i (text ++ c :: rest)).bind (readNumber 16 4 65535 true) =
        ((readSeparator ':' i text).bind (readNumber 16 4 65535 true)).map (appended (c :: rest)) := by
      rw [colon]
      exact bind_separated fun t => readNumber_append foreign.1 4 65535 true
    have dotted : (if 0 < remaining then (readSeparator ':' i (text ++ c :: rest)).bind readIpv4Addr else none) =
        (if 0 < remaining then (readSeparator ':' i text).bind readIpv4Addr else none).map (appended (c :: rest)) := by
      rw [quad]
      split <;> rfl
    rw [readGroups, readGroups, dotted, group]
    cases (if 0 < remaining then (readSeparator ':' i text).bind readIpv4Addr else none) with
    | some result => rfl
    | none =>
      cases (readSeparator ':' i text).bind (readNumber 16 4 65535 true) with
      | none => rfl
      | some result =>
        simp only [Option.map_some, Option.map_none, appended]
        rw [ih (i + 1)]

theorem readIpv6Addr_append (foreign : Foreign c) :
    readIpv6Addr (text ++ c :: rest) = (readIpv6Addr text).map (appended (c :: rest)) := by
  unfold readIpv6Addr
  rw [readGroups_append foreign]
  generalize readGroups 8 0 text = front
  obtain ⟨head, dotted, behind⟩ := front
  dsimp only
  split
  · rfl
  · split
    · rfl
    · match behind with
      | [] =>
        rw [List.nil_append]
        split
        · next elided => exact absurd (List.cons.inj elided).1 foreign.2.2
        · rfl
      | [d] =>
        rw [List.cons_append, List.nil_append]
        split
        · next elided => exact absurd (List.cons.inj (List.cons.inj elided).2).1 foreign.2.2
        · split
          · next elided => cases (List.cons.inj elided).2
          · rfl
      | d :: e :: more =>
        by_cases elided : d = ':' ∧ e = ':'
        · obtain ⟨rfl, rfl⟩ := elided
          simp only [List.cons_append]
          rw [readGroups_append foreign]
          rfl
        · rw [List.cons_append, List.cons_append]
          split
          · simp_all
          · split
            · simp_all
            · rfl

/-- No address has a foreign letter in it. -/
theorem parseIpv6Addr_none (foreign : Foreign c) (member : c ∈ text) : parseIpv6Addr text = none := by
  obtain ⟨front, behind, rfl⟩ := List.append_of_mem member
  rw [parseIpv6Addr, wholeText, readIpv6Addr_append foreign]
  cases readIpv6Addr front with
  | none => rfl
  | some result => simp [appended]

theorem wholeText_some {α : Type} {read : List Char → Option (α × List Char)} {value : α}
    (parsed : wholeText read text = some value) : read text = some (value, []) := by
  unfold wholeText at parsed
  split at parsed
  · next found => rw [found, Option.some.inj parsed]
  · cases parsed

theorem readIpv6Addr_closed {ip : Ipv6Addr} (foreign : Foreign c) (parsed : parseIpv6Addr text = some ip) :
    readIpv6Addr (text ++ c :: rest) = some (ip, c :: rest) := by
  have read : readIpv6Addr text = some (ip, []) := wholeText_some parsed
  rw [readIpv6Addr_append foreign, read]
  rfl

theorem parseIpAddr_none (foreign : Foreign c) (member : c ∈ text) : parseIpAddr text = none := by
  obtain ⟨front, behind, rfl⟩ := List.append_of_mem member
  have noQuad : wholeText readIpv4Addr (front ++ c :: behind) = none := by
    rw [wholeText, readIpv4Addr_append foreign]
    cases readIpv4Addr front with
    | none => rfl
    | some result => simp [appended]
  rw [parseIpAddr, noQuad, parseIpv6Addr_none foreign member]
  rfl

/-! ## Socket addresses -/

theorem readNumber_keeps {radix maxDigits limit n : ℕ} {allowZeroPrefix : Bool} (other : toDigit radix c = none)
    (member : c ∈ text) (read : readNumber radix maxDigits limit allowZeroPrefix text = some (n, rest)) : c ∈ rest := by
  have split := List.takeWhile_append_dropWhile (p := fun ch => (toDigit radix ch).isSome) (l := text)
  have behind : c ∈ text.dropWhile fun ch => (toDigit radix ch).isSome := by
    rw [← split, List.mem_append] at member
    rcases member with digit | behind
    · have digit := List.mem_takeWhile_imp digit
      rw [other] at digit
      cases digit
    · exact behind
  unfold readNumber at read
  dsimp only at read
  rw [drop_takeWhile] at read
  repeat' split at read
  all_goals cases read
  exact behind

/-- The port of a socket address. -/
def readPort : List Char → Option (ℕ × List Char)
  | ':' :: rest => readNumber 10 rest.length 65535 true rest
  | _ => none

def readSocketV4 (text : List Char) : Option (SocketAddr × List Char) := do
  let (ip, rest) ← readIpv4Addr text
  let (port, rest) ← readPort rest
  return (⟨.v4 ip, UInt16.ofNat port⟩, rest)

def readSocketV6 : List Char → Option (SocketAddr × List Char)
  | '[' :: rest => do
    let (ip, rest) ← readIpv6Addr rest
    match dropScopeId rest with
    | ']' :: rest =>
      let (port, rest) ← readPort rest
      return (⟨.v6 ip, UInt16.ofNat port⟩, rest)
    | _ => none
  | _ => none

theorem parseSocketAddr_eq (text : List Char) :
    parseSocketAddr text = (wholeText readSocketV4 text).or (wholeText readSocketV6 text) := by
  unfold parseSocketAddr
  dsimp only
  split
  · next addr found =>
    have v4 : wholeText readSocketV4 text = some addr := found
    rw [v4]
    rfl
  · next missed =>
    have v4 : wholeText readSocketV4 text = none := missed
    rw [v4]
    rfl

/-- A letter that cannot be part of a host that is an address. -/
def Alien (c : Char) : Prop := Foreign c ∧ c ≠ '[' ∧ c ≠ ']' ∧ c ≠ '%'

instance (c : Char) : Decidable (Alien c) := inferInstanceAs (Decidable (_ ∧ _))

theorem readPort_keeps {port : ℕ} (foreign : Foreign c) (member : c ∈ text) (read : readPort text = some (port, rest)) :
    c ∈ rest := by
  unfold readPort at read
  split at read
  · next more =>
    rcases List.mem_cons.mp member with colon | behind
    · exact absurd colon foreign.2.2
    · exact readNumber_keeps foreign.decimal behind read
  · cases read

theorem dropScopeId_keeps (foreign : Foreign c) (scope : c ≠ '%') (member : c ∈ text) : c ∈ dropScopeId text := by
  unfold dropScopeId
  split
  · next more =>
    have behind : c ∈ more := (List.mem_cons.mp member).resolve_left scope
    split
    · next read => exact readNumber_keeps foreign.decimal behind read
    · exact member
  · exact member

theorem readIpv6Addr_keeps {ip : Ipv6Addr} (foreign : Foreign c) (member : c ∈ text)
    (read : readIpv6Addr text = some (ip, rest)) : c ∈ rest := by
  obtain ⟨front, behind, rfl⟩ := List.append_of_mem member
  rw [readIpv6Addr_append foreign, Option.map_eq_some_iff] at read
  obtain ⟨result, -, whole⟩ := read
  rw [← (Prod.mk.inj whole).2]
  simp

theorem readIpv4Addr_keeps {ip : Ipv4Addr} (foreign : Foreign c) (member : c ∈ text)
    (read : readIpv4Addr text = some (ip, rest)) : c ∈ rest := by
  obtain ⟨front, behind, rfl⟩ := List.append_of_mem member
  rw [readIpv4Addr_append foreign, Option.map_eq_some_iff] at read
  obtain ⟨result, -, whole⟩ := read
  rw [← (Prod.mk.inj whole).2]
  simp

/-- What a reader leaves behind is not the whole text. -/
theorem wholeText_keeps {α : Type} {read : List Char → Option (α × List Char)}
    (keeps : ∀ value rest, read text = some (value, rest) → c ∈ rest) : wholeText read text = none := by
  unfold wholeText
  split
  · next value found => exact absurd (keeps value [] found) List.not_mem_nil
  · rfl

/-- A socket address has no alien letters. -/
theorem parseSocketAddr_none (alien : Alien c) (member : c ∈ text) : parseSocketAddr text = none := by
  obtain ⟨foreign, bracket, close, scope⟩ := alien
  have noV4 : wholeText readSocketV4 text = none := by
    refine wholeText_keeps (c := c) fun value rest read => ?_
    unfold readSocketV4 at read
    simp only [Option.bind_eq_bind, Option.bind_eq_some_iff] at read
    obtain ⟨⟨ip, left⟩, quad, ⟨port, behind⟩, number, whole⟩ := read
    rw [← (Prod.mk.inj (Option.some.inj whole)).2]
    exact readPort_keeps foreign (readIpv4Addr_keeps foreign member quad) number
  have noV6 : wholeText readSocketV6 text = none := by
    refine wholeText_keeps (c := c) fun value rest read => ?_
    unfold readSocketV6 at read
    split at read
    · next more =>
      have inside : c ∈ more := (List.mem_cons.mp member).resolve_left bracket
      simp only [Option.bind_eq_bind, Option.bind_eq_some_iff] at read
      obtain ⟨⟨ip, left⟩, groups, further⟩ := read
      have unscoped := dropScopeId_keeps foreign scope (readIpv6Addr_keeps foreign inside groups)
      dsimp only at further
      split at further
      · next behind closed =>
        rw [closed] at unscoped
        simp only [Option.bind_eq_some_iff] at further
        obtain ⟨⟨port, after⟩, number, whole⟩ := further
        rw [← (Prod.mk.inj (Option.some.inj whole)).2]
        exact readPort_keeps foreign ((List.mem_cons.mp unscoped).resolve_left close) number
      · cases further
    · cases read
  rw [parseSocketAddr_eq, noV4, noV6]
  rfl

/-! ## Addresses in a host -/

theorem readIpv6Addr_quad {ip : Ipv4Addr} (quad : readIpv4Addr text = some (ip, rest)) : readIpv6Addr text = none := by
  have dotted : readGroups 8 0 text =
      ([ip.a.toNat * 256 + ip.b.toNat, ip.c.toNat * 256 + ip.d.toNat], true, rest) := by
    rw [readGroups]
    simp [readSeparator, quad]
  rw [readIpv6Addr, dotted]
  simp

theorem readSocketV6_bracket (first : text.head? ≠ some '[') : readSocketV6 text = none := by
  unfold readSocketV6
  split
  · exact absurd rfl first
  · rfl

theorem head_of_quad {ip : Ipv4Addr} (quad : readIpv4Addr text = some (ip, rest)) : text.head? ≠ some '[' := by
  intro first
  cases text with
  | nil => cases first
  | cons d more =>
    obtain rfl : d = '[' := by simpa using first
    rw [readIpv4Addr_none (stops_cons (by decide) more)] at quad
    cases quad

/-- A dotted quad and a port, whichever the quad is. -/
theorem parseSocketAddr_quad (ip : Ipv4Addr) (stops : Stops 10 rest) :
    parseSocketAddr (ip.display.toList ++ rest) =
      (wholeText readPort rest).map fun port => ⟨.v4 ip, UInt16.ofNat port⟩ := by
  have quad := readIpv4Addr_display ip stops
  have noV6 := wholeText_none (readSocketV6_bracket (head_of_quad quad))
  rw [parseSocketAddr_eq, noV6, Option.or_none]
  unfold wholeText readSocketV4
  simp only [quad, Option.bind_eq_bind, Option.bind_some]
  cases readPort rest with
  | none => rfl
  | some result =>
    obtain ⟨port, left⟩ := result
    cases left <;> rfl

theorem foreign_close : Foreign ']' := by decide

/-- An IPv6 address in brackets and a port, whichever the address is. -/
theorem parseSocketAddr_bracketed {ip : Ipv6Addr} (parsed : parseIpv6Addr text = some ip) :
    parseSocketAddr ('[' :: (text ++ ']' :: rest)) =
      (wholeText readPort rest).map fun port => ⟨.v6 ip, UInt16.ofNat port⟩ := by
  have groups : readIpv6Addr (text ++ ']' :: rest) = some (ip, ']' :: rest) := readIpv6Addr_closed foreign_close parsed
  have unscoped : dropScopeId (']' :: rest) = ']' :: rest := by
    unfold dropScopeId
    split
    · next scope => cases (List.cons.inj scope).1
    · rfl
  have noV4 : wholeText readSocketV4 ('[' :: (text ++ ']' :: rest)) = none := by
    apply wholeText_none
    rw [readSocketV4, readIpv4Addr_none (stops_cons (by decide) _)]
    rfl
  rw [parseSocketAddr_eq, noV4, Option.none_or]
  unfold wholeText readSocketV6
  simp only [groups, Option.bind_eq_bind, Option.bind_some, unscoped]
  cases readPort rest with
  | none => rfl
  | some result =>
    obtain ⟨port, left⟩ := result
    cases left <;> rfl

theorem readIpv4Addr_of_ipv6 {ip : Ipv6Addr} (parsed : parseIpv6Addr text = some ip) : readIpv4Addr text = none := by
  cases quad : readIpv4Addr text with
  | none => rfl
  | some result =>
    rw [parseIpv6Addr, wholeText_none (readIpv6Addr_quad quad)] at parsed
    cases parsed

/-- A bare IPv6 address has no port. -/
theorem parseSocketAddr_bare {ip : Ipv6Addr} (parsed : parseIpv6Addr text = some ip) : parseSocketAddr text = none := by
  have unbracketed : text.head? ≠ some '[' := by
    intro first
    have member : '[' ∈ text := List.mem_of_mem_head? first
    rw [parseIpv6Addr_none (by decide) member] at parsed
    cases parsed
  have noV4 : readSocketV4 text = none := by
    rw [readSocketV4, readIpv4Addr_of_ipv6 parsed]
    rfl
  rw [parseSocketAddr_eq, wholeText_none noV4, wholeText_none (readSocketV6_bracket unbracketed)]
  rfl

theorem parseIpAddr_bare {ip : Ipv6Addr} (parsed : parseIpv6Addr text = some ip) :
    parseIpAddr text = some (.v6 ip) := by
  rw [parseIpAddr, wholeText_none (readIpv4Addr_of_ipv6 parsed), parsed]
  rfl

/-- Behind a dotted quad an address cannot go on. -/
theorem parseIpAddr_quad (ip : Ipv4Addr) (stops : Stops 10 rest) :
    parseIpAddr (ip.display.toList ++ rest) = if rest = [] then some (.v4 ip) else none := by
  have quad := readIpv4Addr_display ip stops
  have noV6 : parseIpv6Addr (ip.display.toList ++ rest) = none := wholeText_none (readIpv6Addr_quad quad)
  rw [parseIpAddr, noV6, wholeText, quad]
  cases rest <;> rfl

theorem parseIpAddr_bracket (rest : List Char) : parseIpAddr ('[' :: rest) = none :=
  parseIpAddr_none (c := '[') (by decide) (List.mem_cons_self ..)

end Sipmon.Guarantees.AddressEnds
