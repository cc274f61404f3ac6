import Sipmon.Guarantees.AddressEnds
import Sipmon.Guarantees.MaskedText

/-!
# The addresses `mask_ips` finds

The scan finds dotted quads and IPv6 addresses in brackets. A letter that no address has
keeps what stands in front of it apart from what stands behind it.
-/
namespace Sipmon.Guarantees.AddressScan
open Lib.Scan Lib.Digits Source Text Masking AddressText AddressEnds Attributes MaskedText TextLines

variable {c : Char} {text rest : Chars}

theorem maskIpsFrom_drop (k : ℕ) (text : Chars) : maskIpsFrom k text = maskIps (text.drop k) := by
  induction text generalizing k with
  | nil => cases k <;> rfl
  | cons c rest ih =>
    cases k with
    | zero => rfl
    | succ k => exact ih k

theorem ips_letter (nothing : addressAt (c :: rest) = none) : maskIps (c :: rest) = c :: maskIps rest := by
  rw [maskIps, maskIpsFrom, nothing]
  rfl

theorem isDigit_eq (d : Char) : d.isDigit = (toDigit 10 d).isSome := by
  rw [Bool.eq_iff_iff, digit_range]
  unfold toDigit
  dsimp only
  repeat' split
  all_goals simp
  all_goals omega

/-! ## The length of a dotted quad -/

theorem ipv4LenFrom_bounds {parts i len : ℕ} (found : ipv4LenFrom parts i text = some len) :
    (0 < parts → i + 2 * parts ≤ len + 1) ∧ len ≤ i + text.length := by
  induction parts generalizing i text with
  | zero =>
    cases found
    exact ⟨fun positive => absurd positive (by decide), Nat.le_add_right ..⟩
  | succ parts ih =>
    have short := (List.takeWhile_prefix Char.isDigit (l := text)).length_le
    rw [ipv4LenFrom] at found
    split at found
    · cases found
    · next shaped =>
      have some_ : 0 < (text.takeWhile Char.isDigit).length := by
        rw [List.length_pos_iff]
        rintro none_
        simp [none_] at shaped
      split at found
      · cases found
      · split at found
        · cases found
          exact ⟨fun _ => by omega, by omega⟩
        · split at found
          · next more dotted =>
            have length := congrArg List.length dotted
            rw [List.length_drop, List.length_cons] at length
            obtain ⟨lower, upper⟩ := ih found
            exact ⟨fun _ => by omega, by omega⟩
          · cases found

theorem ipv4LenFrom_append {parts i : ℕ} (digit : c.isDigit = false) (dot : c ≠ '.') :
    ipv4LenFrom parts i (text ++ c :: rest) = ipv4LenFrom parts i text := by
  induction parts generalizing i text with
  | zero => rfl
  | succ parts ih =>
    have short := (List.takeWhile_prefix Char.isDigit (l := text)).length_le
    rw [ipv4LenFrom, ipv4LenFrom, takeWhile_cut digit, List.drop_append_of_le_length short]
    refine if_congr Iff.rfl rfl (if_congr Iff.rfl rfl (if_congr Iff.rfl rfl ?_))
    cases text.drop (text.takeWhile Char.isDigit).length with
    | nil =>
      rw [List.nil_append]
      split
      · next more same => exact absurd (List.cons.inj same).1 dot
      · rfl
    | cons d more =>
      by_cases isDot : d = '.'
      · subst isDot
        exact ih
      · rw [List.cons_append]
        split
        · next same => exact absurd (List.cons.inj same).1 isDot
        · split
          · next same => exact absurd (List.cons.inj same).1 isDot
          · rfl

/-! ## One address -/

theorem quadAt_bounds {ip : Ipv4Addr} {len : ℕ} (found : quadAt text = some (ip, len)) :
    ipv4Len text = some len ∧ 7 ≤ len ∧ len ≤ text.length := by
  unfold quadAt at found
  split at found
  · simp only [Option.bind_eq_bind, Option.bind_eq_some_iff] at found
    obtain ⟨n, measured, ip', -, whole⟩ := found
    obtain ⟨rfl, rfl⟩ := Prod.mk.inj (Option.some.inj whole)
    obtain ⟨lower, upper⟩ := ipv4LenFrom_bounds measured
    have long := lower (by decide)
    exact ⟨measured, by omega, by omega⟩
  · cases found

theorem bracketedAt_bounds {ip : Ipv6Addr} {len : ℕ} (found : bracketedAt text = some (ip, len)) :
    0 < len ∧ len ≤ text.length := by
  unfold bracketedAt at found
  split at found
  · next more =>
    simp only [Option.bind_eq_bind, Option.bind_eq_some_iff] at found
    obtain ⟨⟨inner, after⟩, cut, ip', -, whole⟩ := found
    obtain ⟨rfl, rfl⟩ := Prod.mk.inj (Option.some.inj whole)
    obtain ⟨rfl, -⟩ := splitOnce_shape cut
    exact ⟨by omega, by simp⟩
  · cases found

theorem addressAt_bounds {ip : IpAddr} {len : ℕ} (found : addressAt text = some (ip, len)) :
    0 < len ∧ len ≤ text.length := by
  rw [addressAt, Option.or_eq_some_iff] at found
  rcases found with bracketed | ⟨-, quad⟩
  · obtain ⟨⟨ip', len'⟩, found, whole⟩ := Option.map_eq_some_iff.mp bracketed
    obtain ⟨-, rfl⟩ := Prod.mk.inj whole
    exact bracketedAt_bounds found
  · obtain ⟨⟨ip', len'⟩, found, whole⟩ := Option.map_eq_some_iff.mp quad
    obtain ⟨-, rfl⟩ := Prod.mk.inj whole
    obtain ⟨-, long, within⟩ := quadAt_bounds found
    exact ⟨by omega, within⟩

theorem alien_digit (alien : Alien c) : c.isDigit = false := by
  rw [isDigit_eq, alien.1.decimal]
  rfl

theorem quadAt_append (alien : Alien c) (rest : Chars) : quadAt (text ++ c :: rest) = quadAt text := by
  have measured : ipv4Len (text ++ c :: rest) = ipv4Len text :=
    ipv4LenFrom_append (alien_digit alien) alien.1.2.1
  cases text with
  | nil => simp [quadAt, alien_digit alien]
  | cons d text =>
    unfold quadAt
    rw [measured]
    refine if_congr Iff.rfl ?_ rfl
    cases len : ipv4Len (d :: text) with
    | none => rfl
    | some n =>
      have short := (ipv4LenFrom_bounds len).2
      simp only [Option.bind_eq_bind, Option.bind_some]
      rw [List.take_append_of_le_length (by omega)]

theorem bracketedAt_bracket (rest : Chars) : bracketedAt ('[' :: rest) =
    (splitOnce ']' rest).bind fun cut => (parseIpv6Addr cut.1).map fun ip => (ip, cut.1.length + 2) := by
  have same : bracketedAt ('[' :: rest) = (splitOnce ']' rest).bind fun cut =>
      (parseIpv6Addr cut.1).bind fun ip => some (ip, cut.1.length + 2) := rfl
  rw [same]
  refine congrArg _ (funext fun cut => ?_)
  cases parseIpv6Addr cut.1 <;> rfl

theorem bracketedAt_other {d : Char} (other : d ≠ '[') (rest : Chars) : bracketedAt (d :: rest) = none := by
  unfold bracketedAt
  split
  · next same => exact absurd (List.cons.inj same).1 other
  · rfl

/-- A text in brackets that the letter is part of is no address. -/
theorem bracketedAt_append (alien : Alien c) (rest : Chars) : bracketedAt (text ++ c :: rest) = bracketedAt text := by
  cases text with
  | nil => exact bracketedAt_other alien.2.1 rest
  | cons d text =>
    by_cases bracket : d = '['
    · subst bracket
      rw [List.cons_append, bracketedAt_bracket, bracketedAt_bracket]
      rcases cut_cases ']' text with plain | ⟨inner, after, rfl, plain⟩
      · rw [splitOnce_none plain]
        cases cut : splitOnce ']' (text ++ c :: rest) with
        | none => rfl
        | some pieces =>
          obtain ⟨inner, after⟩ := pieces
          obtain ⟨shape, others⟩ := splitOnce_shape cut
          have member : c ∈ inner := mem_of_cut shape plain alien.2.2.1
          simp [parseIpv6Addr_none alien.1 member]
      · rw [splitOnce_cut plain, List.append_assoc, List.cons_append, splitOnce_cut plain]
        rfl
    · rw [List.cons_append, bracketedAt_other bracket, bracketedAt_other bracket]

theorem addressAt_append (alien : Alien c) (rest : Chars) : addressAt (text ++ c :: rest) = addressAt text := by
  rw [addressAt, addressAt, quadAt_append alien, bracketedAt_append alien]

theorem ips_address {ip : IpAddr} {len : ℕ} (found : addressAt text = some (ip, len)) :
    maskIps text = maskIp ip ++ maskPort (text.drop len) ++
      maskIps (text.drop (len + (maskPort (text.drop len)).length)) := by
  obtain ⟨positive, within⟩ := addressAt_bounds found
  cases text with
  | nil => simp at within; omega
  | cons d text =>
    obtain ⟨k, rfl⟩ : ∃ k, len = k + 1 := ⟨len - 1, by omega⟩
    have jump : k + 1 + (maskPort ((d :: text).drop (k + 1))).length - 1 =
        k + (maskPort ((d :: text).drop (k + 1))).length := by omega
    rw [maskIps, maskIpsFrom, found]
    dsimp only
    rw [maskIpsFrom_drop, jump, Nat.add_right_comm, List.drop_succ_cons, List.drop_succ_cons]

/-! ## The whole scan -/

theorem maskPort_append (alien : Alien c) (rest : Chars) : maskPort (text ++ c :: rest) = maskPort text := by
  have digit := alien_digit alien
  cases text with
  | nil =>
    rw [List.nil_append]
    unfold maskPort
    split
    · next same => exact absurd (List.cons.inj same).1 alien.1.2.2
    · rfl
  | cons d text =>
    by_cases colon : d = ':'
    · subst colon
      have first : (text ++ c :: rest).head?.any Char.isDigit = text.head?.any Char.isDigit := by
        cases text <;> simp [digit]
      rw [List.cons_append, maskPort, maskPort, first, takeWhile_cut digit]
    · have neither : ∀ more, maskPort (d :: more) = [] := by
        intro more
        unfold maskPort
        split
        · next same => exact absurd (List.cons.inj same).1 colon
        · rfl
      rw [List.cons_append, neither, neither]

theorem maskPort_length (text : Chars) : (maskPort text).length ≤ text.length := by
  unfold maskPort
  split
  · next rest =>
    have short := (List.takeWhile_prefix Char.isDigit (l := rest)).length_le
    split
    · simpa using short
    · simp
  · simp

/-- An alien letter keeps the text in front of it apart from the text behind it. -/
theorem ips_append (alien : Alien c) (text rest : Chars) :
    maskIps (text ++ c :: rest) = maskIps text ++ c :: maskIps rest := by
  induction size : text.length using Nat.strongRecOn generalizing text with
  | ind n ih =>
    subst size
    have same : addressAt (text ++ c :: rest) = addressAt text := addressAt_append alien rest
    cases text with
    | nil =>
      rw [List.nil_append] at same ⊢
      rw [ips_letter same]
      rfl
    | cons d text =>
      cases found : addressAt (d :: text) with
      | none =>
        rw [found] at same
        rw [List.cons_append] at same ⊢
        rw [ips_letter same, ips_letter found, ih text.length (by simp) text rfl]
        rfl
      | some address =>
        obtain ⟨ip, len⟩ := address
        rw [found] at same
        obtain ⟨positive, within⟩ := addressAt_bounds found
        have port := maskPort_length ((d :: text).drop len)
        rw [List.length_drop] at port
        have behind := ih _ (by rw [List.length_drop]; omega)
          ((d :: text).drop (len + (maskPort ((d :: text).drop len)).length)) rfl
        rw [ips_address same, ips_address found, List.drop_append_of_le_length within, maskPort_append alien,
          List.drop_append_of_le_length (by omega), behind]
        simp

theorem ips_colon (rest : Chars) : maskIps (':' :: rest) = ':' :: maskIps rest := by
  refine ips_letter ?_
  rw [addressAt, bracketedAt_other (by decide)]
  simp [quadAt]

/-! ## The literals -/

theorem digits_decimal (n : ℕ) : ∀ d ∈ Nat.toDigits 10 n, d.isDigit = true := by
  intro d member
  obtain ⟨v, small, rfl⟩ := mem_toDigits (by decide) n member
  have all : ∀ v < 10, v.digitChar.isDigit = true := by decide
  exact all v small

theorem octet_value (n : ℕ) : (Nat.toDigits 10 n).foldl (fun acc d => acc * 10 + (d.toNat - '0'.toNat)) 0 = n :=
  foldl_toDigits (by decide) (by decide) n

/-- One part of a dotted quad. -/
theorem ipv4LenFrom_octet (n : UInt8) {parts i : ℕ} (stops : Stops 10 rest) :
    ipv4LenFrom (parts + 1) i (Nat.toDigits 10 n.toNat ++ rest) =
      if parts = 0 then some (i + (Nat.toDigits 10 n.toNat).length)
      else (stripPrefix ['.'] rest).bind (ipv4LenFrom parts (i + (Nat.toDigits 10 n.toNat).length + 1)) := by
  have bound := n.toNat_lt
  have short : (Nat.toDigits 10 n.toNat).length ≤ 3 :=
    (Nat.length_toDigits_le_iff (by decide) (by decide)).mpr (by omega)
  have nonempty : (Nat.toDigits 10 n.toNat).isEmpty = false :=
    List.isEmpty_eq_false_iff.mpr Nat.toDigits_ne_nil
  have ends : rest.takeWhile Char.isDigit = [] := by
    cases rest with
    | nil => rfl
    | cons d rest => simp [isDigit_eq, stops d rfl]
  have digits : (Nat.toDigits 10 n.toNat ++ rest).takeWhile Char.isDigit = Nat.toDigits 10 n.toNat := by
    rw [List.takeWhile_append_of_pos (digits_decimal n.toNat), ends, List.append_nil]
  have leading : ¬ (1 < (Nat.toDigits 10 n.toNat).length ∧ (Nat.toDigits 10 n.toNat).head? = some '0') := by
    rintro ⟨several, zero⟩
    have none_ := head_toDigits (by decide) base_ten.zero n.toNat zero
    simp [none_] at several
  have small : ¬ 255 < n.toNat := by omega
  rw [ipv4LenFrom, digits, octet_value, List.drop_left]
  simp only [nonempty, Bool.false_or, Bool.or_eq_true, decide_eq_true_eq, Bool.and_eq_true, beq_iff_eq,
    Nat.not_lt.mpr short, leading, or_self, if_false, small]
  refine if_congr Iff.rfl rfl ?_
  split
  · simp [stripPrefix]
  · next other =>
    cases rest with
    | nil => rfl
    | cons d rest =>
      have apart : d ≠ '.' := fun same => other rest (by rw [same])
      simp [stripPrefix, apart.symm]

theorem ipv4Len_display (ip : Ipv4Addr) (stops : Stops 10 rest) :
    ipv4Len (ip.display.toList ++ rest) = some ip.display.toList.length := by
  rw [ipv4Len, toList_ipv4]
  simp only [List.append_assoc, List.cons_append]
  have dotted : ∀ more : Chars, stripPrefix ['.'] ('.' :: more) = some more := fun more => by simp [stripPrefix]
  rw [ipv4LenFrom_octet ip.a (stops_dot _), if_neg (by decide), dotted, Option.bind_some,
    ipv4LenFrom_octet ip.b (stops_dot _), if_neg (by decide), dotted, Option.bind_some,
    ipv4LenFrom_octet ip.c (stops_dot _), if_neg (by decide), dotted, Option.bind_some,
    ipv4LenFrom_octet ip.d stops, if_pos rfl]
  simp only [List.length_append, List.length_cons, Option.some.injEq]
  omega

theorem parseIpv4Addr_display (ip : Ipv4Addr) : parseIpv4Addr ip.display.toList = some ip := by
  have read := readIpv4Addr_display ip (stops_nil 10)
  rw [List.append_nil] at read
  have short : ∀ n : UInt8, (Nat.toDigits 10 n.toNat).length ≤ 3 := fun n => by
    have bound := n.toNat_lt
    exact (Nat.length_toDigits_le_iff (by decide) (by decide)).mpr (by omega)
  have fits : ¬ 15 < ip.display.toList.length := by
    have a := short ip.a
    have b := short ip.b
    have c := short ip.c
    have d := short ip.d
    rw [toList_ipv4]
    simp only [List.length_append, List.length_cons]
    omega
  rw [parseIpv4Addr, if_neg fits, wholeText_read read]

/-- A dotted quad is masked, whatever follows it but another digit. -/
theorem ips_quad (ip : Ipv4Addr) (stops : Stops 10 rest) :
    maskIps (ip.display.toList ++ rest) =
      maskIp (.v4 ip) ++ maskPort rest ++ maskIps (rest.drop (maskPort rest).length) := by
  obtain ⟨d, more, first⟩ : ∃ d more, Nat.toDigits 10 ip.a.toNat = d :: more :=
    List.exists_cons_of_ne_nil Nat.toDigits_ne_nil
  have digit : d.isDigit = true := digits_decimal _ d (by rw [first]; exact List.mem_cons_self ..)
  obtain ⟨tail, shape⟩ : ∃ tail, ip.display.toList ++ rest = d :: tail := ⟨_, by rw [toList_ipv4, first]; rfl⟩
  have quad : quadAt (ip.display.toList ++ rest) = some (ip, ip.display.toList.length) := by
    rw [quadAt, if_pos (by simpa [shape] using digit), ipv4Len_display ip stops, Option.bind_eq_bind, Option.bind_some, List.take_left,
      parseIpv4Addr_display]
    rfl
  have unbracketed : bracketedAt (ip.display.toList ++ rest) = none := by
    rw [shape]
    refine bracketedAt_other ?_ tail
    rintro rfl
    exact absurd digit (by decide)
  have found : addressAt (ip.display.toList ++ rest) = some (.v4 ip, ip.display.toList.length) := by
    rw [addressAt, unbracketed, quad]
    rfl
  rw [ips_address found, ← List.drop_drop, List.drop_left]

/-- An IPv6 address in brackets is masked, whatever follows it. -/
theorem ips_bracketed {ip : Ipv6Addr} (parsed : parseIpv6Addr text = some ip) (rest : Chars) :
    maskIps ('[' :: (text ++ ']' :: rest)) =
      maskIp (.v6 ip) ++ maskPort rest ++ maskIps (rest.drop (maskPort rest).length) := by
  have plain : ']' ∉ text := by
    intro member
    rw [parseIpv6Addr_none foreign_close member] at parsed
    cases parsed
  have found : addressAt ('[' :: (text ++ ']' :: rest)) = some (.v6 ip, text.length + 2) := by
    rw [addressAt, bracketedAt_bracket, splitOnce_cut plain, Option.bind_some, parsed]
    rfl
  have behind : ('[' :: (text ++ ']' :: rest)).drop (text.length + 2) = rest := by
    rw [List.drop_succ_cons, ← List.drop_drop, List.drop_left]
    rfl
  rw [ips_address found, behind, ← List.drop_drop, behind]

theorem ipv4Len_undotted (undotted : ∀ d ∈ (text.dropWhile Char.isDigit).head?, d ≠ '.') : ipv4Len text = none := by
  rw [ipv4Len, ipv4LenFrom, drop_takeWhile]
  split
  · rfl
  · split
    · rfl
    · split
      · next none_ => cases none_
      · split
        · next more dotted => exact absurd rfl (undotted '.' (by rw [dotted]; rfl))
        · rfl

/-- Groups without brackets are copied. -/
theorem ips_bare (groups : ∀ d ∈ text, d ≠ '[' ∧ d ≠ '.') (ends : ∀ d ∈ rest.head?, d.isDigit = false ∧ d ≠ '.') :
    maskIps (text ++ rest) = text ++ maskIps rest := by
  have undotted : ∀ t : Chars, (∀ d ∈ t, d ≠ '.') → ∀ d ∈ ((t ++ rest).dropWhile Char.isDigit).head?, d ≠ '.' := by
    intro t plain
    induction t with
    | nil =>
      rw [List.nil_append, dropWhile_stops fun d first => (ends d first).1]
      exact fun d first => (ends d first).2
    | cons e t ih =>
      rw [List.cons_append, List.dropWhile_cons]
      split
      · exact ih fun d member => plain d (List.mem_cons_of_mem e member)
      · intro d first
        obtain rfl : e = d := by simpa using first
        exact plain e (List.mem_cons_self ..)
  induction text with
  | nil => rfl
  | cons d text ih =>
    have noDots : ∀ e ∈ d :: text, e ≠ '.' := fun e member => (groups e member).2
    have nothing : addressAt (d :: (text ++ rest)) = none := by
      have noQuad : quadAt (d :: (text ++ rest)) = none := by
        rw [quadAt, ← List.cons_append, ipv4Len_undotted (undotted (d :: text) noDots)]
        split <;> rfl
      rw [addressAt, bracketedAt_other (groups d (List.mem_cons_self ..)).1, noQuad]
      rfl
    rw [List.cons_append, ips_letter nothing, ih fun e member => groups e (List.mem_cons_of_mem d member)]
    rfl

/-! ## Short texts -/

/-- A reader that has come from `text` to `rest` has passed `k` letters at least. -/
def Passes (k : ℕ) (text rest : Chars) : Prop := rest <:+ text ∧ rest.length + k ≤ text.length

theorem Passes.trans {k l : ℕ} {middle : Chars} (first : Passes k text middle) (second : Passes l middle rest) :
    Passes (k + l) text rest := by
  have passed := first.2
  have more := second.2
  exact ⟨second.1.trans first.1, by omega⟩

theorem readNumber_passes {radix maxDigits limit n : ℕ} {allowZeroPrefix : Bool}
    (read : readNumber radix maxDigits limit allowZeroPrefix text = some (n, rest)) : Passes 1 text rest := by
  have short := (List.takeWhile_prefix (fun ch => (toDigit radix ch).isSome) (l := text)).length_le
  unfold readNumber at read
  dsimp only at read
  split at read
  · cases read
  · next shaped =>
    have positive : 0 < (text.takeWhile fun ch => (toDigit radix ch).isSome).length := by
      rw [List.length_pos_iff]
      rintro none_
      simp [none_] at shaped
    repeat' split at read
    all_goals cases read
    refine ⟨List.drop_suffix .., ?_⟩
    rw [List.length_drop]
    omega

theorem readSeparator_passes {sep : Char} {i : ℕ} (read : readSeparator sep i text = some rest) : Passes 0 text rest := by
  unfold readSeparator at read
  repeat' split at read
  all_goals cases read
  · exact ⟨List.suffix_refl _, le_rfl⟩
  · exact ⟨List.suffix_cons .., by simp⟩

theorem readIpv4Addr_passes {ip : Ipv4Addr} (read : readIpv4Addr text = some (ip, rest)) : Passes 2 text rest := by
  unfold readIpv4Addr at read
  simp only [Option.bind_eq_bind, Option.bind_eq_some_iff] at read
  obtain ⟨⟨a, t₁⟩, a_, t₂, dot₁, ⟨b, t₃⟩, b_, t₄, dot₂, ⟨c, t₅⟩, c_, t₆, dot₃, ⟨d, t₇⟩, d_, whole⟩ := read
  obtain rfl : t₇ = rest := (Prod.mk.inj (Option.some.inj whole)).2
  dsimp only at b_ c_ d_ dot₁ dot₂ dot₃
  have toSecond := (readNumber_passes a_).trans (readSeparator_passes dot₁)
  have toThird := (readNumber_passes b_).trans (readSeparator_passes dot₂)
  have toFourth := (readNumber_passes c_).trans (readSeparator_passes dot₃)
  have all := ((toSecond.trans toThird).trans toFourth).trans (readNumber_passes d_)
  have passed : t₇.length + (1 + 0 + (1 + 0) + (1 + 0) + 1) ≤ text.length := all.2
  exact ⟨all.1, by omega⟩

/-- A group takes a digit at least. -/
theorem readGroups_passes (remaining i : ℕ) (text : Chars) :
    Passes (readGroups remaining i text).1.length text (readGroups remaining i text).2.2 := by
  induction remaining generalizing i text with
  | zero => exact ⟨List.suffix_refl _, by simp [readGroups]⟩
  | succ remaining ih =>
    rw [readGroups]
    dsimp only
    split
    · next ip rest dotted =>
      split at dotted
      · obtain ⟨behind, separated, quad⟩ := Option.bind_eq_some_iff.mp dotted
        simpa using (readSeparator_passes separated).trans (readIpv4Addr_passes quad)
      · cases dotted
    · split
      · next g rest group =>
        obtain ⟨behind, separated, number⟩ := Option.bind_eq_some_iff.mp group
        have all := ((readSeparator_passes separated).trans (readNumber_passes number)).trans (ih (i + 1) rest)
        rw [Nat.zero_add, Nat.add_comm] at all
        exact all
      · exact ⟨List.suffix_refl _, by simp⟩

/-- The shortest IPv6 address is two colons. -/
theorem parseIpv6Addr_short {ip : Ipv6Addr} (short : text.length ≤ 2) (parsed : parseIpv6Addr text = some ip) :
    text = "::".toList := by
  have read : readIpv6Addr text = some (ip, []) := wholeText_some parsed
  obtain ⟨suffix, passed⟩ := readGroups_passes 8 0 text
  unfold readIpv6Addr at read
  dsimp only at read
  split at read
  · omega
  · split at read
    · cases read
    · split at read
      · next more elided =>
        rw [elided] at suffix passed
        simp only [List.length_cons] at passed
        have whole := suffix.eq_of_length_le (by simp only [List.length_cons]; omega)
        have nothing : more = [] := List.length_eq_zero_iff.mp (by omega)
        rw [← whole, nothing]
        rfl
      · cases read

theorem addressAt_short (short : text.length ≤ 4) : addressAt text = none ∨ text = "[::]".toList := by
  have noQuad : quadAt text = none := by
    cases found : quadAt text with
    | none => rfl
    | some quad =>
      obtain ⟨ip, len⟩ := quad
      obtain ⟨-, long, within⟩ := quadAt_bounds found
      omega
  cases found : bracketedAt text with
  | none => exact .inl (by rw [addressAt, found, noQuad]; rfl)
  | some bracketed =>
    right
    cases text with
    | nil => cases found
    | cons d text =>
      obtain rfl : d = '[' := by
        by_contra other
        rw [bracketedAt_other other] at found
        cases found
      rw [bracketedAt_bracket, Option.bind_eq_some_iff] at found
      obtain ⟨⟨inner, behind⟩, cut, further⟩ := found
      obtain ⟨ip, parsed, -⟩ := Option.map_eq_some_iff.mp further
      obtain ⟨rfl, -⟩ := splitOnce_shape cut
      simp only [List.length_cons, List.length_append] at short
      have few : inner.length ≤ 2 := by omega
      obtain rfl := parseIpv6Addr_short few parsed
      have nothing : behind = [] := List.length_eq_zero_iff.mp (by simp at short; omega)
      rw [nothing]
      rfl

/-- In a text of up to four letters only the shortest address is masked. -/
theorem ips_short (short : text.length ≤ 4) : maskIps text = text ∨ text = "[::]".toList := by
  rcases addressAt_short short with nothing | brackets
  · cases text with
    | nil => exact .inl rfl
    | cons d text =>
      left
      rw [ips_letter nothing]
      induction text generalizing d with
      | nil => rfl
      | cons e text ih =>
        have fewer : (e :: text).length ≤ 3 := by
          simp only [List.length_cons] at short ⊢
          omega
        have nothing' : addressAt (e :: text) = none := by
          rcases addressAt_short (le_trans fewer (by decide)) with nothing' | brackets
          · exact nothing'
          · rw [brackets] at fewer
            exact absurd fewer (by decide)
        rw [ips_letter nothing', ih e (le_trans fewer (by decide)) nothing']
  · exact .inr brackets

theorem ips_short_inj {other : Chars} (short : text.length ≤ 4) (length : other.length = text.length)
    (same : maskIps other = maskIps text) : other = text := by
  have brackets : maskIps "[::]".toList = "0:…:0".toList := by decide +kernel
  rcases ips_short short with plain | whole <;> rcases ips_short (length ▸ short) with plain' | whole'
  · rw [← plain, ← plain', same]
  · rw [whole', brackets, plain] at same
    rw [← same] at short
    exact absurd short (by decide)
  · rw [whole, brackets, plain'] at same
    rw [← length, same] at short
    exact absurd short (by decide)
  · rw [whole, whole']

end Sipmon.Guarantees.AddressScan
