import Sipmon.Lib.Digits
import Sipmon.Source.Packet

/-!
# Addresses as text

What is displayed of an address parses back to it: dotted quads, IPv6 with its
first longest zero run elided, mapped addresses, and both with a port.
-/
namespace Sipmon.Guarantees.AddressText
open Lib.Digits Source

/-! ## Numbers -/

/-- The text does not go on with a digit. -/
def Stops (radix : Nat) (rest : List Char) : Prop := ∀ ch ∈ rest.head?, toDigit radix ch = none

theorem stops_nil (radix : Nat) : Stops radix [] := by
  intro ch present
  cases present

theorem stops_cons {radix : Nat} {ch : Char} (other : toDigit radix ch = none) (rest : List Char) :
    Stops radix (ch :: rest) := by
  intro c present
  rw [List.head?_cons, Option.mem_some_iff] at present
  rw [← present, other]

/-- The two radices of addresses. -/
structure Base (radix : Nat) : Prop where
  large : 1 < radix
  reads : ∀ d < radix, toDigit radix d.digitChar = some d
  zero : ∀ d < radix, d.digitChar = '0' → d = 0

theorem base_ten : Base 10 := ⟨by decide, by decide, by decide⟩
theorem base_sixteen : Base 16 := ⟨by decide, by decide, by decide⟩

theorem takeWhile_digits {radix : Nat} (base : Base radix) (n : Nat) {rest : List Char}
    (stops : Stops radix rest) :
    (Nat.toDigits radix n ++ rest).takeWhile (fun ch => (toDigit radix ch).isSome) = Nat.toDigits radix n := by
  have digits : ∀ ch ∈ Nat.toDigits radix n, (toDigit radix ch).isSome = true := by
    intro ch member
    obtain ⟨d, small, rfl⟩ := mem_toDigits base.large n member
    rw [base.reads d small]
    rfl
  have ends : rest.takeWhile (fun ch => (toDigit radix ch).isSome) = [] := by
    cases rest with
    | nil => rfl
    | cons ch more => simp [stops ch rfl]
  rw [List.takeWhile_append_of_pos digits, ends, List.append_nil]

/-- A displayed number is read to its end. -/
theorem readNumber_digits {radix maxDigits limit n : Nat} (base : Base radix) (allowZeroPrefix : Bool)
    {rest : List Char} (stops : Stops radix rest) (short : (Nat.toDigits radix n).length ≤ maxDigits)
    (within : n ≤ limit) :
    readNumber radix maxDigits limit allowZeroPrefix (Nat.toDigits radix n ++ rest) = some (n, rest) := by
  have value : (Nat.toDigits radix n).foldl (fun acc ch => acc * radix + (toDigit radix ch).getD 0) 0 = n :=
    foldl_toDigits base.large (fun d small => by rw [base.reads d small, Option.getD_some]) n
  have plain : (!allowZeroPrefix && (Nat.toDigits radix n).head? == some '0' &&
      decide (1 < (Nat.toDigits radix n).length)) = false := by
    by_cases leading : (Nat.toDigits radix n).head? = some '0'
    · have zero := head_toDigits base.large base.zero n leading
      simp [zero, Nat.toDigits_zero]
    · simp [leading]
  unfold readNumber
  dsimp only
  rw [takeWhile_digits base n stops, value, plain, List.drop_left]
  simp [Nat.not_lt.mpr short, Nat.not_lt.mpr within]

/-- No number starts here. -/
theorem readNumber_none {radix : Nat} (maxDigits limit : Nat) (allowZeroPrefix : Bool) {rest : List Char}
    (stops : Stops radix rest) : readNumber radix maxDigits limit allowZeroPrefix rest = none := by
  have ends : rest.takeWhile (fun ch => (toDigit radix ch).isSome) = [] := by
    cases rest with
    | nil => rfl
    | cons ch more => simp [stops ch rfl]
  unfold readNumber
  dsimp only
  rw [ends]
  rfl

/-! ## Dotted quads -/

theorem readOctet (n : UInt8) {rest : List Char} (stops : Stops 10 rest) :
    readNumber 10 3 255 false (Nat.toDigits 10 n.toNat ++ rest) = some (n.toNat, rest) := by
  have bound := n.toNat_lt
  have short : (Nat.toDigits 10 n.toNat).length ≤ 3 :=
    (Nat.length_toDigits_le_iff (by decide) (by decide)).mpr (by omega)
  exact readNumber_digits base_ten false stops short (by omega)

theorem stops_dot (rest : List Char) : Stops 10 ('.' :: rest) := stops_cons (by decide) rest

theorem toList_toString (n : Nat) : (toString n).toList = Nat.toDigits 10 n := by
  rw [Nat.toString_eq_ofList_toDigits, String.toList_ofList]

theorem toList_ipv4 (ip : Ipv4Addr) : ip.display.toList =
    Nat.toDigits 10 ip.a.toNat ++ '.' :: (Nat.toDigits 10 ip.b.toNat ++ '.' ::
      (Nat.toDigits 10 ip.c.toNat ++ '.' :: Nat.toDigits 10 ip.d.toNat)) := by
  unfold Ipv4Addr.display
  simp only [String.toList_append, toList_toString, List.append_assoc]
  rfl

theorem readIpv4Addr_display (ip : Ipv4Addr) {rest : List Char} (stops : Stops 10 rest) :
    readIpv4Addr (ip.display.toList ++ rest) = some (ip, rest) := by
  have separated : ∀ i text, readSeparator '.' (i + 1) ('.' :: text) = some text := fun i text => by
    simp [readSeparator]
  rw [toList_ipv4]
  unfold readIpv4Addr
  simp only [List.append_assoc, List.cons_append]
  rw [readOctet ip.a (stops_dot _)]
  simp only [Option.bind_eq_bind, Option.bind_some, separated]
  rw [readOctet ip.b (stops_dot _)]
  simp only [Option.bind_some, separated]
  rw [readOctet ip.c (stops_dot _)]
  simp only [Option.bind_some, separated]
  rw [readOctet ip.d stops]
  simp

theorem readNumber_drops {radix maxDigits limit : Nat} {allowZeroPrefix : Bool} {text rest : List Char} {n : Nat}
    (read : readNumber radix maxDigits limit allowZeroPrefix text = some (n, rest)) :
    ∃ k, rest = text.drop k := by
  unfold readNumber at read
  dsimp only at read
  repeat' split at read
  all_goals cases read
  exact ⟨_, rfl⟩

/-- There is no dotted quad in a text without dots. -/
theorem readIpv4Addr_dotless {text : List Char} (dotless : '.' ∉ text) : readIpv4Addr text = none := by
  unfold readIpv4Addr
  cases read : readNumber 10 3 255 false text with
  | none => rfl
  | some result =>
    obtain ⟨n, rest⟩ := result
    obtain ⟨k, rfl⟩ := readNumber_drops read
    have gone : readSeparator '.' 1 (text.drop k) = none := by
      cases left : text.drop k with
      | nil => rfl
      | cons ch more =>
        have member : ch ∈ text := List.mem_of_mem_drop (left ▸ List.mem_cons_self)
        have other : ch ≠ '.' := fun same => dotless (same ▸ member)
        simp [readSeparator, other]
    simp [gone]

/-! ## Groups -/

/-- Groups `i`, `i + 1`, ... as text, each but the first of all behind a colon. -/
def colonized : Nat → List Nat → List Char
  | _, [] => []
  | i, g :: gs => (if i = 0 then [] else [':']) ++ (Nat.toDigits 16 g ++ colonized (i + 1) gs)

theorem dotless_digits {radix : Nat} (large : 1 < radix) (few : radix ≤ 16) (n : Nat) :
    '.' ∉ Nat.toDigits radix n := by
  have plain : ∀ d < 16, '.' ≠ d.digitChar := by decide
  intro member
  obtain ⟨d, small, same⟩ := mem_toDigits large n member
  exact plain d (by omega) same

theorem dotless_colonized (gs : List Nat) (i : Nat) : '.' ∉ colonized i gs := by
  induction gs generalizing i with
  | nil => exact List.not_mem_nil
  | cons g rest ih =>
    have digits : '.' ∉ Nat.toDigits 16 g := dotless_digits (by decide) (by decide) g
    rw [colonized, List.mem_append, List.mem_append]
    rintro (colon | digit | later)
    · split at colon <;> simp at colon
    · exact digits digit
    · exact ih (i + 1) later

/-- No further group can be read. -/
def Closes (rest : List Char) : Prop := ∀ i more, readSeparator ':' i rest = some more → Stops 16 more

theorem closes_nil : Closes [] := by
  intro i more found
  unfold readSeparator at found
  split at found <;> cases found
  exact stops_nil 16

/-- Neither a digit nor a single colon goes on with the groups. -/
theorem closes_cons {ch : Char} (other : toDigit 16 ch = none) {more : List Char}
    (colon : ch = ':' → Stops 16 more) : Closes (ch :: more) := by
  intro i after found
  unfold readSeparator at found
  split at found
  · cases found
    exact stops_cons other more
  · dsimp only at found
    split at found
    · next same =>
      cases found
      exact colon same
    · cases found

theorem closes_elision (more : List Char) : Closes (':' :: ':' :: more) :=
  closes_cons (by decide) fun _ => stops_cons (by decide) more

theorem Stops.decimal {rest : List Char} (stops : Stops 16 rest) : Stops 10 rest := by
  intro ch present
  have none_hex := stops ch present
  unfold toDigit at none_hex ⊢
  dsimp only at none_hex ⊢
  rw [Option.filter_eq_none_iff] at none_hex ⊢
  intro v digit small
  apply none_hex v digit
  simp only [decide_eq_true_eq] at small ⊢
  omega

theorem readIpv4Addr_none {text : List Char} (stops : Stops 10 text) : readIpv4Addr text = none := by
  unfold readIpv4Addr
  rw [readNumber_none 3 255 false stops]
  rfl

theorem readGroups_closed (remaining i : Nat) {rest : List Char} (closes : Closes rest) :
    readGroups remaining i rest = ([], false, rest) := by
  cases remaining with
  | zero => rfl
  | succ remaining =>
    have noQuad : (readSeparator ':' i rest).bind readIpv4Addr = none := by
      cases found : readSeparator ':' i rest with
      | none => rfl
      | some more => exact readIpv4Addr_none (closes i more found).decimal
    have noGroup : (readSeparator ':' i rest).bind (readNumber 16 4 65535 true) = none := by
      cases found : readSeparator ':' i rest with
      | none => rfl
      | some more => exact readNumber_none _ _ _ (closes i more found)
    unfold readGroups
    rw [noQuad, noGroup]
    simp

theorem readGroups_colonized (gs : List Nat) (remaining i : Nat) {rest : List Char} (closes : Closes rest)
    (plain : '.' ∉ rest) (small : ∀ g ∈ gs, g < 65536) (room : gs.length ≤ remaining) :
    readGroups remaining i (colonized i gs ++ rest) = (gs, false, rest) := by
  induction gs generalizing remaining i with
  | nil => exact readGroups_closed remaining i closes
  | cons g later ih =>
    obtain ⟨remaining, rfl⟩ : ∃ n, remaining = n + 1 := ⟨remaining - 1, by simp at room; omega⟩
    have text : colonized i (g :: later) ++ rest =
        (if i = 0 then [] else [':']) ++ (Nat.toDigits 16 g ++ (colonized (i + 1) later ++ rest)) := by
      simp only [colonized, List.append_assoc]
    have dotless : '.' ∉ Nat.toDigits 16 g ++ (colonized (i + 1) later ++ rest) := by
      have whole : '.' ∉ colonized i (g :: later) ++ rest := by
        rw [List.mem_append]
        exact fun member => member.elim (dotless_colonized _ i) plain
      rw [text, List.mem_append] at whole
      exact fun member => whole (Or.inr member)
    have separated : readSeparator ':' i (colonized i (g :: later) ++ rest) =
        some (Nat.toDigits 16 g ++ (colonized (i + 1) later ++ rest)) := by
      rw [text]
      by_cases first : i = 0
      · simp [readSeparator, first]
      · simp [readSeparator, first]
    have stops : Stops 16 (colonized (i + 1) later ++ rest) := by
      cases later with
      | nil => exact closes 0 rest rfl
      | cons next more => exact stops_cons (by decide) _
    have bound : g < 65536 := small g List.mem_cons_self
    have short : (Nat.toDigits 16 g).length ≤ 4 :=
      (Nat.length_toDigits_le_iff (by decide) (by decide)).mpr (by omega)
    unfold readGroups
    rw [separated, Option.bind_some, Option.bind_some, readIpv4Addr_dotless dotless,
      readNumber_digits base_sixteen true stops short (by omega)]
    have further := ih remaining (i + 1) (fun g member => small g (List.mem_cons_of_mem _ member))
      (by simp at room; omega)
    simp [further]

/-! ## The elided run -/

/-- Every group of a run is zero. -/
def ZeroRun (groups : List Nat) (run : Nat × Nat) : Prop :=
  ∀ k, run.1 ≤ k → k < run.1 + run.2 → groups[k]? = some 0

theorem zeroRun_longest (groups : List Nat) (rest : List Nat) (i : Nat) {current best : Nat × Nat}
    (unread : groups.drop i = rest) (here : ZeroRun groups current) (ends : current.2 ≠ 0 → current.1 + current.2 = i)
    (found : ZeroRun groups best) : ZeroRun groups (longestZeroRun rest i current best) := by
  induction rest generalizing i current best with
  | nil => exact found
  | cons g later ih =>
    have at_i : groups[i]? = some g := by
      rw [← List.head?_drop, unread]
      rfl
    have next : groups.drop (i + 1) = later := by
      rw [← List.tail_drop, unread]
      rfl
    unfold longestZeroRun
    by_cases zero : g = 0
    · rw [if_pos zero]
      dsimp only
      have grown : ZeroRun groups (if current.2 = 0 then i else current.1, current.2 + 1) := by
        intro k low high
        dsimp only at low high
        by_cases fresh : current.2 = 0
        · rw [if_pos fresh] at low high
          obtain rfl : k = i := by omega
          rw [at_i, zero]
        · rw [if_neg fresh] at low high
          have reached := ends fresh
          by_cases last : k = i
          · rw [last, at_i, zero]
          · exact here k low (by omega)
      have ends' : current.2 + 1 ≠ 0 →
          (if current.2 = 0 then i else current.1) + (current.2 + 1) = i + 1 := by
        intro _
        by_cases fresh : current.2 = 0
        · rw [if_pos fresh, fresh]
        · rw [if_neg fresh, ← Nat.add_assoc, ends fresh]
      apply ih (i + 1) next grown ends'
      split
      · exact grown
      · exact found
    · rw [if_neg zero]
      have none_yet : ZeroRun groups (0, 0) := fun k _ high => by simp at high
      exact ih (i + 1) next none_yet (fun nonzero => absurd rfl nonzero) found

/-- The groups around a run of two or more zeros. -/
theorem groups_around {groups : List Nat} {run : Nat × Nat} (zeros : ZeroRun groups run) (long : 1 < run.2) :
    run.1 + run.2 ≤ groups.length ∧
      groups = groups.take run.1 ++ (List.replicate run.2 0 ++ groups.drop (run.1 + run.2)) := by
  have within : run.1 + run.2 ≤ groups.length := by
    have last := zeros (run.1 + run.2 - 1) (by omega) (by omega)
    obtain ⟨bound, -⟩ := List.getElem?_eq_some_iff.mp last
    omega
  have middle : (groups.drop run.1).take run.2 = List.replicate run.2 0 := by
    apply List.ext_getElem?
    intro k
    by_cases inside : k < run.2
    · rw [List.getElem?_take_of_lt inside, List.getElem?_drop, zeros (run.1 + k) (by omega) (by omega),
        List.getElem?_replicate_of_lt inside]
    · rw [List.getElem?_eq_none (by simp; omega), List.getElem?_eq_none (by simp; omega)]
  refine ⟨within, ?_⟩
  rw [← middle, ← List.drop_drop, List.take_append_drop, List.take_append_drop]

/-! ## IPv6 -/

theorem toList_colons (part : List Nat) : (":".intercalate (part.map hex)).toList = colonized 0 part := by
  have joined : ∀ (gs : List Nat) (i : Nat) (g : Nat),
      [':'].intercalate ((g :: gs).map (Nat.toDigits 16)) = Nat.toDigits 16 g ++ colonized (i + 1) gs := by
    intro gs
    induction gs with
    | nil => intro i g; simp [colonized]
    | cons next later ih =>
      intro i g
      have more := ih (i + 1) next
      rw [List.map_cons, List.map_cons] at *
      rw [List.intercalate_cons_cons, more]
      simp [colonized]
  rw [String.toList_intercalate, List.map_map]
  have digits : String.toList ∘ hex = Nat.toDigits 16 := by
    funext g
    simp [hex]
  rw [digits]
  cases part with
  | nil => rfl
  | cons g gs =>
    have whole := joined gs 0 g
    simpa [colonized] using whole

theorem segments_small (ip : Ipv6Addr) : ∀ g ∈ ip.segments, g < 65536 := by
  intro g member
  obtain ⟨i, -, rfl⟩ := List.mem_map.mp member
  have high := (ip.octets.toList.getD (2 * i) 0).toNat_lt
  have low := (ip.octets.toList.getD (2 * i + 1) 0).toNat_lt
  omega

theorem segments_length (ip : Ipv6Addr) : ip.segments.length = 8 := by simp [Ipv6Addr.segments]

/-- The octets of a group. -/
theorem toBytes_group (hi lo : UInt8) : Lib.BigEndian.toBytes 2 (hi.toNat * 256 + lo.toNat) = [hi, lo] := by
  have high := hi.toNat_lt
  have low := lo.toNat_lt
  have upper : (hi.toNat * 256 + lo.toNat) / 256 % 256 = hi.toNat := by omega
  have lower : (hi.toNat * 256 + lo.toNat) % 256 = lo.toNat := by omega
  simp only [Lib.BigEndian.toBytes, upper, lower, UInt8.ofNat_toNat, List.nil_append, List.singleton_append]

theorem flatMap_groups (o : List UInt8) (sixteen : o.length = 16) :
    ((List.range 8).map fun i => (o.getD (2 * i) 0).toNat * 256 + (o.getD (2 * i + 1) 0).toNat).flatMap
      (Lib.BigEndian.toBytes 2) = o := by
  rw [List.flatMap_map]
  simp only [toBytes_group]
  match o, sixteen with
  | [_, _, _, _, _, _, _, _, _, _, _, _, _, _, _, _], _ => rfl

theorem ofSegments_segments (ip : Ipv6Addr) : Ipv6Addr.ofSegments ip.segments = ip := by
  have octets := flatMap_groups ip.octets.toList ip.octets_length
  unfold Ipv6Addr.ofSegments Ipv6Addr.segments
  rw [octets, Ipv6Addr.ofOctets_octets]

/-- The last four octets of a mapped address are its dotted quad. -/
theorem segments_mapped (ip : Ipv6Addr) (mapped : ip.segments.take 6 = [0, 0, 0, 0, 0, 0xffff]) :
    let quad := Ipv4Addr.ofOctets (ip.octets.toList.drop 12)
    ip.segments = [0, 0, 0, 0, 0, 0xffff] ++
      [quad.a.toNat * 256 + quad.b.toNat, quad.c.toNat * 256 + quad.d.toNat] := by
  have split := List.take_append_drop 6 ip.segments
  rw [mapped] at split
  have last : ip.segments.drop 6 =
      [(Ipv4Addr.ofOctets (ip.octets.toList.drop 12)).a.toNat * 256 +
          (Ipv4Addr.ofOctets (ip.octets.toList.drop 12)).b.toNat,
        (Ipv4Addr.ofOctets (ip.octets.toList.drop 12)).c.toNat * 256 +
          (Ipv4Addr.ofOctets (ip.octets.toList.drop 12)).d.toNat] := by
    unfold Ipv6Addr.segments
    have sixteen := ip.octets_length
    generalize ip.octets.toList = o at sixteen
    match o, sixteen with
    | [_, _, _, _, _, _, _, _, _, _, _, _, _, _, _, _], _ =>
      simp [List.range, List.range.loop, Ipv4Addr.ofOctets]
  rw [last] at split
  exact split.symm

/-- The groups on both sides of `::`, as many zeros as are missing between them. -/
theorem readIpv6Addr_elided {text more rest : List Char} {head tail : List Nat} {dotted : Bool}
    (front : readGroups 8 0 text = (head, false, ':' :: ':' :: more)) (few : head.length ≠ 8)
    (back : readGroups (8 - (head.length + 1)) 0 more = (tail, dotted, rest)) :
    readIpv6Addr text = some
      (Ipv6Addr.ofSegments (head ++ List.replicate (8 - head.length - tail.length) 0 ++ tail), rest) := by
  unfold readIpv6Addr
  rw [front]
  simp only [few, back, if_false, Bool.false_eq_true]

/-- All eight groups written out. -/
theorem readIpv6Addr_colonized {groups : List Nat} {rest : List Char} (eight : groups.length = 8)
    (small : ∀ g ∈ groups, g < 65536) (closes : Closes rest) (plain : '.' ∉ rest) :
    readIpv6Addr (colonized 0 groups ++ rest) = some (Ipv6Addr.ofSegments groups, rest) := by
  have whole := readGroups_colonized groups 8 0 closes plain small (by omega)
  unfold readIpv6Addr
  rw [whole]
  exact if_pos eight

/-- Groups with `::` between them stand for eight groups with zeros there. -/
theorem readIpv6Addr_run {head tail : List Nat} {rest : List Char} (few : head.length + tail.length < 8)
    (smallHead : ∀ g ∈ head, g < 65536) (smallTail : ∀ g ∈ tail, g < 65536) (closes : Closes rest) (plain : '.' ∉ rest) :
    readIpv6Addr (colonized 0 head ++ ':' :: ':' :: (colonized 0 tail ++ rest)) = some
      (Ipv6Addr.ofSegments (head ++ List.replicate (8 - head.length - tail.length) 0 ++ tail), rest) := by
  have plainTail : '.' ∉ colonized 0 tail ++ rest := by
    rw [List.mem_append]
    exact fun member => member.elim (dotless_colonized tail 0) plain
  have plainMore : '.' ∉ ':' :: ':' :: (colonized 0 tail ++ rest) := by simp [plainTail]
  have front := readGroups_colonized head 8 0 (closes_elision (colonized 0 tail ++ rest)) plainMore smallHead (by omega)
  have back := readGroups_colonized tail (8 - (head.length + 1)) 0 closes plain smallTail (by omega)
  exact readIpv6Addr_elided front (by omega) back

/-- An IPv4 address in IPv6 form. -/
theorem readIpv6Addr_mapped (quad : Ipv4Addr) {rest : List Char} (stops : Stops 10 rest) :
    readIpv6Addr (("::ffff:" ++ quad.display).toList ++ rest) = some
      (Ipv6Addr.ofSegments ([0, 0, 0, 0, 0, 0xffff] ++
        [quad.a.toNat * 256 + quad.b.toNat, quad.c.toNat * 256 + quad.d.toNat]), rest) := by
  have text : ("::ffff:" ++ quad.display).toList ++ rest =
      ':' :: ':' :: (Nat.toDigits 16 0xffff ++ ':' :: (quad.display.toList ++ rest)) := by
    rw [String.toList_append, List.append_assoc]
    rfl
  have tail : readGroups 7 0 (Nat.toDigits 16 0xffff ++ ':' :: (quad.display.toList ++ rest)) =
      ([0xffff, quad.a.toNat * 256 + quad.b.toNat, quad.c.toNat * 256 + quad.d.toNat], true, rest) := by
    have noQuad : readIpv4Addr (Nat.toDigits 16 0xffff ++ ':' :: (quad.display.toList ++ rest)) = none :=
      readIpv4Addr_none (stops_cons (by decide) _)
    have group : readNumber 16 4 65535 true (Nat.toDigits 16 0xffff ++ ':' :: (quad.display.toList ++ rest)) =
        some (0xffff, ':' :: (quad.display.toList ++ rest)) :=
      readNumber_digits base_sixteen true (stops_cons (by decide) _) (by decide) (by decide)
    have dotted : readGroups 6 1 (':' :: (quad.display.toList ++ rest)) =
        ([quad.a.toNat * 256 + quad.b.toNat, quad.c.toNat * 256 + quad.d.toNat], true, rest) := by
      simp [readGroups, readSeparator, readIpv4Addr_display quad stops]
    rw [readGroups]
    simp [readSeparator, noQuad, group, dotted]
  rw [text, readIpv6Addr_elided (readGroups_closed 8 0 (closes_elision _)) (by decide) tail]
  rfl

theorem readIpv6Addr_display (ip : Ipv6Addr) {rest : List Char} (closes : Closes rest) (plain : '.' ∉ rest) :
    readIpv6Addr (ip.display.toList ++ rest) = some (ip, rest) := by
  have value := ofSegments_segments ip
  have small := segments_small ip
  have eight := segments_length ip
  unfold Ipv6Addr.display
  dsimp only
  split
  · next mapped =>
    rw [readIpv6Addr_mapped _ (closes 0 rest rfl).decimal, ← segments_mapped ip mapped, value]
  · split
    · next long =>
      have zeros : ZeroRun ip.segments (longestZeroRun ip.segments 0 (0, 0) (0, 0)) :=
        zeroRun_longest _ _ 0 rfl (fun k _ high => by simp at high) (fun nonzero => absurd rfl nonzero)
          (fun k _ high => by simp at high)
      generalize longestZeroRun ip.segments 0 (0, 0) (0, 0) = run at zeros long
      obtain ⟨within, around⟩ := groups_around zeros long
      have head_length : (ip.segments.take run.1).length = run.1 := by
        rw [List.length_take]
        omega
      have tail_length : (ip.segments.drop (run.1 + run.2)).length = 8 - (run.1 + run.2) := by
        rw [List.length_drop, eight]
      have read := @readIpv6Addr_run (ip.segments.take run.1) (ip.segments.drop (run.1 + run.2)) rest (by omega)
        (fun g member => small g (List.mem_of_mem_take member)) (fun g member => small g (List.mem_of_mem_drop member))
        closes plain
      rw [head_length, tail_length, show 8 - run.1 - (8 - (run.1 + run.2)) = run.2 by omega,
        List.append_assoc, ← around, value] at read
      rw [String.toList_append, String.toList_append, toList_colons, toList_colons, List.append_assoc, List.append_assoc]
      exact read
    · have whole := readIpv6Addr_colonized eight small closes plain
      rwa [← toList_colons, value] at whole

/-! ## Whole texts -/

theorem wholeText_read {α : Type} {read : List Char → Option (α × List Char)} {text : List Char} {value : α}
    (found : read text = some (value, [])) : wholeText read text = some value := by
  rw [wholeText, found]

theorem wholeText_none {α : Type} {read : List Char → Option (α × List Char)} {text : List Char}
    (failed : read text = none) : wholeText read text = none := by
  rw [wholeText, failed]

/-- No dotted quad starts an IPv6 text. -/
theorem readIpv4Addr_ipv6 (ip : Ipv6Addr) : readIpv4Addr ip.display.toList = none := by
  unfold Ipv6Addr.display
  dsimp only
  split
  · rw [String.toList_append]
    exact readIpv4Addr_none (stops_cons (by decide) _)
  · apply readIpv4Addr_dotless
    split
    · rw [String.toList_append, String.toList_append, toList_colons, toList_colons]
      simp [dotless_colonized]
    · rw [toList_colons]
      exact dotless_colonized _ 0

/-- A displayed address parses back. -/
theorem parseIpAddr_display (ip : IpAddr) : parseIpAddr ip.display.toList = some ip := by
  unfold parseIpAddr
  cases ip with
  | v4 ip =>
    have read := readIpv4Addr_display ip (stops_nil 10)
    rw [List.append_nil] at read
    have whole := wholeText_read read
    rw [IpAddr.display, whole]
  | v6 ip =>
    have read := readIpv6Addr_display ip closes_nil List.not_mem_nil
    rw [List.append_nil] at read
    rw [IpAddr.display, wholeText_none (readIpv4Addr_ipv6 ip), parseIpv6Addr, wholeText_read read]
    rfl

/-- A displayed socket address parses back. -/
theorem parseSocketAddr_display (addr : SocketAddr) : parseSocketAddr addr.display.toList = some addr := by
  obtain ⟨ip, port⟩ := addr
  have bound := port.toNat_lt
  have portRead : readNumber 10 (Nat.toDigits 10 port.toNat).length 65535 true (Nat.toDigits 10 port.toNat) =
      some (port.toNat, []) := by
    have read := readNumber_digits base_ten true (stops_nil 10)
      (Nat.le_refl (Nat.toDigits 10 port.toNat).length) (show port.toNat ≤ 65535 by omega)
    rwa [List.append_nil] at read
  cases ip with
  | v4 ip =>
    have text : (SocketAddr.display ⟨.v4 ip, port⟩).toList =
        ip.display.toList ++ ':' :: Nat.toDigits 10 port.toNat := by
      simp only [SocketAddr.display, String.toList_append, toList_toString, List.append_assoc]
      rfl
    have quad : readIpv4Addr (ip.display.toList ++ ':' :: Nat.toDigits 10 port.toNat) =
        some (ip, ':' :: Nat.toDigits 10 port.toNat) :=
      readIpv4Addr_display ip (stops_cons (by decide) _)
    unfold parseSocketAddr
    rw [text]
    simp [wholeText, quad, portRead]
  | v6 ip =>
    have text : (SocketAddr.display ⟨.v6 ip, port⟩).toList =
        '[' :: (ip.display.toList ++ ']' :: ':' :: Nat.toDigits 10 port.toNat) := by
      simp only [SocketAddr.display, String.toList_append, toList_toString, List.append_assoc]
      rfl
    have closes : Closes (']' :: ':' :: Nat.toDigits 10 port.toNat) :=
      closes_cons (by decide) fun same => absurd same (by decide)
    have plain : '.' ∉ ']' :: ':' :: Nat.toDigits 10 port.toNat := by
      simp [dotless_digits (by decide : 1 < 10) (by decide) port.toNat]
    have noQuad : readIpv4Addr ('[' :: (ip.display.toList ++ ']' :: ':' :: Nat.toDigits 10 port.toNat)) = none :=
      readIpv4Addr_none (stops_cons (by decide) _)
    have groups := readIpv6Addr_display ip closes plain
    unfold parseSocketAddr
    rw [text]
    simp [wholeText, groups, portRead, dropScopeId, noQuad]

end Sipmon.Guarantees.AddressText
