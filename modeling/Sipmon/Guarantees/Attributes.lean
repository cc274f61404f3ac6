import Mathlib.Data.List.TakeWhile
import Sipmon.Lib.Digits
import Sipmon.Lib.Scan
import Sipmon.Source.CallMachine
import Sipmon.Source.SipDecode

/-!
# Attributes of a header value

`param` and `extractAttr` search for `name=` and read what stands behind it: up to a
separator, without the quotes at its ends. Here both are put into the terms of the
search library, and the reading into a shape of the text.
-/
namespace Sipmon.Guarantees.Attributes
open Source Text
open Lib.Digits Lib.Scan

/-! ## Trimming -/

theorem dropWhile_stops {p : Char → Bool} {text : Chars} (stops : ∀ c ∈ text.head?, p c = false) :
    text.dropWhile p = text := by
  cases text with
  | nil => rfl
  | cons c text => simp [stops c rfl]

theorem takeWhile_stops {p : Char → Bool} {text : Chars} (stops : ∀ c ∈ text.head?, p c = false) :
    text.takeWhile p = [] := by
  cases text with
  | nil => rfl
  | cons c text => simp [stops c rfl]

theorem head_dropWhile {p : Char → Bool} {text : Chars} : ∀ c ∈ (text.dropWhile p).head?, p c = false := by
  intro c member
  have stops := List.head?_dropWhile_not p text
  rw [Option.mem_def.mp member] at stops
  simpa using stops

/-- Neither end of `text` is trimmed. -/
def Bare (p : Char → Bool) (text : Chars) : Prop :=
  (∀ c ∈ text.head?, p c = false) ∧ ∀ c ∈ text.getLast?, p c = false

theorem bare_trimWhere (p : Char → Bool) (text : Chars) : Bare p (trimWhere p text) := by
  have last : ∀ c ∈ (trimWhere p text).getLast?, p c = false := by
    intro c member
    rw [trimWhere, List.getLast?_reverse] at member
    exact head_dropWhile c member
  refine ⟨fun c member => ?_, last⟩
  -- trimming the end keeps the first letter, when a letter is left
  have split := List.takeWhile_append_dropWhile (p := p) (l := (text.dropWhile p).reverse)
  have whole : text.dropWhile p =
      trimWhere p text ++ ((text.dropWhile p).reverse.takeWhile p).reverse := by
    rw [trimWhere, ← List.reverse_append, split, List.reverse_reverse]
  have first : c ∈ (text.dropWhile p).head? := by
    rw [whole, List.head?_append, Option.mem_def.mp member]
    rfl
  exact head_dropWhile c first

/-- Trimming leaves what stands between two runs of trimmed letters. -/
theorem trimWhere_eq_iff {p : Char → Bool} {text v : Chars} :
    trimWhere p text = v ↔ Bare p v ∧ ∃ opening closing, text = opening ++ v ++ closing ∧
      (∀ c ∈ opening, p c = true) ∧ ∀ c ∈ closing, p c = true := by
  constructor
  · rintro rfl
    refine ⟨bare_trimWhere p text, text.takeWhile p, ((text.dropWhile p).reverse.takeWhile p).reverse, ?_,
      fun c member => List.mem_takeWhile_imp member,
      fun c member => List.mem_takeWhile_imp (List.mem_reverse.mp member)⟩
    rw [trimWhere, List.append_assoc, ← List.reverse_append, List.takeWhile_append_dropWhile,
      List.reverse_reverse, List.takeWhile_append_dropWhile]
  · rintro ⟨⟨first, last⟩, opening, closing, rfl, before, behind⟩
    have closed : ∀ c ∈ closing.reverse, p c = true := fun c member => behind c (List.mem_reverse.mp member)
    rw [trimWhere, List.append_assoc, List.dropWhile_append_of_pos before]
    cases v with
    | nil =>
      rw [List.nil_append, List.dropWhile_eq_nil_iff.mpr behind]
      rfl
    | cons c v =>
      have ends : ∀ d ∈ (c :: v).reverse.head?, p d = false := by
        rw [List.head?_reverse]
        exact last
      have kept : (c :: v ++ closing).dropWhile p = c :: v ++ closing := dropWhile_stops first
      rw [kept, List.reverse_append,
        List.dropWhile_append_of_pos closed, dropWhile_stops ends, List.reverse_reverse]

/-! ## The value of an attribute -/

/-- The letters that end a value. -/
def separators : List Char := [';', ' ', '\t', '\r', '\n']

/-- What is read behind `name=`. -/
def valueOf (rest : Chars) : Chars := trimMatches '"' (rest.takeWhile fun ch => !(separators.contains ch))

/-- `text` is empty or starts with a separator. -/
def Separated (text : Chars) : Prop := ∀ c ∈ text.head?, c ∈ separators

/-- `rest` reads as the value `v`: apart from quotes around it, `v` stands in front of
the first separator. -/
def Spells (rest v : Chars) : Prop :=
  Bare (· == '"') v ∧ (∀ c ∈ v, c ∉ separators) ∧
    ∃ opening closing tail, rest = opening ++ v ++ closing ++ tail ∧
      (∀ c ∈ opening, c = '"') ∧ (∀ c ∈ closing, c = '"') ∧ Separated tail

theorem valueOf_eq_iff {rest v : Chars} : valueOf rest = v ↔ Spells rest v := by
  have quote : '"' ∉ separators := by decide
  rw [valueOf, trimMatches, trimWhere_eq_iff, Spells]
  refine and_congr_right fun _ => ?_
  constructor
  · rintro ⟨opening, closing, front, before, behind⟩
    have plain : ∀ c ∈ opening ++ v ++ closing, c ∉ separators := by
      intro c member
      rw [← front] at member
      simpa using List.mem_takeWhile_imp member
    refine ⟨fun c member => plain c (by simp [member]), opening, closing,
      rest.dropWhile fun ch => !(separators.contains ch), ?_, by simpa using before, by simpa using behind, ?_⟩
    · rw [← front, List.takeWhile_append_dropWhile]
    · intro c member
      simpa using head_dropWhile c member
  · rintro ⟨plain, opening, closing, tail, rfl, before, behind, ends⟩
    refine ⟨opening, closing, ?_, by simpa using before, by simpa using behind⟩
    have whole : ∀ c ∈ opening ++ v ++ closing, (!separators.contains c) = true := by
      intro c member
      rw [List.mem_append, List.mem_append] at member
      rcases member with (front | middle) | back
      · simpa [before c front] using quote
      · simpa using plain c middle
      · simpa [behind c back] using quote
    have stops : ∀ c ∈ tail.head?, (!separators.contains c) = false := by
      intro c member
      simpa using ends c member
    rw [List.takeWhile_append_of_pos whole, takeWhile_stops stops, List.append_nil]

theorem Spells.of_bare {v tail : Chars} (plain : ∀ c ∈ v, c ∉ separators ∧ c ≠ '"') (ends : Separated tail) :
    Spells (v ++ tail) v := by
  refine ⟨⟨fun c first => ?_, fun c last => ?_⟩, fun c member => (plain c member).1, [], [], tail, by simp,
    by simp, by simp, ends⟩
  · simpa using (plain c (List.mem_of_mem_head? first)).2
  · simpa using (plain c (List.mem_of_mem_getLast? last)).2

/-! ## Tokens -/

/-- The letters of a token: a protocol or a parameter name. -/
def isTokenChar (c : Char) : Bool := c.isAlphanum || "-.!%*_+`'~".toList.contains c

theorem alpha_range {c : Char} :
    c.isAlpha = true ↔ 65 ≤ c.toNat ∧ c.toNat ≤ 90 ∨ 97 ≤ c.toNat ∧ c.toNat ≤ 122 := by
  have upper : c.isUpper = true ↔ 65 ≤ c.toNat ∧ c.toNat ≤ 90 := by
    change decide (c.val ≥ 'A'.val ∧ c.val ≤ 'Z'.val) = true ↔ _
    rw [decide_eq_true_eq]
    exact and_congr UInt32.le_iff_toNat_le UInt32.le_iff_toNat_le
  have lower : c.isLower = true ↔ 97 ≤ c.toNat ∧ c.toNat ≤ 122 := by
    change (decide (c.val ≥ 'a'.val) && decide (c.val ≤ 'z'.val)) = true ↔ _
    rw [Bool.and_eq_true, decide_eq_true_eq, decide_eq_true_eq]
    exact and_congr UInt32.le_iff_toNat_le UInt32.le_iff_toNat_le
  change (c.isUpper || c.isLower) = true ↔ _
  rw [Bool.or_eq_true, upper, lower]

theorem digit_range {c : Char} : c.isDigit = true ↔ 48 ≤ c.toNat ∧ c.toNat ≤ 57 := by
  change (decide (c.val ≥ '0'.val) && decide (c.val ≤ '9'.val)) = true ↔ _
  rw [Bool.and_eq_true, decide_eq_true_eq, decide_eq_true_eq]
  exact and_congr UInt32.le_iff_toNat_le UInt32.le_iff_toNat_le

theorem alphanum_range {c : Char} : c.isAlphanum = true ↔
    48 ≤ c.toNat ∧ c.toNat ≤ 57 ∨ 65 ≤ c.toNat ∧ c.toNat ≤ 90 ∨ 97 ≤ c.toNat ∧ c.toNat ≤ 122 := by
  change (c.isAlpha || c.isDigit) = true ↔ _
  rw [Bool.or_eq_true, alpha_range, digit_range, or_comm]

theorem alphanum_visible {c : Char} (letter : c.isAlphanum = true) : isWhitespace c = false := by
  have range := alphanum_range.mp letter
  simp only [isWhitespace, Bool.or_eq_false_iff, Bool.and_eq_false_iff, decide_eq_false_iff_not,
    beq_eq_false_iff_ne]
  omega

theorem token_plain {c : Char} (token : isTokenChar c = true) :
    c ≠ '=' ∧ c ≠ '"' ∧ c ∉ separators ∧ isWhitespace c = false := by
  refine ⟨?_, ?_, ?_, ?_⟩
  · rintro rfl
    exact absurd token (by decide)
  · rintro rfl
    exact absurd token (by decide)
  · intro member
    have all : ∀ d ∈ separators, isTokenChar d = false := forall_of_all (by decide)
    rw [all c member] at token
    exact absurd token (by decide)
  · rw [isTokenChar, Bool.or_eq_true] at token
    rcases token with letter | sign
    · exact alphanum_visible letter
    · have all : ∀ d ∈ "-.!%*_+`'~".toList, isWhitespace d = false := forall_of_all (by decide)
      exact all c (by simpa using sign)

/-! ## Numbers -/

theorem digit_plain {c : Char} (digit : c.isDigit = true) :
    c ≠ '+' ∧ c ≠ '=' ∧ c ≠ '"' ∧ c ∉ separators ∧ isWhitespace c = false := by
  have token : isTokenChar c = true := by simp [isTokenChar, Char.isAlphanum, digit]
  obtain ⟨sign, quote, plain, space⟩ := token_plain token
  refine ⟨?_, sign, quote, plain, space⟩
  rintro rfl
  exact absurd digit (by decide)

/-- The digits of a number, with zeros in front of them. -/
def decimal (zeros n : Nat) : Chars := List.replicate zeros '0' ++ Nat.toDigits 10 n

section Decimal

variable (zeros n : Nat)

theorem decimal_ne_nil : decimal zeros n ≠ [] := List.append_ne_nil_of_right_ne_nil _ Nat.toDigits_ne_nil

theorem isDigit_of_mem_decimal {c : Char} (member : c ∈ decimal zeros n) : c.isDigit = true := by
  rcases List.mem_append.mp member with front | digit
  · obtain rfl := List.eq_of_mem_replicate front
    rfl
  · obtain ⟨d, small, rfl⟩ := mem_toDigits (by decide) _ digit
    have all : ∀ d < 10, d.digitChar.isDigit = true := by decide
    exact all d small

theorem bare_decimal : Bare isWhitespace (decimal zeros n) := by
  constructor
  · exact fun c first => (digit_plain (isDigit_of_mem_decimal zeros n (List.mem_of_mem_head? first))).2.2.2.2
  · exact fun c last => (digit_plain (isDigit_of_mem_decimal zeros n (List.mem_of_mem_getLast? last))).2.2.2.2

/-- A number that fits is read from its digits. -/
theorem parseUnsigned_decimal {bound : Nat} (small : n < bound) :
    parseUnsigned bound (decimal zeros n) = some n := by
  have signless : stripPrefix ['+'] (decimal zeros n) = none := by
    rw [stripPrefix, if_neg]
    intro front
    obtain ⟨tail, joined⟩ := List.isPrefixOf_iff_prefix.mp front
    have plus : '+' ∈ decimal zeros n := by simp [← joined]
    exact (digit_plain (isDigit_of_mem_decimal zeros n plus)).1 rfl
  have nonempty : (decimal zeros n).isEmpty = false :=
    List.isEmpty_eq_false_iff.mpr (decimal_ne_nil zeros n)
  have all : (decimal zeros n).all Char.isDigit = true :=
    List.all_eq_true.mpr fun _ => isDigit_of_mem_decimal zeros n
  have nothing : ∀ zeros : Nat,
      (List.replicate zeros '0').foldl (fun acc ch => acc * 10 + (ch.toNat - '0'.toNat)) 0 = 0 := by
    intro zeros
    induction zeros with
    | zero => rfl
    | succ zeros ih => exact ih
  have value : (decimal zeros n).foldl (fun acc ch => acc * 10 + (ch.toNat - '0'.toNat)) 0 = n := by
    rw [decimal, List.foldl_append, nothing]
    exact foldl_toDigits (by decide) (by decide) n
  rw [parseUnsigned, signless, Option.getD_none, nonempty, all, value]
  exact if_pos small

end Decimal

/-! ## The two searches -/

theorem afterNeedle_eq (needle text : Chars) : afterNeedle needle text = after id needle text := by
  induction text with
  | nil => simp [afterNeedle, after]
  | cons c text ih => simp [afterNeedle, after, ih]

theorem extractAttr_eq (text name : Chars) :
    extractAttr text name = (after id (name ++ ['=']) text).map valueOf := by
  rw [extractAttr, afterNeedle_eq]
  rfl

theorem after_sign {word front rest : Chars} (unmarked : '=' ∉ word) (plain : '=' ∉ front) :
    after id (word ++ ['=']) (front ++ '=' :: rest) =
      if word <:+ front then some rest else after id (word ++ ['=']) rest := by
  have signless : ∀ c ∈ front, id c ≠ '=' := by
    rintro c member rfl
    exact plain member
  have marked : after id (word ++ ['=']) (front ++ '=' :: rest) =
      if word <:+ front.map id then some rest else after id (word ++ ['=']) rest := after_marked unmarked signless rfl
  rwa [List.map_id] at marked

/-- Only a letter has another case. -/
theorem toLower_eq_iff {c d : Char} (sign : d.isAlpha = false) : c.toLower = d ↔ c = d := by
  have other : ¬ (65 ≤ d.toNat ∧ d.toNat ≤ 90 ∨ 97 ≤ d.toNat ∧ d.toNat ≤ 122) := by
    rw [← alpha_range, sign]
    exact Bool.false_ne_true
  have same : d.toNat = d.val.toNat := rfl
  constructor
  · intro lowered
    unfold Char.toLower at lowered
    split at lowered
    · next range =>
      have value : (c.val + 32).toNat = d.val.toNat := congrArg (UInt32.toNat ∘ Char.val) lowered
      have low : 65 ≤ c.val.toNat := UInt32.le_iff_toNat_le.mp range.1
      have high : c.val.toNat ≤ 90 := UInt32.le_iff_toNat_le.mp range.2
      have sum : (c.val + 32).toNat = (c.val.toNat + 32) % 2 ^ 32 := UInt32.toNat_add ..
      omega
    · exact lowered
  · rintro rfl
    unfold Char.toLower
    split
    · next range => exact absurd (.inl ⟨UInt32.le_iff_toNat_le.mp range.1, UInt32.le_iff_toNat_le.mp range.2⟩) other
    · rfl

/-- A name in either case, and the sign behind it. -/
def named (name : Chars) : Chars := toAsciiLowercase name ++ ['=']

theorem concat_prefix_iff {α : Type} {word text : List α} {mark : α} :
    word ++ [mark] <+: text ↔ text.take word.length = word ∧ text[word.length]? = some mark := by
  rw [List.prefix_iff_eq_take, List.length_append, List.length_singleton, List.take_add_one]
  constructor
  · intro whole
    cases sign : text[word.length]? with
    | none =>
      have lengths := congrArg List.length whole
      simp only [sign, List.length_append, List.length_singleton, Option.toList_none, List.length_nil,
        List.length_take] at lengths
      omega
    | some d =>
      rw [sign, Option.toList_some] at whole
      obtain ⟨front, last⟩ := List.append_inj' whole rfl
      exact ⟨front.symm, by rw [List.cons.inj last |>.1]⟩
  · rintro ⟨front, sign⟩
    rw [front, sign, Option.toList_some]

theorem afterParam_eq (name text : Chars) : afterParam name text = after Char.toLower (named name) text := by
  induction text with
  | nil => simp [afterParam, after, named]
  | cons c text ih =>
    have here : (toAsciiLowercase ((c :: text).take name.length) == toAsciiLowercase name &&
        (c :: text)[name.length]? == some '=') = true ↔ named name <+: (c :: text).map Char.toLower := by
      have size : (toAsciiLowercase name).length = name.length := List.length_map ..
      rw [named, concat_prefix_iff, Bool.and_eq_true, beq_iff_eq, beq_iff_eq, size, List.getElem?_map,
        ← List.map_take, Option.map_eq_some_iff]
      simp [toLower_eq_iff (d := '=') (by decide), toAsciiLowercase]
    have length : (named name).length = name.length + 1 := by simp [named, toAsciiLowercase]
    rw [afterParam, after, ih, length]
    simp only [here]

theorem param_eq (value name : String) :
    param value name = (after Char.toLower (named name.toList) value.toList).map (String.ofList ∘ valueOf) := by
  rw [param, afterParam_eq]
  rfl

end Sipmon.Guarantees.Attributes
