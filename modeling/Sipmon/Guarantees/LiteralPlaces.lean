import Sipmon.Guarantees.AddressScan
import Sipmon.Guarantees.MaskedText

/-!
# Where an address literal can stand in a line

A literal stands behind a letter that no address has, or behind the colon of a name. The
passes keep it so. Then the last of them meets the literal where it begins.
-/
namespace Sipmon.Guarantees.LiteralPlaces
open Lib.Scan Source Text Masking AddressText Attributes AddressEnds AddressScan MaskedText TextLines

variable {c : Char} {text rest : Chars}

/-- A letter that stays as it is where it stands outside a URI and a quoted name. -/
def Plain (c : Char) : Prop := inUri c = true ∧ c ≠ '"' ∧ c ≠ '[' ∧ c ≠ '.'

/-- What may stand between an alien letter and a literal: nothing, or a word and its colon. -/
def Hangs (tail : Chars) : Prop := tail = [] ∨ ∃ word, tail = word ++ [':'] ∧ ∀ c ∈ word, Plain c

/-- No address that begins in the text goes on behind it. -/
def Breaks (text : Chars) : Prop :=
  text = [] ∨ ∃ front c tail, text = front ++ c :: tail ∧ Alien c ∧ Hangs tail

theorem Hangs.plain {tail : Chars} (hangs : Hangs tail) : ∀ c ∈ tail, Plain c := by
  rcases hangs with rfl | ⟨word, rfl, plain⟩
  · exact fun c member => nomatch member
  · intro c member
    rcases List.mem_append.mp member with inWord | colon
    · exact plain c inWord
    · obtain rfl := List.mem_singleton.mp colon
      exact ⟨by decide, by decide, by decide, by decide⟩

theorem Hangs.suffix {front tail : Chars} (hangs : Hangs (front ++ tail)) : Hangs tail := by
  rcases hangs with none_ | ⟨word, shape, plain⟩
  · exact .inl (List.append_eq_nil_iff.mp none_).2
  · rcases List.eq_nil_or_concat' tail with rfl | ⟨most, d, rfl⟩
    · exact .inl rfl
    · rw [← List.append_assoc] at shape
      obtain ⟨rfl, colon⟩ := List.append_inj' shape rfl
      exact .inr ⟨most, by rw [colon], fun c member => plain c (List.mem_append_right _ member)⟩

theorem breaks_end {tail : Chars} (alien : Alien c) (hangs : Hangs tail) (front : Chars) : Breaks (front ++ c :: tail) :=
  .inr ⟨front, c, tail, rfl, alien, hangs⟩

theorem Breaks.prepend (breaks : Breaks text) (nonempty : text ≠ []) (front : Chars) : Breaks (front ++ text) := by
  rcases breaks with rfl | ⟨more, c, tail, rfl, alien, hangs⟩
  · exact absurd rfl nonempty
  · rw [← List.append_assoc]
    exact breaks_end alien hangs _

/-- What stands in front of an alien letter does not matter. -/
theorem Breaks.behind {front : Chars} (breaks : Breaks (front ++ c :: text)) (alien : Alien c) (other : Chars) :
    Breaks (other ++ c :: text) := by
  rcases breaks with none_ | ⟨more, d, tail, shape, alien', hangs⟩
  · simp at none_
  · rcases List.append_eq_append_iff.mp shape with ⟨between, rfl, same⟩ | ⟨between, rfl, same⟩
    · cases between with
      | nil =>
        obtain ⟨rfl, rfl⟩ := List.cons.inj same
        exact breaks_end alien hangs other
      | cons e between =>
        obtain ⟨rfl, rfl⟩ := List.cons.inj same
        have whole := breaks_end alien' hangs (other ++ c :: between)
        simpa using whole
    · cases between with
      | nil =>
        obtain ⟨rfl, rfl⟩ := List.cons.inj same
        exact breaks_end alien hangs other
      | cons e between =>
        obtain ⟨rfl, rfl⟩ := List.cons.inj same
        have shorter : Hangs ((between ++ [c]) ++ text) := by simpa using hangs
        exact breaks_end alien shorter.suffix other

/-- Behind its first letter, a text breaks as before, or that letter is the one that ends it. -/
theorem breaks_cons (breaks : Breaks (c :: text)) : Alien c ∧ Hangs text ∨ text ≠ [] ∧ Breaks text := by
  rcases breaks with none_ | ⟨front, d, tail, shape, alien, hangs⟩
  · cases none_
  · cases front with
    | nil =>
      obtain ⟨rfl, rfl⟩ := List.cons.inj shape
      exact .inl ⟨alien, hangs⟩
    | cons e front =>
      obtain ⟨rfl, rfl⟩ := List.cons.inj shape
      exact .inr ⟨by simp, breaks_end alien hangs front⟩

theorem ips_hangs {tail : Chars} (hangs : Hangs tail) (rest : Chars) : maskIps (tail ++ rest) = tail ++ maskIps rest := by
  rcases hangs with rfl | ⟨word, rfl, plain⟩
  · rfl
  · have groups : ∀ d ∈ word, d ≠ '[' ∧ d ≠ '.' := fun d member => (plain d member).2.2
    have colon : ∀ d ∈ (':' :: rest).head?, d.isDigit = false ∧ d ≠ '.' := by
      rintro d ⟨⟩
      decide
    rw [List.append_assoc, List.singleton_append, ips_bare groups colon, ips_colon]
    simp

theorem ips_breaks (breaks : Breaks text) (rest : Chars) : maskIps (text ++ rest) = maskIps text ++ maskIps rest := by
  rcases breaks with rfl | ⟨front, c, tail, rfl, alien, hangs⟩
  · rfl
  · have alone := ips_hangs hangs []
    have nothing : maskIps [] = [] := rfl
    rw [nothing, List.append_nil] at alone
    rw [List.append_assoc, List.cons_append, ips_append alien, ips_append alien, ips_hangs hangs, alone]
    simp

/-! ## The passes -/

theorem getLast?_nonempty {other : Chars} (last : other.getLast? = text.getLast?) (nonempty : text ≠ []) : other ≠ [] := by
  rintro rfl
  exact nonempty (List.getLast?_eq_none_iff.mp last.symm)

/-- A text without a letter that ends a URI has no whole URI. -/
theorem written_plain (all : ∀ c ∈ text, inUri c = true) (outside : (front text).openUri = none) :
    (front text).written = text := by
  induction text using uri_induction with
  | nil => rfl
  | letter c text plain ih =>
    rw [front_letter plain] at outside ⊢
    rw [ih (fun d member => all d (List.mem_cons_of_mem c member)) outside]
  | opened scheme u isScheme _ =>
    rw [front_opened isScheme (fun c member => all c (List.mem_append_right _ member))] at outside
    cases outside
  | closed scheme u d rest isScheme _ ends ih =>
    rw [all d (by simp)] at ends
    cases ends

theorem alien_of_end (ends : inUri c = false) : Alien c := by
  have all : ∀ d ∈ ['>', ' ', '\t', ',', '\r', '\n'], Alien d := forall_of_all (by decide)
  simp only [inUri, Bool.not_eq_false', List.contains_iff_mem] at ends
  exact all c ends

theorem breaks_written (outside : (front text).openUri = none) (breaks : Breaks text) : Breaks (front text).written := by
  induction text using uri_induction with
  | nil => exact breaks
  | letter c text plain ih =>
    rw [front_letter plain] at outside ⊢
    rcases breaks_cons breaks with ⟨alien, hangs⟩ | ⟨nonempty, breaks⟩
    · rw [written_plain (fun d member => (hangs.plain d member).1) outside]
      exact breaks
    · exact (ih outside breaks).prepend (getLast?_nonempty (written_last outside) nonempty) [c]
  | opened scheme u isScheme all =>
    rw [front_opened isScheme all] at outside
    cases outside
  | closed scheme u d rest isScheme all ends ih =>
    rw [front_closed isScheme all ends] at outside ⊢
    have tail : Breaks (d :: rest) := breaks.behind (alien_of_end ends) []
    exact (ih outside tail).prepend (getLast?_nonempty (written_last outside) (by simp)) _

theorem alien_quote : Alien '"' := by decide

theorem names_hangs {tail : Chars} (hangs : Hangs tail) : maskDisplayNames tail = tail := by
  have unquoted : '"' ∉ tail := fun member => (hangs.plain _ member).2.1 rfl
  have whole := names_plain unquoted []
  rw [List.append_nil] at whole
  exact whole.trans (List.append_nil tail)

theorem breaks_names (even : Even (text.count '"')) (breaks : Breaks text) : Breaks (maskDisplayNames text) := by
  induction text using quote_induction with
  | nil => exact breaks
  | letter c text other ih =>
    rw [List.count_cons_of_ne other] at even
    rw [names_letter other]
    rcases breaks_cons breaks with ⟨alien, hangs⟩ | ⟨nonempty, breaks⟩
    · rw [names_hangs hangs]
      exact breaks
    · exact (ih even breaks).prepend (getLast?_nonempty (names_last even) nonempty) [c]
  | opened name plain => exact absurd even (odd_open plain)
  | closed name text plain ih =>
    have fewer := (even_pair plain).mp even
    rw [names_pair plain]
    rcases breaks_cons (breaks.behind alien_quote []) with ⟨-, hangs⟩ | ⟨nonempty, breaks⟩
    · rw [names_hangs hangs]
      exact breaks_end alien_quote hangs _
    · have whole := (ih fewer breaks).prepend (getLast?_nonempty (names_last fewer) nonempty) ('"' :: maskUser name ++ ['"'])
      simpa using whole

/-! ## The place of a literal -/

/-- A letter that stands between words. -/
def Apart (c : Char) : Prop := c.isAlphanum = false ∧ c ∉ ".:[]%".toList

/-- The line in front of a literal does not run into it: it ends between two words, or in a
name that no address has and its colon. -/
def Separate (before : Chars) : Prop :=
  before = [] ∨ (∃ front c, before = front ++ [c] ∧ Apart c) ∨
    ∃ front c word, before = front ++ c :: (word ++ [':']) ∧ isTokenChar c = true ∧ Alien c ∧
      ∀ d ∈ word, isTokenChar d = true ∧ d ≠ '.'

theorem digit_alphanum {radix d : ℕ} (digit : toDigit radix c = some d) : c.isAlphanum = true := by
  unfold toDigit at digit
  dsimp only at digit
  rw [Option.filter_eq_some_iff] at digit
  have value := digit.1
  rw [alphanum_range]
  repeat' split at value
  all_goals first | omega | cases value

theorem apart_digit (apart : c.isAlphanum = false) (radix : ℕ) : toDigit radix c = none := by
  cases digit : toDigit radix c with
  | none => rfl
  | some d =>
    rw [digit_alphanum digit] at apart
    cases apart

theorem Apart.alien (apart : Apart c) : Alien c := by
  have other : ∀ d ∈ ".:[]%".toList, c ≠ d := by
    rintro d member rfl
    exact apart.2 member
  exact ⟨⟨apart_digit apart.1 16, other '.' (by decide), other ':' (by decide)⟩, other '[' (by decide),
    other ']' (by decide), other '%' (by decide)⟩

theorem token_inner (token : isTokenChar c = true) (dotless : c ≠ '.') : Plain c := by
  have other : ∀ d, isTokenChar d = false → c ≠ d := by
    rintro d none_ rfl
    rw [token] at none_
    cases none_
  have stays : inUri c = true := by
    have all : ∀ d ∈ ['>', ' ', '\t', ',', '\r', '\n'], isTokenChar d = false := forall_of_all (by decide)
    have inside : c ∉ ['>', ' ', '\t', ',', '\r', '\n'] := fun member => other c (all c member) rfl
    simpa [inUri] using inside
  exact ⟨stays, other '"' (by decide), other '[' (by decide), dotless⟩

variable {before behind : Chars}

theorem Separate.breaks (separate : Separate before) : Breaks before := by
  rcases separate with rfl | ⟨front, c, rfl, apart⟩ | ⟨front, c, word, rfl, -, alien, letters⟩
  · exact .inl rfl
  · exact breaks_end apart.alien (.inl rfl) front
  · exact breaks_end alien (.inr ⟨word, rfl, fun d member => token_inner (letters d member).1 (letters d member).2⟩) front

theorem Separate.seamless (separate : Separate before) (rest : Chars) : Seamless before rest := by
  rcases separate with rfl | ⟨front, c, rfl, apart⟩ | ⟨front, c, word, rfl, -, -, -⟩
  · intro s nonempty suffix
    exact absurd (List.suffix_nil.mp suffix) nonempty
  · refine seamless_of_last (fun d last => ?_) rest
    obtain rfl : c = d := by simpa using last
    refine ⟨?_, ?_, ?_⟩
    all_goals
      rintro rfl
      exact absurd apart.1 (by decide)
  · refine seamless_of_last (fun d last => ?_) rest
    have ends : (front ++ c :: (word ++ [':'])).getLast? = some ':' := by simp [List.getLast?_cons]
    obtain rfl : ':' = d := by simpa [ends] using last
    decide

/-- What the first pass writes in front of the piece. -/
def placeText (before : Chars) : Chars :=
  match placeOf before with
  | .copied written => written
  | .host written host => written ++ host

theorem breaks_place (breaks : Breaks before) : Breaks (placeText before) := by
  unfold placeText placeOf
  cases opened : (front before).openUri with
  | none => exact breaks_written opened breaks
  | some uri =>
    obtain ⟨scheme, u⟩ := uri
    obtain ⟨isScheme, -, prior, rfl⟩ := openUri_shape opened
    dsimp only
    split
    · next params =>
      split at params
      · next addr more cut =>
        cases params
        obtain ⟨rfl, plain⟩ := splitOnce_shape cut
        rw [maskBody_cut plain (by simp), ← List.append_assoc]
        rw [← List.append_assoc] at breaks
        exact breaks.behind (by decide) _
      · split at params <;> cases params
    · next written host hostPlace =>
      split at hostPlace
      · cases hostPlace
      · split at hostPlace
        · next user more cut =>
          cases hostPlace
          obtain ⟨rfl, -⟩ := splitOnce_shape cut
          rw [List.append_assoc, List.singleton_append]
          rw [← List.append_assoc] at breaks
          exact breaks.behind (by decide) _
        · cases hostPlace
          rw [List.append_assoc] at breaks ⊢
          rcases isScheme with rfl | rfl <;> exact breaks.behind (show Alien 's' by decide) _

/-- The piece is part of a quoted name of an identity header. -/
def Quoted (before behind : Chars) : Prop :=
  isIdentity before = true ∧ ¬ Even ((placeText before).count '"') ∧ '"' ∈ behind

theorem unquoted_literal {piece : Chars} (literal : Literal piece) : '"' ∉ piece := fun member =>
  (literal_plain (literal _ member)).2.2.2.2.1 rfl

/-- Where the first pass copies a piece, the last one meets it where it begins. -/
theorem copied_line {after : Chars} (separate : Separate before) (unquoted : ¬ Quoted before behind)
    (shape : Behind behind after) :
    ∃ above below, below.head? = behind.head? ∧ ∀ piece, Literal piece →
      laterPasses before (placeText before ++ (piece ++ after)) = above ++ maskIps (piece ++ below) := by
  have breaks := breaks_place separate.breaks
  by_cases identity : isIdentity before = true
  · by_cases even : Even ((placeText before).count '"')
    · refine ⟨maskIps (maskDisplayNames (placeText before)), maskDisplayNames after, ?_, fun piece literal => ?_⟩
      · rw [names_head, shape.head]
      · rw [laterPasses, if_pos identity, names_even even, names_plain (unquoted_literal literal),
          ips_breaks (breaks_names even breaks)]
    · have plain : '"' ∉ after := shape.unquoted fun member => unquoted ⟨identity, even, member⟩
      obtain ⟨whole, name, opened, -, stays⟩ := names_odd even
      have breaks' : Breaks (maskDisplayNames whole ++ '"' :: name) := by
        rw [opened] at breaks
        exact breaks.behind alien_quote _
      refine ⟨maskIps (maskDisplayNames whole ++ '"' :: name), after, shape.head, fun piece literal => ?_⟩
      have neither : '"' ∉ piece ++ after := by
        rw [List.mem_append]
        exact fun member => member.elim (unquoted_literal literal) plain
      rw [laterPasses, if_pos identity, stays _ neither, ips_breaks breaks']
  · refine ⟨maskIps (placeText before), after, shape.head, fun piece literal => ?_⟩
    rw [laterPasses, if_neg identity, ips_breaks breaks]

/-! ## The head of the line -/

/-- A literal has a dot or a bracket in front of its first colon, or only digits. -/
def Unnamed (piece : Chars) : Prop :=
  (∃ front sign rest, piece = front ++ sign :: rest ∧ ':' ∉ front ∧ (sign = '.' ∨ sign = '[')) ∨
    ∃ digits rest, piece = digits ++ ':' :: rest ∧ ∀ d ∈ digits, (toDigit 16 d).isSome = true

theorem isIdentity_cut {front : Chars} (plain : ':' ∉ front) (rest : Chars) :
    isIdentity (front ++ ':' :: rest) = identityHeads.contains (toAsciiUppercase (front.dropWhile isWhitespace)) := by
  have plain' : ':' ∉ front.dropWhile isWhitespace := fun member => plain ((List.dropWhile_suffix _).subset member)
  rw [isIdentity, dropWhile_cut (by decide), splitOnce_cut plain']

theorem mem_dropWhile {p : Char → Bool} (stays : p c = false) (member : c ∈ text) : c ∈ text.dropWhile p := by
  obtain ⟨front, rest, rfl⟩ := List.append_of_mem member
  rw [dropWhile_cut stays]
  simp

theorem toUpper_sign (sign : c.isAlphanum = false) : c.toUpper = c := by
  unfold Char.toUpper
  split
  · next range =>
    have letter : c.isAlphanum = true := by
      rw [alphanum_range]
      exact .inr (.inr ⟨UInt32.le_iff_toNat_le.mp range.1, UInt32.le_iff_toNat_le.mp range.2⟩)
    rw [letter] at sign
    cases sign
  · rfl

theorem hex_range : (toDigit 16 c).isSome = true ↔
    48 ≤ c.toNat ∧ c.toNat ≤ 57 ∨ 65 ≤ c.toNat ∧ c.toNat ≤ 70 ∨ 97 ≤ c.toNat ∧ c.toNat ≤ 102 := by
  unfold toDigit
  dsimp only
  repeat' split
  all_goals simp
  all_goals omega

theorem toUpper_digit (digit : (toDigit 16 c).isSome = true) : (toDigit 16 c.toUpper).isSome = true := by
  unfold Char.toUpper
  split
  · next range =>
    have low : 97 ≤ c.val.toNat := UInt32.le_iff_toNat_le.mp range.1
    have small : c.val.toNat < 2 ^ 32 := c.val.toNat_lt
    have difference : ('A'.val - 'a'.val).toNat = 2 ^ 32 - 32 := by decide
    have sum : (c.val + ('A'.val - 'a'.val)).toNat = c.val.toNat - 32 := by
      rw [UInt32.toNat_add, difference]
      omega
    rw [hex_range] at digit ⊢
    have upper : ∀ valid, (⟨c.val + ('A'.val - 'a'.val), valid⟩ : Char).toNat = c.val.toNat - 32 := fun _ => sum
    have same : c.toNat = c.val.toNat := rfl
    rw [upper]
    omega
  · exact digit

/-- Of the heads of identity headers none ends in a sign and digits. -/
theorem head_letter {head sign digits : Chars} (identity : head ∈ identityHeads) (shape : head = sign ++ digits)
    (hexadecimal : ∀ d ∈ digits, (toDigit 16 d).isSome = true) : ∃ d ∈ sign.getLast?, d.isAlphanum = true := by
  have all : ∀ head ∈ identityHeads,
      (head.reverse.dropWhile fun d => (toDigit 16 d).isSome).head?.any Char.isAlphanum = true := by
    decide
  obtain ⟨d, first, letter⟩ := (Option.any_eq_true _ _).mp (all head identity)
  have passed : ∀ d ∈ digits.reverse, (toDigit 16 d).isSome = true := by simpa using hexadecimal
  rw [shape, List.reverse_append, List.dropWhile_append_of_pos passed] at first
  rcases List.eq_nil_or_concat' sign with rfl | ⟨most, e, rfl⟩
  · cases first
  · refine ⟨e, by simp, ?_⟩
    cases digit : toDigit 16 e with
    | some v => exact digit_alphanum digit
    | none =>
      rw [List.reverse_append, List.reverse_singleton, List.singleton_append, List.dropWhile_cons_of_neg (by simp [digit])] at first
      obtain rfl : e = d := by simpa using first
      exact letter

/-- A dot or a bracket in front of the first colon is in no head. -/
theorem not_identity_sign {sign : Char} (plain : ':' ∉ text) (signs : sign = '.' ∨ sign = '[') (rest : Chars) :
    isIdentity (text ++ sign :: rest) = false := by
  by_contra yes
  rw [Bool.not_eq_false] at yes
  obtain ⟨first, more, shape, plain'⟩ := List.eq_append_cons_of_mem (isIdentity_named yes)
  have other : sign ≠ ':' ∧ sign.isAlphanum = false ∧ isWhitespace sign = false := by
    rcases signs with rfl | rfl <;> decide
  have member : sign ∈ first := mem_of_cut shape plain other.1
  rw [shape, isIdentity_cut plain', List.contains_iff_mem] at yes
  have inHead : sign ∈ toAsciiUppercase (first.dropWhile isWhitespace) := by
    rw [toAsciiUppercase, List.mem_map]
    exact ⟨sign, mem_dropWhile other.2.2 member, toUpper_sign other.2.1⟩
  have none_ : ∀ head ∈ identityHeads, '.' ∉ head ∧ '[' ∉ head := by decide
  rcases signs with rfl | rfl
  · exact (none_ _ yes).1 inHead
  · exact (none_ _ yes).2 inHead

/-- Behind a sign, digits and a colon end no head. -/
theorem not_identity_digits {digits : Chars} (separate : Separate before) (named : ':' ∉ before)
    (hexadecimal : ∀ d ∈ digits, (toDigit 16 d).isSome = true) (rest : Chars) :
    isIdentity (before ++ digits ++ ':' :: rest) = false := by
  by_contra yes
  rw [Bool.not_eq_false] at yes
  have letters : ∀ d ∈ digits, d.isAlphanum = true := by
    intro d member
    obtain ⟨v, digit⟩ := Option.isSome_iff_exists.mp (hexadecimal d member)
    exact digit_alphanum digit
  have neither : ':' ∉ before ++ digits := by
    rw [List.mem_append]
    exact fun member => member.elim named fun inDigits => absurd (letters ':' inDigits) (by decide)
  have visible : digits.dropWhile isWhitespace = digits := by
    refine dropWhile_stops fun d first => ?_
    exact alphanum_visible (letters d (List.mem_of_mem_head? first))
  have head : (before ++ digits).dropWhile isWhitespace = before.dropWhile isWhitespace ++ digits := by
    rw [List.dropWhile_append, visible]
    split
    · next none_ => rw [List.isEmpty_iff.mp none_, List.nil_append]
    · rfl
  have upper : ∀ d ∈ digits.map Char.toUpper, (toDigit 16 d).isSome = true := by
    intro d member
    obtain ⟨e, inDigits, rfl⟩ := List.mem_map.mp member
    exact toUpper_digit (hexadecimal e inDigits)
  rw [isIdentity_cut neither, List.contains_iff_mem, head, toAsciiUppercase, List.map_append] at yes
  -- A head has a letter in front of its last digits, and the text in front of them ends in a sign.
  obtain ⟨e, last, letter⟩ := head_letter yes rfl upper
  rw [List.getLast?_map, Option.mem_def, Option.map_eq_some_iff] at last
  obtain ⟨d, last, rfl⟩ := last
  obtain ⟨front, whole⟩ := List.dropWhile_suffix isWhitespace (l := before)
  have last' : before.getLast? = some d := by rw [← whole, List.getLast?_append, last]; rfl
  rcases separate with rfl | ⟨front, c, rfl, apart⟩ | ⟨front, c, word, rfl, -, -, -⟩
  · cases last'
  · obtain rfl : c = d := by simpa using last'
    rw [toUpper_sign apart.1, apart.1] at letter
    cases letter
  · exact named (by simp)

/-- The head of a line is not told by a literal in it. -/
theorem isIdentity_piece {piece : Chars} (separate : Separate before) (unnamed : Unnamed piece) (behind : Chars) :
    isIdentity (before ++ (piece ++ behind)) = isIdentity before := by
  by_cases named : ':' ∈ before
  · exact isIdentity_append named _
  · have no : isIdentity before = false := by
      by_contra yes
      exact named (isIdentity_named (by simpa using yes))
    rw [no]
    rcases unnamed with ⟨front, sign, rest, rfl, plain, signs⟩ | ⟨digits, rest, rfl, hexadecimal⟩
    · have neither : ':' ∉ before ++ front := by
        rw [List.mem_append]
        exact fun member => member.elim named plain
      rw [List.append_assoc, List.cons_append, ← List.append_assoc]
      exact not_identity_sign neither signs (rest ++ behind)
    · rw [List.append_assoc, List.cons_append, ← List.append_assoc]
      exact not_identity_digits separate named hexadecimal (rest ++ behind)

end Sipmon.Guarantees.LiteralPlaces
