import Sipmon.Guarantees.Attributes
import Sipmon.Guarantees.TextLines
import Sipmon.Source.TcpReasm

/-!
# Well-framed SIP messages

A message on a stream has header lines, a blank line and a body, as long as the first
field says that names its length. Here this is said without the reassembler; what the
reassembler reads of such a message is where its headers end and how long its body is.
-/
namespace Sipmon.Guarantees.FramedMessages
open Source Text TcpReassembler Attributes TextLines
open Lib.ByteReader (Bytes)

/-! ## Messages -/

def utf8 (text : Chars) : Bytes := text.flatMap String.utf8EncodeChar

/-- Lines with a line break between them. -/
def joined : List Chars → Chars
  | [] => []
  | [line] => line
  | line :: next :: rest => line ++ '\r' :: '\n' :: joined (next :: rest)

def Blank (text : Chars) : Prop := ∀ c ∈ text, isWhitespace c = true

/-- A field of this name and value, with white space around either. -/
def IsField (line name value : Chars) : Prop :=
  ∃ a b c d, (Blank a ∧ Blank b ∧ Blank c ∧ Blank d) ∧ line = a ++ name ++ b ++ ':' :: (c ++ value ++ d)

/-- The names of the length of the body, in any case. -/
def NamesLength (name : Chars) : Prop :=
  name.map Char.toLower = "content-length".toList ∨ name.map Char.toLower = "l".toList

def IsLength (line : Chars) : Prop := ∃ name value, IsField line name value ∧ NamesLength name

/-- The length is written in decimal digits. -/
def GivesLength (line : Chars) (n : Nat) : Prop :=
  ∃ name zeros, IsField line name (decimal zeros n) ∧ NamesLength name

/-- The first field that names the length announces it; without one there is no body. -/
inductive Announces : List Chars → Nat → Prop
  | silent : Announces [] 0
  | first {line rest n} : GivesLength line n → Announces (line :: rest) n
  | other {line rest n} : ¬ IsLength line → Announces rest n → Announces (line :: rest) n

/-- A message whose body is as long as announced. -/
structure Message where
  lines : List Chars
  body : Bytes
  headed : lines ≠ []
  visible : ∀ line ∈ lines, line ≠ [] ∧ '\r' ∉ line ∧ '\n' ∉ line
  measured : Announces lines body.length

/-- The bytes of a message: its lines, a blank line, its body. -/
def Message.wire (m : Message) : Bytes := utf8 (joined m.lines) ++ 13 :: 10 :: 13 :: 10 :: m.body

def WellFramed (msg : Bytes) : Prop := ∃ m : Message, m.wire = msg

/-! ## The length of the body -/

theorem lower_visible {word : Chars} (visible : ∀ d ∈ word, isWhitespace d = false ∧ d ≠ ':') {c : Char}
    (lower : c.toLower ∈ word) : isWhitespace c = false ∧ c ≠ ':' := by
  by_cases letter : c.isAlpha = true
  · refine ⟨alphanum_visible (by rw [Char.isAlphanum, letter, Bool.true_or]), ?_⟩
    rintro rfl
    exact absurd letter (by decide)
  · have same : c.toLower = c := (toLower_eq_iff (Bool.not_eq_true _ ▸ letter)).mpr rfl
    rw [same] at lower
    exact visible c lower

/-- The names of the length have no colon and nothing to trim. -/
theorem NamesLength.plain {name : Chars} (names : NamesLength name) :
    ∀ c ∈ name, isWhitespace c = false ∧ c ≠ ':' := by
  intro c member
  have lower : c.toLower ∈ name.map Char.toLower := List.mem_map_of_mem member
  rcases names with long | compact
  · rw [long] at lower
    exact lower_visible (Lib.Scan.forall_of_all (by decide)) lower
  · rw [compact] at lower
    exact lower_visible (Lib.Scan.forall_of_all (by decide)) lower

theorem eqIgnoreAsciiCase_names (name : Chars) :
    (eqIgnoreAsciiCase (String.ofList name) "content-length" || eqIgnoreAsciiCase (String.ofList name) "l") =
      true ↔ NamesLength name := by
  have long : toAsciiLowercase "content-length".toList = "content-length".toList := by decide
  have compact : toAsciiLowercase "l".toList = "l".toList := by decide
  rw [Bool.or_eq_true, eqIgnoreAsciiCase, eqIgnoreAsciiCase, beq_iff_eq, beq_iff_eq, String.toList_ofList,
    long, compact]
  rfl

/-- A line that names the length is read, whatever its value. -/
theorem contentLengthOf_field {line name value : Chars} (field : IsField line name value)
    (names : NamesLength name) : ∃ c d, Blank c ∧ Blank d ∧
      contentLengthOf line = some ((parseUnsigned (2 ^ 64) (trim (c ++ value ++ d))).getD 0) := by
  obtain ⟨a, b, c, d, ⟨blankA, blankB, blankC, blankD⟩, rfl⟩ := field
  have plain := names.plain
  have colonless : ':' ∉ a ++ name ++ b := by
    intro member
    rcases List.mem_append.mp member with front | space
    · rcases List.mem_append.mp front with space | letter
      · exact absurd (blankA ':' space) (by decide)
      · exact (plain ':' letter).2 rfl
    · exact absurd (blankB ':' space) (by decide)
  have trimmed : trim (a ++ name ++ b) = name := by
    refine trimWhere_eq_iff.mpr ⟨⟨fun c first => ?_, fun c last => ?_⟩, a, b, rfl, blankA, blankB⟩
    · exact (plain c (List.mem_of_mem_head? first)).1
    · exact (plain c (List.mem_of_mem_getLast? last)).1
  have named := (eqIgnoreAsciiCase_names name).mpr names
  refine ⟨c, d, blankC, blankD, ?_⟩
  unfold contentLengthOf
  rw [splitOnce_cut colonless]
  dsimp only
  rw [trimmed, if_pos named]

theorem contentLengthOf_gives {line : Chars} {n : Nat} (gives : GivesLength line n) (small : n < 2 ^ 64) :
    contentLengthOf line = some n := by
  obtain ⟨name, zeros, field, names⟩ := gives
  obtain ⟨c, d, blankC, blankD, read⟩ := contentLengthOf_field field names
  have trimmed : trim (c ++ decimal zeros n ++ d) = decimal zeros n :=
    trimWhere_eq_iff.mpr ⟨bare_decimal zeros n, c, d, rfl, blankC, blankD⟩
  rw [read, trimmed, parseUnsigned_decimal zeros n small, Option.getD_some]

/-- No other line is. -/
theorem contentLengthOf_eq_none_iff {line : Chars} : contentLengthOf line = none ↔ ¬ IsLength line := by
  constructor
  · rintro unread ⟨name, value, field, names⟩
    obtain ⟨c, d, _, _, read⟩ := contentLengthOf_field field names
    rw [unread] at read
    cases read
  · intro other
    unfold contentLengthOf
    cases cut : splitOnce ':' line with
    | none => rfl
    | some parts =>
      obtain ⟨name, value⟩ := parts
      dsimp only
      refine if_neg fun named => other ?_
      obtain ⟨_, a, b, shape, blankA, blankB⟩ := trimWhere_eq_iff.mp (rfl : trim name = trim name)
      have empty : Blank [] := fun c member => absurd member List.not_mem_nil
      refine ⟨trim name, value, ⟨a, b, [], [], ⟨blankA, blankB, empty, empty⟩, ?_⟩,
        (eqIgnoreAsciiCase_names _).mp named⟩
      rw [← shape, List.nil_append, List.append_nil]
      exact (splitOnce_shape cut).1

theorem findSome?_announced {lines : List Chars} {n : Nat} (announces : Announces lines n)
    (small : n < 2 ^ 64) : (lines.findSome? contentLengthOf).getD 0 = n := by
  induction announces with
  | silent => rfl
  | first gives => rw [List.findSome?_cons, contentLengthOf_gives gives small, Option.getD_some]
  | other plain _ ih =>
    rw [List.findSome?_cons, contentLengthOf_eq_none_iff.mpr plain]
    exact ih small

/-! ## The header block -/

theorem fromUtf8Lossy_utf8 (text : Chars) : fromUtf8Lossy (utf8 text) = String.ofList text := by
  have bytes : (String.ofList text).toUTF8.data.toList = utf8 text := by
    rw [String.toUTF8, String.toByteArray_ofList]
    exact List.toList_data_toByteArray
  rw [fromUtf8Lossy, ← bytes, fromUtf8_toUTF8, Option.getD_some]

/-- The lines of a header block. -/
theorem lines_joined {headers : List Chars} (visible : ∀ line ∈ headers, line ≠ [] ∧ '\r' ∉ line ∧ '\n' ∉ line) :
    lines (joined headers) = headers := by
  induction headers using joined.induct with
  | case1 => rfl
  | case2 line =>
    obtain ⟨nonempty, _, plain⟩ := visible line List.mem_cons_self
    rw [joined, lines_plain plain, if_neg nonempty]
  | case3 line next rest ih =>
    obtain ⟨_, _, plain⟩ := visible line List.mem_cons_self
    have carried : '\n' ∉ line ++ ['\r'] := by simp [plain]
    have cut : lines ((line ++ ['\r']) ++ '\n' :: joined (next :: rest)) =
        uncarried (line ++ ['\r']) :: lines (joined (next :: rest)) := lines_cut carried
    rw [List.append_assoc, List.singleton_append, uncarried_append] at cut
    rw [joined, cut, ih fun other member => visible other (List.mem_cons_of_mem line member)]

theorem extractContentLength_joined {headers : List Chars} {n : Nat}
    (visible : ∀ line ∈ headers, line ≠ [] ∧ '\r' ∉ line ∧ '\n' ∉ line) (announces : Announces headers n)
    (small : n < 2 ^ 64) : extractContentLength (utf8 (joined headers)) = n := by
  rw [extractContentLength, fromUtf8Lossy_utf8, String.toList_ofList, lines_joined visible,
    findSome?_announced announces small]

/-! ## The blank line -/

/-- A byte below 128 is the letter itself. -/
theorem mem_utf8EncodeChar {c : Char} {b : UInt8} (member : b ∈ String.utf8EncodeChar c)
    (ascii : b.toNat < 128) : c.toNat = b.toNat := by
  unfold String.utf8EncodeChar at member
  have same : c.toNat = c.val.toNat := rfl
  dsimp only at member
  split at member
  · obtain rfl := List.mem_singleton.mp member
    rw [UInt8.toNat_ofNat']
    omega
  · exfalso
    split at member
    · rcases List.mem_pair.mp member with rfl | rfl <;> rw [UInt8.toNat_ofNat'] at ascii <;> omega
    · split at member <;> simp only [List.mem_cons, List.not_mem_nil, or_false] at member
      · rcases member with rfl | rfl | rfl <;> rw [UInt8.toNat_ofNat'] at ascii <;> omega
      · rcases member with rfl | rfl | rfl | rfl <;> rw [UInt8.toNat_ofNat'] at ascii <;> omega

theorem carriage_not_mem_utf8 {text : Chars} (plain : '\r' ∉ text) : 13 ∉ utf8 text := by
  intro member
  obtain ⟨c, listed, byte⟩ := List.mem_flatMap.mp member
  have code := mem_utf8EncodeChar byte (by decide)
  have carriage : c = '\r' := Char.toNat_inj.mp code
  exact plain (carriage ▸ listed)

/-- Bytes without a carriage return are passed over. -/
theorem findDoubleCrlf_skip {front : Bytes} (plain : 13 ∉ front) (rest : Bytes) :
    findDoubleCrlf (front ++ rest) = (findDoubleCrlf rest).map (· + front.length) := by
  induction front with
  | nil => simp
  | cons b front ih =>
    rw [List.mem_cons, not_or] at plain
    have other : [13, 10, 13, 10].isPrefixOf (b :: (front ++ rest)) = false := by
      rw [List.isPrefixOf, beq_eq_false_iff_ne.mpr plain.1, Bool.false_and]
    rw [List.cons_append, findDoubleCrlf, other, if_neg Bool.false_ne_true, ih plain.2, Option.map_map]
    rfl

/-- A line break with a line behind it is passed over. -/
theorem findDoubleCrlf_break {b : UInt8} (other : b ≠ 13) (rest : Bytes) :
    findDoubleCrlf (13 :: 10 :: b :: rest) = (findDoubleCrlf (b :: rest)).map (· + 2) := by
  have differs : (13 == b) = false := beq_eq_false_iff_ne.mpr other.symm
  have here : [13, 10, 13, 10].isPrefixOf (13 :: 10 :: b :: rest) = false := by
    simp [List.isPrefixOf, differs]
  have next : [13, 10, 13, 10].isPrefixOf (10 :: b :: rest) = false := by
    simp [List.isPrefixOf]
  rw [findDoubleCrlf, here, if_neg Bool.false_ne_true, findDoubleCrlf, next, if_neg Bool.false_ne_true,
    Option.map_map]
  rfl

/-- What is joined begins with the first byte of its first line. -/
theorem utf8_joined_start {next : Chars} (nonempty : next ≠ []) (plain : '\r' ∉ next) (rest : List Chars) :
    ∃ b bytes, utf8 (joined (next :: rest)) = b :: bytes ∧ b ≠ 13 := by
  obtain ⟨tail, front⟩ : ∃ tail, joined (next :: rest) = next ++ tail := by
    cases rest with
    | nil => exact ⟨[], (List.append_nil next).symm⟩
    | cons other rest => exact ⟨_, rfl⟩
  obtain ⟨c, more, rfl⟩ := List.exists_cons_of_ne_nil nonempty
  have some_ : String.utf8EncodeChar c ≠ [] := String.utf8EncodeChar_ne_nil
  obtain ⟨b, bytes, encoded⟩ := List.exists_cons_of_ne_nil some_
  refine ⟨b, bytes ++ utf8 (more ++ tail), ?_, ?_⟩
  · rw [front, List.cons_append, utf8, List.flatMap_cons, encoded]
    rfl
  · rintro rfl
    refine carriage_not_mem_utf8 plain ?_
    rw [utf8, List.flatMap_cons, encoded]
    exact List.mem_cons_self

/-- The blank line is the one behind the headers. -/
theorem findDoubleCrlf_joined {headers : List Chars} (headed : headers ≠ [])
    (visible : ∀ line ∈ headers, line ≠ [] ∧ '\r' ∉ line ∧ '\n' ∉ line) (body : Bytes) :
    findDoubleCrlf (utf8 (joined headers) ++ 13 :: 10 :: 13 :: 10 :: body) =
      some (utf8 (joined headers)).length := by
  induction headers using joined.induct with
  | case1 => exact absurd rfl headed
  | case2 line =>
    obtain ⟨_, plain, _⟩ := visible line List.mem_cons_self
    have blank : findDoubleCrlf (13 :: 10 :: 13 :: 10 :: body) = some 0 := by
      simp [findDoubleCrlf, List.isPrefixOf]
    rw [joined, findDoubleCrlf_skip (carriage_not_mem_utf8 plain), blank, Option.map_some, Nat.zero_add]
  | case3 line next rest ih =>
    obtain ⟨_, plain, _⟩ := visible line List.mem_cons_self
    obtain ⟨nonempty, carriageless, _⟩ := visible next (by simp)
    have later := ih (by simp) fun other member => visible other (List.mem_cons_of_mem line member)
    obtain ⟨b, bytes, start, other⟩ := utf8_joined_start nonempty carriageless rest
    have split : utf8 (joined (line :: next :: rest)) = utf8 line ++ 13 :: 10 :: b :: bytes := by
      rw [← start, joined, utf8, List.flatMap_append]
      rfl
    rw [start, List.cons_append] at later
    rw [split, List.append_assoc, findDoubleCrlf_skip (carriage_not_mem_utf8 plain)]
    simp only [List.cons_append]
    rw [findDoubleCrlf_break other, later]
    simp only [Option.map_some, List.length_append, List.length_cons, Option.some.injEq]
    omega

theorem Message.findDoubleCrlf_wire (m : Message) :
    findDoubleCrlf m.wire = some (utf8 (joined m.lines)).length :=
  findDoubleCrlf_joined m.headed m.visible m.body

theorem Message.extractContentLength_headers (m : Message) (small : m.body.length < 2 ^ 64) :
    extractContentLength (utf8 (joined m.lines)) = m.body.length :=
  extractContentLength_joined m.visible m.measured small

end Sipmon.Guarantees.FramedMessages
