import Sipmon.Lib.ByteReader

/-!
# Rust string operations used by the decoders

Operations of `str` and `char` on the characters of a string, under the names of
the standard library in this project's case convention.
-/
namespace Sipmon.Source.Text
open Lib.ByteReader (Bytes)

abbrev Chars := List Char

/-- `char::is_whitespace`: the Unicode White_Space property. -/
def isWhitespace (ch : Char) : Bool :=
  let n := ch.toNat
  (9 ≤ n && n ≤ 13) || n == 0x20 || n == 0x85 || n == 0xa0 || n == 0x1680 ||
    (0x2000 ≤ n && n ≤ 0x200a) || n == 0x2028 || n == 0x2029 || n == 0x202f || n == 0x205f ||
    n == 0x3000

/-- `str::trim_matches` with a character predicate. -/
def trimWhere (p : Char → Bool) (text : Chars) : Chars :=
  ((text.dropWhile p).reverse.dropWhile p).reverse

def trim (text : Chars) : Chars := trimWhere isWhitespace text
def trimMatches (ch : Char) (text : Chars) : Chars := trimWhere (· == ch) text

/-- `text.split(ch).next()`: everything before the first `ch`. -/
def beforeFirst (ch : Char) (text : Chars) : Chars := text.takeWhile (· != ch)

/-- The text after the first `ch`, when there is one. -/
def afterFirst (ch : Char) : Chars → Option Chars
  | [] => none
  | c :: rest => if c == ch then some rest else afterFirst ch rest

/-- `str::split_once`. -/
def splitOnce (ch : Char) (text : Chars) : Option (Chars × Chars) :=
  (afterFirst ch text).map fun after => (beforeFirst ch text, after)

/-- Everything before the last `ch`, when there is one (`&s[..s.rfind(ch)?]`). -/
def beforeLast (ch : Char) (text : Chars) : Option Chars :=
  (afterFirst ch text.reverse).map List.reverse

/-- `str::strip_prefix`. -/
def stripPrefix (pat text : Chars) : Option Chars :=
  if pat.isPrefixOf text then some (text.drop pat.length) else none

/-- The text after the first occurrence of `needle` (`&s[s.find(needle)? + len..]`). -/
def afterNeedle (needle : Chars) : Chars → Option Chars
  | [] => if needle.isEmpty then some [] else none
  | c :: rest =>
    if needle.isPrefixOf (c :: rest) then some ((c :: rest).drop needle.length)
    else afterNeedle needle rest

/-- `str::contains` with a string pattern. -/
def contains (needle text : Chars) : Bool := (afterNeedle needle text).isSome

/-- The pieces between occurrences of `ch` (`str::split`). -/
def split (ch : Char) : Chars → List Chars
  | [] => [[]]
  | c :: rest =>
    if c == ch then [] :: split ch rest
    else match split ch rest with
      | piece :: pieces => (c :: piece) :: pieces
      | [] => [[c]]

/-- `str::lines`: a line loses its line feed and one carriage return before it; a
final line counts only when it is not empty. -/
def lines (text : Chars) : List Chars :=
  let pieces := split '\n' text
  let last := pieces.getLast?.getD []
  let terminated := pieces.dropLast.map fun line =>
    if line.getLast? = some '\r' then line.dropLast else line
  if last.isEmpty then terminated else terminated ++ [last]

/-- `str::split_whitespace`. -/
def splitWhitespace (text : Chars) : List Chars :=
  (text.splitBy fun a b => isWhitespace a == isWhitespace b).filter
    fun piece => piece.head?.any (!isWhitespace ·)

/-- `str::parse` for an unsigned integer below `bound`: one optional plus sign,
then decimal digits. -/
def parseUnsigned (bound : Nat) (text : Chars) : Option Nat :=
  let digits := (stripPrefix ['+'] text).getD text
  if digits.isEmpty || !digits.all Char.isDigit then none
  else
    let n := digits.foldl (fun acc ch => acc * 10 + (ch.toNat - '0'.toNat)) 0
    if n < bound then some n else none

def toAsciiLowercase (text : Chars) : Chars := text.map Char.toLower
def toAsciiUppercase (text : Chars) : Chars := text.map Char.toUpper

/-- `str::eq_ignore_ascii_case`. -/
def eqIgnoreAsciiCase (a b : String) : Bool :=
  toAsciiLowercase a.toList == toAsciiLowercase b.toList

/-- One text does not match two names that differ. -/
theorem eqIgnoreAsciiCase_left {text a b : String} (isA : eqIgnoreAsciiCase text a = true) :
    eqIgnoreAsciiCase text b = eqIgnoreAsciiCase a b := by
  unfold eqIgnoreAsciiCase at *
  rw [eq_of_beq isA]

/-! ## UTF-8 -/

/-- Whether a well-formed UTF-8 sequence stands at the front and its length, or
else the length of the ill-formed part one U+FFFD replaces (`Utf8Chunks`). -/
def utf8Front : Bytes → Bool × Nat
  | [] => (true, 0)
  | lead :: rest =>
    let tail := fun i : Nat => (rest.getD i 0).toNat
    let follows := fun i : Nat => 0x80 ≤ tail i && tail i ≤ 0xbf
    let b := lead.toNat
    -- the second byte is restricted after E0, ED, F0 and F4
    let second := match b with
      | 0xe0 => 0xa0 ≤ tail 0 && tail 0 ≤ 0xbf
      | 0xed => 0x80 ≤ tail 0 && tail 0 ≤ 0x9f
      | 0xf0 => 0x90 ≤ tail 0 && tail 0 ≤ 0xbf
      | 0xf4 => 0x80 ≤ tail 0 && tail 0 ≤ 0x8f
      | _ => follows 0
    if b < 0x80 then (true, 1)
    else if 0xc2 ≤ b ∧ b ≤ 0xdf then (if follows 0 then (true, 2) else (false, 1))
    else if 0xe0 ≤ b ∧ b ≤ 0xef then
      (if !second then (false, 1) else if follows 1 then (true, 3) else (false, 2))
    else if 0xf0 ≤ b ∧ b ≤ 0xf4 then
      (if !second then (false, 1)
        else if !follows 1 then (false, 2)
        else if follows 2 then (true, 4) else (false, 3))
    else (false, 1)

/-- Sequence by sequence, at most `fuel` of them; every sequence takes a byte. -/
def lossyPieces : Nat → Bytes → String
  | 0, _ => ""
  | _, [] => ""
  | fuel + 1, bs =>
    let (_, n) := utf8Front bs
    ((String.fromUTF8? ⟨(bs.take n).toArray⟩).getD "\uFFFD") ++ lossyPieces fuel (bs.drop n)

/-- `std::str::from_utf8`. -/
def fromUtf8 (bs : Bytes) : Option String := String.fromUTF8? ⟨bs.toArray⟩

theorem fromUtf8_toUTF8 (text : String) : fromUtf8 text.toUTF8.data.toList = some text := by
  rw [fromUtf8, String.fromUTF8?, Array.toArray_toList]
  exact dif_pos text.isValidUTF8

/-- `String::from_utf8_lossy`. -/
def fromUtf8Lossy (bs : Bytes) : String := (fromUtf8 bs).getD (lossyPieces bs.length bs)

end Sipmon.Source.Text
