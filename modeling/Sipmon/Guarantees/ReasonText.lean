import Sipmon.Guarantees.Attributes
import Sipmon.Guarantees.TextLines

/-!
# Reading a Reason header

`extractAttr` ends a value at a separator, inside quotes too, and finds `cause=` by
text. A reason text is read whole exactly when it has no separator, and, if it stands in
front of the cause, nothing in it passes for another cause.
-/
namespace Sipmon.Guarantees.ReasonText
open Lib.ByteReader (Bytes)
open Lib.Scan Source Text Attributes TextLines

inductive Order where
  | causeFirst | textFirst
  deriving DecidableEq

/-- A Reason header: its text has no quotes and no line breaks. -/
structure ReasonHeader where
  protocol : Chars
  cause : UInt32
  text : Chars
  order : Order
  token : ∀ c ∈ protocol, isTokenChar c = true
  plain : ∀ c ∈ text, c ≠ '"' ∧ c ≠ '\n' ∧ c ≠ '\r'

namespace ReasonHeader

variable (r : ReasonHeader)

def digits : Chars := Nat.toDigits 10 r.cause.toNat
def quoted : Chars := '"' :: r.text ++ ['"']
def causeParam : Chars := "cause".toList ++ '=' :: r.digits
def textParam : Chars := "text".toList ++ '=' :: r.quoted

def params : Chars :=
  match r.order with
  | .causeFirst => r.causeParam ++ ';' :: r.textParam
  | .textFirst => r.textParam ++ ';' :: r.causeParam

def value : Chars := r.protocol ++ ';' :: r.params
def line : Chars := "Reason:".toList ++ ' ' :: r.value

/-- Every message whose first Reason header is this one gives its cause and its text. -/
def Complete : Prop :=
  ∀ raw text before after, fromUtf8 raw = some text → lines text.toList = before ++ r.line :: after →
    (∀ line ∈ before, ¬ "Reason:".toList <+: line) →
    reasonFromRaw raw = some (r.cause, String.ofList r.text)

/-- The text has no separator, and a text in front of the cause has no `cause=` of its
own, unless what follows it is the same number. -/
def Legible : Prop :=
  (∀ c ∈ r.text, c ∉ separators) ∧
    (r.order = .textFirst → ∀ rest, FirstAt id "cause=".toList r.text rest →
      parseUnsigned (2 ^ 32) rest = some r.cause.toNat)

end ReasonHeader

variable (r : ReasonHeader)

/-! ## The digits of the cause -/

theorem mem_digits {c : Char} (member : c ∈ r.digits) : c.isDigit = true :=
  isDigit_of_mem_decimal 0 _ member

theorem digits_ne_nil : r.digits ≠ [] := Nat.toDigits_ne_nil

theorem parse_lt {bound n : ℕ} {text : Chars} (parsed : parseUnsigned bound text = some n) : n < bound := by
  unfold parseUnsigned at parsed
  simp only [] at parsed
  split at parsed
  · cases parsed
  · split at parsed
    · next small => exact Option.some.inj parsed ▸ small
    · cases parsed

theorem parse_digits : parseUnsigned (2 ^ 32) r.digits = some r.cause.toNat :=
  parseUnsigned_decimal 0 _ r.cause.toNat_lt

/-! ## The value of the header -/

theorem last_value {c : Char} (last : c ∈ r.value.getLast?) : isWhitespace c = false := by
  cases order : r.order with
  | causeFirst =>
    have shape : r.value = (r.protocol ++ ';' :: r.causeParam ++ ";text=\"".toList ++ r.text) ++ ['"'] := by
      simp [ReasonHeader.value, ReasonHeader.params, order, ReasonHeader.textParam, ReasonHeader.quoted]
    rw [shape, List.getLast?_append] at last
    obtain rfl : '"' = c := by simpa using last
    decide
  | textFirst =>
    have shape : r.value = (r.protocol ++ ';' :: r.textParam ++ ";cause=".toList) ++ r.digits := by
      simp [ReasonHeader.value, ReasonHeader.params, order, ReasonHeader.causeParam]
    rw [shape, List.getLast?_append_of_ne_nil _ (digits_ne_nil r)] at last
    exact (digit_plain (mem_digits r (List.mem_of_mem_getLast? last))).2.2.2.2

theorem bare_value : Bare isWhitespace r.value := by
  refine ⟨fun c first => ?_, fun c => last_value r⟩
  rw [ReasonHeader.value, List.head?_append] at first
  cases start : r.protocol.head? with
  | none =>
    obtain rfl : ';' = c := by simpa [start] using first
    decide
  | some d =>
    obtain rfl : d = c := by simpa [start] using first
    exact (token_plain (r.token d (List.mem_of_mem_head? start))).2.2.2

theorem trim_value : trim (' ' :: r.value) = r.value :=
  trimWhere_eq_iff.mpr ⟨bare_value r, [' '], [], by simp, forall_of_all (by decide), by simp⟩

theorem reasonFromLine_line :
    reasonFromLine r.line = ((extractAttr r.value "cause".toList).bind (parseUnsigned (2 ^ 32))).map
      fun cause => (UInt32.ofNat cause,
        String.ofList (((extractAttr r.value "text".toList).map (trimMatches '"')).getD [])) := by
  have stripped : stripPrefix "Reason:".toList r.line = some (' ' :: r.value) := by
    have front : "Reason:".toList.isPrefixOf r.line = true :=
      List.isPrefixOf_iff_prefix.mpr (List.prefix_append ..)
    rw [stripPrefix, if_pos front]
    rfl
  rw [reasonFromLine, stripped]
  simp only [Option.bind_eq_bind, Option.bind_some, trim_value]
  cases (extractAttr r.value "cause".toList).bind (parseUnsigned (2 ^ 32)) <;> rfl

/-! ## The two attributes -/

/-- The text up to its first separator. -/
def cut (text : Chars) : Chars := text.takeWhile fun ch => !(separators.contains ch)

theorem cut_eq_self_iff {text : Chars} : cut text = text ↔ ∀ c ∈ text, c ∉ separators := by
  rw [cut, List.takeWhile_eq_self_iff]
  simp

theorem bare_of_unquoted {v : Chars} (plain : '"' ∉ v) : Bare (· == '"') v := by
  refine ⟨fun c first => ?_, fun c last => ?_⟩
  · rw [beq_eq_false_iff_ne]
    rintro rfl
    exact plain (List.mem_of_mem_head? first)
  · rw [beq_eq_false_iff_ne]
    rintro rfl
    exact plain (List.mem_of_mem_getLast? last)

/-- A text between quotes, and what stands behind it. -/
theorem valueOf_quoted {text opening tail : Chars} (plain : '"' ∉ text) (quotes : ∀ c ∈ opening, c = '"')
    (ends : Separated tail) : valueOf (opening ++ text ++ '"' :: tail) = cut text := by
  have unquoted : '"' ∉ cut text := fun member => plain ((List.takeWhile_prefix _).subset member)
  have whole : cut text ++ text.dropWhile (fun ch => !(separators.contains ch)) = text :=
    List.takeWhile_append_dropWhile
  rw [valueOf_eq_iff]
  refine ⟨bare_of_unquoted unquoted, fun c member => by simpa using List.mem_takeWhile_imp member, opening, ?_⟩
  cases more : text.dropWhile (fun ch => !(separators.contains ch)) with
  | nil =>
    rw [more, List.append_nil] at whole
    exact ⟨['"'], tail, by simp [whole], quotes, by simp, ends⟩
  | cons c rest =>
    rw [more] at whole
    refine ⟨[], c :: rest ++ '"' :: tail, ?_, quotes, by simp, ?_⟩
    · conv_lhs => rw [← whole]
      simp
    · intro d first
      have inFront : c ∈ (text.dropWhile fun ch => !(separators.contains ch)).head? := by
        rw [more]
        rfl
      have stops := head_dropWhile c inFront
      obtain rfl : c = d := by simpa using first
      simpa using stops

theorem valueOf_digits {tail : Chars} (ends : Separated tail) : valueOf (r.digits ++ tail) = r.digits :=
  valueOf_eq_iff.mpr (Spells.of_bare (fun _ member =>
    have plain := digit_plain (mem_digits r member)
    ⟨plain.2.2.2.1, plain.2.2.1⟩) ends)

/-- The text behind the first `cause=`. -/
def causeRest : Chars :=
  match r.order with
  | .causeFirst => r.digits ++ ';' :: r.textParam
  | .textFirst => ((after id "cause=".toList r.text).map (· ++ '"' :: ';' :: r.causeParam)).getD r.digits

/-- The first sign of the header stands behind the name of its first parameter. -/
theorem after_first {word name rest : Chars} (unmarked : '=' ∉ word) (plain : '=' ∉ name) :
    after id (word ++ ['=']) (r.protocol ++ ';' :: name ++ '=' :: rest) =
      if word <:+ r.protocol ++ ';' :: name then some rest else after id (word ++ ['=']) rest := by
  have signless : '=' ∉ r.protocol ++ ';' :: name := by
    intro member
    rcases List.mem_append.mp member with front | back
    · exact (token_plain (r.token _ front)).1 rfl
    · exact plain (by simpa using back)
  exact after_sign unmarked signless

theorem not_suffix {word front : Chars} {c d : Char} (different : c ≠ d) : ¬ word ++ [c] <:+ front ++ [d] := by
  rintro ⟨tail, joined⟩
  have last := congrArg List.getLast? joined
  simp only [← List.append_assoc, List.getLast?_concat, Option.some.injEq] at last
  exact different last

theorem extract_cause : extractAttr r.value "cause".toList = some (valueOf (causeRest r)) := by
  rw [extractAttr_eq]
  cases order : r.order with
  | causeFirst =>
    have shape : r.value = r.protocol ++ ';' :: "cause".toList ++ '=' :: (r.digits ++ ';' :: r.textParam) := by
      simp [ReasonHeader.value, ReasonHeader.params, order, ReasonHeader.causeParam]
    have here : "cause".toList <:+ r.protocol ++ ';' :: "cause".toList := ⟨r.protocol ++ [';'], by simp⟩
    rw [shape, after_first r (by decide) (by decide), if_pos here, causeRest, order]
    rfl
  | textFirst =>
    have shape : r.value = r.protocol ++ ';' :: "text".toList ++ '=' ::
        ([] ++ '"' :: (r.text ++ '"' :: ([] ++ ';' :: r.causeParam))) := by
      simp [ReasonHeader.value, ReasonHeader.params, order, ReasonHeader.textParam, ReasonHeader.quoted]
    have apart : ¬ "cause".toList <:+ r.protocol ++ ';' :: "text".toList := by
      have different : ¬ "caus".toList ++ ['e'] <:+ (r.protocol ++ ";tex".toList) ++ ['t'] := not_suffix (by decide)
      simpa using different
    have own : after id ("cause".toList ++ ['=']) r.causeParam = some r.digits := by
      rw [ReasonHeader.causeParam, after_sign (by decide) (by decide), if_pos (List.suffix_refl _)]
    have nothing : after id ("cause".toList ++ ['=']) ([] : Chars) = none := rfl
    rw [shape, after_first r (by decide) (by decide), if_neg apart, after_break (by decide) (by simp), nothing,
      after_break (by decide) (by simp), after_break (by decide) (by simp), nothing, own, causeRest, order]
    have whole : "cause=".toList = "cause".toList ++ ['='] := by decide
    rw [← whole]
    cases after id "cause=".toList r.text <;> rfl

theorem unquoted_text : '"' ∉ r.text := fun member => (r.plain _ member).1 rfl

theorem extract_text : extractAttr r.value "text".toList = some (cut r.text) := by
  rw [extractAttr_eq]
  cases order : r.order with
  | causeFirst =>
    have shape : r.value = r.protocol ++ ';' :: "cause".toList ++ '=' ::
        (r.digits ++ ';' :: "text".toList ++ '=' :: r.quoted) := by
      simp [ReasonHeader.value, ReasonHeader.params, order, ReasonHeader.causeParam, ReasonHeader.textParam]
    have apart : ¬ "text".toList <:+ r.protocol ++ ';' :: "cause".toList := by
      have different : ¬ "tex".toList ++ ['t'] <:+ (r.protocol ++ ";caus".toList) ++ ['e'] := not_suffix (by decide)
      simpa using different
    have signless : '=' ∉ r.digits ++ ';' :: "text".toList := by
      intro member
      rcases List.mem_append.mp member with front | back
      · exact (digit_plain (mem_digits r front)).2.1 rfl
      · exact absurd back (by decide)
    have here : "text".toList <:+ r.digits ++ ';' :: "text".toList := ⟨r.digits ++ [';'], by simp⟩
    have quoted : valueOf (['"'] ++ r.text ++ '"' :: []) = cut r.text :=
      valueOf_quoted (unquoted_text r) (by simp) (by simp [Separated])
    rw [shape, after_first r (by decide) (by decide), if_neg apart, after_sign (by decide) signless, if_pos here,
      Option.map_some]
    exact congrArg some quoted
  | textFirst =>
    have shape : r.value = r.protocol ++ ';' :: "text".toList ++ '=' ::
        (['"'] ++ r.text ++ '"' :: ';' :: r.causeParam) := by
      simp [ReasonHeader.value, ReasonHeader.params, order, ReasonHeader.textParam, ReasonHeader.quoted]
    have here : "text".toList <:+ r.protocol ++ ';' :: "text".toList := ⟨r.protocol ++ [';'], by simp⟩
    have quoted : valueOf (['"'] ++ r.text ++ '"' :: ';' :: r.causeParam) = cut r.text :=
      valueOf_quoted (unquoted_text r) (by simp) (by simp [Separated, separators])
    rw [shape, after_first r (by decide) (by decide), if_pos here, Option.map_some, quoted]

/-- What is read of the header: the text up to its first separator. -/
theorem reasonFromLine_eq :
    reasonFromLine r.line = (parseUnsigned (2 ^ 32) (valueOf (causeRest r))).map
      fun cause => (UInt32.ofNat cause, String.ofList (cut r.text)) := by
  have unquoted : '"' ∉ cut r.text := fun member => unquoted_text r ((List.takeWhile_prefix _).subset member)
  have kept : trimMatches '"' (cut r.text) = cut r.text :=
    trimWhere_eq_iff.mpr ⟨bare_of_unquoted unquoted, [], [], by simp, by simp, by simp⟩
  rw [reasonFromLine_line, extract_cause, extract_text, Option.bind_some, Option.map_some, kept]
  rfl

/-- With a text of one piece, the cause is read unless the text shows another one first. -/
theorem read_cause_iff (whole : ∀ c ∈ r.text, c ∉ separators) :
    parseUnsigned (2 ^ 32) (valueOf (causeRest r)) = some r.cause.toNat ↔
      (r.order = .textFirst → ∀ rest, FirstAt id "cause=".toList r.text rest →
        parseUnsigned (2 ^ 32) rest = some r.cause.toNat) := by
  rw [causeRest]
  cases r.order with
  | causeFirst =>
    have ends : Separated (';' :: r.textParam) := by simp [Separated, separators]
    have read : parseUnsigned (2 ^ 32) (valueOf (r.digits ++ ';' :: r.textParam)) = some r.cause.toNat := by
      rw [valueOf_digits r ends, parse_digits]
    exact iff_of_true read (fun order => by cases order)
  | textFirst =>
    simp only [forall_true_left, ← after_eq_some_iff]
    cases shown : after id "cause=".toList r.text with
    | none =>
      have own : valueOf (r.digits ++ []) = r.digits := valueOf_digits r (by simp [Separated])
      rw [List.append_nil] at own
      have read : parseUnsigned (2 ^ 32) (valueOf r.digits) = some r.cause.toNat := by
        rw [own, parse_digits]
      exact iff_of_true read (fun rest none_ => by cases none_)
    | some rest =>
      obtain ⟨front, ⟨found, split, -⟩, -⟩ := after_eq_some_iff.mp shown
      have inside : ∀ c ∈ rest, c ∈ r.text := by
        intro c member
        rw [split]
        exact List.mem_append_right _ member
      have read : valueOf ([] ++ rest ++ '"' :: ';' :: r.causeParam) = cut rest :=
        valueOf_quoted (fun quote => unquoted_text r (inside _ quote)) (by simp) (by simp [Separated, separators])
      rw [cut_eq_self_iff.mpr fun c member => whole c (inside c member), List.nil_append] at read
      simp [read]

theorem linefeed_free : '\n' ∉ r.line := by
  have protocol : '\n' ∉ r.protocol := by
    intro member
    exact absurd (r.token _ member) (by decide)
  have cause : '\n' ∉ r.causeParam := by
    rw [ReasonHeader.causeParam, List.mem_append, List.mem_cons]
    rintro (front | front | member)
    · exact absurd front (by decide)
    · exact absurd front (by decide)
    · have digit := mem_digits r member
      exact absurd digit (by decide)
  have text : '\n' ∉ r.textParam := by
    have plain : '\n' ∉ r.text := fun member => (r.plain _ member).2.1 rfl
    rw [ReasonHeader.textParam, List.mem_append, List.mem_cons]
    rintro (front | front | member)
    · exact absurd front (by decide)
    · exact absurd front (by decide)
    · simp [ReasonHeader.quoted, plain] at member
  have params : '\n' ∉ r.params := by
    rw [ReasonHeader.params]
    cases r.order <;> simp [cause, text]
  have value : '\n' ∉ r.value := by
    rw [ReasonHeader.value, List.mem_append, List.mem_cons]
    rintro (member | sign | member)
    · exact protocol member
    · exact absurd sign (by decide)
    · exact params member
  intro member
  rcases List.mem_append.mp member with title | behind
  · exact absurd title (by decide)
  · rcases List.mem_cons.mp behind with space | inside
    · exact absurd space (by decide)
    · exact value inside

theorem reasonFromRaw_of_first {raw : Bytes} {text : String} {before after : List Chars} (utf8 : fromUtf8 raw = some text)
    (first : lines text.toList = before ++ r.line :: after) (none_ : ∀ line ∈ before, ¬ "Reason:".toList <+: line)
    (read : (reasonFromLine r.line).isSome) : reasonFromRaw raw = reasonFromLine r.line := by
  have skipped : before.findSome? reasonFromLine = none := by
    rw [List.findSome?_eq_none_iff]
    intro line member
    have other : "Reason:".toList.isPrefixOf line = false := by
      rw [Bool.eq_false_iff, ne_eq, List.isPrefixOf_iff_prefix]
      exact none_ line member
    rw [reasonFromLine, stripPrefix, other]
    rfl
  obtain ⟨result, found⟩ := Option.isSome_iff_exists.mp read
  rw [reasonFromRaw, utf8]
  simp [first, List.findSome?_append, skipped, found]

/-- The message that is this header alone. -/
def alone : String := String.ofList (r.line ++ ['\r', '\n'])

theorem lines_alone : lines (alone r).toList = [r.line] := by
  have cut : lines ((r.line ++ ['\r']) ++ '\n' :: []) = uncarried (r.line ++ ['\r']) :: lines [] :=
    lines_cut (by simp [linefeed_free r])
  rw [uncarried_append, List.append_assoc] at cut
  rw [alone, String.toList_ofList]
  exact cut

theorem reasonFromRaw_alone : reasonFromRaw (alone r).toUTF8.data.toList = reasonFromLine r.line := by
  rw [reasonFromRaw, fromUtf8_toUTF8, Option.bind_eq_bind, Option.bind_some, lines_alone]
  cases found : reasonFromLine r.line <;> simp [found]

/-- The header is read completely exactly when it is legible. -/
theorem complete_iff_legible : r.Complete ↔ r.Legible := by
  constructor
  · intro complete
    have read := complete _ _ [] [] (fromUtf8_toUTF8 (alone r)) (lines_alone r) (by simp)
    have line : reasonFromLine r.line = some (r.cause, String.ofList r.text) := by
      rw [← read, reasonFromRaw_alone]
    rw [reasonFromLine_eq, Option.map_eq_some_iff] at line
    obtain ⟨cause, parsed, same⟩ := line
    obtain ⟨sameCause, sameText⟩ := Prod.mk.inj same
    have small := parse_lt parsed
    have whole : cut r.text = r.text := String.ofList_injective sameText
    have number : cause = r.cause.toNat := by
      rw [← sameCause, UInt32.toNat_ofNat_of_lt' small]
    rw [number] at parsed
    have plain := cut_eq_self_iff.mp whole
    exact ⟨plain, (read_cause_iff r plain).mp parsed⟩
  · rintro ⟨whole, shown⟩ raw text before after utf8 first none_
    have read : reasonFromLine r.line = some (r.cause, String.ofList r.text) := by
      rw [reasonFromLine_eq, (read_cause_iff r whole).mpr shown, cut_eq_self_iff.mpr whole]
      simp
    rw [reasonFromRaw_of_first r utf8 first none_ (by simp [read]), read]

/-- The usual cause of a hang-up. -/
def normalClearing : ReasonHeader where
  protocol := "Q.850".toList
  cause := 16
  text := "Normal call clearing".toList
  order := .causeFirst
  token := forall_of_all (by decide)
  plain := forall_of_all (by decide)

/-- The text of a normal hang-up is cut at its first space. -/
theorem clearing_is_cut :
    reasonFromRaw (alone normalClearing).toUTF8.data.toList = some (16, "Normal") ∧ ¬ normalClearing.Complete := by
  have read : reasonFromRaw (alone normalClearing).toUTF8.data.toList = some (16, "Normal") := by
    rw [reasonFromRaw_alone, reasonFromLine_eq]
    decide
  refine ⟨read, fun complete => ?_⟩
  have whole := complete _ _ [] [] (fromUtf8_toUTF8 (alone normalClearing)) (lines_alone normalClearing) (by simp)
  rw [read] at whole
  exact absurd whole (by decide)

end Sipmon.Guarantees.ReasonText
