import Sipmon.Guarantees.Attributes

/-!
# Parameters of a From or To header

`param` takes the first `name=` of a header value for the parameter, wherever it
stands: in quotes, inside `<...>`, or at the end of a longer name. A lookup is right
exactly when nothing in front of the parameter passes for it, or repeats its value, and
the value has no separator between its quotes.
-/
namespace Sipmon.Guarantees.HeaderParams
open Lib.ByteReader (Bytes)
open Lib.Scan Source Text Attributes

/-! ## Header values -/

/-- A letter of a quoted string, as it is written: plain, or behind a backslash. -/
inductive Quotable where
  | plain (c : Char) (ordinary : c ≠ '"' ∧ c ≠ '\\')
  | pair (c : Char)

def Quotable.text : Quotable → Chars
  | .plain c _ => [c]
  | .pair c => ['\\', c]

/-- What stands between the quotes. -/
def quotedText (letters : List Quotable) : Chars := letters.flatMap Quotable.text

/-- The letters of a bare value: a token, or a host. -/
def isValueChar (c : Char) : Bool := isTokenChar c || "[]:".toList.contains c

inductive Value where
  | bare (word : Chars) (plain : ∀ c ∈ word, isValueChar c = true)
  | quoted (letters : List Quotable)

namespace Value

def content : Value → Chars
  | .bare word _ => word
  | .quoted letters => quotedText letters

def text : Value → Chars
  | .bare word _ => word
  | .quoted letters => '"' :: quotedText letters ++ ['"']

/-- Between its quotes the value has no separator, and no quote at an end. -/
def Legible : Value → Prop
  | .bare _ _ => True
  | .quoted letters => Bare (· == '"') (quotedText letters) ∧ ∀ c ∈ quotedText letters, c ∉ separators

end Value

structure Token where
  text : Chars
  nonempty : text ≠ []
  token : ∀ c ∈ text, isTokenChar c = true

/-- Names are compared without case. -/
def Token.same (a b : Token) : Bool := toAsciiLowercase a.text == toAsciiLowercase b.text

structure Param where
  name : Token
  value : Value

def Param.text (p : Param) : Chars := ';' :: p.name.text ++ '=' :: p.value.text

/-- An optional display name in quotes, blanks, an optional URI and the parameters. -/
structure HeaderValue where
  display : Option (List Quotable)
  blanks : Nat
  uri : Option Chars
  params : List Param
  enclosed : ∀ text ∈ uri, '>' ∉ text
  distinct : params.Pairwise fun p q => p.name.same q.name = false

namespace HeaderValue

/-- What stands in front of the parameters. -/
def front (h : HeaderValue) : Chars :=
  (match h.display with
    | some letters => '"' :: quotedText letters ++ ['"']
    | none => []) ++
  List.replicate h.blanks ' ' ++
  (match h.uri with
    | some text => '<' :: text ++ ['>']
    | none => [])

def text (h : HeaderValue) : Chars := h.front ++ h.params.flatMap Param.text

def find (h : HeaderValue) (name : Token) : Option Param := h.params.find? (·.name.same name)

/-- The value of the parameter of this name. -/
def lookup (h : HeaderValue) (name : Token) : Option Chars := (h.find name).map (·.value.content)

/-- What stands in front of the parameter of this name. -/
def ahead (h : HeaderValue) (name : Token) : Chars :=
  h.front ++ (h.params.takeWhile (!·.name.same name)).flatMap Param.text

/-- `param` answers with the parameter of this name. -/
def Reads (h : HeaderValue) (name : Token) : Prop :=
  param (String.ofList h.text) (String.ofList name.text) = (h.lookup name).map String.ofList

/-- `name=` stands somewhere in the text, in either case. -/
def Shows (name : Token) (text : Chars) : Prop := Occurs Char.toLower (named name.text) text

/-- Nothing passes for a parameter that is not there. In front of one that is, nothing
passes for it and its value is legible; or the first thing that does has its value. -/
def Clear (h : HeaderValue) (name : Token) : Prop :=
  match h.find name with
  | none => ¬ Shows name h.text
  | some p =>
    ¬ Shows name (h.ahead name) ∧ p.value.Legible ∨
      ∃ rest, FirstAt Char.toLower (named name.text) (h.ahead name) rest ∧ Spells rest p.value.content

end HeaderValue

/-! ## The search -/

theorem named_plain (name : Token) {d : Char} (sign : d.isAlpha = false) (other : isTokenChar d = false)
    (notEq : d ≠ '=') : d ∉ named name.text := by
  intro member
  rw [named, toAsciiLowercase, List.mem_append, List.mem_map, List.mem_singleton] at member
  rcases member with ⟨c, inside, lowered⟩ | equal
  · rw [(toLower_eq_iff sign).mp lowered] at inside
    have token := name.token d inside
    rw [other] at token
    exact absurd token (by decide)
  · exact notEq equal

theorem text_split {h : HeaderValue} {name : Token} {p : Param} (found : h.find name = some p) :
    p.name.same name = true ∧
      ∃ behind : List Param, h.text = h.ahead name ++ p.text ++ behind.flatMap Param.text := by
  obtain ⟨same, before, behind, split, others⟩ := List.find?_eq_some_iff_append.mp found
  refine ⟨same, behind, ?_⟩
  have ahead : h.params.takeWhile (!·.name.same name) = before := by
    rw [split, List.takeWhile_append_of_pos others]
    simp [same]
  rw [HeaderValue.text, HeaderValue.ahead, ahead, split]
  simp

theorem separated_params (params : List Param) : Separated (params.flatMap Param.text) := by
  cases params with
  | nil => simp [Separated]
  | cons p params => simp [Separated, separators, Param.text]

/-- The parameter is found, unless something in front of it is. -/
theorem after_text {h : HeaderValue} {name : Token} {p : Param} (found : h.find name = some p) :
    ∃ tail, Separated tail ∧ after Char.toLower (named name.text) h.text =
      some (((after Char.toLower (named name.text) (h.ahead name)).map (· ++ p.text ++ tail)).getD
        (p.value.text ++ tail)) := by
  obtain ⟨same, behind, split⟩ := text_split found
  refine ⟨behind.flatMap Param.text, separated_params behind, ?_⟩
  generalize behind.flatMap Param.text = tail at split
  have shape : h.text = h.ahead name ++ ';' :: (p.name.text ++ '=' :: (p.value.text ++ tail)) := by
    rw [split, Param.text]
    simp
  have apart : Char.toLower ';' ∉ named name.text :=
    named_plain name (by decide) (by decide) (by decide)
  have unmarked : '=' ∉ toAsciiLowercase name.text := by
    intro member
    obtain ⟨c, inside, lowered⟩ := List.mem_map.mp member
    rw [(toLower_eq_iff (by decide)).mp lowered] at inside
    exact (token_plain (name.token _ inside)).1 rfl
  have plain : ∀ c ∈ p.name.text, c.toLower ≠ '=' := by
    intro c member lowered
    rw [(toLower_eq_iff (by decide)).mp lowered] at member
    exact (token_plain (p.name.token _ member)).1 rfl
  have own : after Char.toLower (named name.text) (p.name.text ++ '=' :: (p.value.text ++ tail)) =
      some (p.value.text ++ tail) := by
    have suffix : toAsciiLowercase name.text <:+ p.name.text.map Char.toLower := by
      rw [← eq_of_beq same]
      exact List.suffix_refl _
    rw [named, after_marked unmarked plain rfl, if_pos suffix]
  rw [shape, after_break apart (by simp [named]), own]
  cases after Char.toLower (named name.text) (h.ahead name) <;> simp [Param.text]

theorem spells_cut {rest v tail : Chars} : Spells (rest ++ ';' :: tail) v ↔ Spells rest v := by
  have same : valueOf (rest ++ ';' :: tail) = valueOf rest := by
    rw [valueOf, takeWhile_cut (by decide), valueOf]
  rw [← valueOf_eq_iff, same, valueOf_eq_iff]

theorem value_plain {c : Char} (letter : isValueChar c = true) : c ∉ separators ∧ c ≠ '"' := by
  rw [isValueChar, Bool.or_eq_true] at letter
  rcases letter with token | sign
  · obtain ⟨-, quote, plain, -⟩ := token_plain token
    exact ⟨plain, quote⟩
  · have all : ∀ d ∈ "[]:".toList, d ∉ separators ∧ d ≠ '"' := forall_of_all (by decide)
    exact all c (by simpa using sign)

theorem spells_own {v : Value} {tail : Chars} (ends : Separated tail) :
    Spells (v.text ++ tail) v.content ↔ v.Legible := by
  cases v with
  | bare word plain =>
    exact iff_of_true (Spells.of_bare (fun c member => value_plain (plain c member)) ends) trivial
  | quoted letters =>
    constructor
    · rintro ⟨ends, plain, -⟩
      exact ⟨ends, plain⟩
    · rintro ⟨bare, plain⟩
      exact ⟨bare, plain, ['"'], ['"'], tail, by simp [Value.text, Value.content], by simp, by simp, ends⟩

theorem ofList_eq_iff {a b : Chars} : String.ofList a = String.ofList b ↔ a = b :=
  ⟨fun same => String.ofList_injective same, congrArg _⟩

/-- A lookup answers with the parameter of the name exactly when nothing misleads it. -/
theorem reads_iff_clear (h : HeaderValue) (name : Token) : h.Reads name ↔ h.Clear name := by
  rw [HeaderValue.Reads, HeaderValue.Clear, param_eq, HeaderValue.lookup, String.toList_ofList, String.toList_ofList]
  cases found : h.find name with
  | none =>
    rw [HeaderValue.Shows, ← after_eq_none_iff]
    simp
  | some p =>
    obtain ⟨tail, ends, whole⟩ := after_text found
    rw [whole]
    cases shown : after Char.toLower (named name.text) (h.ahead name) with
    | none =>
      have nothing : ∀ rest, ¬ FirstAt Char.toLower (named name.text) (h.ahead name) rest := by
        intro rest first
        rw [after_eq_some_iff.mpr first] at shown
        cases shown
      have hidden : ¬ HeaderValue.Shows name (h.ahead name) := after_eq_none_iff.mp shown
      simp [nothing, hidden, ofList_eq_iff, valueOf_eq_iff, spells_own ends]
    | some rest =>
      have first : ∀ rest', FirstAt Char.toLower (named name.text) (h.ahead name) rest' ↔ rest' = rest := by
        intro rest'
        rw [← after_eq_some_iff, shown, Option.some.injEq, eq_comm]
      have seen : HeaderValue.Shows name (h.ahead name) := by
        by_contra hidden
        rw [after_eq_none_iff.mpr hidden] at shown
        cases shown
      have cut : rest ++ (p.text ++ tail) = rest ++ ';' :: (p.name.text ++ '=' :: p.value.text ++ tail) := by
        simp [Param.text]
      simp only [Option.map_some, Option.getD_some, Function.comp_apply, Option.some.injEq, ofList_eq_iff,
        valueOf_eq_iff, List.append_assoc, cut, spells_cut, seen, first]
      simp

/-! ## The initial INVITE -/

def tag : Token := ⟨"tag".toList, by decide, forall_of_all (by decide)⟩

theorem toTag_isNone_iff (h : HeaderValue) :
    (param (String.ofList h.text) "tag").isNone = true ↔ ¬ HeaderValue.Shows tag h.text := by
  have text : (String.ofList h.text).toList = h.text := String.toList_ofList
  rw [param_eq, text, Option.isNone_iff_eq_none, Option.map_eq_none_iff, HeaderValue.Shows, ← after_eq_none_iff]
  rfl

theorem shows_of_find {h : HeaderValue} {name : Token} {p : Param} (found : h.find name = some p) :
    HeaderValue.Shows name h.text := by
  obtain ⟨tail, -, whole⟩ := after_text found
  by_contra hidden
  rw [after_eq_none_iff.mpr hidden] at whole
  cases whole

theorem isInitialInvite_parsed {parse : SipParser} {cut : Option ℕ} {ts : UInt64} {flow : Flow5Tuple} {raw : Bytes}
    {parsed : ParsedSip} {msg : SipMsg} (read : parse raw = some parsed) (invite : parsed.start = .request .invite)
    (decoded : parseSip parse cut ts flow raw = some msg) :
    msg.isInitialInvite = (parsed.toValue.bind (param · "tag")).isNone := by
  unfold parseSip at decoded
  split at decoded
  · cases decoded
  · rw [read, Option.bind_eq_bind, Option.bind_some, Option.bind_eq_bind, Option.bind_eq_some_iff] at decoded
    obtain ⟨callId, -, whole⟩ := decoded
    obtain rfl := Option.some.inj whole
    simp [SipMsg.isInitialInvite, invite]

/-- Every lookup in the header is right exactly when nothing misleads it, and the initial
INVITE is recognised by the absence of the To tag exactly when a tag that is absent does
not seem to be there. -/
theorem params_by_name (h : HeaderValue) :
    (∀ name, h.Reads name ↔ h.Clear name) ∧
      ∀ (parse : SipParser) cut ts flow raw parsed msg, parse raw = some parsed →
        parsed.start = .request .invite → parsed.toValue = some (String.ofList h.text) →
        parseSip parse cut ts flow raw = some msg →
        ((msg.isInitialInvite = true ↔ h.find tag = none) ↔
          (h.find tag = none → ¬ HeaderValue.Shows tag h.text)) := by
  refine ⟨reads_iff_clear h, fun parse cut ts flow raw parsed msg read invite value decoded => ?_⟩
  rw [isInitialInvite_parsed read invite decoded, value, Option.bind_some, toTag_isNone_iff]
  cases found : h.find tag with
  | none => simp
  | some p => simp [shows_of_find found]

/-- `"Bob" <sip:bob@biloxi.com>`. -/
def calledParty : HeaderValue where
  display := some [.plain 'B' (by decide), .plain 'o' (by decide), .plain 'b' (by decide)]
  blanks := 1
  uri := some "sip:bob@biloxi.com".toList
  params := []
  enclosed := by decide
  distinct := .nil

def inviteText : String :=
  "INVITE sip:bob@biloxi.com SIP/2.0\r\nCall-ID: c1\r\nCSeq: 1 INVITE\r\n" ++
    "To: \"Bob\" <sip:bob@biloxi.com>\r\n\r\n"

def inviteParsed : ParsedSip :=
  { start := .request .invite, callId := some "c1", cseq := some "1 INVITE", topVia := none, fromValue := none
    toValue := some (String.ofList calledParty.text), contact := none, contentType := none, compactType := none
    routes := 0, recordRoutes := 0 }

def inviteParser : SipParser := fun raw => if raw = inviteText.toUTF8.toList then some inviteParsed else none

def invite : Option SipMsg :=
  parseSip inviteParser none 0 ⟨.udp, ⟨.v4 ⟨10, 0, 0, 1⟩, 5060⟩, ⟨.v4 ⟨10, 0, 0, 2⟩, 5060⟩⟩ inviteText.toUTF8.toList

/-- An INVITE without a To tag is an initial one. -/
theorem invite_is_initial : ∃ msg, invite = some msg ∧ msg.isInitialInvite = true := by
  have decoded : invite.isSome = true := by decide +kernel
  obtain ⟨msg, decoded⟩ := Option.isSome_iff_exists.mp decoded
  have absent : calledParty.find tag = none := rfl
  have hidden : ¬ HeaderValue.Shows tag calledParty.text := after_eq_none_iff.mp (by decide +kernel)
  have right := (params_by_name calledParty).2 inviteParser _ _ _ _ inviteParsed msg (if_pos rfl) rfl rfl decoded
  exact ⟨msg, decoded, (right.mpr fun _ => hidden).mpr absent⟩

/-- A `tag` in the URI of the To header, and no parameters. -/
def taggedUri : HeaderValue where
  display := none
  blanks := 0
  uri := some "sip:bob@biloxi.com;tag=1".toList
  params := []
  enclosed := by decide
  distinct := .nil

/-- The tag of the URI is read as a parameter of the header. -/
theorem tag_of_uri_is_read :
    param (String.ofList taggedUri.text) (String.ofList tag.text) = some "1>" ∧ taggedUri.lookup tag = none ∧
      ¬ taggedUri.Reads tag := by
  have read : param (String.ofList taggedUri.text) (String.ofList tag.text) = some "1>" := by decide +kernel
  refine ⟨read, by decide, fun reads => ?_⟩
  rw [HeaderValue.Reads, read] at reads
  exact absurd reads (by decide)

end Sipmon.Guarantees.HeaderParams
