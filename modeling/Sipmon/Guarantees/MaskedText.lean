import Sipmon.Guarantees.AddressText
import Sipmon.Guarantees.Attributes
import Sipmon.Guarantees.TextLines
import Sipmon.Source.Masking

/-!
# The passes of `mask_raw`, around a piece of text

Each pass reads a line from left to right. What stands in front of a piece of the line
decides how the pass meets it: whether a URI or a quoted name is open there. Then the
front, the piece and what stands behind it are written one after the other.
-/
namespace Sipmon.Guarantees.MaskedText
open Lib.Scan Lib.Digits Source Text Masking AddressText Attributes TextLines

/-! ## URIs -/

theorem maskSipUrisFrom_drop (k : ℕ) (text : Chars) : maskSipUrisFrom k text = maskSipUris (text.drop k) := by
  induction text generalizing k with
  | nil => cases k <;> rfl
  | cons c rest ih =>
    cases k with
    | zero => rfl
    | succ k => exact ih k

def IsScheme (scheme : Chars) : Prop := scheme = "sips:".toList ∨ scheme = "sip:".toList

theorem startsUri_iff {text : Chars} : startsUri text = true ↔ ∃ scheme rest, IsScheme scheme ∧ text = scheme ++ rest := by
  rw [startsUri, Bool.or_eq_true, List.isPrefixOf_iff_prefix, List.isPrefixOf_iff_prefix]
  constructor
  · rintro (⟨rest, whole⟩ | ⟨rest, whole⟩)
    · exact ⟨_, rest, .inl rfl, whole.symm⟩
    · exact ⟨_, rest, .inr rfl, whole.symm⟩
  · rintro ⟨scheme, rest, rfl | rfl, rfl⟩
    · exact .inl (List.prefix_append ..)
    · exact .inr (List.prefix_append ..)

theorem uriAt_scheme {scheme : Chars} (isScheme : IsScheme scheme) (rest : Chars) :
    uriAt (scheme ++ rest) = scheme ++ rest.takeWhile inUri := by
  rcases isScheme with rfl | rfl <;> rfl

theorem maskUri_scheme {scheme : Chars} (isScheme : IsScheme scheme) (rest : Chars) :
    maskUri (scheme ++ rest) = scheme ++ maskBody rest := by
  rcases isScheme with rfl | rfl <;> rfl

theorem maskSipUris_scheme {scheme : Chars} (isScheme : IsScheme scheme) (rest : Chars) :
    maskSipUris (scheme ++ rest) =
      scheme ++ maskBody (rest.takeWhile inUri) ++ maskSipUris (rest.dropWhile inUri) := by
  have starts : startsUri (scheme ++ rest) = true := startsUri_iff.mpr ⟨scheme, rest, isScheme, rfl⟩
  have jump : (scheme ++ rest).drop (uriAt (scheme ++ rest)).length = rest.dropWhile inUri := by
    rw [uriAt_scheme isScheme, List.length_append, ← List.drop_drop, List.drop_left, drop_takeWhile]
  have masked := maskUri_scheme isScheme (rest.takeWhile inUri)
  rw [← uriAt_scheme isScheme] at masked
  obtain ⟨c, more, shape⟩ : ∃ c more, scheme ++ rest = c :: more := by
    rcases isScheme with rfl | rfl <;> exact ⟨_, _, rfl⟩
  have positive : 0 < (uriAt (scheme ++ rest)).length := by
    rw [uriAt_scheme isScheme]
    rcases isScheme with rfl | rfl <;> simp
  rw [← masked, ← jump]
  rw [shape] at starts positive ⊢
  obtain ⟨k, length⟩ : ∃ k, (uriAt (c :: more)).length = k + 1 := ⟨_, (Nat.succ_pred_eq_of_pos positive).symm⟩
  rw [maskSipUris, maskSipUrisFrom, if_pos starts, length, maskSipUrisFrom_drop]
  rfl

theorem maskSipUris_cons {c : Char} {rest : Chars} (plain : startsUri (c :: rest) = false) :
    maskSipUris (c :: rest) = c :: maskSipUris rest := by
  rw [maskSipUris, maskSipUrisFrom, if_neg (by simp [plain])]
  rfl

/-- A text is read letter by letter, and URI by URI: the last one may be open at its end. -/
theorem uri_induction {P : Chars → Prop} (nil : P [])
    (letter : ∀ c rest, startsUri (c :: rest) = false → P rest → P (c :: rest))
    (opened : ∀ scheme u, IsScheme scheme → (∀ c ∈ u, inUri c = true) → P (scheme ++ u))
    (closed : ∀ scheme u d rest, IsScheme scheme → (∀ c ∈ u, inUri c = true) → inUri d = false → P (d :: rest) →
      P (scheme ++ u ++ d :: rest)) (text : Chars) : P text := by
  induction size : text.length using Nat.strongRecOn generalizing text with
  | ind n ih =>
    subst size
    cases text with
    | nil => exact nil
    | cons c rest =>
      cases starts : startsUri (c :: rest) with
      | false => exact letter c rest starts (ih rest.length (by simp) rest rfl)
      | true =>
        obtain ⟨scheme, u, isScheme, shape⟩ := startsUri_iff.mp starts
        have all : ∀ d ∈ u.takeWhile inUri, inUri d = true := fun d => List.mem_takeWhile_imp
        have split := List.takeWhile_append_dropWhile (p := inUri) (l := u)
        rw [shape]
        cases behind : u.dropWhile inUri with
        | nil =>
          rw [behind, List.append_nil] at split
          rw [split] at all
          exact opened scheme u isScheme all
        | cons d more =>
          have ends : inUri d = false := by
            refine head_dropWhile (p := inUri) d (?_ : d ∈ (u.dropWhile inUri).head?)
            rw [behind]
            rfl
          have shorter : (d :: more).length < (c :: rest).length := by
            have schemes : 0 < scheme.length := by rcases isScheme with rfl | rfl <;> decide
            have drops := (List.dropWhile_suffix inUri (l := u)).length_le
            rw [behind] at drops
            rw [shape, List.length_append]
            omega
          rw [behind] at split
          rw [← split, ← List.append_assoc]
          exact closed scheme _ d more isScheme all ends (ih _ shorter (d :: more) rfl)

/-- What `mask_sip_uris` has written when a text ends, and the scheme and the text of a URI
that is open then. -/
structure Front where
  written : Chars
  openUri : Option (Chars × Chars)
  deriving DecidableEq

def schemeOf (text : Chars) : Chars := if "sips:".toList.isPrefixOf text then "sips:".toList else "sip:".toList

def frontFrom : ℕ → Chars → Front
  | _, [] => ⟨[], none⟩
  | passed + 1, _ :: rest => frontFrom passed rest
  | 0, c :: rest =>
    if startsUri (c :: rest) then
      let uri := uriAt (c :: rest)
      if uri.length = (c :: rest).length then ⟨[], some (schemeOf uri, uri.drop (schemeOf uri).length)⟩
      else
        let behind := frontFrom (uri.length - 1) rest
        ⟨maskUri uri ++ behind.written, behind.openUri⟩
    else
      let behind := frontFrom 0 rest
      ⟨c :: behind.written, behind.openUri⟩

def front (text : Chars) : Front := frontFrom 0 text

theorem frontFrom_drop (k : ℕ) (text : Chars) : frontFrom k text = front (text.drop k) := by
  induction text generalizing k with
  | nil => cases k <;> rfl
  | cons c rest ih =>
    cases k with
    | zero => rfl
    | succ k => exact ih k

theorem front_letter {c : Char} {rest : Chars} (plain : startsUri (c :: rest) = false) :
    front (c :: rest) = ⟨c :: (front rest).written, (front rest).openUri⟩ := by
  rw [front, frontFrom, if_neg (by simp [plain])]
  rfl

theorem schemeOf_append {scheme : Chars} (isScheme : IsScheme scheme) (u : Chars) : schemeOf (scheme ++ u) = scheme := by
  rcases isScheme with rfl | rfl <;> rfl

theorem takeWhile_all {u : Chars} (all : ∀ c ∈ u, inUri c = true) : u.takeWhile inUri = u :=
  List.takeWhile_eq_self_iff.mpr all

theorem front_opened {scheme u : Chars} (isScheme : IsScheme scheme) (all : ∀ c ∈ u, inUri c = true) :
    front (scheme ++ u) = ⟨[], some (scheme, u)⟩ := by
  have starts : startsUri (scheme ++ u) = true := startsUri_iff.mpr ⟨scheme, u, isScheme, rfl⟩
  have uri : uriAt (scheme ++ u) = scheme ++ u := by rw [uriAt_scheme isScheme, takeWhile_all all]
  have scheme_ := schemeOf_append isScheme u
  have text : (scheme ++ u).drop scheme.length = u := List.drop_left
  obtain ⟨c, more, shape⟩ : ∃ c more, scheme ++ u = c :: more := by
    rcases isScheme with rfl | rfl <;> exact ⟨_, _, rfl⟩
  rw [shape] at starts uri scheme_ text ⊢
  rw [front, frontFrom, if_pos starts]
  simp only [uri, if_true, scheme_, text]

theorem front_closed {scheme u : Chars} {d : Char} {rest : Chars} (isScheme : IsScheme scheme)
    (all : ∀ c ∈ u, inUri c = true) (ends : inUri d = false) :
    front (scheme ++ u ++ d :: rest) =
      ⟨scheme ++ maskBody u ++ (front (d :: rest)).written, (front (d :: rest)).openUri⟩ := by
  have starts : startsUri (scheme ++ u ++ d :: rest) = true :=
    startsUri_iff.mpr ⟨scheme, u ++ d :: rest, isScheme, List.append_assoc ..⟩
  have uri : uriAt (scheme ++ u ++ d :: rest) = scheme ++ u := by
    rw [List.append_assoc, uriAt_scheme isScheme, List.takeWhile_append_of_pos all, List.takeWhile_cons_of_neg (by simp [ends]),
      List.append_nil]
  have masked := maskUri_scheme isScheme u
  have behind : (scheme ++ u ++ d :: rest).drop (scheme ++ u).length = d :: rest := List.drop_left
  have length : (scheme ++ u).length ≠ (scheme ++ u ++ d :: rest).length := by simp
  have positive : 0 < (scheme ++ u).length := by rcases isScheme with rfl | rfl <;> simp
  obtain ⟨c, more, shape⟩ : ∃ c more, scheme ++ u ++ d :: rest = c :: more := by
    rcases isScheme with rfl | rfl <;> exact ⟨_, _, rfl⟩
  rw [shape] at starts uri behind length ⊢
  obtain ⟨k, size⟩ : ∃ k, (scheme ++ u).length = k + 1 := ⟨_, (Nat.succ_pred_eq_of_pos positive).symm⟩
  rw [size, List.drop_succ_cons] at behind
  rw [size] at length
  rw [front, frontFrom, if_pos starts]
  simp only [uri, if_neg length, frontFrom_drop, size, Nat.add_sub_cancel, behind, masked]

/-- No URI starts in `text` and ends behind it. -/
def Seamless (text rest : Chars) : Prop :=
  ∀ s, s ≠ [] → s <:+ text → startsUri (s ++ rest) = true → startsUri s = true

theorem Seamless.suffix {text part rest : Chars} (seamless : Seamless text rest) (suffix : part <:+ text) :
    Seamless part rest := fun s some_ inside => seamless s some_ (inside.trans suffix)

theorem startsUri_eq (text : Chars) :
    startsUri text = (['s', 'i', 'p', 's', ':'].isPrefixOf text || ['s', 'i', 'p', ':'].isPrefixOf text) := rfl

/-- A text that does not end in a letter of a scheme. -/
theorem seamless_of_last {text : Chars} (last : ∀ c ∈ text.getLast?, c ≠ 's' ∧ c ≠ 'i' ∧ c ≠ 'p') (rest : Chars) :
    Seamless text rest := by
  intro s some_ suffix starts
  have last' : ∀ c ∈ s.getLast?, c ≠ 's' ∧ c ≠ 'i' ∧ c ≠ 'p' := by
    intro c member
    obtain ⟨front, rfl⟩ := suffix
    exact last c (by rw [List.getLast?_append, Option.mem_def.mp member]; rfl)
  rw [startsUri_eq] at starts ⊢
  rcases s with _ | ⟨a, _ | ⟨b, _ | ⟨c, _ | ⟨d, _ | ⟨e, s⟩⟩⟩⟩⟩ <;>
    simp_all [List.isPrefixOf]
  all_goals grind

/-- A text that goes on with no letter of a scheme. -/
theorem seamless_of_head {text rest : Chars} (head : ∀ c ∈ rest.head?, c ≠ 's' ∧ c ≠ 'i' ∧ c ≠ 'p' ∧ c ≠ ':') :
    Seamless text rest := by
  intro s some_ suffix starts
  rw [startsUri_eq] at starts ⊢
  rcases s with _ | ⟨a, _ | ⟨b, _ | ⟨c, _ | ⟨d, _ | ⟨e, s⟩⟩⟩⟩⟩ <;> rcases rest with _ | ⟨f, rest⟩ <;>
    simp_all [List.isPrefixOf]
  all_goals grind

/-- What the pass writes of the text behind a front. -/
def resume (openUri : Option (Chars × Chars)) (rest : Chars) : Chars :=
  match openUri with
  | none => maskSipUris rest
  | some (scheme, u) => scheme ++ maskBody (u ++ rest.takeWhile inUri) ++ maskSipUris (rest.dropWhile inUri)

theorem maskSipUris_append {text rest : Chars} (seamless : Seamless text rest) :
    maskSipUris (text ++ rest) = (front text).written ++ resume (front text).openUri rest := by
  induction text using uri_induction with
  | nil => rfl
  | letter c text plain ih =>
    have plain' : startsUri (c :: (text ++ rest)) = false := by
      by_contra starts
      rw [seamless (c :: text) (by simp) (List.suffix_refl _) (by simpa using starts)] at plain
      cases plain
    rw [List.cons_append, maskSipUris_cons plain', front_letter plain, ih (seamless.suffix (List.suffix_cons ..))]
    rfl
  | opened scheme u isScheme all =>
    rw [front_opened isScheme all, List.append_assoc, maskSipUris_scheme isScheme, List.takeWhile_append_of_pos all,
      List.dropWhile_append_of_pos all]
    simp [resume]
  | closed scheme u d text isScheme all ends ih =>
    have stops : ((d :: text) ++ rest).takeWhile inUri = [] := by simp [ends]
    have stays : ((d :: text) ++ rest).dropWhile inUri = (d :: text) ++ rest := by simp [ends]
    rw [front_closed isScheme all ends, List.append_assoc, List.append_assoc, maskSipUris_scheme isScheme,
      List.takeWhile_append_of_pos all, List.dropWhile_append_of_pos all, stops, stays,
      ih (seamless.suffix (List.suffix_append ..))]
    simp

/-! ## Display names -/

/-- A text that is cut behind a letter has the letter in front of the cut. -/
theorem mem_of_cut {ch c : Char} {front rest first more : Chars} (shape : front ++ c :: rest = first ++ ch :: more)
    (plain : ch ∉ front) (other : c ≠ ch) : c ∈ first := by
  rcases List.append_eq_append_iff.mp shape with ⟨between, rfl, tail⟩ | ⟨between, rfl, tail⟩
  · cases between with
    | nil => exact absurd (List.cons.inj tail).1 other
    | cons d between => simp [(List.cons.inj tail).1]
  · cases between with
    | nil => exact absurd (List.cons.inj tail).1.symm other
    | cons d between =>
      obtain rfl := (List.cons.inj tail).1
      exact absurd (by simp) plain

theorem maskDisplayNamesFrom_drop (k : ℕ) (text : Chars) :
    maskDisplayNamesFrom k text = maskDisplayNames (text.drop k) := by
  induction text generalizing k with
  | nil => cases k <;> rfl
  | cons c rest ih =>
    cases k with
    | zero => rfl
    | succ k => exact ih k

theorem names_letter {c : Char} (other : c ≠ '"') (rest : Chars) :
    maskDisplayNames (c :: rest) = c :: maskDisplayNames rest := by
  rw [maskDisplayNames, maskDisplayNamesFrom, if_neg other]
  rfl

theorem names_pair {name : Chars} (plain : '"' ∉ name) (rest : Chars) :
    maskDisplayNames ('"' :: name ++ '"' :: rest) = '"' :: maskUser name ++ '"' :: maskDisplayNames rest := by
  have behind : (name ++ '"' :: rest).drop (name.length + 1) = rest := by
    rw [← List.drop_drop, List.drop_left]
    rfl
  rw [List.cons_append, maskDisplayNames, maskDisplayNamesFrom, if_pos rfl, splitOnce_cut plain]
  simp only [maskDisplayNamesFrom_drop, behind]

theorem names_open {rest : Chars} (plain : '"' ∉ rest) : maskDisplayNames ('"' :: rest) = '"' :: rest := by
  rw [maskDisplayNames, maskDisplayNamesFrom, if_pos rfl, splitOnce_none plain]

theorem names_plain {text : Chars} (plain : '"' ∉ text) (rest : Chars) :
    maskDisplayNames (text ++ rest) = text ++ maskDisplayNames rest := by
  induction text with
  | nil => rfl
  | cons c text ih =>
    rw [List.mem_cons, not_or] at plain
    rw [List.cons_append, names_letter (Ne.symm plain.1), ih plain.2]
    rfl

/-- A text is read letter by letter, and name by name: the last one may be open at its end. -/
theorem quote_induction {P : Chars → Prop} (nil : P [])
    (letter : ∀ c rest, c ≠ '"' → P rest → P (c :: rest))
    (opened : ∀ name, '"' ∉ name → P ('"' :: name))
    (closed : ∀ name rest, '"' ∉ name → P rest → P ('"' :: name ++ '"' :: rest)) (text : Chars) : P text := by
  induction size : text.length using Nat.strongRecOn generalizing text with
  | ind n ih =>
    subst size
    cases text with
    | nil => exact nil
    | cons c rest =>
      by_cases quote : c = '"'
      · subst quote
        rcases cut_cases '"' rest with plain | ⟨name, more, rfl, plain⟩
        · exact opened rest plain
        · exact closed name more plain (ih more.length (by simp; omega) more rfl)
      · exact letter c rest quote (ih rest.length (by simp) rest rfl)

theorem even_pair {name rest : Chars} (plain : '"' ∉ name) :
    Even (('"' :: name ++ '"' :: rest).count '"') ↔ Even (rest.count '"') := by
  simp [List.count_eq_zero_of_not_mem plain, Nat.even_add_one]

theorem odd_open {name : Chars} (plain : '"' ∉ name) : ¬ Even (('"' :: name).count '"') := by
  rw [List.count_cons_self, List.count_eq_zero_of_not_mem plain]
  decide

/-- Behind whole names the pass starts anew. -/
theorem names_even {text : Chars} (even : Even (text.count '"')) (rest : Chars) :
    maskDisplayNames (text ++ rest) = maskDisplayNames text ++ maskDisplayNames rest := by
  induction text using quote_induction with
  | nil => rfl
  | letter c text other ih =>
    rw [List.count_cons_of_ne other] at even
    rw [List.cons_append, names_letter other, names_letter other, ih even, List.cons_append]
  | opened name plain => exact absurd even (odd_open plain)
  | closed name text plain ih =>
    have fewer := (even_pair plain).mp even
    have whole := names_pair plain (text ++ rest)
    rw [ih fewer] at whole
    rw [names_pair plain]
    simpa using whole

/-- The last letter stays in its place. -/
theorem names_last {text : Chars} (even : Even (text.count '"')) : (maskDisplayNames text).getLast? = text.getLast? := by
  induction text using quote_induction with
  | nil => rfl
  | letter c text other ih =>
    rw [List.count_cons_of_ne other] at even
    rw [names_letter other, List.getLast?_cons, List.getLast?_cons, ih even]
  | opened name plain => exact absurd even (odd_open plain)
  | closed name text plain ih =>
    have fewer := (even_pair plain).mp even
    rw [names_pair plain]
    simp [List.getLast?_append, List.getLast?_cons, ih fewer]

/-- Behind an open name, and in front of no other quote, the pass changes nothing. -/
theorem names_odd {text : Chars} (odd : ¬ Even (text.count '"')) :
    ∃ whole name, text = whole ++ '"' :: name ∧ '"' ∉ name ∧
      ∀ rest, '"' ∉ rest → maskDisplayNames (text ++ rest) = maskDisplayNames whole ++ '"' :: name ++ rest := by
  induction text using quote_induction with
  | nil => exact absurd (by simp) odd
  | letter c text other ih =>
    rw [List.count_cons_of_ne other] at odd
    obtain ⟨whole, name, rfl, plain, stays⟩ := ih odd
    refine ⟨c :: whole, name, rfl, plain, fun rest unquoted => ?_⟩
    rw [List.cons_append, names_letter other, stays rest unquoted, names_letter other]
    rfl
  | opened name plain =>
    refine ⟨[], name, rfl, plain, fun rest unquoted => ?_⟩
    have neither : '"' ∉ name ++ rest := by
      rw [List.mem_append]
      exact fun member => member.elim plain unquoted
    rw [List.cons_append, names_open neither]
    rfl
  | closed before text plain ih =>
    obtain ⟨whole, name, rfl, open_, stays⟩ := ih ((even_pair plain).not.mp odd)
    refine ⟨'"' :: before ++ '"' :: whole, name, by simp, open_, fun rest unquoted => ?_⟩
    have pair := names_pair plain (whole ++ '"' :: name ++ rest)
    rw [stays rest unquoted] at pair
    rw [names_pair plain]
    simpa using pair

theorem names_head (text : Chars) : (maskDisplayNames text).head? = text.head? := by
  cases text using quote_induction with
  | nil => rfl
  | letter c text other => rw [names_letter other]; rfl
  | opened name plain => rw [names_open plain]
  | closed name text plain => rw [names_pair plain]; rfl

/-! ## The place of a piece -/

theorem uris_head (text : Chars) : (maskSipUris text).head? = text.head? := by
  cases text using uri_induction with
  | nil => rfl
  | letter c text plain => rw [maskSipUris_cons plain]; rfl
  | opened scheme u isScheme all =>
    rw [maskSipUris_scheme isScheme]
    rcases isScheme with rfl | rfl <;> rfl
  | closed scheme u d text isScheme all ends =>
    rw [List.append_assoc, maskSipUris_scheme isScheme]
    rcases isScheme with rfl | rfl <;> rfl

theorem openUri_shape {text scheme u : Chars} (opened : (front text).openUri = some (scheme, u)) :
    IsScheme scheme ∧ (∀ c ∈ u, inUri c = true) ∧ ∃ before, text = before ++ scheme ++ u := by
  induction text using uri_induction with
  | nil => cases opened
  | letter c text plain ih =>
    rw [front_letter plain] at opened
    obtain ⟨isScheme, all, before, rfl⟩ := ih opened
    exact ⟨isScheme, all, c :: before, rfl⟩
  | opened scheme' u' isScheme all =>
    rw [front_opened isScheme all] at opened
    obtain ⟨rfl, rfl⟩ := Prod.mk.inj (Option.some.inj opened)
    exact ⟨isScheme, all, [], rfl⟩
  | closed scheme' u' d text isScheme' all' ends ih =>
    rw [front_closed isScheme' all' ends] at opened
    obtain ⟨isScheme, all, before, shape⟩ := ih opened
    exact ⟨isScheme, all, scheme' ++ u' ++ before, by rw [shape]; simp⟩

/-- Outside a URI the last letter is written as it stands. -/
theorem written_last {text : Chars} (outside : (front text).openUri = none) :
    (front text).written.getLast? = text.getLast? := by
  induction text using uri_induction with
  | nil => rfl
  | letter c text plain ih =>
    rw [front_letter plain] at outside ⊢
    rw [List.getLast?_cons, List.getLast?_cons, ih outside]
  | opened scheme u isScheme all =>
    rw [front_opened isScheme all] at outside
    cases outside
  | closed scheme u d text isScheme all ends ih =>
    rw [front_closed isScheme all ends] at outside ⊢
    rw [List.getLast?_append, List.getLast?_append, ih outside]
    simp [List.getLast?_cons]

theorem maskBody_cut {addr params : Chars} (plain : ';' ∉ addr) (cut : ∀ c ∈ params.head?, c = ';') :
    maskBody (addr ++ params) = maskAddr addr ++ params := by
  cases params with
  | nil => rw [List.append_nil, List.append_nil, maskBody, splitOnce_none plain]
  | cons c params =>
    obtain rfl := cut c rfl
    rw [maskBody, splitOnce_cut plain]

theorem maskAddr_user {user : Chars} (plain : '@' ∉ user) (host : Chars) :
    maskAddr (user ++ '@' :: host) = maskUser user ++ '@' :: maskHost host := by
  rw [maskAddr, splitOnce_cut plain]

theorem maskAddr_host {host : Chars} (plain : '@' ∉ host) : maskAddr host = maskHost host := by
  rw [maskAddr, splitOnce_none plain]

/-- Where a piece of a line stands: it is copied, or it is part of the host of a URI, the
rest of which has been read. Either way the line has been written up to there. -/
inductive Place where
  | copied (written : Chars)
  | host (written host : Chars)
  deriving DecidableEq

def placeOf (before : Chars) : Place :=
  match (front before).openUri with
  | none => .copied (front before).written
  | some (scheme, u) =>
    match splitOnce ';' u with
    | some _ => .copied ((front before).written ++ scheme ++ maskBody u)
    | none =>
      match splitOnce '@' u with
      | some (user, host) => .host ((front before).written ++ scheme ++ maskUser user ++ ['@']) host
      | none => .host ((front before).written ++ scheme) u

/-- What of the host stands behind the piece. -/
def hostTail (behind : Chars) : Chars := beforeFirst ';' (behind.takeWhile inUri)

/-- The piece stands in the user of a URI: an `@` closes it later. -/
def InUser (before behind : Chars) : Prop :=
  ∃ scheme u, (front before).openUri = some (scheme, u) ∧ ';' ∉ u ∧ '@' ∉ u ∧ '@' ∈ hostTail behind

/-- The letters of address literals. -/
def isLiteralChar (c : Char) : Bool := (toDigit 16 c).isSome || ".:[]".toList.contains c

theorem literal_plain {c : Char} (letter : isLiteralChar c = true) :
    c ≠ 's' ∧ inUri c = true ∧ c ≠ ';' ∧ c ≠ '@' ∧ c ≠ '"' ∧ c ≠ '\n' ∧ c ≠ '\r' := by
  have all : ∀ d ∈ "s>; \t,\r\n@\"".toList, isLiteralChar d = false := forall_of_all (by decide)
  have other : ∀ d ∈ "s>; \t,\r\n@\"".toList, c ≠ d := by
    rintro d member rfl
    rw [all c member] at letter
    cases letter
  refine ⟨other 's' (by decide), ?_, other ';' (by decide), other '@' (by decide), other '"' (by decide),
    other '\n' (by decide), other '\r' (by decide)⟩
  have ends : c ∉ ['>', ' ', '\t', ',', '\r', '\n'] := by
    intro member
    exact other c ((by decide : ['>', ' ', '\t', ',', '\r', '\n'] ⊆ "s>; \t,\r\n@\"".toList) member) rfl
  simpa [inUri] using ends

/-- A piece of an address literal. -/
def Literal (piece : Chars) : Prop := ∀ c ∈ piece, isLiteralChar c = true

variable {before behind piece : Chars}

theorem uris_piece (literal : Literal piece) (rest : Chars) :
    maskSipUris (piece ++ rest) = piece ++ maskSipUris rest := by
  induction piece with
  | nil => rfl
  | cons c piece ih =>
    have plain : startsUri (c :: (piece ++ rest)) = false := by
      have other := (literal_plain (literal c (List.mem_cons_self ..))).1
      simp [startsUri_eq, List.isPrefixOf, other.symm]
    rw [List.cons_append, maskSipUris_cons plain, ih fun d member => literal d (List.mem_cons_of_mem c member)]
    rfl

theorem unquoted_maskUser {s : Chars} (plain : '"' ∉ s) : '"' ∉ maskUser s := by
  intro member
  unfold maskUser at member
  dsimp only at member
  split at member
  · obtain ⟨i, bound, same⟩ := List.mem_mapIdx.mp member
    split at same
    · exact plain (same ▸ List.getElem_mem bound)
    · exact absurd same (by decide)
  · rw [List.mem_append, List.mem_append] at member
    rcases member with (first | middle) | last
    · exact plain (List.mem_of_mem_take first)
    · split at middle <;> exact absurd middle (by decide)
    · exact plain (List.mem_of_mem_drop last)

theorem unquoted_digits {radix : ℕ} (large : 1 < radix) (few : radix ≤ 16) (n : ℕ) : '"' ∉ Nat.toDigits radix n := by
  have other : ∀ d < 16, '"' ≠ d.digitChar := by decide
  intro member
  obtain ⟨d, small, same⟩ := mem_toDigits large n member
  exact other d (by omega) same

theorem unquoted_maskIp (ip : IpAddr) : '"' ∉ maskIp ip := by
  have decimal := unquoted_digits (show 1 < 10 by decide) (by decide)
  have hexadecimal := unquoted_digits (show 1 < 16 by decide) (by decide)
  cases ip <;> simp [maskIp, hex, decimal, hexadecimal]

theorem unquoted_maskHost {host : Chars} (plain : '"' ∉ host) : '"' ∉ maskHost host := by
  have decimal := unquoted_digits (show 1 < 10 by decide) (by decide)
  unfold maskHost
  split
  · simp [decimal, unquoted_maskIp]
  · split
    · exact unquoted_maskIp _
    · dsimp only
      split
      · simp [unquoted_maskIp]
      · exact plain

theorem unquoted_maskAddr {addr : Chars} (plain : '"' ∉ addr) : '"' ∉ maskAddr addr := by
  unfold maskAddr
  split
  · next user host cut =>
    obtain ⟨rfl, -⟩ := splitOnce_shape cut
    have user' : '"' ∉ user := fun member => plain (by simp [member])
    have host' : '"' ∉ host := fun member => plain (by simp [member])
    simp [unquoted_maskUser user', unquoted_maskHost host']
  · exact unquoted_maskHost plain

theorem unquoted_maskBody {body : Chars} (plain : '"' ∉ body) : '"' ∉ maskBody body := by
  unfold maskBody
  split
  · next addr params cut =>
    obtain ⟨rfl, -⟩ := splitOnce_shape cut
    have addr' : '"' ∉ addr := fun member => plain (by simp [member])
    have params' : '"' ∉ params := fun member => plain (by simp [member])
    simp [unquoted_maskAddr addr', params']
  · exact unquoted_maskAddr plain

/-- The first pass brings in no quotes. -/
theorem unquoted_uris {text : Chars} (plain : '"' ∉ text) : '"' ∉ maskSipUris text := by
  induction text using uri_induction with
  | nil => exact plain
  | letter c text starts ih =>
    rw [maskSipUris_cons starts]
    rw [List.mem_cons, not_or] at plain ⊢
    exact ⟨plain.1, ih plain.2⟩
  | opened scheme u isScheme all =>
    rw [List.mem_append, not_or] at plain
    have more := List.takeWhile_eq_self_iff.mpr all
    rw [maskSipUris_scheme isScheme, more, List.dropWhile_eq_nil_iff.mpr all]
    have nothing : maskSipUris [] = [] := rfl
    simp [plain.1, unquoted_maskBody plain.2, nothing]
  | closed scheme u d text isScheme all ends ih =>
    rw [List.mem_append, List.mem_append, not_or, not_or] at plain
    have stops : (u ++ d :: text).takeWhile inUri = u := by
      rw [List.takeWhile_append_of_pos all, List.takeWhile_cons_of_neg (by simp [ends]), List.append_nil]
    have stays : (u ++ d :: text).dropWhile inUri = d :: text := by
      rw [List.dropWhile_append_of_pos all, List.dropWhile_cons_of_neg (by simp [ends])]
    rw [List.append_assoc, maskSipUris_scheme isScheme, stops, stays]
    simp [plain.1.1, unquoted_maskBody plain.1.2, ih plain.2]

/-- What is written behind the piece. -/
structure Behind (rest after : Chars) : Prop where
  head : after.head? = rest.head?
  unquoted : '"' ∉ rest → '"' ∉ after

theorem behind_split (rest : Chars) : Behind rest (rest.takeWhile inUri ++ maskSipUris (rest.dropWhile inUri)) := by
  have split := List.takeWhile_append_dropWhile (p := inUri) (l := rest)
  constructor
  · conv_rhs => rw [← split]
    rw [List.head?_append, List.head?_append, uris_head]
  · intro plain
    rw [← split, List.mem_append, not_or] at plain
    rw [List.mem_append, not_or]
    exact ⟨plain.1, unquoted_uris plain.2⟩

theorem opened_piece {scheme u : Chars} (opened : (front before).openUri = some (scheme, u)) (literal : Literal piece)
    (seamless : Seamless before (piece ++ behind)) :
    maskSipUris (before ++ (piece ++ behind)) =
      (front before).written ++ scheme ++ maskBody (u ++ (piece ++ behind.takeWhile inUri)) ++
        maskSipUris (behind.dropWhile inUri) := by
  have all : ∀ c ∈ piece, inUri c = true := fun c member => (literal_plain (literal c member)).2.1
  rw [maskSipUris_append seamless, opened, resume, List.takeWhile_append_of_pos all, List.dropWhile_append_of_pos all]
  simp

/-- Outside the URIs, and in their parameters, the first pass copies the piece. -/
theorem uris_copied {written : Chars} (place : placeOf before = .copied written) (behind : Chars) :
    ∃ after, Behind behind after ∧ ∀ piece, Literal piece → Seamless before (piece ++ behind) →
      maskSipUris (before ++ (piece ++ behind)) = written ++ (piece ++ after) := by
  unfold placeOf at place
  split at place
  · next outside =>
    cases place
    refine ⟨maskSipUris behind, ⟨uris_head behind, unquoted_uris⟩, fun piece literal seamless => ?_⟩
    rw [maskSipUris_append seamless, outside, resume, uris_piece literal]
  · next scheme u opened =>
    split at place
    · next cut =>
      cases place
      obtain ⟨rfl, plain⟩ := splitOnce_shape cut
      refine ⟨_, behind_split behind, fun piece literal seamless => ?_⟩
      rw [opened_piece opened literal seamless, List.append_assoc (_ : Chars) (';' :: _), maskBody_cut plain (by simp),
        maskBody_cut plain (by simp)]
      simp
    · split at place <;> cases place

/-- In the host of a URI the piece is read with the rest of the host. -/
theorem uris_host {written host : Chars} (place : placeOf before = .host written host)
    (outside : ¬ InUser before behind) :
    ∃ after, Behind behind (hostTail behind ++ after) ∧ ∀ piece, Literal piece → Seamless before (piece ++ behind) →
      maskSipUris (before ++ (piece ++ behind)) = written ++ maskHost (host ++ (piece ++ hostTail behind)) ++ after := by
  have tail : hostTail behind ++ (behind.takeWhile inUri).dropWhile (· != ';') = behind.takeWhile inUri :=
    List.takeWhile_append_dropWhile
  have cut : ∀ c ∈ ((behind.takeWhile inUri).dropWhile (· != ';')).head?, c = ';' := fun c member => by
    simpa using head_dropWhile c member
  generalize (behind.takeWhile inUri).dropWhile (· != ';') = params at tail cut
  have noParams : ';' ∉ hostTail behind := fun member => by
    simpa using List.mem_takeWhile_imp member
  refine ⟨params ++ maskSipUris (behind.dropWhile inUri), ?_, fun piece literal seamless => ?_⟩
  · rw [← List.append_assoc, tail]
    exact behind_split behind
  · have noSign : ';' ∉ piece := fun member => (literal_plain (literal _ member)).2.2.1 rfl
    have noAt : '@' ∉ piece := fun member => (literal_plain (literal _ member)).2.2.2.1 rfl
    unfold placeOf at place
    split at place
    · cases place
    · next scheme u opened =>
      split at place
      · cases place
      · next whole =>
        have plain := splitOnce_whole whole
        have addr : ';' ∉ u ++ (piece ++ hostTail behind) := by
          rw [List.mem_append, List.mem_append]
          rintro (inU | inPiece | inTail)
          · exact plain inU
          · exact noSign inPiece
          · exact noParams inTail
        have body := maskBody_cut addr cut
        rw [List.append_assoc, List.append_assoc, tail] at body
        rw [opened_piece opened literal seamless, body]
        split at place
        · next user rest cutUser =>
          cases place
          obtain ⟨rfl, plainUser⟩ := splitOnce_shape cutUser
          have masked := maskAddr_user plainUser (host ++ (piece ++ hostTail behind))
          rw [← List.cons_append, ← List.append_assoc] at masked
          rw [masked]
          simp
        · next noUser =>
          obtain ⟨rfl, rfl⟩ := Place.host.inj place
          have plainU := splitOnce_whole noUser
          have noAtTail : '@' ∉ hostTail behind := fun member =>
            outside ⟨scheme, u, opened, plain, plainU, member⟩
          have hostOnly : '@' ∉ u ++ (piece ++ hostTail behind) := by
            rw [List.mem_append, List.mem_append]
            rintro (inU | inPiece | inTail)
            · exact plainU inU
            · exact noAt inPiece
            · exact noAtTail inTail
          rw [maskAddr_host hostOnly]
          simp

/-! ## Messages -/

theorem intercalate_around {α : Type} (sep : List α) (above below : List (List α)) :
    ∃ front back, ∀ line, sep.intercalate (above ++ line :: below) = front ++ (line ++ back) := by
  induction above with
  | nil =>
    cases below with
    | nil => exact ⟨[], [], fun line => by simp⟩
    | cons next below => exact ⟨[], sep ++ sep.intercalate (next :: below), fun line => by simp⟩
  | cons first above ih =>
    obtain ⟨front, back, around⟩ := ih
    refine ⟨first ++ sep ++ front, back, fun line => ?_⟩
    rw [List.cons_append, List.intercalate_cons_of_ne_nil (by simp), around]
    simp

/-- Text that stands within a line: its end is not taken for the end of the line. -/
def Inline (piece : Chars) : Prop := piece ≠ [] ∧ '\n' ∉ piece ∧ ∀ c ∈ piece.getLast?, c ≠ '\r'

/-- A message is masked line by line: a piece within a line changes no other line. -/
theorem maskRaw_around (before after : Chars) : ∃ above below, ∀ piece, Inline piece →
    maskRaw (before ++ (piece ++ after)) = above ++ (maskLine (lineFront before ++ (piece ++ lineBack after)) ++ below) := by
  obtain ⟨above, below, around⟩ := lines_around before after
  obtain ⟨front, back, joined⟩ := intercalate_around ['\n'] (above.map maskLine) (below.map maskLine)
  refine ⟨front, back, fun piece inline => ?_⟩
  rw [maskRaw, around piece inline.1 inline.2.1 inline.2.2, List.map_append, List.map_cons, joined]

theorem maskRaw_eq_iff {first second : Chars} (inline : Inline first) (inline' : Inline second) (before after : Chars) :
    maskRaw (before ++ (first ++ after)) = maskRaw (before ++ (second ++ after)) ↔
      maskLine (lineFront before ++ (first ++ lineBack after)) =
        maskLine (lineFront before ++ (second ++ lineBack after)) := by
  obtain ⟨above, below, around⟩ := maskRaw_around before after
  rw [around first inline, around second inline', List.append_cancel_left_eq, List.append_cancel_right_eq]

/-- What the last two passes make of a line. -/
def laterPasses (front masked : Chars) : Chars :=
  maskIps (if isIdentity front then maskDisplayNames masked else masked)

theorem maskLine_eq (line : Chars) : maskLine line = laterPasses line (maskSipUris line) := rfl

/-- The head of a line is told by the line up to its colon. -/
theorem isIdentity_append {front : Chars} (named : ':' ∈ front) (rest : Chars) :
    isIdentity (front ++ rest) = isIdentity front := by
  obtain ⟨head, value, rfl, plain⟩ := List.eq_append_cons_of_mem named
  have head' : ':' ∉ head.dropWhile isWhitespace := fun member => plain ((List.dropWhile_suffix _).subset member)
  have colon : isWhitespace ':' = false := by decide
  rw [isIdentity, isIdentity, List.append_assoc, List.cons_append, dropWhile_cut colon, dropWhile_cut colon,
    splitOnce_cut head', splitOnce_cut head']

theorem isIdentity_named {line : Chars} (identity : isIdentity line = true) : ':' ∈ line := by
  unfold isIdentity at identity
  split at identity
  · next head value cut =>
    obtain ⟨shape, -⟩ := splitOnce_shape cut
    refine (List.dropWhile_suffix isWhitespace).subset ?_
    rw [shape]
    simp
  · cases identity

end Sipmon.Guarantees.MaskedText
