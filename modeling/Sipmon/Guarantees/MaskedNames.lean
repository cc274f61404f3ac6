import Sipmon.Guarantees.AddressScan
import Sipmon.Guarantees.MaskedText

/-!
# What a masked name still tells (`mask_user`)

A name is hidden when another one of its length has the same mask. Names of five, six
and seven characters are not: their first three and last four characters are all of them.
-/
namespace Sipmon.Guarantees.MaskedNames
open Lib.Scan Source Text Masking AddressEnds AddressScan MaskedText TextLines

variable {s other before after : Chars}

/-- The mask does not tell the name. -/
def Hidden (s : Chars) : Prop := ∃ other, other ≠ s ∧ other.length = s.length ∧ maskUser other = maskUser s

/-- Between the first three and the last four characters there are some, or none are shown there. -/
def LeavesOut (s : Chars) : Prop := s.length < 5 ∨ 7 < s.length

/-- The first character that a mask leaves out. -/
def leftOut (s : Chars) : ℕ := if s.length ≤ 4 then 1 else 3

theorem maskUser_whole (least : 5 ≤ s.length) (most : s.length ≤ 7) :
    maskUser s = s.take 3 ++ '*' :: s.drop 3 := by
  have long : ¬ s.length ≤ 4 := by omega
  have back : max (s.length - 4) 3 = 3 := by omega
  unfold maskUser
  dsimp only
  rw [if_neg long, back]
  simp

theorem maskUser_set (leavesOut : LeavesOut s) (c : Char) :
    maskUser (s.set (leftOut s) c) = maskUser s := by
  unfold maskUser leftOut
  dsimp only
  rw [List.length_set]
  by_cases short : s.length ≤ 4
  · rw [if_pos short, if_pos short, if_pos short]
    apply List.ext_getElem
    · simp
    · intro i bound bound'
      rw [List.getElem_mapIdx, List.getElem_mapIdx]
      by_cases first : i = 0
      · subst first
        simp
      · rw [if_neg first, if_neg first]
  · have long : 7 < s.length := leavesOut.resolve_left (by omega)
    rw [if_neg short, if_neg short, if_neg short, List.take_set_of_le (by omega), List.drop_set_of_lt (by omega)]

/-- A name that leaves characters out has another one with its mask. -/
theorem exists_other (two : 2 ≤ s.length) (leavesOut : LeavesOut s) :
    ∃ c, (c = 'x' ∨ c = 'y') ∧ s.set (leftOut s) c ≠ s := by
  have bound : leftOut s < s.length := by
    unfold leftOut
    split
    · omega
    · have long : 7 < s.length := leavesOut.resolve_left (by omega)
      omega
  have changes : ∀ c, s[leftOut s] ≠ c → s.set (leftOut s) c ≠ s := by
    intro c different same
    apply different
    have at_ := congrArg (fun t => t[leftOut s]?) same
    simp only [List.getElem?_set_self bound, List.getElem?_eq_getElem bound, Option.some.injEq] at at_
    exact at_.symm
  by_cases isX : s[leftOut s] = 'x'
  · refine ⟨'y', .inr rfl, changes 'y' ?_⟩
    rw [isX]
    decide
  · exact ⟨'x', .inl rfl, changes 'x' isX⟩

/-- Five to seven characters are shown, also where addresses are masked. -/
theorem whole_shown (least : 5 ≤ s.length) (most : s.length ≤ 7) (length : other.length = s.length)
    (same : maskIps (maskUser other) = maskIps (maskUser s)) : other = s := by
  have star : Alien '*' := by decide
  rw [maskUser_whole least most, maskUser_whole (length ▸ least) (length ▸ most), ips_append star, ips_append star] at same
  have unbracketed : ∀ t : Chars, 5 ≤ t.length → maskIps (t.take 3) = t.take 3 := by
    intro t long
    refine (ips_short (by simp)).resolve_right fun whole => ?_
    have size := congrArg List.length whole
    rw [List.length_take, Nat.min_eq_left (by omega)] at size
    exact absurd size (by decide)
  rw [unbracketed other (length ▸ least), unbracketed s least] at same
  obtain ⟨front, back⟩ := List.append_inj same (by simp [length])
  have back' : other.drop 3 = s.drop 3 :=
    ips_short_inj (by rw [List.length_drop]; omega) (by simp [length]) (List.cons.inj back).2
  rw [← List.take_append_drop 3 other, ← List.take_append_drop 3 s, front, back']

theorem hidden_iff (two : 2 ≤ s.length) : Hidden s ↔ LeavesOut s := by
  constructor
  · rintro ⟨other, different, length, same⟩
    by_contra shown
    unfold LeavesOut at shown
    exact different (whole_shown (by omega) (by omega) length (congrArg maskIps same))
  · intro leavesOut
    obtain ⟨c, -, different⟩ := exists_other two leavesOut
    exact ⟨_, different, List.length_set, maskUser_set leavesOut c⟩

/-! ## In a message -/

/-- Another name that could stand there gives the same masked message. -/
def HiddenIn (allowed : Chars → Prop) (before s after : Chars) : Prop :=
  ∃ other, allowed other ∧ other ≠ s ∧ other.length = s.length ∧
    maskRaw (before ++ (other ++ after)) = maskRaw (before ++ (s ++ after))

/-- The text between the scheme of a URI and its `@`. -/
structure UserAt (before after user : Chars) : Prop where
  opened : ∃ scheme, (front (lineFront before)).openUri = some (scheme, [])
  plain : ∀ c ∈ user, inUri c = true ∧ c ≠ ';' ∧ c ≠ '@'
  followed : after.head? = some '@'

/-- No quoted name of an identity header goes over the user. -/
def Unquoted (before user : Chars) : Prop :=
  isIdentity (lineFront before) = true → Even ((front (lineFront before)).written.count '"') ∧ '"' ∉ user

/-- The text between two quotes of an identity header, where no URI is. -/
structure NameAt (before after name : Chars) : Prop where
  identity : isIdentity (lineFront before) = true
  opened : ∃ written, front (lineFront before) = ⟨written ++ ['"'], none⟩ ∧ Even (written.count '"')
  plain : ∀ c ∈ name, c ≠ '"' ∧ c ≠ '\n'
  noUri : ∀ k, startsUri (name.drop k) = false
  followed : after.head? = some '"'

theorem mem_set {c d : Char} {i : ℕ} (member : d ∈ s.set i c) : d ∈ s ∨ d = c := by
  rcases List.mem_or_eq_of_mem_set member with inside | same
  · exact .inl inside
  · exact .inr same

theorem UserAt.set {c : Char} (userAt : UserAt before after s) (letter : c = 'x' ∨ c = 'y') (i : ℕ) :
    UserAt before after (s.set i c) := by
  refine ⟨userAt.opened, fun d member => ?_, userAt.followed⟩
  rcases mem_set member with inside | rfl
  · exact userAt.plain d inside
  · rcases letter with rfl | rfl <;> decide

theorem Unquoted.set {c : Char} (unquoted : Unquoted before s) (letter : c = 'x' ∨ c = 'y') (i : ℕ) :
    Unquoted before (s.set i c) := by
  intro identity
  obtain ⟨even, plain⟩ := unquoted identity
  refine ⟨even, fun member => ?_⟩
  rcases mem_set member with inside | rfl
  · exact plain inside
  · exact absurd letter (by decide)

theorem startsUri_set {c : Char} (letter : c = 'x' ∨ c = 'y') (text : Chars) (i : ℕ) (plain : startsUri text = false) :
    startsUri (text.set i c) = false := by
  rw [startsUri_eq] at plain ⊢
  rcases text with _ | ⟨a, _ | ⟨b, _ | ⟨d, _ | ⟨e, _ | ⟨f, text⟩⟩⟩⟩⟩ <;>
    rcases i with _ | _ | _ | _ | _ | i <;> rcases letter with rfl | rfl <;>
      simp_all [List.isPrefixOf]
  all_goals tauto

theorem NameAt.set {c : Char} (nameAt : NameAt before after s) (letter : c = 'x' ∨ c = 'y') (i : ℕ) :
    NameAt before after (s.set i c) := by
  refine ⟨nameAt.identity, nameAt.opened, fun d member => ?_, fun k => ?_, nameAt.followed⟩
  · rcases mem_set member with inside | rfl
    · exact nameAt.plain d inside
    · rcases letter with rfl | rfl <;> decide
  · rw [List.drop_set]
    split
    · exact nameAt.noUri k
    · exact startsUri_set letter _ _ (nameAt.noUri k)

/-! ### Users -/

/-- The line of a user shows its mask. -/
theorem line_user {scheme : Chars} (opened : (front before).openUri = some (scheme, [])) (behind : Chars) :
    ∃ rest, ∀ user, (∀ c ∈ user, inUri c = true ∧ c ≠ ';' ∧ c ≠ '@') →
      maskLine (before ++ (user ++ '@' :: behind)) =
        laterPasses before ((front before).written ++ scheme ++ (maskUser user ++ '@' :: rest)) := by
  obtain ⟨isScheme, -, prior, shape⟩ := openUri_shape opened
  have colon : before.getLast? = some ':' := by
    rw [shape]
    rcases isScheme with rfl | rfl <;> simp
  have named : ':' ∈ before := List.mem_of_getLast? colon
  have seamless : ∀ rest, Seamless before rest := by
    refine seamless_of_last fun c ends => ?_
    obtain rfl : ':' = c := by simpa [colon] using ends
    decide
  have masked : ∃ rest, ∀ user, (∀ c ∈ user, inUri c = true ∧ c ≠ ';' ∧ c ≠ '@') →
      maskSipUris (before ++ (user ++ '@' :: behind)) =
        (front before).written ++ scheme ++ (maskUser user ++ '@' :: rest) := by
    have inside : ('@' :: behind).takeWhile inUri = '@' :: behind.takeWhile inUri := rfl
    have outside : ('@' :: behind).dropWhile inUri = behind.dropWhile inUri := rfl
    have host : ∃ rest, ∀ user, (∀ c ∈ user, inUri c = true ∧ c ≠ ';' ∧ c ≠ '@') →
        maskBody (user ++ '@' :: behind.takeWhile inUri) = maskUser user ++ '@' :: rest := by
      have params := cut_cases ';' (behind.takeWhile inUri)
      generalize behind.takeWhile inUri = text at params
      rcases params with whole | ⟨addr, params, rfl, addrPlain⟩
      · refine ⟨maskHost text, fun user plain => ?_⟩
        have noParams : ';' ∉ user ++ '@' :: text := by
          simp only [List.mem_append, List.mem_cons, not_or]
          exact ⟨fun member => (plain ';' member).2.1 rfl, by decide, whole⟩
        have body := maskBody_cut noParams (show ∀ c ∈ ([] : Chars).head?, c = ';' by simp)
        rw [List.append_nil, List.append_nil] at body
        rw [body, maskAddr_user fun member => (plain '@' member).2.2 rfl]
      · refine ⟨maskHost addr ++ ';' :: params, fun user plain => ?_⟩
        have noParams : ';' ∉ user ++ '@' :: addr := by
          simp only [List.mem_append, List.mem_cons, not_or]
          exact ⟨fun member => (plain ';' member).2.1 rfl, by decide, addrPlain⟩
        have body := maskBody_cut noParams (show ∀ c ∈ (';' :: params).head?, c = ';' by simp)
        rw [maskAddr_user fun member => (plain '@' member).2.2 rfl] at body
        simpa using body
    obtain ⟨rest, body⟩ := host
    refine ⟨rest ++ maskSipUris (behind.dropWhile inUri), fun user plain => ?_⟩
    have all : ∀ c ∈ user, inUri c = true := fun c member => (plain c member).1
    rw [maskSipUris_append (seamless _), opened, resume, List.takeWhile_append_of_pos all,
      List.dropWhile_append_of_pos all, inside, outside, List.nil_append, body user plain]
    simp
  obtain ⟨rest, first⟩ := masked
  refine ⟨rest, fun user plain => ?_⟩
  rw [maskLine, isIdentity_append named, first user plain]
  rfl

/-- Behind a scheme, and up to the `@`, the last passes see the user by itself. -/
theorem later_user {scheme line written : Chars} (isScheme : IsScheme scheme)
    (even : isIdentity line = true → Even (written.count '"')) (rest : Chars) :
    ∃ above below, ∀ masked, (isIdentity line = true → '"' ∉ masked) →
      laterPasses line (written ++ scheme ++ (masked ++ '@' :: rest)) = above ++ (maskIps masked ++ '@' :: below) := by
  have unquoted : '"' ∉ scheme := by rcases isScheme with rfl | rfl <;> decide
  have names : ∃ written' rest', ∀ masked, (isIdentity line = true → '"' ∉ masked) →
      laterPasses line (written ++ scheme ++ (masked ++ '@' :: rest)) =
        maskIps (written' ++ scheme ++ (masked ++ '@' :: rest')) := by
    by_cases identity : isIdentity line = true
    · refine ⟨maskDisplayNames written, maskDisplayNames rest, fun masked plain => ?_⟩
      rw [laterPasses, if_pos identity, List.append_assoc, names_even (even identity), names_plain unquoted,
        names_plain (plain identity), names_letter (by decide), List.append_assoc]
    · refine ⟨written, rest, fun masked plain => ?_⟩
      rw [laterPasses, if_neg identity]
  obtain ⟨written', rest', names⟩ := names
  obtain ⟨most, d, ends, alien⟩ : ∃ most d, scheme = most ++ [d, ':'] ∧ Alien d := by
    rcases isScheme with rfl | rfl
    · exact ⟨"sip".toList, 's', rfl, by decide⟩
    · exact ⟨"si".toList, 'p', rfl, by decide⟩
  have sign : Alien '@' := by decide
  refine ⟨maskIps (written' ++ most) ++ [d, ':'], maskIps rest', fun masked plain => ?_⟩
  have text : written' ++ scheme ++ (masked ++ '@' :: rest') =
      (written' ++ most) ++ d :: ':' :: (masked ++ '@' :: rest') := by simp [ends]
  rw [names masked plain, text, ips_append alien, ips_colon, ips_append sign]
  simp

theorem UserAt.inline (userAt : UserAt before after s) (nonempty : s ≠ []) : Inline s := by
  refine ⟨nonempty, fun member => ?_, fun c ends => ?_⟩
  · exact absurd (userAt.plain '\n' member).1 (by decide)
  · rintro rfl
    exact absurd (userAt.plain '\r' (List.mem_of_getLast? ends)).1 (by decide)

/-- The masked message, of which a user is a part. -/
theorem raw_user (userAt : UserAt before after s) (nonempty : s ≠ []) : ∃ scheme rest, IsScheme scheme ∧
    ∀ other, UserAt before after other → other ≠ [] →
      (maskRaw (before ++ (other ++ after)) = maskRaw (before ++ (s ++ after)) ↔
        laterPasses (lineFront before) ((front (lineFront before)).written ++ scheme ++ (maskUser other ++ '@' :: rest)) =
          laterPasses (lineFront before) ((front (lineFront before)).written ++ scheme ++ (maskUser s ++ '@' :: rest))) := by
  obtain ⟨scheme, opened⟩ := userAt.opened
  obtain ⟨more, rfl⟩ : ∃ more, after = '@' :: more := List.head?_eq_some_iff.mp userAt.followed
  obtain ⟨rest, line⟩ := line_user opened (lineBack more)
  refine ⟨scheme, rest, (openUri_shape opened).1, fun other otherAt nonempty' => ?_⟩
  rw [maskRaw_eq_iff (otherAt.inline nonempty') (userAt.inline nonempty), lineBack_cons (by decide) (by decide),
    line other otherAt.plain, line s userAt.plain]

theorem nonempty_of_two (two : 2 ≤ s.length) : s ≠ [] := by
  rintro rfl
  exact absurd two (by decide)

/-- A user that leaves characters out is hidden in the message. -/
theorem user_hidden (userAt : UserAt before after s) (two : 2 ≤ s.length) (leavesOut : LeavesOut s) :
    ∃ other, UserAt before after other ∧ (Unquoted before s → Unquoted before other) ∧ other ≠ s ∧
      other.length = s.length ∧ maskRaw (before ++ (other ++ after)) = maskRaw (before ++ (s ++ after)) := by
  obtain ⟨c, letter, different⟩ := exists_other two leavesOut
  obtain ⟨scheme, rest, -, shown⟩ := raw_user userAt (nonempty_of_two two)
  have otherAt := userAt.set letter (leftOut s)
  have nonempty : s.set (leftOut s) c ≠ [] := nonempty_of_two (by rw [List.length_set]; exact two)
  refine ⟨_, otherAt, fun unquoted => unquoted.set letter _, different, List.length_set, ?_⟩
  rw [shown _ otherAt nonempty, maskUser_set leavesOut]

/-- Outside the quoted names, the message shows what the mask of the user shows. -/
theorem user_shown (userAt : UserAt before after s) (unquoted : Unquoted before s) (two : 2 ≤ s.length) :
    HiddenIn (fun other => UserAt before after other ∧ Unquoted before other) before s after ↔ LeavesOut s := by
  constructor
  · rintro ⟨other, ⟨otherAt, unquoted'⟩, different, length, same⟩
    by_contra shown
    unfold LeavesOut at shown
    obtain ⟨scheme, rest, isScheme, raw⟩ := raw_user userAt (nonempty_of_two two)
    rw [raw other otherAt (nonempty_of_two (length ▸ two))] at same
    obtain ⟨above, below, later⟩ := later_user isScheme (fun identity => (unquoted identity).1) rest
    rw [later _ fun identity => unquoted_maskUser (unquoted' identity).2,
      later _ fun identity => unquoted_maskUser (unquoted identity).2,
      List.append_cancel_left_eq, List.append_cancel_right_eq] at same
    exact different (whole_shown (by omega) (by omega) length same)
  · intro leavesOut
    obtain ⟨other, otherAt, unquoted', different, length, same⟩ := user_hidden userAt two leavesOut
    exact ⟨other, ⟨otherAt, unquoted' unquoted⟩, different, length, same⟩

/-! ### Quoted names -/

theorem front_plain {text : Chars} (noUri : ∀ k, startsUri (text.drop k) = false) : front text = ⟨text, none⟩ := by
  induction text with
  | nil => rfl
  | cons c text ih =>
    rw [front_letter (noUri 0), ih fun k => noUri (k + 1)]

/-- The line of a quoted name shows its mask. -/
theorem line_name {written : Chars} (identity : isIdentity before = true)
    (opened : front before = ⟨written ++ ['"'], none⟩) (even : Even (written.count '"')) (behind : Chars) :
    ∃ above below, ∀ name, '"' ∉ name → (∀ k, startsUri (name.drop k) = false) →
      maskLine (before ++ (name ++ '"' :: behind)) = above ++ '"' :: (maskIps (maskUser name) ++ '"' :: below) := by
  have quote : Alien '"' := by decide
  have last : before.getLast? = some '"' := by
    have ends : (front before).written.getLast? = before.getLast? := written_last (by rw [opened])
    rw [opened] at ends
    rw [← ends]
    simp
  have seamless : ∀ rest, Seamless before rest := by
    refine seamless_of_last fun c ends => ?_
    obtain rfl : '"' = c := by simpa [last] using ends
    decide
  have whole : ∀ rest : Chars, startsUri ('"' :: rest) = false := fun rest => by simp [startsUri_eq, List.isPrefixOf]
  refine ⟨maskIps (maskDisplayNames written), maskIps (maskDisplayNames (maskSipUris behind)), fun name plain noUri => ?_⟩
  have inner : Seamless name ('"' :: behind) := seamless_of_head fun c head => by
    obtain rfl : '"' = c := by simpa using head
    decide
  have pair := names_pair plain (maskSipUris behind)
  rw [maskLine, isIdentity_append (isIdentity_named identity), if_pos identity, maskSipUris_append (seamless _), opened,
    resume, maskSipUris_append inner, front_plain noUri, resume, maskSipUris_cons (whole behind)]
  rw [List.append_assoc, names_even even, List.singleton_append, ← List.cons_append, pair, List.cons_append,
    ips_append quote, ips_append quote]

theorem NameAt.inline (nameAt : NameAt before after s) : Inline (s ++ ['"']) := by
  refine ⟨by simp, ?_, by simp⟩
  simp only [List.mem_append, List.mem_singleton, not_or]
  exact ⟨fun member => (nameAt.plain '\n' member).2 rfl, by decide⟩

/-- The message shows what the mask of a quoted name shows. -/
theorem raw_name (nameAt : NameAt before after s) (otherAt : NameAt before after other) :
    maskRaw (before ++ (other ++ after)) = maskRaw (before ++ (s ++ after)) ↔
      maskIps (maskUser other) = maskIps (maskUser s) := by
  obtain ⟨written, opened, even⟩ := nameAt.opened
  obtain ⟨more, rfl⟩ : ∃ more, after = '"' :: more := List.head?_eq_some_iff.mp nameAt.followed
  obtain ⟨above, below, line⟩ := line_name nameAt.identity opened even (lineBack more)
  have unquoted : ∀ {name}, NameAt before ('"' :: more) name → '"' ∉ name := fun nameAt member =>
    (nameAt.plain '"' member).1 rfl
  have closed : ∀ name : Chars, before ++ (name ++ '"' :: more) = before ++ ((name ++ ['"']) ++ more) := by simp
  have closed' : ∀ name : Chars, lineFront before ++ ((name ++ ['"']) ++ lineBack more) =
      lineFront before ++ (name ++ '"' :: lineBack more) := by simp
  rw [closed, closed, maskRaw_eq_iff otherAt.inline nameAt.inline, closed', closed',
    line other (unquoted otherAt) otherAt.noUri, line s (unquoted nameAt) nameAt.noUri, List.append_cancel_left_eq,
    List.cons.injEq, List.append_cancel_right_eq]
  simp

theorem name_iff (nameAt : NameAt before after s) (two : 2 ≤ s.length) :
    HiddenIn (NameAt before after) before s after ↔ LeavesOut s := by
  constructor
  · rintro ⟨other, otherAt, different, length, same⟩
    by_contra shown
    unfold LeavesOut at shown
    exact different (whole_shown (by omega) (by omega) length ((raw_name nameAt otherAt).mp same))
  · intro leavesOut
    obtain ⟨c, letter, different⟩ := exists_other two leavesOut
    have otherAt := nameAt.set letter (leftOut s)
    refine ⟨_, otherAt, different, List.length_set, ?_⟩
    rw [raw_name nameAt otherAt, maskUser_set leavesOut]

/-- A string of two characters or more is hidden by its mask if and only if it has fewer
than five or more than seven. So it is in a message, as a user and as a quoted name. -/
theorem hidden_outside_five_to_seven (s : Chars) (two : 2 ≤ s.length) :
    (Hidden s ↔ LeavesOut s) ∧
    (∀ before after, UserAt before after s →
      (LeavesOut s → HiddenIn (UserAt before after) before s after) ∧
      (Unquoted before s →
        (HiddenIn (fun other => UserAt before after other ∧ Unquoted before other) before s after ↔ LeavesOut s))) ∧
    (∀ before after, NameAt before after s → (HiddenIn (NameAt before after) before s after ↔ LeavesOut s)) := by
  refine ⟨hidden_iff two, fun before after userAt => ⟨fun leavesOut => ?_, fun unquoted => ?_⟩,
    fun before after nameAt => name_iff nameAt two⟩
  · obtain ⟨other, otherAt, -, further⟩ := user_hidden userAt two leavesOut
    exact ⟨other, otherAt, further⟩
  · exact user_shown userAt unquoted two

/-- A mobile number is hidden, and so is the name that stands in front of it. -/
theorem number_is_hidden :
    Hidden "13812345678".toList ∧
    HiddenIn (UserAt "To: \"Bob\" <sip:".toList "@10.10.0.8>".toList) "To: \"Bob\" <sip:".toList "13812345678".toList
      "@10.10.0.8>".toList ∧
    HiddenIn (NameAt "To: \"".toList "\" <sip:13812345678@10.10.0.8>".toList) "To: \"".toList "Bob".toList
      "\" <sip:13812345678@10.10.0.8>".toList := by
  obtain ⟨number, inUris, -⟩ := hidden_outside_five_to_seven "13812345678".toList (by decide)
  obtain ⟨-, -, inNames⟩ := hidden_outside_five_to_seven "Bob".toList (by decide)
  have user : UserAt "To: \"Bob\" <sip:".toList "@10.10.0.8>".toList "13812345678".toList :=
    ⟨⟨"sip:".toList, by decide +kernel⟩, forall_of_all (by decide +kernel), rfl⟩
  have name : NameAt "To: \"".toList "\" <sip:13812345678@10.10.0.8>".toList "Bob".toList := by
    refine ⟨by decide +kernel, ⟨"To: ".toList, by decide +kernel, by decide +kernel⟩, forall_of_all (by decide +kernel), ?_, rfl⟩
    intro k
    rcases k with _ | _ | _ | k <;> simp [startsUri_eq, List.isPrefixOf]
  exact ⟨number.mpr (.inr (by decide)), (inUris _ _ user).1 (.inr (by decide)), (inNames _ _ name).mpr (.inl (by decide))⟩

/-- Five letters are all shown, with a star between them. -/
theorem alice_is_shown : maskUser "alice".toList = "ali*ce".toList ∧ ¬ Hidden "alice".toList := by
  refine ⟨by decide, fun hidden => ?_⟩
  have leavesOut := (hidden_iff (by decide)).mp hidden
  unfold LeavesOut at leavesOut
  exact absurd leavesOut (by decide)

end Sipmon.Guarantees.MaskedNames
