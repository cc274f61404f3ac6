import Sipmon.Source.Text

/-!
# The lines of a text

`lines` cuts a text at its line feeds. Up to the first one stands the first line, and
the text behind it has the other lines. `splitOnce` cuts a text at one letter.
-/
namespace Sipmon.Guarantees.TextLines
open Source.Text

variable {ch : Char} {line rest : Chars}

theorem beq_of_not_mem {c : Char} (plain : ch ∉ c :: line) : (c == ch) = false := by
  rw [beq_eq_false_iff_ne]
  rintro rfl
  exact plain (List.mem_cons_self ..)

theorem beforeFirst_cut (plain : ch ∉ line) : beforeFirst ch (line ++ ch :: rest) = line := by
  have all : ∀ c ∈ line, (c != ch) = true := by
    intro c member
    rw [bne_iff_ne]
    rintro rfl
    exact plain member
  rw [beforeFirst, List.takeWhile_append_of_pos all]
  simp

theorem split_ne_nil (text : Chars) : split ch text ≠ [] := by
  cases text with
  | nil => simp [split]
  | cons c text =>
    rw [split]
    split
    · simp
    · split <;> simp

theorem split_plain (plain : ch ∉ line) : split ch line = [line] := by
  induction line with
  | nil => rfl
  | cons c line ih =>
    rw [split, ih fun member => plain (List.mem_cons_of_mem c member)]
    simp [beq_of_not_mem plain]

theorem split_cut (plain : ch ∉ line) : split ch (line ++ ch :: rest) = line :: split ch rest := by
  induction line with
  | nil => simp [split]
  | cons c line ih =>
    rw [List.cons_append, split, ih fun member => plain (List.mem_cons_of_mem c member)]
    simp [beq_of_not_mem plain]

/-- A line without the carriage return in front of its line feed. -/
def uncarried (line : Chars) : Chars := if line.getLast? = some '\r' then line.dropLast else line

theorem lines_plain (plain : '\n' ∉ line) : lines line = if line = [] then [] else [line] := by
  rw [lines, split_plain plain]
  cases line <;> simp

theorem lines_cut (plain : '\n' ∉ line) : lines (line ++ '\n' :: rest) = uncarried line :: lines rest := by
  have others : split '\n' rest ≠ [] := split_ne_nil rest
  have last : (line :: split '\n' rest).getLast?.getD [] = (split '\n' rest).getLast?.getD [] := by
    rw [List.getLast?_cons_of_ne_nil others]
  rw [lines, split_cut plain, last, List.dropLast_cons_of_ne_nil others, List.map_cons, lines]
  split <;> rfl

theorem uncarried_append (line : Chars) : uncarried (line ++ ['\r']) = line := by simp [uncarried]

/-! ## Cutting at the first of a letter -/

theorem splitOnce_cut {first : Chars} (plain : ch ∉ first) :
    splitOnce ch (first ++ ch :: rest) = some (first, rest) := by
  have after : afterFirst ch (first ++ ch :: rest) = some rest := by
    induction first with
    | nil => simp [afterFirst]
    | cons c first ih =>
      rw [List.cons_append, afterFirst, beq_of_not_mem plain, ih fun member => plain (List.mem_cons_of_mem c member)]
      rfl
  rw [splitOnce, after, beforeFirst_cut plain]
  rfl

theorem splitOnce_none {text : Chars} (plain : ch ∉ text) : splitOnce ch text = none := by
  have after : afterFirst ch text = none := by
    induction text with
    | nil => rfl
    | cons c text ih =>
      rw [afterFirst, beq_of_not_mem plain, ih fun member => plain (List.mem_cons_of_mem c member)]
      rfl
  rw [splitOnce, after]
  rfl

/-- A text without `ch`, or one cut at its first `ch`. -/
theorem cut_cases (ch : Char) (text : Chars) : ch ∉ text ∨ ∃ first rest, text = first ++ ch :: rest ∧ ch ∉ first := by
  by_cases member : ch ∈ text
  · exact .inr (List.eq_append_cons_of_mem member)
  · exact .inl member

theorem splitOnce_shape {text first : Chars} (cut : splitOnce ch text = some (first, rest)) :
    text = first ++ ch :: rest ∧ ch ∉ first := by
  rcases cut_cases ch text with plain | ⟨a, b, rfl, plain⟩
  · rw [splitOnce_none plain] at cut
    cases cut
  · rw [splitOnce_cut plain] at cut
    obtain ⟨rfl, rfl⟩ := Prod.mk.inj (Option.some.inj cut)
    exact ⟨rfl, plain⟩

theorem splitOnce_whole {text : Chars} (whole : splitOnce ch text = none) : ch ∉ text := by
  rcases cut_cases ch text with plain | ⟨first, rest, rfl, plain⟩
  · exact plain
  · rw [splitOnce_cut plain] at whole
    cases whole

/-! ## The line around a piece of text -/

/-- What of the line stands in front of a piece that `text` ends at. -/
def lineFront : Chars → Chars
  | [] => []
  | c :: rest => if c = '\n' then lineFront rest else if '\n' ∈ rest then lineFront rest else c :: rest

/-- What of the line stands behind a piece that `text` begins at. -/
def lineBack (text : Chars) : Chars :=
  if '\n' ∈ text then uncarried (beforeFirst '\n' text) else text

theorem lineFront_plain {text : Chars} (plain : '\n' ∉ text) : lineFront text = text := by
  cases text with
  | nil => rfl
  | cons c rest =>
    rw [List.mem_cons, not_or] at plain
    rw [lineFront, if_neg (Ne.symm plain.1), if_neg plain.2]

theorem lineFront_cut (first rest : Chars) : lineFront (first ++ '\n' :: rest) = lineFront rest := by
  induction first with
  | nil => rw [List.nil_append, lineFront, if_pos rfl]
  | cons c first ih =>
    rw [List.cons_append, lineFront, if_pos (c := '\n' ∈ _) (by simp), ih]
    split <;> rfl

theorem uncarried_around {front : Chars} (stays : ∀ c ∈ front.getLast?, c ≠ '\r') (nonempty : front ≠ []) (rest : Chars) :
    uncarried (front ++ rest) = front ++ uncarried rest := by
  obtain ⟨most, d, rfl⟩ := List.eq_nil_or_concat' front |>.resolve_left nonempty
  have other : d ≠ '\r' := stays d (by simp)
  rcases List.eq_nil_or_concat' rest with rfl | ⟨more, e, rfl⟩
  · simp [uncarried, other]
  · by_cases carried : e = '\r' <;> simp [uncarried, carried, ← List.append_assoc]

theorem lineBack_cons {c : Char} (feed : c ≠ '\n') (carriage : c ≠ '\r') (rest : Chars) :
    lineBack (c :: rest) = c :: lineBack rest := by
  have stays : ∀ d ∈ [c].getLast?, d ≠ '\r' := by simpa using carriage
  have before : beforeFirst '\n' (c :: rest) = [c] ++ beforeFirst '\n' rest := by simp [beforeFirst, feed]
  unfold lineBack
  by_cases broken : '\n' ∈ rest
  · rw [if_pos (by simp [broken]), if_pos broken, before, uncarried_around stays (by simp)]
    rfl
  · rw [if_neg (by simp [broken, feed.symm]), if_neg broken]

/-- A piece within one line has the same line around it, whichever piece it is. -/
theorem lines_around (before after : Chars) :
    ∃ above below, ∀ piece, piece ≠ [] → '\n' ∉ piece → (∀ c ∈ piece.getLast?, c ≠ '\r') →
      lines (before ++ (piece ++ after)) = above ++ (lineFront before ++ (piece ++ lineBack after)) :: below := by
  induction size : before.length using Nat.strongRecOn generalizing before with
  | ind n ih =>
    subst size
    by_cases member : '\n' ∈ before
    · obtain ⟨first, rest, rfl, plain⟩ := List.eq_append_cons_of_mem member
      obtain ⟨above, below, around⟩ := ih rest.length (by simp; omega) rest rfl
      refine ⟨uncarried first :: above, below, fun piece nonempty within stays => ?_⟩
      rw [List.append_assoc, List.cons_append, lines_cut plain, around piece nonempty within stays, lineFront_cut]
      rfl
    · rw [lineFront_plain member]
      by_cases broken : '\n' ∈ after
      · obtain ⟨first, rest, rfl, plain⟩ := List.eq_append_cons_of_mem broken
        refine ⟨[], lines rest, fun piece nonempty within stays => ?_⟩
        have line : '\n' ∉ before ++ (piece ++ first) := by simp [member, within, plain]
        have last : ∀ c ∈ (before ++ piece).getLast?, c ≠ '\r' := by
          intro c ends
          rw [List.getLast?_append_of_ne_nil _ nonempty] at ends
          exact stays c ends
        have back : lineBack (first ++ '\n' :: rest) = uncarried first := by
          rw [lineBack, if_pos broken, beforeFirst_cut plain]
        have cut : lines ((before ++ (piece ++ first)) ++ '\n' :: rest) =
            uncarried (before ++ (piece ++ first)) :: lines rest := lines_cut line
        rw [← List.append_assoc before, uncarried_around last (by simp [nonempty])] at cut
        rw [back]
        simpa using cut
      · refine ⟨[], [], fun piece nonempty within stays => ?_⟩
        have line : '\n' ∉ before ++ (piece ++ after) := by simp [member, within, broken]
        rw [lines_plain line, if_neg (by simp [nonempty]), lineBack, if_neg broken]
        rfl

end Sipmon.Guarantees.TextLines
