import Mathlib.Data.List.Basic
import Mathlib.Data.List.Infix
import Mathlib.Data.List.TakeWhile

/-!
# The first occurrence of a word

A search through a list for a word, read through a function of the letters (the
identity, or one that drops their case). The search answers with the text behind the
first occurrence. Two rules take it apart: a letter that is not in the word separates
the text, and a word that ends in a mark can only be found in front of a mark.
-/
namespace Sipmon.Lib.Scan

variable {α β : Type*} {f : α → β} {word : List β}

/-- The text behind the first occurrence of `word`. -/
def after [DecidableEq β] (f : α → β) (word : List β) : List α → Option (List α)
  | [] => if word = [] then some [] else none
  | c :: rest =>
    if word <+: (c :: rest).map f then some ((c :: rest).drop word.length) else after f word rest

/-- `word` occurs in `text`, between `front` and `rest`. -/
def OccursAt (f : α → β) (word : List β) (text front rest : List α) : Prop :=
  ∃ found, text = front ++ found ++ rest ∧ found.map f = word

def Occurs (f : α → β) (word : List β) (text : List α) : Prop :=
  ∃ front rest, OccursAt f word text front rest

/-- The first occurrence has no other with less text in front of it. -/
def FirstAt (f : α → β) (word : List β) (text rest : List α) : Prop :=
  ∃ front, OccursAt f word text front rest ∧
    ∀ front' rest', OccursAt f word text front' rest' → front.length ≤ front'.length

theorem prefix_map_iff {text : List α} :
    word <+: text.map f ↔ ∃ found rest, text = found ++ rest ∧ found.map f = word := by
  constructor
  · rintro ⟨tail, joined⟩
    obtain ⟨found, rest, rfl, isWord, -⟩ := List.map_eq_append_iff.mp joined.symm
    exact ⟨found, rest, rfl, isWord⟩
  · rintro ⟨found, rest, rfl, rfl⟩
    simp

theorem occursAt_nil {text rest : List α} :
    OccursAt f word text [] rest ↔ word <+: text.map f ∧ rest = text.drop word.length := by
  constructor
  · rintro ⟨found, rfl, rfl⟩
    simp
  · rintro ⟨front, rfl⟩
    obtain ⟨found, rest, rfl, rfl⟩ := prefix_map_iff.mp front
    exact ⟨found, by simp, rfl⟩

theorem occursAt_cons {c d : α} {text front rest : List α} :
    OccursAt f word (c :: text) (d :: front) rest ↔ c = d ∧ OccursAt f word text front rest := by
  constructor
  · rintro ⟨found, split, isWord⟩
    obtain ⟨same, split⟩ := List.cons.inj split
    exact ⟨same, found, split, isWord⟩
  · rintro ⟨rfl, found, rfl, isWord⟩
    exact ⟨found, rfl, isWord⟩

/-- What stands behind a letter that stops a run is not part of the run. -/
theorem takeWhile_cut {p : α → Bool} {c : α} (stops : p c = false) (text rest : List α) :
    (text ++ c :: rest).takeWhile p = text.takeWhile p := by
  induction text with
  | nil => simp [stops]
  | cons d text ih => rw [List.cons_append, List.takeWhile_cons, ih, List.takeWhile_cons]

theorem dropWhile_cut {p : α → Bool} {c : α} (stops : p c = false) (text rest : List α) :
    (text ++ c :: rest).dropWhile p = text.dropWhile p ++ c :: rest := by
  induction text with
  | nil => simp [stops]
  | cons d text ih =>
    rw [List.cons_append, List.dropWhile_cons, List.dropWhile_cons]
    split
    · exact ih
    · rfl

theorem drop_takeWhile (p : α → Bool) (text : List α) : text.drop (text.takeWhile p).length = text.dropWhile p := by
  have split := congrArg (List.drop (text.takeWhile p).length) (List.takeWhile_append_dropWhile (p := p) (l := text))
  rw [List.drop_left] at split
  exact split.symm

/-- What holds of each letter of a list is found by going through the list. -/
theorem forall_of_all {p : α → Prop} [DecidablePred p] {letters : List α}
    (all : (letters.all fun a => decide (p a)) = true) : ∀ a ∈ letters, p a := by
  simpa using all

/-- A letter outside the word ends every prefix that could match. -/
theorem prefix_break {text : List α} {c : α} {rest : List α} (apart : f c ∉ word) :
    word <+: (text ++ c :: rest).map f ↔ word <+: text.map f := by
  constructor
  · intro front
    rw [List.map_append, List.map_cons] at front
    obtain ⟨tail, joined⟩ := front
    rcases List.append_eq_append_iff.mp joined with ⟨more, inside, -⟩ | ⟨more, rfl, behind⟩
    · exact ⟨more, inside.symm⟩
    · cases more with
      | nil => simp
      | cons d more =>
        have same : f c = d := (List.cons.inj behind).1
        exact absurd (by simp [same]) apart
  · intro front
    rw [List.map_append]
    exact front.trans (List.prefix_append _ _)

variable [DecidableEq β]

theorem after_eq_some_iff {text rest : List α} : after f word text = some rest ↔ FirstAt f word text rest := by
  induction text with
  | nil =>
    have only : ∀ front rest', OccursAt f word [] front rest' ↔ front = [] ∧ word = [] ∧ rest' = [] := by
      intro front rest'
      constructor
      · rintro ⟨found, split, rfl⟩
        simp_all
      · rintro ⟨rfl, rfl, rfl⟩
        exact ⟨[], rfl, rfl⟩
    simp only [after, FirstAt, only]
    aesop
  | cons c text ih =>
    rw [after]
    split
    · next here =>
      constructor
      · rintro ⟨rfl⟩
        exact ⟨[], occursAt_nil.mpr ⟨here, rfl⟩, fun _ _ _ => Nat.zero_le _⟩
      · rintro ⟨front, found, first⟩
        have least := first [] _ (occursAt_nil.mpr ⟨here, rfl⟩)
        rw [List.length_nil, Nat.le_zero, List.length_eq_zero_iff] at least
        subst least
        rw [(occursAt_nil.mp found).2]
    · next here =>
      have later : ∀ front rest', OccursAt f word (c :: text) front rest' ↔
          ∃ shorter, front = c :: shorter ∧ OccursAt f word text shorter rest' := by
        intro front rest'
        constructor
        · intro found
          cases front with
          | nil => exact absurd (occursAt_nil.mp found).1 here
          | cons d shorter =>
            obtain ⟨rfl, behind⟩ := occursAt_cons.mp found
            exact ⟨shorter, rfl, behind⟩
        · rintro ⟨shorter, rfl, found⟩
          exact occursAt_cons.mpr ⟨rfl, found⟩
      rw [ih]
      constructor
      · rintro ⟨front, found, first⟩
        refine ⟨c :: front, (later _ _).mpr ⟨front, rfl, found⟩, fun front' rest' other => ?_⟩
        obtain ⟨shorter, rfl, behind⟩ := (later _ _).mp other
        exact Nat.succ_le_succ (first _ _ behind)
      · rintro ⟨front, found, first⟩
        obtain ⟨shorter, rfl, behind⟩ := (later _ _).mp found
        refine ⟨shorter, behind, fun front' rest' other => ?_⟩
        exact Nat.le_of_succ_le_succ (first _ _ ((later _ _).mpr ⟨front', rfl, other⟩))

theorem after_eq_none_iff {text : List α} : after f word text = none ↔ ¬ Occurs f word text := by
  induction text with
  | nil =>
    rw [after]
    constructor
    · rintro missed ⟨front, rest, found, split, rfl⟩
      simp_all
    · intro missed
      rw [if_neg]
      rintro rfl
      exact missed ⟨[], [], [], rfl, rfl⟩
  | cons c text ih =>
    rw [after]
    split
    · next here => simp [Occurs, show ∃ front rest, OccursAt f word (c :: text) front rest from
        ⟨[], _, occursAt_nil.mpr ⟨here, rfl⟩⟩]
    · next here =>
      rw [ih, not_iff_not]
      constructor
      · rintro ⟨front, rest, found⟩
        exact ⟨c :: front, rest, occursAt_cons.mpr ⟨rfl, found⟩⟩
      · rintro ⟨front, rest, found⟩
        cases front with
        | nil => exact absurd (occursAt_nil.mp found).1 here
        | cons d front => exact ⟨front, rest, (occursAt_cons.mp found).2⟩

theorem after_break {text : List α} {c : α} {rest : List α} (apart : f c ∉ word) (some_ : word ≠ []) :
    after f word (text ++ c :: rest) = ((after f word text).map (· ++ c :: rest)).or (after f word rest) := by
  induction text with
  | nil =>
    have missed : ¬ word <+: (c :: rest).map f := by
      intro front
      have empty : word <+: ([] : List α).map f := (prefix_break apart).mp front
      exact some_ (List.prefix_nil.mp empty)
    have none_ : after f word [] = none := if_neg some_
    rw [List.nil_append, none_, after, if_neg missed]
    rfl
  | cons d text ih =>
    have same : word <+: ((d :: text) ++ c :: rest).map f ↔ word <+: (d :: text).map f := prefix_break apart
    rw [List.cons_append] at same
    rw [List.cons_append, after, after]
    by_cases here : word <+: (d :: text).map f
    · have short : word.length ≤ (d :: text).length := by
        have := here.length_le
        rwa [List.length_map] at this
      rw [if_pos here, if_pos (same.mpr here), ← List.cons_append, List.drop_append_of_le_length short]
      rfl
    · rw [if_neg here, if_neg (fun front => here (same.mp front)), ih]

omit [DecidableEq β] in
theorem front_of_mark {mark : β} {x y tail rest : List β} (xs : mark ∉ x) (ys : mark ∉ y)
    (same : x ++ mark :: tail = y ++ mark :: rest) : x = y := by
  rcases List.append_eq_append_iff.mp same with ⟨more, rfl, split⟩ | ⟨more, rfl, split⟩
  · cases more with
    | nil => simp
    | cons d more => exact absurd (by simp [(List.cons.inj split).1]) ys
  · cases more with
    | nil => simp
    | cons d more => exact absurd (by simp [(List.cons.inj split).1]) xs

/-- A word that ends in a mark is found in front of the first mark, or behind it. -/
theorem after_marked {mark : β} (unmarked : mark ∉ word) {text : List α} (plain : ∀ c ∈ text, f c ≠ mark)
    {c : α} (isMark : f c = mark) {rest : List α} :
    after f (word ++ [mark]) (text ++ c :: rest) =
      if word <:+ text.map f then some rest else after f (word ++ [mark]) rest := by
  induction text with
  | nil =>
    have here : word ++ [mark] <+: (c :: rest).map f ↔ word = [] := by
      cases word with
      | nil => simp [isMark]
      | cons d word =>
        rw [List.map_cons, isMark, List.cons_append, List.cons_prefix_cons]
        simp_all [eq_comm]
    rw [List.nil_append, after]
    by_cases empty : word = []
    · simp [empty, isMark]
    · rw [if_neg (here.not.mpr empty), if_neg (by simpa using empty)]
  | cons d text ih =>
    have here : word ++ [mark] <+: ((d :: text) ++ c :: rest).map f ↔ word = (d :: text).map f := by
      constructor
      · rintro ⟨tail, joined⟩
        have joined' : word ++ mark :: tail = (d :: text).map f ++ mark :: rest.map f := by
          rw [← isMark, ← List.map_cons, ← List.map_append, ← joined, isMark]
          simp
        have plain' : mark ∉ (d :: text).map f := by
          rintro inside
          obtain ⟨e, member, same⟩ := List.mem_map.mp inside
          exact plain e member same
        exact front_of_mark unmarked plain' joined'
      · intro whole
        exact ⟨rest.map f, by simp [whole, isMark]⟩
    have behind := ih fun c member => plain c (List.mem_cons_of_mem d member)
    rw [List.cons_append, after, ← List.cons_append]
    by_cases whole : word = (d :: text).map f
    · rw [if_pos (here.mpr whole), if_pos (whole ▸ List.suffix_refl _)]
      simp [whole]
    · rw [if_neg (here.not.mpr whole), behind, List.map_cons]
      have shorter : word <:+ f d :: text.map f ↔ word <:+ text.map f := by
        rw [List.suffix_cons_iff]
        exact or_iff_right whole
      simp only [shorter]

end Sipmon.Lib.Scan
