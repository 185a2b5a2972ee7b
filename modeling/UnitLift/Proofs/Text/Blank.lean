import UnitLift.Text.Blank

namespace UnitLift.Text

def IsWord (word : List Char) : Prop := word ≠ [] ∧ ∀ c ∈ word, isBlank c = false

def spaced (words : List (List Char)) : List Char := words.flatMap (' ' :: ·)

private theorem wordsFrom_append {word : List Char} (whole : ∀ c ∈ word, isBlank c = false)
    (start rest : List Char) :
    wordsFrom start (word ++ rest) = wordsFrom (word.reverse ++ start) rest := by
  induction word generalizing start with
  | nil => rfl
  | cons c word ih =>
    rw [List.cons_append, wordsFrom, whole c (by simp),
      if_neg Bool.false_ne_true, ih fun c member => whole c (by simp [member])]
    simp

private theorem wordsFrom_spaced {words : List (List Char)} (whole : ∀ word ∈ words, IsWord word)
    (start : List Char) :
    wordsFrom start (spaced words) =
      (if start.isEmpty then [] else [start.reverse]) ++ words := by
  induction words generalizing start with
  | nil => simp [spaced, wordsFrom]
  | cons word words ih =>
    obtain ⟨some, inside⟩ := whole word (by simp)
    have next := ih (fun word member => whole word (by simp [member])) word.reverse
    have step (kept : List Char) : wordsFrom kept (word ++ spaced words) = _ :=
      wordsFrom_append inside kept (spaced words)
    have space : isBlank ' ' = true := by decide
    rw [spaced, List.flatMap_cons, ← spaced, List.cons_append, wordsFrom, space, if_pos rfl, step,
      List.append_nil, next]
    cases start <;> simp [some]

theorem words_spaced {list : List (List Char)} (whole : ∀ word ∈ list, IsWord word) :
    words (spaced list) = list := by
  rw [words, wordsFrom_spaced whole]
  rfl

theorem trimStart_cons {c : Char} (visible : isBlank c = false) (rest : List Char) :
    trimStart (c :: rest) = c :: rest := by
  simp [trimStart, visible]

end UnitLift.Text
