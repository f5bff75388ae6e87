import Mathlib.Data.List.DropRight
import Mathlib.Data.List.Induction
import ResumeTerminal.Text.Basic

/-! Trimming and words. Blank ends carry no information: a trimmed text has no more
to trim, is blank exactly when the whole text is, and has the same words. -/
namespace ResumeTerminal.Text

theorem dropBlankEnd_eq_rdropWhile (chars : List Char) :
    dropBlankEnd chars = chars.rdropWhile isBlankChar := rfl

theorem dropBlankEnd_cons {c : Char} {rest : List Char}
    (h : (c :: rest).all isBlankChar = false) :
    dropBlankEnd (c :: rest) = c :: dropBlankEnd rest := by
  unfold dropBlankEnd
  rw [List.reverse_cons, List.dropWhile_append]
  split
  · rename_i hrest
    have hblank : rest.all isBlankChar = true := by
      rw [List.isEmpty_iff, dropWhile_isBlankChar_eq_nil, List.all_reverse] at hrest
      exact hrest
    have hc : isBlankChar c = false := by simpa [hblank] using h
    have hnil : rest.reverse.dropWhile isBlankChar = [] := by
      rw [dropWhile_isBlankChar_eq_nil, List.all_reverse, hblank]
    rw [hnil, List.dropWhile_cons_of_neg (by simp [hc])]
    rfl
  · rw [List.reverse_append]
    rfl

/-- The two ends can be trimmed in either order. -/
theorem dropWhile_dropBlankEnd (chars : List Char) :
    (dropBlankEnd chars).dropWhile isBlankChar =
      dropBlankEnd (chars.dropWhile isBlankChar) := by
  induction chars with
  | nil => rfl
  | cons c rest ih =>
    by_cases hall : (c :: rest).all isBlankChar = true
    · rw [dropBlankEnd_eq_nil.mpr hall, dropWhile_isBlankChar_eq_nil.mpr hall]
      rfl
    · have hcons := dropBlankEnd_cons (Bool.eq_false_iff.mpr hall)
      by_cases hc : isBlankChar c = true
      · rw [hcons, List.dropWhile_cons_of_pos hc, List.dropWhile_cons_of_pos hc, ih]
      · rw [hcons, List.dropWhile_cons_of_neg hc, List.dropWhile_cons_of_neg hc, hcons]

@[simp] theorem trim_trim (text : String) : trim (trim text) = trim text := by
  have hstart (chars : List Char) :
      (chars.dropWhile isBlankChar).dropWhile isBlankChar = chars.dropWhile isBlankChar :=
    List.dropWhile_idempotent isBlankChar chars
  have hend (chars : List Char) : dropBlankEnd (dropBlankEnd chars) = dropBlankEnd chars := by
    simp only [dropBlankEnd_eq_rdropWhile, List.rdropWhile_idempotent]
  conv_lhs => rw [trim, toList_trim, dropWhile_dropBlankEnd, hstart, hend]
  rfl

@[simp] theorem isBlank_trim (text : String) : isBlank (trim text) = isBlank text := by
  rw [← isEmpty_trim, trim_trim, isEmpty_trim]

/-- What is cut off at the end is blank. -/
theorem exists_trimEnd_append (text : String) :
    ∃ blanks, (∀ c ∈ blanks, isBlankChar c = true) ∧
      text = trimEnd text ++ String.ofList blanks := by
  refine ⟨text.toList.rtakeWhile isBlankChar, fun c => List.mem_rtakeWhile_imp, ?_⟩
  rw [trimEnd, dropBlankEnd_eq_rdropWhile, ← String.ofList_append,
    List.rdropWhile_append_rtakeWhile, String.ofList_toList]

theorem isBlankChar_getLast?_trimEnd (text : String) :
    ∀ c ∈ (trimEnd text).toList.getLast?, isBlankChar c = false := by
  intro c hc
  rw [trimEnd, String.toList_ofList, dropBlankEnd_eq_rdropWhile] at hc
  obtain ⟨hne, rfl⟩ := List.mem_getLast?_eq_getLast hc
  exact Bool.eq_false_iff.mpr (List.rdropWhile_last_not isBlankChar _ hne)

theorem dropBlankEnd_append {blanks : List Char} (h : ∀ c ∈ blanks, isBlankChar c = true)
    (chars : List Char) : dropBlankEnd (chars ++ blanks) = dropBlankEnd chars := by
  induction blanks using List.reverseRecOn with
  | nil => rw [List.append_nil]
  | append_singleton blanks c ih =>
    have hlast : isBlankChar c = true := h c (List.mem_append_right _ List.mem_cons_self)
    rw [← List.append_assoc, dropBlankEnd_eq_rdropWhile, List.rdropWhile_concat_pos _ _ _ hlast,
      ← dropBlankEnd_eq_rdropWhile, ih fun d hd => h d (List.mem_append_left _ hd)]

/-- Blanks behind a text are cut off together with its own. -/
theorem trimEnd_append {blanks : List Char} (h : ∀ c ∈ blanks, isBlankChar c = true)
    (text : String) : trimEnd (text ++ String.ofList blanks) = trimEnd text := by
  rw [trimEnd, String.toList_append, String.toList_ofList, dropBlankEnd_append h, trimEnd]

theorem trimEnd_eq_self {text : String}
    (h : ∀ c ∈ text.toList.getLast?, isBlankChar c = false) : trimEnd text = text := by
  have hend : text.toList.rdropWhile isBlankChar = text.toList := by
    rw [List.rdropWhile_eq_self_iff]
    intro hne
    rw [h _ (List.getLast_mem_getLast? hne)]
    exact Bool.false_ne_true
  rw [trimEnd, dropBlankEnd_eq_rdropWhile, hend, String.ofList_toList]

theorem trim_ne_empty {text : String} (h : isBlank text = false) : trim text ≠ "" := by
  intro hempty
  have hsome := isEmpty_trim text
  rw [hempty, h] at hsome
  exact absurd hsome (by decide)

theorem all_isBlankChar_of_runs_eq_nil {chars : List Char} (h : runs chars = []) :
    chars.all isBlankChar = true := by
  induction chars with
  | nil => rfl
  | cons c rest ih =>
    by_cases hc : isBlankChar c = true
    · rw [runs_cons hc] at h
      rw [List.all_cons, hc, ih h, Bool.and_self]
    · exfalso
      cases hparts : rest.splitOnP isBlankChar with
      | nil => exact List.splitOnP_ne_nil _ _ hparts
      | cons first others =>
        rw [runs, List.splitOnP_cons_eq_if_modifyHead, if_neg hc, hparts] at h
        simp at h

theorem words_eq_nil_iff (text : String) : words text = [] ↔ isBlank text = true := by
  rw [words_eq_runs, List.map_eq_nil_iff]
  exact ⟨all_isBlankChar_of_runs_eq_nil, runs_eq_nil_of_all⟩

theorem isBlank_of_words_eq_cons {text word : String} {rest : List String}
    (h : words text = word :: rest) : isBlank text = false := by
  rw [← Bool.not_eq_true, ← words_eq_nil_iff, h]
  exact List.cons_ne_nil _ _

/-- No part of a split holds a character at which the text was split. -/
theorem eq_false_of_mem_splitOnP {p : Char → Bool} {chars part : List Char}
    (h : part ∈ chars.splitOnP p) : ∀ c ∈ part, p c = false := by
  induction chars generalizing part with
  | nil =>
    rw [List.splitOnP_nil, List.mem_singleton] at h
    subst h
    simp
  | cons c rest ih =>
    rw [List.splitOnP_cons_eq_if_modifyHead] at h
    split at h
    · rcases List.mem_cons.mp h with rfl | h
      · simp
      · exact ih h
    · rename_i hc
      cases hparts : rest.splitOnP p with
      | nil => exact absurd hparts (List.splitOnP_ne_nil _ _)
      | cons first others =>
        rw [hparts] at h ih
        rcases List.mem_cons.mp h with rfl | h
        · intro d hd
          rcases List.mem_cons.mp hd with rfl | hd
          · simpa using hc
          · exact ih List.mem_cons_self d hd
        · exact ih (List.mem_cons_of_mem first h)

def IsWord (text : String) : Prop := ∀ c ∈ text.toList, isBlankChar c = false

instance (text : String) : Decidable (IsWord text) :=
  List.decidableBAll (fun c => isBlankChar c = false) text.toList

theorem dropWhile_eq_self_of_forall {chars : List Char}
    (h : ∀ c ∈ chars, isBlankChar c = false) : chars.dropWhile isBlankChar = chars := by
  cases chars with
  | nil => rfl
  | cons c rest => rw [List.dropWhile_cons_of_neg (by simp [h c List.mem_cons_self])]

/-- A word that is not empty is its own only word. -/
theorem words_of_isWord {word : String} (h : IsWord word) (hne : word ≠ "") :
    words word = [word] := by
  have hchars : word.toList ≠ [] := fun hnil => hne (String.toList_eq_nil_iff.mp hnil)
  rw [words, List.splitOnP_eq_singleton h]
  simp [hchars]

theorem trim_of_isWord {word : String} (h : IsWord word) : trim word = word := by
  have hstart : word.toList.dropWhile isBlankChar = word.toList :=
    dropWhile_eq_self_of_forall h
  have hend : dropBlankEnd word.toList = word.toList := by
    unfold dropBlankEnd
    rw [dropWhile_eq_self_of_forall fun c hc => h c (List.mem_reverse.mp hc),
      List.reverse_reverse]
  rw [trim, hstart, hend, String.ofList_toList]

theorem isWord_of_mem_words {text word : String} (h : word ∈ words text) : IsWord word := by
  rw [words_eq_runs] at h
  obtain ⟨run, hrun, rfl⟩ := List.mem_map.mp h
  unfold IsWord
  rw [String.toList_ofList]
  exact eq_false_of_mem_splitOnP (List.mem_filter.mp hrun).1

/-! What there is to see of a text. -/

theorem isEmpty_of_isVisible {text : String} (h : isVisible text = true) :
    text.isEmpty = false := by
  rw [Bool.eq_false_iff, ne_eq, String.isEmpty_iff]
  rintro rfl
  exact absurd h (by decide)

theorem filter_isVisible_of_blank {text : String} (h : isBlank text = true) :
    (some text).filter isVisible = none := by
  rw [Option.filter_some, if_neg (by rw [isVisible, h]; decide)]

theorem isVisible_append (first second : String) :
    isVisible (first ++ second) = (isVisible first || isVisible second) := by
  rw [isVisible, isBlank, String.toList_append, List.all_append, Bool.not_and, isVisible, isVisible,
    isBlank, isBlank]

/-- The characters of a text that can be seen. -/
def ink (text : String) : List Char := text.toList.filter (!isBlankChar ·)

theorem ink_append (first second : String) : ink (first ++ second) = ink first ++ ink second := by
  rw [ink, String.toList_append, List.filter_append, ink, ink]

theorem ink_ne_nil_iff (text : String) : ink text ≠ [] ↔ isVisible text = true := by
  rw [ink, ne_eq, List.filter_eq_nil_iff, isVisible, isBlank, Bool.not_eq_true',
    List.all_eq_false]
  push Not
  simp

theorem ink_trimEnd (text : String) : ink (trimEnd text) = ink text := by
  obtain ⟨blanks, hblanks, htext⟩ := exists_trimEnd_append text
  have hnone : ink (String.ofList blanks) = [] := by
    rw [ink, String.toList_ofList, List.filter_eq_nil_iff]
    intro c hc
    rw [hblanks c hc]
    decide
  conv_rhs => rw [htext, ink_append, hnone, List.append_nil]

end ResumeTerminal.Text
