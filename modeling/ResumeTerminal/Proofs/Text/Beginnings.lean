import ResumeTerminal.Proofs.Text.LowerCase

/-! Lower case of the beginning of a text. It is the beginning of the lower case, unless the text
is cut within a word and the last letter before the cut is a capital sigma: there the beginning
ends with the final form of the letter, and the whole text goes on with the other one. -/
namespace ResumeTerminal.Text

/-- What a word goes on with is not seen behind marks that have no case of their own. -/
theorem touchesCased_append_of_ignorable {marks : List Char}
    (h : ∀ mark ∈ marks, caseIgnorableRanges.has mark = true) (rest : List Char) :
    touchesCased (marks ++ rest) = touchesCased rest := by
  rw [touchesCased, List.dropWhile_append_of_pos h]
  rfl

theorem touchesCased_of_ignorable {marks : List Char}
    (h : ∀ mark ∈ marks, caseIgnorableRanges.has mark = true) : touchesCased marks = false := by
  have happend := touchesCased_append_of_ignorable h []
  rwa [List.append_nil] at happend

/-- The first character that matters hides all others. -/
theorem touchesCased_append_of_mem {chars : List Char} {c : Char} (hmem : c ∈ chars)
    (hc : caseIgnorableRanges.has c = false) (rest : List Char) :
    touchesCased (chars ++ rest) = touchesCased chars := by
  induction chars with
  | nil => cases hmem
  | cons d chars ih =>
    by_cases hd : caseIgnorableRanges.has d = true
    · have hne : c ≠ d := by
        rintro rfl
        rw [hc] at hd
        cases hd
      have hrest := ih ((List.mem_cons.mp hmem).resolve_left hne)
      rw [touchesCased, touchesCased, List.cons_append, List.dropWhile_cons_of_pos hd,
        List.dropWhile_cons_of_pos hd]
      exact hrest
    · rw [touchesCased, touchesCased, List.cons_append, List.dropWhile_cons_of_neg hd,
        List.dropWhile_cons_of_neg hd]

/-- Whether a word is cut right behind a capital sigma within it, marks left aside. The word may
have begun before the characters at hand. -/
def CutsAtSigma (before chars rest : List Char) : Prop :=
  ∃ start marks, chars = start ++ 'Σ' :: marks ∧
    (∀ mark ∈ marks, caseIgnorableRanges.has mark = true) ∧
    touchesCased (start.reverse ++ before) = true ∧ touchesCased rest = true

theorem not_cutsAtSigma_nil (before rest : List Char) : ¬ CutsAtSigma before [] rest := by
  rintro ⟨start, marks, hchars, -⟩
  simp at hchars

theorem cutsAtSigma_cons_iff (before : List Char) (c : Char) (chars rest : List Char) :
    CutsAtSigma before (c :: chars) rest ↔
      (c = 'Σ' ∧ (∀ mark ∈ chars, caseIgnorableRanges.has mark = true) ∧
        touchesCased before = true ∧ touchesCased rest = true) ∨
      CutsAtSigma (c :: before) chars rest := by
  constructor
  · rintro ⟨start, marks, hchars, hmarks, hbefore, hrest⟩
    cases start with
    | nil =>
      cases hchars
      exact .inl ⟨rfl, hmarks, hbefore, hrest⟩
    | cons d start =>
      cases hchars
      rw [List.reverse_cons, List.append_assoc] at hbefore
      exact .inr ⟨start, marks, rfl, hmarks, hbefore, hrest⟩
  · rintro (⟨rfl, hmarks, hbefore, hrest⟩ | ⟨start, marks, rfl, hmarks, hbefore, hrest⟩)
    · exact ⟨[], chars, rfl, hmarks, hbefore, hrest⟩
    · refine ⟨c :: start, marks, rfl, hmarks, ?_, hrest⟩
      rw [List.reverse_cons, List.append_assoc]
      exact hbefore

/-- A cut behind any other letter is harmless. -/
theorem not_cutsAtSigma_of_last {last : Char} (hletter : caseIgnorableRanges.has last = false)
    (hlast : last ≠ 'Σ') (before chars rest : List Char) :
    ¬ CutsAtSigma before (chars ++ [last]) rest := by
  rintro ⟨start, marks, hchars, hmarks, -⟩
  rcases List.eq_nil_or_concat marks with rfl | ⟨others, mark, rfl⟩
  · exact hlast (List.append_singleton_inj.mp hchars).2
  · rw [List.concat_eq_append, ← List.cons_append, ← List.append_assoc] at hchars
    have hmark := hmarks mark (by simp)
    rw [← (List.append_singleton_inj.mp hchars).2, hletter] at hmark
    cases hmark

/-- Where a word goes on behind marks, the sigma before them takes another form than where
nothing follows. -/
theorem sigmaForm_eq_iff {marks : List Char}
    (h : ∀ mark ∈ marks, caseIgnorableRanges.has mark = true) (before rest : List Char) :
    ((if touchesCased before && !touchesCased marks then 'ς' else 'σ') =
        if touchesCased before && !touchesCased (marks ++ rest) then 'ς' else 'σ') ↔
      ¬ (touchesCased before = true ∧ touchesCased rest = true) := by
  rw [touchesCased_of_ignorable h, touchesCased_append_of_ignorable h]
  cases touchesCased before <;> cases touchesCased rest <;> decide

/-- Both sides are written character by character; only at a sigma the rest matters. -/
theorem lowerChars_prefix_iff (before chars rest : List Char) :
    lowerChars before chars <+: lowerChars before (chars ++ rest) ↔
      ¬ CutsAtSigma before chars rest := by
  induction chars generalizing before with
  | nil => exact iff_of_true List.nil_prefix (not_cutsAtSigma_nil before rest)
  | cons c chars ih =>
    rw [cutsAtSigma_cons_iff, not_or, ← ih, List.cons_append]
    by_cases hsigma : c = 'Σ'
    · subst hsigma
      rw [lowerChars_sigma, lowerChars_sigma, List.cons_prefix_cons]
      by_cases hmarks : ∀ mark ∈ chars, caseIgnorableRanges.has mark = true
      · rw [sigmaForm_eq_iff hmarks, and_iff_right rfl, and_iff_right hmarks]
      · push Not at hmarks
        obtain ⟨d, hd, hmatters⟩ := hmarks
        rw [touchesCased_append_of_mem hd (Bool.eq_false_iff.mpr hmatters)]
        refine and_congr_left fun _ => iff_of_true rfl ?_
        rintro ⟨-, hmarks, -⟩
        exact hmatters (hmarks d hd)
    · rw [lowerChars_cons hsigma, lowerChars_cons hsigma, List.prefix_append_right_inj]
      simp only [hsigma, false_and, not_false_eq_true, true_and]

theorem lower_prefix_append_iff (start rest : String) :
    (lower start).toList <+: (lower (start ++ rest)).toList ↔
      ¬ CutsAtSigma [] start.toList rest.toList := by
  rw [lower, lower, String.toList_ofList, String.toList_ofList, String.toList_append,
    lowerChars_prefix_iff]

end ResumeTerminal.Text
