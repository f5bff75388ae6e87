import ResumeTerminal.Proofs.Text.Trimming
import ResumeTerminal.Text.Lowercase

/-! Lower case of ASCII texts is taken letter by letter, and leaves those without capitals as
they are. Blanks have no case at all, so a text whose lower case is a word is a word. -/
namespace ResumeTerminal.Text

def isAscii (c : Char) : Bool := c.toNat < 0x80

/-- What holds of all ASCII characters can be decided code point by code point. -/
theorem forall_ascii (p : Char → Prop) (h : ∀ code < 0x80, p (Char.ofNat code)) {c : Char}
    (hc : c.toNat < 0x80) : p c := by
  have hp := h c.toNat hc
  rwa [Char.ofNat_toNat] at hp

theorem lowerChars_of_isAscii (before chars : List Char) (h : ∀ c ∈ chars, isAscii c = true) :
    lowerChars before chars = chars.map Char.toLower := by
  induction chars generalizing before with
  | nil => rfl
  | cons c rest ih =>
    have hc : c.toNat < 0x80 := of_decide_eq_true (h c List.mem_cons_self)
    have hsigma : c ≠ 'Σ' := by
      rintro rfl
      exact absurd hc (by decide)
    have hrest := ih (c :: before) fun d hd => h d (List.mem_cons_of_mem c hd)
    rw [lowerChars, lowerChar, if_pos hc, hrest, List.singleton_append, List.map_cons]
    exact hsigma

/-- ASCII texts that differ in nothing but the case of their letters. -/
structure Recased (a b : String) : Prop where
  left_ascii : ∀ c ∈ a.toList, isAscii c = true
  right_ascii : ∀ c ∈ b.toList, isAscii c = true
  letters_eq : a.toList.map Char.toLower = b.toList.map Char.toLower

theorem Recased.lower_eq {a b : String} (h : Recased a b) : lower a = lower b := by
  rw [lower, lower, lowerChars_of_isAscii [] _ h.left_ascii,
    lowerChars_of_isAscii [] _ h.right_ascii, h.letters_eq]

def isPlainChar (c : Char) : Bool := c.toNat < 0x80 && c.toLower == c

def isPlain (text : String) : Bool := text.toList.all isPlainChar

theorem lower_of_isPlain {text : String} (h : isPlain text = true) : lower text = text := by
  have hplain : ∀ c ∈ text.toList, isAscii c = true ∧ c.toLower = c := by
    intro c hc
    have hc := List.all_eq_true.mp h c hc
    rwa [isPlainChar, Bool.and_eq_true, beq_iff_eq] at hc
  have hsame : text.toList.map Char.toLower = text.toList :=
    (List.map_congr_left fun c hc => (hplain c hc).2).trans (List.map_id' _)
  rw [lower, lowerChars_of_isAscii [] _ fun c hc => (hplain c hc).1, hsame, String.ofList_toList]

/-- The code points of the blank characters. -/
def blankCodes : List Nat :=
  blankRanges.flatMap fun (first, last) => List.range' first (last + 1 - first)

theorem toNat_mem_blankCodes {c : Char} (h : isBlankChar c = true) : c.toNat ∈ blankCodes := by
  obtain ⟨⟨first, last⟩, hrange, hc⟩ := List.any_eq_true.mp h
  simp only [Bool.and_eq_true, decide_eq_true_eq] at hc
  refine List.mem_flatMap.mpr ⟨(first, last), hrange, List.mem_range'_1.mpr ⟨hc.1, ?_⟩⟩
  omega

theorem lowerChar_of_isBlankChar {c : Char} (h : isBlankChar c = true) : lowerChar c = [c] := by
  have hall : ∀ code ∈ blankCodes, lowerChar (Char.ofNat code) = [Char.ofNat code] := by decide
  have hc := hall c.toNat (toNat_mem_blankCodes h)
  rwa [Char.ofNat_toNat] at hc

theorem lowerChars_cons {c : Char} (h : c ≠ 'Σ') (before rest : List Char) :
    lowerChars before (c :: rest) = lowerChar c ++ lowerChars (c :: before) rest := by
  rw [lowerChars]
  exact h

theorem lowerChars_sigma (before rest : List Char) :
    lowerChars before ('Σ' :: rest) =
      (if touchesCased before && !touchesCased rest then 'ς' else 'σ')
        :: lowerChars ('Σ' :: before) rest := by
  rw [lowerChars]

/-- Letters change, but none goes away. -/
theorem lowerChar_ne_nil (c : Char) : lowerChar c ≠ [] := by
  unfold lowerChar
  split
  · exact List.cons_ne_nil _ _
  · split
    · exact List.cons_ne_nil _ _
    · split <;> exact List.cons_ne_nil _ _

@[simp] theorem isEmpty_lower (text : String) : (lower text).isEmpty = text.isEmpty := by
  have hchars : lowerChars [] text.toList = [] ↔ text.toList = [] := by
    cases text.toList with
    | nil => exact iff_of_true rfl rfl
    | cons c rest =>
      refine iff_of_false ?_ (List.cons_ne_nil _ _)
      by_cases hsigma : c = 'Σ'
      · subst hsigma
        rw [lowerChars_sigma]
        exact List.cons_ne_nil _ _
      · rw [lowerChars_cons hsigma]
        exact List.append_ne_nil_of_left_ne_nil (lowerChar_ne_nil c) _
  rw [Bool.eq_iff_iff, String.isEmpty_iff, String.isEmpty_iff, lower, String.ofList_eq_empty_iff,
    hchars, String.toList_eq_nil_iff]

theorem mem_lowerChars {before chars : List Char} {c : Char} (hmem : c ∈ chars)
    (h : isBlankChar c = true) : c ∈ lowerChars before chars := by
  induction chars generalizing before with
  | nil => cases hmem
  | cons d rest ih =>
    by_cases hsigma : d = 'Σ'
    · subst hsigma
      rw [lowerChars_sigma]
      have hc : c ≠ 'Σ' := by
        rintro rfl
        exact absurd h (by decide)
      exact List.mem_cons_of_mem _ (ih ((List.mem_cons.mp hmem).resolve_left hc))
    · rw [lowerChars_cons hsigma, List.mem_append]
      rcases List.mem_cons.mp hmem with rfl | hrest
      · exact .inl (by rw [lowerChar_of_isBlankChar h]; exact List.mem_singleton_self c)
      · exact .inr (ih hrest)

theorem isWord_of_isWord_lower {text : String} (h : IsWord (lower text)) : IsWord text := by
  intro c hc
  by_contra hblank
  rw [Bool.not_eq_false] at hblank
  have hlower : c ∈ (lower text).toList := by
    rw [lower, String.toList_ofList]
    exact mem_lowerChars hc hblank
  rw [h c hlower] at hblank
  cases hblank

/-! No other character becomes a blank. -/

def CaseRun.avoidsBlanks (run : CaseRun) : Bool :=
  blankRanges.all fun (first, last) =>
    decide (run.last + run.shift < first) || decide ((last : Int) < run.first + run.shift)

theorem avoidsBlanks_caseRuns : caseRuns.all CaseRun.avoidsBlanks = true := by decide +kernel

theorem isBlankChar_toLower {c : Char} (h : c.toNat < 0x80) :
    isBlankChar c.toLower = isBlankChar c :=
  forall_ascii (fun c => isBlankChar c.toLower = isBlankChar c) (by decide) h

theorem CaseRun.isBlankChar_shifted {run : CaseRun} (hrun : run.avoidsBlanks = true) {code : Nat}
    (hcode : run.covers code = true) :
    isBlankChar (Char.ofNat (code + run.shift).toNat) = false := by
  by_contra hblank
  rw [Bool.not_eq_false] at hblank
  obtain ⟨⟨first, last⟩, hrange, hbounds⟩ := List.any_eq_true.mp hblank
  have hpositive : 0 < first := by
    have hall : ∀ range ∈ blankRanges, 0 < range.1 := by decide
    exact hall _ hrange
  have hapart := List.all_eq_true.mp hrun _ hrange
  have hchar (n : Nat) : (Char.ofNat n).toNat = n ∨ (Char.ofNat n).toNat = 0 := by
    by_cases hvalid : n.isValidChar
    · exact .inl (by rw [Char.ofNat, dif_pos hvalid]; rfl)
    · exact .inr (by rw [Char.ofNat, dif_neg hvalid]; rfl)
  have hshifted := hchar (code + run.shift).toNat
  simp only [covers, Bool.and_eq_true, Bool.or_eq_true, decide_eq_true_eq, beq_iff_eq] at *
  omega

theorem isBlankChar_of_mem_lowerChar {c d : Char} (hc : isBlankChar c = false)
    (hd : d ∈ lowerChar c) : isBlankChar d = false := by
  unfold lowerChar at hd
  split at hd
  · rename_i hascii
    rw [List.mem_singleton.mp hd, isBlankChar_toLower hascii, hc]
  · split at hd
    · have hdotted : ['i', '\u0307'].all (fun d => !isBlankChar d) = true := by decide
      simpa using List.all_eq_true.mp hdotted d hd
    · split at hd
      · rename_i run hfound
        rw [List.mem_singleton.mp hd]
        apply CaseRun.isBlankChar_shifted
        · exact List.all_eq_true.mp avoidsBlanks_caseRuns run (List.mem_of_find?_eq_some hfound)
        · simpa using List.find?_some hfound
      · rw [List.mem_singleton.mp hd, hc]

end ResumeTerminal.Text
