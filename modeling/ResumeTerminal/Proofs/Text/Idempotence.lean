import ResumeTerminal.Proofs.Text.LowerCase

/-! Lower case of lower case. No run of the case table leads into a run, so what lower case makes
of a character is not changed by it again, and a text in lower case stays as it is. -/
namespace ResumeTerminal.Text

/-- Lower case leaves the character alone, wherever in a word it stands. -/
def Settled (c : Char) : Prop := lowerChar c = [c] ∧ c ≠ 'Σ'

instance : DecidablePred Settled := fun c =>
  inferInstanceAs (Decidable (lowerChar c = [c] ∧ c ≠ 'Σ'))

theorem lowerChars_of_settled (before : List Char) {chars : List Char}
    (h : ∀ c ∈ chars, Settled c) : lowerChars before chars = chars := by
  induction chars generalizing before with
  | nil => rfl
  | cons c rest ih =>
    obtain ⟨hc, hsigma⟩ := h c List.mem_cons_self
    have hrest := ih (c :: before) fun d hd => h d (List.mem_cons_of_mem c hd)
    rw [lowerChars_cons hsigma, hc, hrest, List.singleton_append]

theorem toLower_of_isAscii {c : Char} (h : c.toNat < 0x80) : 0x5A < c.toNat → c.toLower = c :=
  forall_ascii (fun c => 0x5A < c.toNat → c.toLower = c) (by decide) h

/-- Beyond the ASCII capitals only the table and the dotted capital I change anything. -/
theorem settled_of_not_covers {c : Char} (hcapital : 0x5A < c.toNat) (hdotted : c.toNat ≠ 0x130)
    (h : ∀ run ∈ caseRuns, run.covers c.toNat = false) : Settled c := by
  have hnone : caseRuns.find? (·.covers c.toNat) = none := by
    rw [List.find?_eq_none]
    intro run hrun
    rw [h run hrun]
    exact Bool.false_ne_true
  constructor
  · unfold lowerChar
    split
    · next hascii => rw [toLower_of_isAscii hascii hcapital]
    · rw [if_neg (by rintro rfl; exact hdotted rfl), hnone]
  · rintro rfl
    have hsigma : ∃ run ∈ caseRuns, run.covers 'Σ'.toNat = true := by decide
    obtain ⟨run, hrun, hcovers⟩ := hsigma
    rw [h run hrun] at hcovers
    cases hcovers

namespace CaseRun

/-- The first code point that a run leads to. -/
def low (run : CaseRun) : Nat := (run.first + run.shift).toNat

/-- The last code point that a run leads to. -/
def high (run : CaseRun) : Nat := (run.last + run.shift).toNat

/-- Whether nothing that another run leads to is covered: it lies elsewhere, or in between. -/
def misses (run other : CaseRun) : Bool :=
  Nat.blt other.high run.first || Nat.blt run.last other.low ||
    (run.step == 2 && (other.step == 2 || other.low == other.high) &&
      (other.low + run.first) % 2 == 1)

def settles (run : CaseRun) : Bool :=
  Nat.blt 0x5A run.low && (Nat.blt run.high 0x130 || Nat.blt 0x130 run.low) &&
    caseRuns.all (·.misses run)

theorem shifted_bounds {run : CaseRun} {code : Nat} (h : run.covers code = true) :
    run.low ≤ (code + run.shift).toNat ∧ (code + run.shift).toNat ≤ run.high := by
  simp only [covers, Bool.and_eq_true, decide_eq_true_eq] at h
  unfold low high
  omega

theorem covers_shifted_of_misses {run other : CaseRun} (hmisses : run.misses other = true)
    (hpositive : 0 < other.low) {code : Nat} (hcode : other.covers code = true) :
    run.covers (code + other.shift).toNat = false := by
  have hbounds := shifted_bounds hcode
  rw [Bool.eq_false_iff]
  intro hcovers
  simp only [misses, covers, Bool.or_eq_true, Bool.and_eq_true, Nat.blt_eq, beq_iff_eq,
    decide_eq_true_eq] at hmisses hcode hcovers
  rcases hmisses with (hbelow | habove) | ⟨⟨hstep, hother⟩, hodd⟩
  · omega
  · omega
  · rw [hstep] at hcovers
    -- Both runs go in steps of two, or the other one is a single code point.
    rcases hother with hother | hsingle
    · rw [hother] at hcode
      unfold low at *
      omega
    · unfold low high at *
      omega

theorem settled_shifted {run : CaseRun} (hrun : run.settles = true) {code : Nat}
    (hcode : run.covers code = true) : Settled (Char.ofNat (code + run.shift).toNat) := by
  simp only [settles, Bool.and_eq_true, Bool.or_eq_true, Nat.blt_eq, List.all_eq_true] at hrun
  obtain ⟨⟨hcapital, hdotted⟩, hmisses⟩ := hrun
  have hbounds := shifted_bounds hcode
  by_cases hvalid : (code + run.shift).toNat.isValidChar
  · have hchar : (Char.ofNat (code + run.shift).toNat).toNat = (code + run.shift).toNat := by
      rw [Char.ofNat, dif_pos hvalid]
      rfl
    apply settled_of_not_covers
    · omega
    · omega
    · intro other hother
      rw [hchar]
      exact covers_shifted_of_misses (hmisses other hother) (by omega) hcode
  · rw [Char.ofNat, dif_neg hvalid]
    decide

end CaseRun

theorem settles_caseRuns : caseRuns.all CaseRun.settles = true := by decide +kernel

theorem settled_toLower {c : Char} (h : c.toNat < 0x80) : Settled c.toLower :=
  forall_ascii (fun c => Settled c.toLower) (by decide) h

theorem settled_of_mem_lowerChar {c d : Char} (h : d ∈ lowerChar c) : Settled d := by
  unfold lowerChar at h
  split at h
  · next hascii =>
    rw [List.mem_singleton.mp h]
    exact settled_toLower hascii
  · next hascii =>
    split at h
    · rcases List.mem_pair.mp h with rfl | rfl
      · decide
      · decide
    · next hdotted =>
      split at h
      · next run hfound =>
        rw [List.mem_singleton.mp h]
        apply CaseRun.settled_shifted
        · exact List.all_eq_true.mp settles_caseRuns run (List.mem_of_find?_eq_some hfound)
        · simpa using List.find?_some hfound
      · next hnone =>
        rw [List.mem_singleton.mp h]
        apply settled_of_not_covers
        · omega
        · intro heq
          exact hdotted (Char.toNat_inj.mp heq)
        · intro run hrun
          simpa using List.find?_eq_none.mp hnone run hrun

theorem settled_of_mem_lowerChars {before chars : List Char} {d : Char}
    (h : d ∈ lowerChars before chars) : Settled d := by
  induction chars generalizing before with
  | nil => cases h
  | cons c rest ih =>
    by_cases hsigma : c = 'Σ'
    · subst hsigma
      rw [lowerChars_sigma, List.mem_cons] at h
      rcases h with rfl | h
      · split <;> decide
      · exact ih h
    · rw [lowerChars_cons hsigma, List.mem_append] at h
      exact h.elim settled_of_mem_lowerChar ih

@[simp] theorem lower_lower (text : String) : lower (lower text) = lower text := by
  have hsettled : ∀ c ∈ (lower text).toList, Settled c := by
    intro c hc
    rw [lower, String.toList_ofList] at hc
    exact settled_of_mem_lowerChars hc
  calc lower (lower text)
      = String.ofList (lowerChars [] (lower text).toList) := rfl
    _ = String.ofList (lower text).toList := by rw [lowerChars_of_settled [] hsettled]
    _ = lower text := String.ofList_toList

end ResumeTerminal.Text
