import ResumeTerminal.Json.Skip
import ResumeTerminal.Proofs.Json.Source

/-! Passing over a value. A pass takes exactly what the value is written with, however
deep it is nested and whatever its numbers and strings stand for, and its steps suffice. -/
namespace ResumeTerminal.Json

namespace Place

/-- Goes on from where a step has led. -/
def resume (steps : Nat) : Option Place → List Char → Except Error (List Char)
  | none, rest => .ok rest
  | some place, rest => place.run steps rest

theorem run_of_step {place : Place} {text rest : List Char} {next : Option Place}
    (h : place.step text = .ok (next, rest)) (steps : Nat) :
    place.run (1 + steps) text = resume steps next rest := by
  rw [Nat.add_comm, run, h]
  cases next <;> rfl

/-! Elements of brackets. -/

/-- Between brackets and commas a step is left with the next element. -/
theorem step_gap (gap : Gap) (first : Bool) (bracket : Bracket) (outer : List Bracket)
    {text rest : List Char} {c : Char} (hnext : skipSpace text = c :: rest)
    (hc : c ≠ bracket.closing) :
    ∃ element, skipSpace element = skipSpace text ∧
      (Place.inside first bracket outer).step (gap.chars first ++ text) =
        (passKey bracket element).map (some (.value (bracket :: outer)), ·) := by
  cases first with
  | true =>
    refine ⟨c :: rest, by rw [← hnext, skipSpace_skipSpace], ?_⟩
    rw [Gap.chars_true]
    simp only [step, Blanks.skipSpace_append, hnext, if_neg hc, if_true]
    rfl
  | false =>
    refine ⟨gap.after.chars ++ text, gap.after.skipSpace_append text, ?_⟩
    have hcomma : ',' ≠ bracket.closing := by cases bracket <;> decide
    have hspace : isSpace ',' = false := rfl
    rw [Gap.chars_false]
    simp only [step, Blanks.skipSpace_append, skipSpace_cons hspace, if_neg hcomma, if_true,
      Bool.false_eq_true, if_false]
    rfl

theorem step_close (close : Blanks) (first : Bool) (bracket : Bracket) (outer : List Bracket)
    (rest : List Char) :
    (Place.inside first bracket outer).step (close.chars ++ bracket.closing :: rest) =
      .ok (after outer, rest) := by
  have hspace : isSpace bracket.closing = false := by cases bracket <;> rfl
  simp only [step, Blanks.skipSpace_append, skipSpace_cons hspace, if_true]

end Place

theorem passKey_literal (key : Literal) (colon : Blanks) {text rest : List Char}
    (h : skipSpace text = key.chars ++ (colon.chars ++ ':' :: rest)) :
    passKey .object text = .ok rest := by
  have hspace : isSpace ':' = false := rfl
  have hkey : skipSpace text = '"' :: (key.body ++ '"' :: (colon.chars ++ ':' :: rest)) := by
    rw [h, Literal.chars]
    simp
  simp only [passKey, hkey, key.passString_body, bind, Except.bind, passColon,
    Blanks.skipSpace_append, skipSpace_cons hspace]

/-- A pass takes what the value is written with, in two steps for each character at most. -/
def Passes (source : Source) : Prop :=
  ∀ (outer : List Bracket) (text rest : List Char), skipSpace text = source.chars ++ rest →
    Ends rest → ∃ steps, steps + 1 ≤ 2 * source.chars.length ∧
      ∀ more, (Place.value outer).run (steps + more) text =
        Place.resume more (Place.after outer) rest

theorem run_items (outer : List Bracket) (close : Blanks) (rest : List Char) (first : Bool)
    (items : List (Item Source)) (h : ∀ item ∈ items, Passes item.value) :
    ∃ steps, steps ≤ 2 * (itemsChars first items).length + 1 ∧
      ∀ more, (Place.inside first .list outer).run (steps + more)
          (itemsChars first items ++ (close.chars ++ ']' :: rest)) =
        Place.resume more (Place.after outer) rest := by
  induction items generalizing first with
  | nil => exact ⟨1, by simp, fun more => Place.run_of_step (Place.step_close ..) more⟩
  | cons item items ih =>
    obtain ⟨gap, value⟩ := item
    obtain ⟨later, hlater, hrun⟩ := ih false fun other hother =>
      h other (List.mem_cons_of_mem _ hother)
    obtain ⟨c, others, hchars, -, hc⟩ := value.exists_cons
    have hnext := value.skipSpace_append
      (itemsChars false items ++ (close.chars ++ ']' :: rest))
    obtain ⟨element, helement, hstep⟩ := Place.step_gap gap first .list outer
      (hnext.trans (by rw [hchars]; rfl)) hc
    obtain ⟨steps, hsteps, hvalue⟩ := h ⟨gap, value⟩ List.mem_cons_self (.list :: outer) element
      (itemsChars false items ++ (close.chars ++ ']' :: rest)) (helement.trans hnext)
      (ends_after_item items close rest)
    refine ⟨1 + (steps + later), ?_, fun more => ?_⟩
    · simp only [itemsChars, List.length_append]
      dsimp only at hsteps
      omega
    · rw [itemsChars, List.append_assoc, List.append_assoc, Nat.add_assoc, Nat.add_assoc,
        Place.run_of_step hstep]
      exact (hvalue _).trans (hrun more)

theorem run_members (outer : List Bracket) (close : Blanks) (rest : List Char) (first : Bool)
    (members : List (Member Source)) (h : ∀ member ∈ members, Passes member.value) :
    ∃ steps, steps ≤ 2 * (membersChars first members).length + 1 ∧
      ∀ more, (Place.inside first .object outer).run (steps + more)
          (membersChars first members ++ (close.chars ++ '\x7d' :: rest)) =
        Place.resume more (Place.after outer) rest := by
  induction members generalizing first with
  | nil => exact ⟨1, by simp, fun more => Place.run_of_step (Place.step_close ..) more⟩
  | cons member members ih =>
    obtain ⟨gap, key, colon, space, value⟩ := member
    obtain ⟨later, hlater, hrun⟩ := ih false fun other hother =>
      h other (List.mem_cons_of_mem _ hother)
    have hspace : isSpace '"' = false := rfl
    have hnext := skipSpace_cons hspace (key.body ++ ['"'] ++ (colon.chars ++ ':' ::
      (space.chars ++ (value.chars ++
        (membersChars false members ++ (close.chars ++ '\x7d' :: rest))))))
    obtain ⟨element, helement, hstep⟩ :=
      Place.step_gap gap first .object outer hnext (by decide)
    rw [passKey_literal key colon (helement.trans hnext)] at hstep
    obtain ⟨steps, hsteps, hvalue⟩ := h ⟨gap, key, colon, space, value⟩ List.mem_cons_self
      (.object :: outer) _ (membersChars false members ++ (close.chars ++ '\x7d' :: rest))
      ((space.skipSpace_append _).trans (value.skipSpace_append _))
      (ends_after_member members close rest)
    refine ⟨1 + (steps + later), ?_, fun more => ?_⟩
    · simp only [membersChars, List.length_append, List.length_cons]
      dsimp only at hsteps
      omega
    · have htext : membersChars first (⟨gap, key, colon, space, value⟩ :: members) ++
          (close.chars ++ '\x7d' :: rest) = gap.chars first ++ '"' :: (key.body ++ ['"'] ++
            (colon.chars ++ ':' :: (space.chars ++ (value.chars ++
              (membersChars false members ++ (close.chars ++ '\x7d' :: rest)))))) := by
        simp [membersChars, Literal.chars]
      rw [htext, Nat.add_assoc, Nat.add_assoc, Place.run_of_step hstep]
      exact (hvalue _).trans (hrun more)

/-- A value that takes a single step. -/
theorem passes_of_step {source : Source}
    (h : ∀ (outer : List Bracket) (text rest : List Char),
      skipSpace text = source.chars ++ rest → Ends rest →
        (Place.value outer).step text = .ok (Place.after outer, rest)) : Passes source := by
  intro outer text rest htext hends
  have hlength := source.length_pos
  exact ⟨1, by omega, fun more => Place.run_of_step (h outer text rest htext hends) more⟩

theorem step_numeral {numeral : Numeral} {outer : List Bracket} {text rest : List Char}
    (htext : skipSpace text = numeral.chars ++ rest) (h : Ends rest) :
    (Place.value outer).step text = .ok (Place.after outer, rest) := by
  have hpass := numeral.passNumber_unsigned h
  obtain ⟨c, others, hchars, hc⟩ := numeral.whole.exists_cons
  cases hsign : numeral.negative with
  | true =>
    rw [Numeral.chars, hsign, if_pos rfl, List.cons_append] at htext
    simp only [Place.step, htext, hpass]
    rfl
  | false =>
    rw [Numeral.chars, hsign, if_neg (by decide)] at htext
    rw [Numeral.unsigned, hchars] at htext hpass
    simp only [List.cons_append] at htext hpass
    obtain ⟨-, hquote, hlist, hobject, hnull, htrue, hfalse⟩ := Numeral.ne_of_head (.inr hc)
    have hminus := (ne_sign_of_isDigit hc).1
    simp only [Place.step, htext]
    split <;> simp_all [bind, Except.bind, pure, Except.pure]

theorem passes (source : Source) : Passes source := by
  induction source with
  | null =>
    refine passes_of_step fun outer text rest htext _ => ?_
    simp only [Place.step, htext, Source.chars, List.cons_append]
    rfl
  | boolean value =>
    refine passes_of_step fun outer text rest htext _ => ?_
    rw [Source.chars] at htext
    cases value <;> simp only [Place.step, htext, wordChars, List.cons_append] <;> rfl
  | number numeral => exact passes_of_step fun outer text rest htext h => step_numeral htext h
  | text literal =>
    refine passes_of_step fun outer text rest htext _ => ?_
    rw [Source.text_chars_append] at htext
    simp only [Place.step, htext, literal.passString_body]
    rfl
  | array items close ih =>
    intro outer text rest htext _
    obtain ⟨steps, hsteps, hrun⟩ := run_items outer close rest true items ih
    have hopen : (Place.value outer).step text = .ok (some (.inside true .list outer),
        itemsChars true items ++ (close.chars ++ ']' :: rest)) := by
      rw [Source.array_chars_append] at htext
      simp only [Place.step, htext]
    refine ⟨1 + steps, ?_, fun more => ?_⟩
    · simp only [Source.chars, List.length_append, List.length_cons, List.length_nil]
      omega
    · rw [Nat.add_assoc, Place.run_of_step hopen]
      exact hrun more
  | object members close ih =>
    intro outer text rest htext _
    obtain ⟨steps, hsteps, hrun⟩ := run_members outer close rest true members ih
    have hopen : (Place.value outer).step text = .ok (some (.inside true .object outer),
        membersChars true members ++ (close.chars ++ '\x7d' :: rest)) := by
      rw [Source.object_chars_append] at htext
      simp only [Place.step, htext]
    refine ⟨1 + steps, ?_, fun more => ?_⟩
    · simp only [Source.chars, List.length_append, List.length_cons, List.length_nil]
      omega
    · rw [Nat.add_assoc, Place.run_of_step hopen]
      exact hrun more

theorem skipValue_append {source : Source} {text rest : List Char}
    (htext : skipSpace text = source.chars ++ rest) (h : Ends rest) :
    skipValue text = .ok rest := by
  obtain ⟨steps, hsteps, hrun⟩ := passes source [] text rest htext h
  have hlength : (skipSpace text).length ≤ text.length :=
    (List.dropWhile_sublist isSpace).length_le
  rw [htext, List.length_append] at hlength
  obtain ⟨more, hmore⟩ := Nat.exists_eq_add_of_le
    (show steps ≤ 2 * text.length + 2 by omega)
  rw [skipValue, hmore, hrun more]
  rfl

end ResumeTerminal.Json
