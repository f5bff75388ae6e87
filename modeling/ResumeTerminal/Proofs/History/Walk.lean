import ResumeTerminal.Proofs.History

/-! Walks through the recorded lines. Older lines end at the first one and newer lines at the
fresh line, so where a walk in one direction leads depends on the number of its steps alone,
however far it overshoots. -/
namespace ResumeTerminal.History

inductive Step where
  | append (line : String)
  | navigate (direction : Direction)

def perform (history : History) : Step → History
  | .append line => (history.append line).1
  | .navigate direction => (history.navigate direction).1

def after (history : History) : List Step → History
  | [] => history
  | step :: rest => (history.perform step).after rest

/-- What every step keeps up. -/
structure Sound (history : History) : Prop where
  cursor_le : history.cursor ≤ history.size
  visible : ∀ line ∈ history.entries, Text.isBlank line = false

theorem Sound.append {history : History} (h : history.Sound) (line : String) :
    (history.append line).1.Sound := by
  cases hline : Text.isBlank line with
  | true =>
    rw [History.append, if_pos hline]
    exact h
  | false =>
    rw [append_of_visible history hline]
    constructor
    · simp [size]
    · intro other hother
      rcases List.mem_append.mp hother with hother | hother
      · exact h.visible other hother
      · rw [List.mem_singleton.mp hother, hline]

theorem Sound.navigate {history : History} (h : history.Sound) (direction : Direction) :
    (history.navigate direction).1.Sound := by
  refine ⟨cursor_navigate_le h.cursor_le direction, ?_⟩
  rw [entries_navigate]
  exact h.visible

theorem Sound.perform {history : History} (h : history.Sound) (step : Step) :
    (history.perform step).Sound := by
  cases step with
  | append line => exact h.append line
  | navigate direction => exact h.navigate direction

theorem Sound.after {history : History} (h : history.Sound) (steps : List Step) :
    (history.after steps).Sound := by
  induction steps generalizing history with
  | nil => exact h
  | cons step rest ih => exact ih (h.perform step)

theorem sound_after_empty (steps : List Step) : (({} : History).after steps).Sound :=
  Sound.after ⟨Nat.le_refl 0, by simp⟩ steps

/-- The same lines with the cursor at another place. -/
def seenFrom (history : History) (place : Nat) : History := { history with cursor := place }

@[simp] theorem entries_seenFrom (history : History) (place : Nat) :
    (history.seenFrom place).entries = history.entries := rfl

@[simp] theorem cursor_seenFrom (history : History) (place : Nat) :
    (history.seenFrom place).cursor = place := rfl

@[simp] theorem size_seenFrom (history : History) (place : Nat) :
    (history.seenFrom place).size = history.size := rfl

@[simp] theorem seenFrom_seenFrom (history : History) (place other : Nat) :
    (history.seenFrom place).seenFrom other = history.seenFrom other := rfl

@[simp] theorem seenFrom_cursor (history : History) : history.seenFrom history.cursor = history :=
  rfl

theorem Sound.seenFrom {history : History} (h : history.Sound) {place : Nat}
    (hplace : place ≤ history.size) : (history.seenFrom place).Sound :=
  ⟨hplace, h.visible⟩

/-- Without lines the only place is the fresh line. -/
theorem navigate_fst {history : History} (h : history.cursor ≤ history.size)
    (direction : Direction) :
    (history.navigate direction).1 = history.seenFrom (history.next direction) := by
  by_cases hentries : history.entries = []
  · have hsize : history.size = 0 := by rw [size, hentries, List.length_nil]
    have hnext : history.next direction = history.cursor := by
      cases direction with
      | older => rw [next]; omega
      | newer => rw [next]; omega
    rw [navigate_of_eq_nil hentries, hnext, seenFrom_cursor]
  · rw [navigate_of_ne_nil hentries h, seenFrom]

/-- As many steps in one direction. -/
def walk (history : History) (direction : Direction) : Nat → History
  | 0 => history
  | count + 1 => ((history.walk direction count).navigate direction).1

theorem walk_older {history : History} (h : history.cursor ≤ history.size) (count : Nat) :
    history.walk .older count = history.seenFrom (history.cursor - count) := by
  induction count with
  | zero => rfl
  | succ count ih =>
    have hcursor : history.cursor - count ≤ history.size := by omega
    rw [walk, ih, navigate_fst (by simpa using hcursor), seenFrom_seenFrom, next, cursor_seenFrom,
      Nat.sub_sub]

theorem walk_newer {history : History} (h : history.cursor ≤ history.size) (count : Nat) :
    history.walk .newer count =
      history.seenFrom (min history.size (history.cursor + count)) := by
  induction count with
  | zero => rw [walk, Nat.add_zero, Nat.min_eq_right h, seenFrom_cursor]
  | succ count ih =>
    have hstep : min (min history.size (history.cursor + count) + 1) history.size =
        min history.size (history.cursor + (count + 1)) := by omega
    rw [walk, ih, navigate_fst (Nat.min_le_left _ _), seenFrom_seenFrom, next, cursor_seenFrom,
      size_seenFrom, hstep]

theorem walk_older_newer {history : History} (h : history.cursor ≤ history.size)
    (back forth : Nat) :
    (history.walk .older back).walk .newer forth =
      history.seenFrom (min history.size (history.cursor - back + forth)) := by
  have hback : history.cursor - back ≤ history.size := by omega
  rw [walk_older h, walk_newer (by simpa using hback), seenFrom_seenFrom, size_seenFrom,
    cursor_seenFrom]

/-- Recorded lines can be told from the fresh line. -/
theorem Sound.lineAt_eq_empty_iff {history : History} (h : history.Sound) {place : Nat}
    (hplace : place ≤ history.size) : history.lineAt place = "" ↔ place = history.size := by
  rcases Nat.lt_or_eq_of_le hplace with hlt | rfl
  · refine iff_of_false ?_ (Nat.ne_of_lt hlt)
    rw [lineAt, List.getElem?_eq_getElem hlt, Option.getD_some]
    intro hempty
    have hvisible := h.visible _ (List.getElem_mem hlt)
    rw [hempty] at hvisible
    cases hvisible
  · refine iff_of_true ?_ rfl
    rw [lineAt, size, List.getElem?_eq_none (Nat.le_refl _), Option.getD_none]

/-- A step that led past the lines would recall nothing. Nothing is recalled where there are no
lines, and nowhere else. -/
theorem navigate_eq_none_iff {history : History} (h : history.cursor ≤ history.size)
    (direction : Direction) :
    (history.navigate direction).2 = none ↔ history.entries = [] := by
  by_cases hentries : history.entries = []
  · rw [navigate_of_eq_nil hentries]
    exact iff_of_true rfl hentries
  · rw [navigate_of_ne_nil hentries h]
    exact iff_of_false nofun hentries

theorem recall_older {history : History} (h : history.cursor ≤ history.size)
    (hentries : history.entries ≠ []) (back : Nat) :
    ∃ line, history.entries[history.cursor - (back + 1)]? = some line ∧
      ((history.walk .older back).navigate .older).2 = some line := by
  have hpos : 0 < history.entries.length := List.length_pos_iff.mpr hentries
  have hplace : history.cursor - (back + 1) < history.entries.length := by
    rw [size] at h
    omega
  have hcursor : history.cursor - back ≤ history.size := by omega
  refine ⟨_, List.getElem?_eq_getElem hplace, ?_⟩
  rw [walk_older h, navigate_of_ne_nil (by simpa using hentries) (by simpa using hcursor), lineAt,
    next, cursor_seenFrom, entries_seenFrom, Nat.sub_sub, List.getElem?_eq_getElem hplace,
    Option.getD_some]

theorem Sound.recall_newer {history : History} (h : history.Sound)
    (hentries : history.entries ≠ []) :
    ∃ line, (history.navigate .newer).2 = some line ∧
      (line = "" ↔ (history.navigate .newer).1.cursor = history.size) ∧
      ((history.navigate .newer).1.cursor < history.size →
        history.entries[(history.navigate .newer).1.cursor]? = some line) := by
  rw [navigate_of_ne_nil hentries h.cursor_le]
  refine ⟨_, rfl, h.lineAt_eq_empty_iff (next_le_size h.cursor_le .newer), ?_⟩
  intro hlt
  rw [lineAt, List.getElem?_eq_getElem hlt, Option.getD_some]

theorem walk_stays_among_lines (steps : List Step) :
    let history := ({} : History).after steps
    history.cursor ≤ history.size ∧
    (∀ direction, (history.navigate direction).2 = none ↔ history.entries = []) ∧
    (history.entries ≠ [] → ∀ back forth,
      let there := history.walk .older back
      let here := there.walk .newer forth
      here.entries = history.entries ∧
      here.cursor = min history.size (history.cursor - back + forth) ∧
      (∃ line, history.entries[history.cursor - (back + 1)]? = some line ∧
        (there.navigate .older).2 = some line) ∧
      ∃ line, (here.navigate .newer).2 = some line ∧
        (line = "" ↔ (here.navigate .newer).1.cursor = history.size) ∧
        ((here.navigate .newer).1.cursor < history.size →
          history.entries[(here.navigate .newer).1.cursor]? = some line)) ∧
    (history.isFresh = true →
      ∀ count, (history.walk .older count).walk .newer count = history) := by
  intro history
  have hsound : history.Sound := sound_after_empty steps
  have hcursor := hsound.cursor_le
  refine ⟨hcursor, navigate_eq_none_iff hcursor, ?_, ?_⟩
  · intro hentries back forth there here
    have hhere : here =
        history.seenFrom (min history.size (history.cursor - back + forth)) :=
      walk_older_newer hcursor back forth
    have hstays : here.Sound := hhere ▸ hsound.seenFrom (Nat.min_le_left _ _)
    have hsame : here.entries = history.entries := by rw [hhere, entries_seenFrom]
    have hsize : here.size = history.size := by rw [hhere, size_seenFrom]
    refine ⟨hsame, by rw [hhere, cursor_seenFrom], recall_older hcursor hentries back, ?_⟩
    rw [← hsize, ← hsame]
    exact hstays.recall_newer (by rwa [hsame])
  · intro hfresh count
    have hplace : history.cursor = history.size := beq_iff_eq.mp hfresh
    have hback : min history.size (history.cursor - count + count) = history.cursor := by omega
    rw [walk_older_newer hcursor, hback, seenFrom_cursor]

end ResumeTerminal.History
