import Mathlib.Data.List.Nodup
import ResumeTerminal.Toml.Reading

/-! Keys of a document. Nothing that is read into a document gives it a key twice, whether a
line defines a key or opens a table. -/
namespace ResumeTerminal.Toml

def Distinct (entries : Entries) : Prop := (entries.map (·.1)).Nodup

theorem distinct_append {entries : Entries} (h : Distinct entries) {key : String}
    (hkey : entries.lookup key = none) (value : Value) :
    Distinct (entries ++ [(key, value)]) := by
  have hnew : key ∉ entries.map (·.1) := by
    intro hmem
    obtain ⟨entry, hentry, rfl⟩ := List.mem_map.mp hmem
    exact absurd (List.lookup_eq_none_iff.mp hkey entry hentry) (by simp)
  rw [Distinct, List.map_append, List.map_singleton, ← List.concat_eq_append]
  exact h.concat hnew

theorem distinct_replace {entries : Entries} (h : Distinct entries) (key : String)
    (value : Value) : Distinct (replace key value entries) := by
  have hkeys : (replace key value entries).map (·.1) = entries.map (·.1) := by
    rw [replace, List.map_map]
    apply List.map_congr_left
    intro entry _
    by_cases hkey : entry.1 = key
    · simp [hkey]
    · simp [hkey]
  rwa [Distinct, hkeys]

/-- A change of a table that leaves its keys distinct. -/
def Keeps (change : Origin → Entries → Option Entries) : Prop :=
  ∀ origin entries changed, Distinct entries → change origin entries = some changed →
    Distinct changed

theorem keeps_define (dotted : Bool) (key : String) (value : Value) :
    Keeps (define dotted key value) := by
  intro origin entries changed h hchange
  unfold define at hchange
  split at hchange
  · cases hchange
  · next hfree =>
    cases hchange
    rw [Bool.or_eq_true, not_or, Option.not_isSome_iff_eq_none] at hfree
    exact distinct_append h hfree.2 value

theorem keeps_openTable (key : String) : Keeps (openTable key) := by
  intro origin entries changed h hchange
  unfold openTable at hchange
  split at hchange
  · next hfree =>
    cases hchange
    exact distinct_append h hfree _
  · cases hchange
    -- A table that was passed through before leaves its old place.
    have hrest : Distinct (entries.filter (·.1 ≠ key)) := h.sublist (List.filter_sublist.map _)
    apply distinct_append hrest
    rw [List.lookup_eq_none_iff]
    intro entry hentry
    have hne : entry.1 ≠ key := by simpa using (List.mem_filter.mp hentry).2
    exact bne_iff_ne.mpr (Ne.symm hne)
  · cases hchange

theorem keeps_openElement (key : String) : Keeps (openElement key) := by
  intro origin entries changed h hchange
  unfold openElement at hchange
  split at hchange
  · next hfree =>
    cases hchange
    exact distinct_append h hfree _
  · cases hchange
    exact distinct_replace h key _
  · cases hchange

/-- On the way to a table further in, a table keeps its keys or gets one it did not have. -/
theorem keeps_modifyAt (dotted : Bool) {change : Origin → Entries → Option Entries}
    (h : Keeps change) (path : List String) :
    Keeps fun origin entries => Entries.modifyAt dotted change path origin entries := by
  intro origin entries changed hentries hchange
  cases path with
  | nil => exact h origin entries changed hentries hchange
  | cons key path =>
    dsimp only at hchange
    unfold Entries.modifyAt at hchange
    split at hchange
    · next hfree =>
      obtain ⟨inner, -, hchange⟩ := Option.bind_eq_some_iff.mp hchange
      cases hchange
      exact distinct_append hentries hfree _
    · split at hchange
      · cases hchange
      · obtain ⟨inner, -, hchange⟩ := Option.bind_eq_some_iff.mp hchange
        cases hchange
        exact distinct_replace hentries key _
    · obtain ⟨last, -, hchange⟩ := Option.bind_eq_some_iff.mp hchange
      obtain ⟨inner, -, hchange⟩ := Option.bind_eq_some_iff.mp hchange
      cases hchange
      exact distinct_replace hentries key _
    · cases hchange

theorem keeps_insertAt (path : List String) (value : Value) :
    Keeps fun origin entries => Entries.insertAt path value origin entries := by
  intro origin entries changed h hchange
  obtain ⟨key, -, hchange⟩ := Option.bind_eq_some_iff.mp hchange
  exact keeps_modifyAt true (keeps_define _ key value) _ origin entries changed h hchange

/-! Lines. -/

theorem Draft.distinct_header {draft next : Draft} (h : Distinct draft.entries) {doubled : Bool}
    {path : List String} (hheader : draft.header doubled path = some next) :
    Distinct next.entries := by
  obtain ⟨key, -, hheader⟩ := Option.bind_eq_some_iff.mp hheader
  obtain ⟨entries, hentries, hheader⟩ := Option.bind_eq_some_iff.mp hheader
  cases hheader
  refine keeps_modifyAt false ?_ path.dropLast .header draft.entries entries h hentries
  cases doubled
  · exact keeps_openTable key
  · exact keeps_openElement key

theorem Draft.distinct_define {draft next : Draft} (h : Distinct draft.entries)
    {path : List String} {value : Value} (hdefine : draft.define path value = some next) :
    Distinct next.entries := by
  obtain ⟨entries, hentries, hdefine⟩ := Option.bind_eq_some_iff.mp hdefine
  cases hdefine
  exact keeps_modifyAt false (keeps_insertAt path value) draft.current .header draft.entries
    entries h hentries

theorem distinct_headerLine {draft next : Draft} (h : Distinct draft.entries)
    {text rest : List Char} (hline : headerLine draft text = some (next, rest)) :
    Distinct next.entries := by
  unfold headerLine at hline
  split at hline
  · obtain ⟨⟨path, inside⟩, -, hline⟩ := Option.bind_eq_some_iff.mp hline
    obtain ⟨bracket, -, hline⟩ := Option.bind_eq_some_iff.mp hline
    obtain ⟨behind, -, hline⟩ := Option.bind_eq_some_iff.mp hline
    obtain ⟨opened, hopened, hline⟩ := Option.bind_eq_some_iff.mp hline
    obtain ⟨_, -, hline⟩ := Option.bind_eq_some_iff.mp hline
    cases hline
    exact Draft.distinct_header h hopened
  · obtain ⟨⟨path, inside⟩, -, hline⟩ := Option.bind_eq_some_iff.mp hline
    obtain ⟨behind, -, hline⟩ := Option.bind_eq_some_iff.mp hline
    obtain ⟨opened, hopened, hline⟩ := Option.bind_eq_some_iff.mp hline
    obtain ⟨_, -, hline⟩ := Option.bind_eq_some_iff.mp hline
    cases hline
    exact Draft.distinct_header h hopened

theorem distinct_keyLine {draft next : Draft} (h : Distinct draft.entries)
    {text rest : List Char} (hline : keyLine draft text = some (next, rest)) :
    Distinct next.entries := by
  obtain ⟨⟨path, behind⟩, -, hline⟩ := Option.bind_eq_some_iff.mp hline
  obtain ⟨given, -, hline⟩ := Option.bind_eq_some_iff.mp hline
  obtain ⟨⟨item, after⟩, -, hline⟩ := Option.bind_eq_some_iff.mp hline
  obtain ⟨defined, hdefined, hline⟩ := Option.bind_eq_some_iff.mp hline
  obtain ⟨_, -, hline⟩ := Option.bind_eq_some_iff.mp hline
  cases hline
  exact Draft.distinct_define h hdefined

theorem distinct_lines {turns : Nat} {draft result : Draft} (h : Distinct draft.entries)
    {text : List Char} (hlines : lines turns draft text = some result) :
    Distinct result.entries := by
  induction turns generalizing draft text with
  | zero => cases hlines
  | succ turns ih =>
    unfold lines at hlines
    split at hlines
    · cases hlines
      exact h
    · obtain ⟨⟨next, rest⟩, hline, hlines⟩ := Option.bind_eq_some_iff.mp hlines
      exact ih (distinct_headerLine h hline) hlines
    · split at hlines
      · exact ih h hlines
      · obtain ⟨⟨next, rest⟩, hline, hlines⟩ := Option.bind_eq_some_iff.mp hlines
        exact ih (distinct_keyLine h hline) hlines

/-- The keys of a well-formed text are defined once each. -/
theorem distinct_of_read {text : String} {entries : Entries} (h : read text = some entries) :
    Distinct entries := by
  obtain ⟨draft, hlines, rfl⟩ := Option.map_eq_some_iff.mp h
  have hempty : Distinct ({} : Draft).entries := List.nodup_nil
  exact distinct_lines hempty hlines

end ResumeTerminal.Toml
