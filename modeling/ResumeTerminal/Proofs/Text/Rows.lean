import ResumeTerminal.Proofs.Text.Trimming

/-! Rows of a text. No row holds a line feed, and a text without one is its own only row. The
rows joined by line feeds are the text again (`Reproduces`), but for the carriage returns of its
line breaks and for the line break at its end. -/
namespace ResumeTerminal.Text

theorem rows_of_not_mem {text : String} (hne : text ≠ "") (h : '\n' ∉ text.toList) :
    rows text = [text] := by
  have hchars : text.toList ≠ [] := fun hnil => hne (String.toList_eq_nil_iff.mp hnil)
  simp [rows, List.splitOn_eq_singleton h, hchars]

theorem printedRows_of_not_mem {text : String} (h : '\n' ∉ text.toList) :
    printedRows text = [text] := by
  by_cases hempty : text = ""
  · subst hempty
    rfl
  · rw [printedRows, if_neg (by simpa using hempty), rows_of_not_mem hempty h]

theorem dropReturn_sublist (row : List Char) : (dropReturn row).Sublist row := by
  unfold dropReturn
  split
  · exact List.dropLast_sublist row
  · exact List.Sublist.refl row

theorem dropReturn_of_ne {row : List Char} (h : row.getLast? ≠ some '\r') :
    dropReturn row = row := if_neg h

theorem dropReturn_cons {row : List Char} (hne : row ≠ []) (c : Char) :
    dropReturn (c :: row) = c :: dropReturn row := by
  obtain ⟨next, rest, rfl⟩ := List.exists_cons_of_ne_nil hne
  unfold dropReturn
  rw [List.getLast?_cons_cons]
  split <;> rfl

theorem not_mem_of_mem_splitOn {chars line : List Char} {c : Char} (h : line ∈ chars.splitOn c) :
    c ∉ line := by
  intro hmem
  rw [List.splitOn_eq_splitOnP] at h
  simpa using eq_false_of_mem_splitOnP h c hmem

theorem not_mem_of_mem_rows {text row : String} (h : row ∈ rows text) : '\n' ∉ row.toList := by
  obtain ⟨chars, hchars, rfl⟩ := List.mem_map.mp h
  rw [String.toList_ofList]
  rcases List.mem_append.mp hchars with hclosed | hlast
  · obtain ⟨line, hmem, rfl⟩ := List.mem_map.mp hclosed
    have hline := not_mem_of_mem_splitOn ((List.dropLast_sublist _).mem hmem)
    exact fun hfeed => hline ((dropReturn_sublist line).mem hfeed)
  · simp only [Option.mem_toList, Option.filter_eq_some_iff] at hlast
    exact not_mem_of_mem_splitOn (List.mem_of_getLast? hlast.1)

theorem not_mem_of_mem_printedRows {text row : String} (h : row ∈ printedRows text) :
    '\n' ∉ row.toList := by
  unfold printedRows at h
  split at h
  · rw [List.mem_singleton.mp h]
    simp
  · exact not_mem_of_mem_rows h

/-- Joined texts hold a character that the separator does not where one of them holds it. -/
theorem mem_intercalate_iff {c : Char} {separator : String} (h : c ∉ separator.toList)
    (texts : List String) :
    c ∈ (separator.intercalate texts).toList ↔ ∃ text ∈ texts, c ∈ text.toList := by
  induction texts with
  | nil => simp
  | cons text rest ih =>
    cases rest with
    | nil => simp
    | cons next rest =>
      rw [String.intercalate_cons_cons, String.toList_append, String.toList_append,
        List.mem_append, List.mem_append, ih, or_iff_left h]
      simp only [List.mem_cons, exists_eq_or_imp]

theorem toList_joined (texts : List String) :
    ("\n".intercalate texts).toList = ['\n'].intercalate (texts.map String.toList) :=
  String.toList_intercalate

theorem splitOn_intercalate {texts : List String} (hne : texts ≠ [])
    (h : ∀ text ∈ texts, '\n' ∉ text.toList) :
    ("\n".intercalate texts).toList.splitOn '\n' = texts.map String.toList := by
  have hparts : ∀ part ∈ texts.map String.toList, '\n' ∉ part := by
    intro part hpart
    obtain ⟨text, htext, rfl⟩ := List.mem_map.mp hpart
    exact h text htext
  rw [toList_joined, List.splitOn_intercalate '\n' hparts (by simpa using hne)]

theorem intercalate_concat {separator : List Char} {lines : List (List Char)} (hne : lines ≠ [])
    (last : List Char) :
    separator.intercalate (lines ++ [last]) =
      separator.intercalate lines ++ separator ++ last := by
  induction lines with
  | nil => exact absurd rfl hne
  | cons line rest ih =>
    by_cases hrest : rest = []
    · subst hrest
      simp
    · rw [List.cons_append, List.intercalate_cons_of_ne_nil (by simp), ih hrest,
        List.intercalate_cons_of_ne_nil hrest]
      simp only [List.append_assoc]

/-- Every line break as a line feed alone. -/
def unifyBreaks : List Char → List Char
  | [] => []
  | '\r' :: '\n' :: rest => '\n' :: unifyBreaks rest
  | c :: rest => c :: unifyBreaks rest

def dropFinalFeed (chars : List Char) : List Char :=
  if chars.getLast? = some '\n' then chars.dropLast else chars

/-- Only a carriage return and a line feed make one character of two. -/
theorem unifyBreaks_cons {c : Char} {rest : List Char}
    (h : c = '\r' → rest.head? ≠ some '\n') :
    unifyBreaks (c :: rest) = c :: unifyBreaks rest := by
  rw [unifyBreaks]
  rintro tail rfl rfl
  exact h rfl rfl

theorem unifyBreaks_feed (rest : List Char) :
    unifyBreaks ('\n' :: rest) = '\n' :: unifyBreaks rest := by
  apply unifyBreaks_cons
  intro hreturn
  exact absurd hreturn (by decide)

theorem unifyBreaks_of_not_mem {line : List Char} (h : '\n' ∉ line) : unifyBreaks line = line := by
  induction line with
  | nil => rfl
  | cons c line ih =>
    rw [List.mem_cons, not_or] at h
    rw [unifyBreaks_cons fun _ hhead => h.2 (List.mem_of_head? hhead), ih h.2]

/-- The carriage return that a line loses is the one right before the line feed. -/
theorem unifyBreaks_append_feed {line : List Char} (h : '\n' ∉ line) (rest : List Char) :
    unifyBreaks (line ++ '\n' :: rest) = dropReturn line ++ '\n' :: unifyBreaks rest := by
  induction line with
  | nil => exact unifyBreaks_feed rest
  | cons c line ih =>
    rw [List.mem_cons, not_or] at h
    -- Only the last character of a line can be a part of the break.
    cases line with
    | nil =>
      by_cases hreturn : c = '\r'
      · subst hreturn
        rfl
      · rw [dropReturn_of_ne (by simpa using hreturn), List.singleton_append,
          unifyBreaks_cons fun heq => absurd heq hreturn, unifyBreaks_feed]
        rfl
    | cons next line =>
      have hnext : (next :: line ++ '\n' :: rest).head? ≠ some '\n' := by
        intro hhead
        exact h.2 (Option.some.inj hhead ▸ List.mem_cons_self)
      rw [dropReturn_cons (List.cons_ne_nil next line), List.cons_append,
        unifyBreaks_cons fun _ => hnext, ih h.2]
      rfl

theorem unifyBreaks_intercalate {closed : List (List Char)} {last : List Char}
    (h : ∀ line ∈ closed ++ [last], '\n' ∉ line) :
    unifyBreaks (['\n'].intercalate (closed ++ [last])) =
      ['\n'].intercalate (closed.map dropReturn ++ [last]) := by
  induction closed with
  | nil => simpa using unifyBreaks_of_not_mem (h last (List.mem_singleton_self last))
  | cons line closed ih =>
    have hline : '\n' ∉ line := h line List.mem_cons_self
    have hrest := ih fun other hother => h other (List.mem_cons_of_mem line hother)
    rw [List.cons_append, List.intercalate_cons_of_ne_nil (by simp), List.append_assoc,
      List.singleton_append, unifyBreaks_append_feed hline, hrest, List.map_cons,
      List.cons_append, List.intercalate_cons_of_ne_nil (by simp), List.append_assoc,
      List.singleton_append]

theorem dropFinalFeed_concat (chars : List Char) : dropFinalFeed (chars ++ ['\n']) = chars := by
  rw [dropFinalFeed, if_pos List.getLast?_concat, List.dropLast_concat]

theorem dropFinalFeed_intercalate {last : List Char} (hne : last ≠ []) (h : '\n' ∉ last)
    (lines : List (List Char)) :
    dropFinalFeed (['\n'].intercalate (lines ++ [last])) =
      ['\n'].intercalate (lines ++ [last]) := by
  have hend : (['\n'].intercalate (lines ++ [last])).getLast? = last.getLast? := by
    by_cases hlines : lines = []
    · rw [hlines, List.nil_append, List.intercalate_singleton]
    · rw [intercalate_concat hlines, List.getLast?_append_of_ne_nil _ hne]
  apply if_neg
  rw [hend]
  exact fun hfeed => h (List.mem_of_getLast? hfeed)

theorem dropFinalFeed_intercalate_nil {lines : List (List Char)} (hne : lines ≠ []) :
    dropFinalFeed (['\n'].intercalate (lines ++ [[]])) = ['\n'].intercalate lines := by
  rw [intercalate_concat hne, List.append_nil, dropFinalFeed_concat]

/-- Rows that say all of a text, in its order: only how its line breaks are written, and whether
one stands at its end, is not to be seen. -/
structure Reproduces (rows : List String) (text : String) : Prop where
  ne_nil : rows ≠ []
  no_feed : ∀ row ∈ rows, '\n' ∉ row.toList
  joined : ("\n".intercalate rows).toList = dropFinalFeed (unifyBreaks text.toList)

theorem exists_splitOn_eq (text : String) :
    ∃ closed last, text.toList.splitOn '\n' = closed ++ [last] := by
  obtain ⟨closed, last, hsplit⟩ :=
    (List.eq_nil_or_concat _).resolve_left (List.splitOn_ne_nil '\n' text.toList)
  exact ⟨closed, last, hsplit.trans (List.concat_eq_append)⟩

theorem toList_eq_of_splitOn {text : String} {lines : List (List Char)}
    (h : text.toList.splitOn '\n' = lines) : text.toList = ['\n'].intercalate lines := by
  rw [← h, List.intercalate_splitOn]

theorem map_toList_rows {text : String} {closed : List (List Char)} {last : List Char}
    (h : text.toList.splitOn '\n' = closed ++ [last]) :
    (rows text).map String.toList =
      closed.map dropReturn ++ if last = [] then [] else [last] := by
  have hchars : String.toList ∘ String.ofList = id := funext fun _ => String.toList_ofList
  unfold rows
  simp only [h, List.dropLast_concat, List.getLast?_concat, List.map_map, hchars, List.map_id]
  by_cases hlast : last = []
  · simp [hlast]
  · simp [hlast]

theorem rows_ne_nil {text : String} (hne : text ≠ "") : rows text ≠ [] := by
  intro hnone
  obtain ⟨closed, last, hsplit⟩ := exists_splitOn_eq text
  have hlines := map_toList_rows hsplit
  rw [hnone, List.map_nil, eq_comm, List.append_eq_nil_iff, List.map_eq_nil_iff] at hlines
  obtain ⟨rfl, hopen⟩ := hlines
  have hlast : last = [] := by
    by_contra hlast
    rw [if_neg hlast] at hopen
    exact List.cons_ne_nil last [] hopen
  have hchars := toList_eq_of_splitOn hsplit
  rw [hlast, List.nil_append, List.intercalate_singleton] at hchars
  exact hne (String.toList_eq_nil_iff.mp hchars)

theorem intercalate_rows (text : String) :
    ("\n".intercalate (rows text)).toList = dropFinalFeed (unifyBreaks text.toList) := by
  obtain ⟨closed, last, hsplit⟩ := exists_splitOn_eq text
  have hfeed : ∀ line ∈ closed ++ [last], '\n' ∉ line :=
    fun line hline => not_mem_of_mem_splitOn (hsplit ▸ hline)
  rw [toList_joined, map_toList_rows hsplit, toList_eq_of_splitOn hsplit,
    unifyBreaks_intercalate hfeed]
  by_cases hlast : last = []
  · subst hlast
    rw [if_pos rfl, List.append_nil]
    by_cases hclosed : closed = []
    · subst hclosed
      rfl
    · exact (dropFinalFeed_intercalate_nil (by simpa using hclosed)).symm
  · rw [if_neg hlast]
    exact (dropFinalFeed_intercalate hlast (hfeed last (by simp)) _).symm

theorem reproduces_printedRows (text : String) : Reproduces (printedRows text) text := by
  by_cases hempty : text = ""
  · subst hempty
    exact ⟨by decide, by decide, by decide⟩
  · have hrows : printedRows text = rows text := if_neg (by simpa using hempty)
    rw [hrows]
    exact ⟨rows_ne_nil hempty, fun _ => not_mem_of_mem_rows, intercalate_rows text⟩

/-- Where the line breaks are, and with them the rows, can be told from the joined text. -/
theorem reproduces_iff {rows : List String} {text : String} :
    Reproduces rows text ↔ rows = printedRows text := by
  constructor
  · intro h
    have hprinted := reproduces_printedRows text
    apply List.map_injective_iff.mpr fun _ _ => String.toList_inj.mp
    rw [← splitOn_intercalate h.ne_nil h.no_feed,
      ← splitOn_intercalate hprinted.ne_nil hprinted.no_feed, h.joined, hprinted.joined]
  · rintro rfl
    exact reproduces_printedRows text

/-- A text that takes one row, also where a line break follows. -/
structure IsRow (text : String) : Prop where
  no_feed : '\n' ∉ text.toList
  no_return : text.toList.getLast? ≠ some '\r'

instance : DecidablePred IsRow := fun text =>
  decidable_of_iff ('\n' ∉ text.toList ∧ text.toList.getLast? ≠ some '\r')
    ⟨fun h => ⟨h.1, h.2⟩, fun h => ⟨h.no_feed, h.no_return⟩⟩

theorem mem_of_mem_trim {text : String} {c : Char} (h : c ∈ (trim text).toList) :
    c ∈ text.toList := by
  rw [toList_trim, dropBlankEnd_eq_rdropWhile] at h
  exact (List.dropWhile_sublist _).mem ((List.rdropWhile_prefix _ _).mem h)

/-- A carriage return is blank, so that none is left at the end. -/
theorem isRow_trim {text : String} (h : '\n' ∉ text.toList) : IsRow (trim text) where
  no_feed hmem := h (mem_of_mem_trim hmem)
  no_return hlast := by
    rw [toList_trim, dropBlankEnd_eq_rdropWhile] at hlast
    obtain ⟨hne, hreturn⟩ := List.mem_getLast?_eq_getLast hlast
    have hvisible := List.rdropWhile_last_not isBlankChar _ hne
    rw [← hreturn] at hvisible
    exact hvisible (by decide)

/-- Rows that are joined by line feeds have no other line breaks between them. -/
theorem unifyBreaks_intercalate_of_isRow {texts : List String} (h : ∀ text ∈ texts, IsRow text) :
    unifyBreaks ("\n".intercalate texts).toList = ("\n".intercalate texts).toList := by
  rcases List.eq_nil_or_concat texts with rfl | ⟨closed, last, rfl⟩
  · rfl
  · rw [List.concat_eq_append] at h ⊢
    have hfeed : ∀ line ∈ closed.map String.toList ++ [last.toList], '\n' ∉ line := by
      rw [← List.map_singleton, ← List.map_append, List.forall_mem_map]
      exact fun text htext => (h text htext).no_feed
    have hreturn : ∀ line ∈ closed.map String.toList, dropReturn line = line := by
      rw [List.forall_mem_map]
      exact fun text htext => dropReturn_of_ne (h text (List.mem_append_left _ htext)).no_return
    have hclosed : (closed.map String.toList).map dropReturn = closed.map String.toList :=
      (List.map_congr_left hreturn).trans (List.map_id' _)
    rw [toList_joined, List.map_append, List.map_singleton, unifyBreaks_intercalate hfeed, hclosed]

/-- Cutting into rows undoes joining by line breaks, unless an empty row at the end gets lost. -/
theorem printedRows_intercalate {texts : List String} (hne : texts ≠ [])
    (h : ∀ text ∈ texts, IsRow text) (hlast : texts.getLast? ≠ some "") :
    printedRows ("\n".intercalate texts) = texts := by
  refine (reproduces_iff.mp ⟨hne, fun text htext => (h text htext).no_feed, ?_⟩).symm
  rw [unifyBreaks_intercalate_of_isRow h]
  obtain ⟨before, last, rfl⟩ := (List.eq_nil_or_concat texts).resolve_left hne
  rw [List.concat_eq_append] at h hlast ⊢
  have hfeed : '\n' ∉ last.toList := (h last (by simp)).no_feed
  have hchars : last.toList ≠ [] := by
    intro hnil
    rw [List.getLast?_concat, String.toList_eq_nil_iff.mp hnil] at hlast
    exact hlast rfl
  rw [toList_joined, List.map_append, List.map_singleton, dropFinalFeed_intercalate hchars hfeed]

/-- With a line break behind the last row, an empty one at the end is kept too. -/
theorem printedRows_intercalate_feed {texts : List String} (hne : texts ≠ [])
    (h : ∀ text ∈ texts, IsRow text) : printedRows ("\n".intercalate texts ++ "\n") = texts := by
  have hjoined : "\n".intercalate texts ++ "\n" = "\n".intercalate (texts ++ [""]) := by
    rw [String.intercalate_append_of_ne_nil hne (List.cons_ne_nil "" []),
      String.intercalate_singleton, String.append_empty]
  have hrows : ∀ text ∈ texts ++ [""], IsRow text := by
    intro text htext
    rcases List.mem_append.mp htext with hmem | hempty
    · exact h text hmem
    · rw [List.mem_singleton.mp hempty]
      decide
  refine (reproduces_iff.mp ⟨hne, fun text htext => (h text htext).no_feed, ?_⟩).symm
  rw [hjoined, unifyBreaks_intercalate_of_isRow hrows, ← hjoined, String.toList_append]
  exact (dropFinalFeed_concat _).symm

theorem IsWord.not_mem_line_feed {text : String} (h : IsWord text) : '\n' ∉ text.toList := by
  intro hmem
  exact absurd (h _ hmem) (by decide)

end ResumeTerminal.Text
