import ResumeTerminal.Json.Shape.Reading
import ResumeTerminal.Proofs.Json.Shape.Meaning
import ResumeTerminal.Proofs.Json.Skip

/-! Reading a text returns what the text means: every reader takes exactly one value, and
returns its value in the shape. -/
namespace ResumeTerminal.Json

/-! Scalars are told from brackets by the first character. -/

namespace Source

def isScalar : Source → Bool
  | .null | .boolean _ | .number _ | .text _ => true
  | .array .. | .object .. => false

theorem exists_cons_of_scalar {source : Source} (h : source.isScalar = true)
    {text rest : List Char} (htext : skipSpace text = source.chars ++ rest) :
    ∃ c others, skipSpace text = c :: others ∧ c ≠ '[' ∧ c ≠ '\x7b' := by
  cases source with
  | null => exact ⟨'n', _, htext, by decide, by decide⟩
  | boolean value => cases value <;> exact ⟨_, _, htext, by decide, by decide⟩
  | number numeral =>
    obtain ⟨c, others, hchars, hc⟩ := numeral.exists_cons
    rw [chars, hchars] at htext
    exact ⟨c, _, htext, (Numeral.ne_of_head hc).2.2.1, (Numeral.ne_of_head hc).2.2.2.1⟩
  | text literal => exact ⟨'"', _, htext, by decide, by decide⟩
  | array items close | object members close => cases h

end Source

/-! Single values. -/

theorem Shape.reads_text (depth : Nat) (source : Source) :
    Reads (Shape.text.read depth) source source.text? := by
  intro text rest htext _
  cases source with
  | text literal =>
    rw [Source.text_chars_append] at htext
    simp only [Shape.read, htext]
    exact literal.stringBody_body rest
  | number numeral =>
    obtain ⟨c, others, hchars, hc⟩ := numeral.exists_cons
    have hquote := (Numeral.ne_of_head hc).2.1
    rw [Source.chars, hchars] at htext
    simp only [Shape.read, htext, List.cons_append]
    split
    · simp_all
    · rfl
  | boolean value =>
    rw [Source.chars] at htext
    cases value <;> simp only [Shape.read, htext, wordChars, List.cons_append] <;> rfl
  | null | array items close | object members close =>
    rw [Source.chars] at htext
    simp only [Shape.read, htext, List.cons_append]
    rfl

theorem reads_numeric {α : Type} (expected : String) (convert : Number → Except Error α)
    (source : Source) :
    Reads (numeric expected convert) source
      (source.number?.bind fun number => (convert number).toOption) := by
  intro text rest htext hends
  cases source with
  | number numeral =>
    obtain ⟨c, others, hchars, hc⟩ := numeral.exists_cons
    have hread := numeral.readNumber_append hends
    rw [Source.chars, hchars, List.cons_append] at htext
    rw [hchars, List.cons_append] at hread
    simp only [numeric, htext, if_pos hc]
    rw [toOption_bind, hread, Option.bind_map, Source.number?]
    cases numeral.number? with
    | none => rfl
    | some number =>
      simp only [Option.bind_some, Function.comp, toOption_bind]
      cases convert number <;> rfl
  | boolean value =>
    rw [Source.chars] at htext
    cases value <;> simp only [numeric, htext, wordChars, List.cons_append] <;> rfl
  | null | text literal | array items close | object members close =>
    rw [Source.chars] at htext
    simp only [numeric, htext, Literal.chars, List.cons_append]
    rfl

theorem reads_nullable {α β : Type} {reader : Reader α} {source : Source}
    {meaning : Source → Option α} (h : Reads reader source (meaning source)) (absent : β)
    (present : α → β) :
    Reads (nullable reader absent present) source (source.orNull absent present meaning) := by
  intro text rest htext hends
  have hread := toOption_return
    (h (skipSpace text) rest ((skipSpace_skipSpace text).trans htext) hends) present
  cases source with
  | null =>
    rw [Source.chars] at htext
    simp only [nullable, htext, List.cons_append]
    rfl
  | number numeral =>
    obtain ⟨c, others, hchars, hc⟩ := numeral.exists_cons
    have hnull := (Numeral.ne_of_head hc).2.2.2.2.1
    rw [Source.chars, hchars] at htext
    simp only [nullable, htext, List.cons_append] at hread ⊢
    split
    · simp_all
    · exact hread
  | boolean value =>
    rw [Source.chars] at htext
    cases value <;> simp only [nullable, htext, wordChars, List.cons_append] at hread ⊢ <;>
      exact hread
  | text literal | array items close | object members close =>
    rw [Source.chars] at htext
    simp only [nullable, htext, Literal.chars, List.cons_append] at hread ⊢
    exact hread

/-! Members. -/

theorem readsMember_recordMember {σ : Type} (names : List String)
    {field : String → σ → Reader σ} {set : String → Source → σ → Option σ}
    (h : ∀ key slots source, Reads (field key slots) source (set key source slots))
    (key : String) (state : List String × σ) (source : Source) :
    ReadsMember (recordMember names field key state) source
      (recordStep names set key state source) := by
  intro text value rest hcolon htext hends
  have hread := toOption_return (h key state.2 source value rest htext hends) (key :: state.1, ·)
  rw [recordStep]
  split
  · simp only [recordMember, if_pos ‹_›]
    rfl
  · simp only [recordMember, if_neg ‹_›, hcolon]
    exact hread

theorem members_mapMember {α : Type} {reader : Reader α} {meaning : Source → Option α}
    (h : ∀ source, Reads reader source (meaning source)) (elements : List (Member Source))
    (close : Blanks) (rest : List Char) :
    (members (mapMember reader) OrderedMap.empty
        (membersChars true elements ++ (close.chars ++ '\x7d' :: rest))).toOption =
      ((elements.mapM (Member.pair? meaning)).map OrderedMap.ofList).map (·, rest) := by
  have hmember (key : String) (map : OrderedMap α) (source : Source) :
      ReadsMember (mapMember reader key map) source ((meaning source).map (map.insert key)) := by
    intro text value rest hcolon htext hends
    rw [mapMember, hcolon]
    exact toOption_return (h source value rest htext hends) (map.insert key)
  rw [members_append hmember]
  exact congrArg (Option.map (·, rest)) (foldMembers_map meaning
    (fun key map value => map.insert key value) OrderedMap.empty elements)

/-! Lists of fields. -/

theorem closeList_append (close : Blanks) (rest : List Char) :
    closeList (close.chars ++ ']' :: rest) = .ok rest := by
  have hspace : isSpace ']' = false := rfl
  simp only [closeList, Blanks.skipSpace_append, skipSpace_cons hspace]

/-- A list cannot be closed where an element begins. -/
theorem toOption_closeList {text rest : List Char} {c : Char} (h : skipSpace text = c :: rest)
    (hc : c ≠ ']') : (closeList text).toOption = none := by
  simp only [closeList, h]
  split
  · rfl
  · simp_all
  · split <;> rfl
  · rfl

theorem toOption_closeList_item (first : Bool) (item : Item Source) (items : List (Item Source))
    (rest : List Char) :
    (closeList (itemsChars first (item :: items) ++ rest)).toOption = none := by
  obtain ⟨gap, value⟩ := item
  obtain ⟨c, others, hchars, hspace, hc⟩ := value.exists_cons
  have hcomma : isSpace ',' = false := rfl
  rw [itemsChars, List.append_assoc]
  cases first with
  | true =>
    have hnext : skipSpace (gap.chars true ++ (value.chars ++ itemsChars false items ++ rest)) =
        c :: (others ++ itemsChars false items ++ rest) := by
      rw [Gap.chars_true, Blanks.skipSpace_append, Blanks.skipSpace_append, hchars]
      exact skipSpace_cons hspace _
    exact toOption_closeList hnext hc
  | false =>
    have hnext : skipSpace (gap.chars false ++ (value.chars ++ itemsChars false items ++ rest)) =
        ',' :: (gap.after.chars ++ (value.chars ++ itemsChars false items ++ rest)) := by
      rw [Gap.chars_false, Blanks.skipSpace_append, skipSpace_cons hcomma]
    exact toOption_closeList hnext (by decide)

/-- Whether a list is read field by field. If it has to be complete, it may not end early. -/
def Fields.ReadsItems {σ : Type} (fields : Fields σ) : Prop :=
  ∀ (depth : Nat) (complete : Bool) (missing : Nat → Option Error),
    (∀ given, (missing given).isSome = complete) →
      ∀ (given : Nat) (items : List (Item Source)) (close : Blanks) (rest : List Char),
        (fields.readItems depth missing given
            (itemsChars (given == 0) items ++ (close.chars ++ ']' :: rest))).toOption =
          (if complete ∧ items.length < fields.names.length then none
            else fields.ofSources depth (items.map Item.value)).map (·, rest)

theorem Fields.readsItems_done : Fields.done.ReadsItems := by
  intro depth complete missing _ given items close rest
  cases items with
  | nil =>
    simp only [Fields.readItems, itemsChars, List.nil_append, closeList_append, Fields.names,
      List.length_nil, Nat.lt_irrefl, and_false, if_false]
    rfl
  | cons item items =>
    rw [Fields.readItems, toOption_bind, toOption_closeList_item]
    simp [Fields.names, Fields.ofSources]

theorem Fields.ReadsItems.field {α β σ : Type} {shape : Shape α} {others : Fields σ}
    (hshape : ∀ depth source, Reads (shape.read depth) source (shape.ofSource depth source))
    (hothers : others.ReadsItems) (name : String) (absent : β) (present : α → β) :
    (Fields.field name shape absent present others).ReadsItems := by
  intro depth complete missing hmissing given items close rest
  cases items with
  | nil =>
    have hmissing := hmissing given
    simp only [Fields.readItems, itemsChars, List.nil_append, nextItem_close]
    cases hgiven : missing given with
    | some e =>
      rw [hgiven, Option.isSome_some] at hmissing
      simp only [bind, Except.bind, ← hmissing, Fields.names, List.length_nil,
        List.length_cons, Nat.zero_lt_succ, and_self, if_true]
      rfl
    | none =>
      rw [hgiven, Option.isSome_none] at hmissing
      simp only [bind, Except.bind, ← hmissing, Bool.false_eq_true, false_and, if_false]
      rfl
  | cons item items =>
    obtain ⟨gap, value⟩ := item
    obtain ⟨c, chars, hchars, -, hc⟩ := value.exists_cons
    have hnext := value.skipSpace_append
      (itemsChars false items ++ (close.chars ++ ']' :: rest))
    have hread := reads_nullable (hshape depth value) absent present _ _
      ((skipSpace_skipSpace _).trans hnext) (ends_after_item items close rest)
    have hlater := hothers depth complete missing hmissing (given + 1) items close rest
    have hstep : (Fields.field name shape absent present others).readItems depth missing given
        (itemsChars (given == 0) (⟨gap, value⟩ :: items) ++ (close.chars ++ ']' :: rest)) =
        nullable (shape.read depth) absent present (skipSpace (value.chars ++
          (itemsChars false items ++ (close.chars ++ ']' :: rest)))) >>= fun slot =>
            others.readItems depth missing (given + 1) slot.2 >>= fun read =>
              pure ((slot.1, read.1), read.2) := by
      simp only [Fields.readItems, itemsChars, List.append_assoc]
      rw [nextItem_gap gap _ (hnext.trans (by rw [hchars]; rfl)) hc]
      rfl
    rw [hstep, toOption_bind, hread, Option.bind_map]
    simp only [List.map_cons, Fields.ofSources, Fields.names, List.length_cons,
      Nat.add_lt_add_iff_right]
    cases value.orNull absent present (shape.ofSource depth) with
    | none => simp
    | some slot =>
      refine (toOption_return hlater (slot, ·)).trans ?_
      split <;> rfl

/-! Values of every shape. -/

theorem Shape.reads_list {α : Type} {item : Shape α}
    (h : ∀ depth source, Reads (item.read depth) source (item.ofSource depth source))
    (depth : Nat) (source : Source) :
    Reads ((Shape.list item).read depth) source ((Shape.list item).ofSource depth source) := by
  intro text rest htext _
  cases source with
  | array elements close =>
    rw [Source.array_chars_append] at htext
    cases depth with
    | zero =>
      simp only [Shape.read, htext]
      rfl
    | succ depth =>
      have hread := toOption_return (items_listItem (h depth) elements close rest) List.reverse
      simp only [Option.map_map, Function.comp_def, List.reverse_reverse] at hread
      simp only [Shape.read, htext, Shape.ofSource]
      exact hread
  | object elements close =>
    rw [Source.object_chars_append] at htext
    cases depth <;> simp only [Shape.read, htext] <;> rfl
  | null | boolean value | number numeral | text literal =>
    obtain ⟨c, others, hopen, hlist, -⟩ := Source.exists_cons_of_scalar rfl htext
    simp only [Shape.read, hopen]
    split
    · next hlike => exact absurd (List.cons.inj hlike).1 hlist
    · cases depth <;> rfl

theorem Shape.reads_map {α : Type} {value : Shape α}
    (h : ∀ depth source, Reads (value.read depth) source (value.ofSource depth source))
    (depth : Nat) (source : Source) :
    Reads ((Shape.map value).read depth) source ((Shape.map value).ofSource depth source) := by
  intro text rest htext _
  cases source with
  | object elements close =>
    rw [Source.object_chars_append] at htext
    cases depth with
    | zero =>
      simp only [Shape.read, htext]
      rfl
    | succ depth =>
      simp only [Shape.read, htext, Shape.ofSource]
      exact members_mapMember (h depth) elements close rest
  | array elements close =>
    rw [Source.array_chars_append] at htext
    cases depth <;> simp only [Shape.read, htext] <;> rfl
  | null | boolean value | number numeral | text literal =>
    obtain ⟨c, others, hopen, -, hobject⟩ := Source.exists_cons_of_scalar rfl htext
    simp only [Shape.read, hopen]
    split
    · next hlike => exact absurd (List.cons.inj hlike).1 hobject
    · cases depth <;> rfl

theorem Shape.reads_record {σ α : Type} {fields : Fields σ}
    (hmember : ∀ depth key slots source, Reads (fields.readMember depth key slots) source
      (fields.setFromSource depth key source slots))
    (hitems : fields.ReadsItems) (name : String) (complete : Bool) (make : σ → α)
    (depth : Nat) (source : Source) :
    Reads ((Shape.record name complete fields make).read depth) source
      ((Shape.record name complete fields make).ofSource depth source) := by
  intro text rest htext _
  cases source with
  | object elements close =>
    rw [Source.object_chars_append] at htext
    cases depth with
    | zero =>
      simp only [Shape.read, htext]
      rfl
    | succ depth =>
      have hread := members_append (readsMember_recordMember fields.names (hmember depth)) elements
        close rest ([], fields.absent)
      have hmake := toOption_return hread fun state => make state.2
      simp only [Shape.read, htext, Shape.ofSource]
      exact hmake
  | array elements close =>
    rw [Source.array_chars_append] at htext
    cases depth with
    | zero =>
      simp only [Shape.read, htext]
      rfl
    | succ depth =>
      have hread := hitems depth complete
        (fun given => if complete then some (.wrongLength given
          (listLabel name fields.names.length)) else none)
        (fun given => by cases complete <;> rfl) 0 elements close rest
      have hmake := toOption_return hread make
      simp only [Shape.read, htext, Shape.ofSource]
      refine hmake.trans ?_
      split <;> rfl
  | null | boolean value | number numeral | text literal =>
    obtain ⟨c, others, hopen, hlist, hobject⟩ := Source.exists_cons_of_scalar rfl htext
    simp only [Shape.read, hopen]
    split
    · next hlike => exact absurd (List.cons.inj hlike).1 hobject
    · next hlike => exact absurd (List.cons.inj hlike).1 hlist
    · cases depth <;> rfl

mutual

theorem Shape.reads {α : Type} (shape : Shape α) (depth : Nat) (source : Source) :
    Reads (shape.read depth) source (shape.ofSource depth source) := by
  cases shape with
  | text =>
    rw [Shape.ofSource]
    exact Shape.reads_text depth source
  | integer =>
    rw [Shape.read, Shape.ofSource]
    exact reads_numeric _ _ source
  | float =>
    have hvalue : Shape.float.ofSource depth source = source.number?.bind fun number =>
        (Except.ok number.toFloat : Except Error Float).toOption := by
      rw [Shape.ofSource]
      cases source.number? <;> rfl
    rw [Shape.read, hvalue]
    exact reads_numeric _ _ source
  | list item =>
    exact Shape.reads_list (fun depth source => Shape.reads item depth source) depth source
  | map value =>
    exact Shape.reads_map (fun depth source => Shape.reads value depth source) depth source
  | record name complete fields make =>
    exact Shape.reads_record
      (fun depth key slots source => Fields.reads_member fields depth key slots source)
      (Fields.readsItems fields) name complete make depth source
  | choice name options =>
    intro text rest htext hends
    rw [Shape.read, toOption_bind, reads_readTree depth source text rest htext hends,
      Option.bind_map, Shape.ofSource]
    cases source.tree? depth with
    | none => rfl
    | some tree =>
      simp only [Option.bind_some, Function.comp]
      cases options.ofTree tree <;> rfl

theorem Fields.reads_member {σ : Type} (fields : Fields σ) (depth : Nat) (key : String)
    (slots : σ) (source : Source) :
    Reads (fields.readMember depth key slots) source
      (fields.setFromSource depth key source slots) := by
  intro text rest htext hends
  cases fields with
  | done =>
    simp only [Fields.readMember, skipValue_append htext hends]
    rfl
  | field name shape absent present others =>
    have hvalue :=
      reads_nullable (Shape.reads shape depth source) absent present text rest htext hends
    have hothers := Fields.reads_member others depth key slots.2 source text rest htext hends
    simp only [Fields.readMember, Fields.setFromSource]
    split
    · exact toOption_return hvalue (·, slots.2)
    · exact toOption_return hothers (slots.1, ·)

theorem Fields.readsItems {σ : Type} (fields : Fields σ) : fields.ReadsItems := by
  cases fields with
  | done => exact Fields.readsItems_done
  | field name shape absent present others =>
    exact (Fields.readsItems others).field (fun depth source => Shape.reads shape depth source)
      name absent present

end

theorem Shape.toOption_ofText {α : Type} (shape : Shape α) (document : Document) :
    (shape.ofText document.text).toOption = shape.ofSource nestingLimit document.value := by
  have hread := shape.reads nestingLimit document.value document.text.toList
    document.trail.chars document.skipSpace_text (ends_blanks document.trail)
  rw [ofText, toOption_bind, hread, Option.bind_map]
  cases shape.ofSource nestingLimit document.value with
  | none => rfl
  | some value =>
    simp only [Option.bind_some, Function.comp, skipSpace_blanks]
    rfl

/-! A value and what it is written with. -/

/-- Whether a shape is read as this value wherever the source stands. -/
def Shape.ReadsAs {α : Type} (shape : Shape α) (depth : Nat) (source : Source) (value : α) :
    Prop :=
  ∀ text rest, skipSpace text = source.chars ++ rest → Ends rest →
    shape.read depth text = .ok (value, rest)

theorem Shape.readsAs_iff {α : Type} {shape : Shape α} {depth : Nat} {source : Source}
    {value : α} :
    shape.ReadsAs depth source value ↔ shape.ofSource depth source = some value := by
  have hread := shape.reads depth source
  constructor
  · intro h
    -- It is enough to read the source where nothing follows it.
    have halone := hread _ [] (source.skipSpace_append []) Ends.nil
    rw [h _ [] (source.skipSpace_append []) Ends.nil] at halone
    obtain ⟨found, hfound, hpair⟩ := Option.map_eq_some_iff.mp halone.symm
    cases hpair
    exact hfound
  · intro h text rest htext hends
    rw [← toOption_eq_some_iff, hread text rest htext hends, h, Option.map_some]

theorem Shape.ofText_eq_ok_iff {α : Type} {shape : Shape α} {document : Document} {value : α} :
    shape.ofText document.text = .ok value ↔
      shape.ReadsAs nestingLimit document.value value := by
  rw [readsAs_iff, ← toOption_ofText, toOption_eq_some_iff]

end ResumeTerminal.Json
