import ResumeTerminal.Json.Bracketed
import ResumeTerminal.Proofs.Json.Source

/-! Reading lists and objects. If every element is read as its meaning, a bracket is read
as the fold of these meanings in the order of the text. -/
namespace ResumeTerminal.Json

theorem toOption_eq_some_iff {ε α : Type} {x : Except ε α} {value : α} :
    x.toOption = some value ↔ x = .ok value := by
  cases x <;> simp [Except.toOption]

theorem toOption_bind {ε α β : Type} (x : Except ε α) (f : α → Except ε β) :
    (x >>= f).toOption = x.toOption.bind fun value => (f value).toOption := by
  cases x <;> rfl

theorem toOption_return {α β : Type} {read : Except Error (α × List Char)} {meaning : Option α}
    {rest : List Char} (h : read.toOption = meaning.map (·, rest)) (f : α → β) :
    (do let (value, rest) ← read; return (f value, rest)).toOption =
      (meaning.map f).map (·, rest) := by
  rw [toOption_bind, h, Option.bind_map]
  cases meaning <;> rfl

/-- Whether a reader takes what a value is written with and nothing else, and returns
what the value means. -/
def Reads {α : Type} (reader : Reader α) (source : Source) (meaning : Option α) : Prop :=
  ∀ text rest, skipSpace text = source.chars ++ rest → Ends rest →
    (reader text).toOption = meaning.map (·, rest)

/-- The same for a reader that begins before the colon of a member. -/
def ReadsMember {α : Type} (reader : Reader α) (source : Source) (meaning : Option α) : Prop :=
  ∀ text value rest, passColon text = .ok value → skipSpace value = source.chars ++ rest →
    Ends rest → (reader text).toOption = meaning.map (·, rest)

/-! Where the next element begins. -/

theorem nextItem_gap (gap : Gap) (first : Bool) {text rest : List Char} {c : Char}
    (hnext : skipSpace text = c :: rest) (hc : c ≠ ']') :
    nextItem first (gap.chars first ++ text) = .ok (.element (skipSpace text)) := by
  cases first with
  | true =>
    rw [Gap.chars_true]
    simp only [nextItem, Blanks.skipSpace_append, hnext]
    split <;> simp_all
  | false =>
    have hspace : isSpace ',' = false := rfl
    rw [Gap.chars_false]
    simp [nextItem, Blanks.skipSpace_append, hnext, skipSpace_cons hspace]
    split <;> simp_all

theorem nextItem_close (close : Blanks) (first : Bool) (rest : List Char) :
    nextItem first (close.chars ++ ']' :: rest) = .ok (.closed rest) := by
  have hspace : isSpace ']' = false := rfl
  simp only [nextItem, Blanks.skipSpace_append, skipSpace_cons hspace]

theorem nextMember_gap (gap : Gap) (first : Bool) (rest : List Char) :
    nextMember first (gap.chars first ++ '"' :: rest) = .ok (.element rest) := by
  have hquote : isSpace '"' = false := rfl
  have hcomma : isSpace ',' = false := rfl
  cases first with
  | true =>
    rw [Gap.chars_true]
    simp [nextMember, Blanks.skipSpace_append, skipSpace_cons hquote]
  | false =>
    rw [Gap.chars_false]
    simp [nextMember, Blanks.skipSpace_append, skipSpace_cons hquote, skipSpace_cons hcomma]

theorem nextMember_close (close : Blanks) (first : Bool) (rest : List Char) :
    nextMember first (close.chars ++ '\x7d' :: rest) = .ok (.closed rest) := by
  have hspace : isSpace '\x7d' = false := rfl
  simp only [nextMember, Blanks.skipSpace_append, skipSpace_cons hspace]

theorem passColon_append (colon : Blanks) (rest : List Char) :
    passColon (colon.chars ++ ':' :: rest) = .ok rest := by
  have hspace : isSpace ':' = false := rfl
  simp only [passColon, Blanks.skipSpace_append, skipSpace_cons hspace]

/-! The loops. -/

variable {σ : Type}

def foldItems (meaning : σ → Source → Option σ) (start : σ) (items : List (Item Source)) :
    Option σ :=
  items.foldlM (fun state element => meaning state element.value) start

/-- A key that stands for no text cannot be read. -/
def foldMembers (meaning : String → σ → Source → Option σ) (start : σ)
    (members : List (Member Source)) : Option σ :=
  members.foldlM (fun state element => element.key.text?.bind fun key =>
    meaning key state element.value) start

theorem foldMembers_cons_eq_some {meaning : String → σ → Source → Option σ} {start last : σ}
    {member : Member Source} {members : List (Member Source)}
    (h : foldMembers meaning start (member :: members) = some last) :
    ∃ key next, member.key.text? = some key ∧ meaning key start member.value = some next ∧
      foldMembers meaning next members = some last := by
  rw [foldMembers, List.foldlM_cons] at h
  obtain ⟨next, hnext, hlast⟩ := Option.bind_eq_some_iff.mp h
  obtain ⟨key, hkey, hmeaning⟩ := Option.bind_eq_some_iff.mp hnext
  exact ⟨key, next, hkey, hmeaning, hlast⟩

/-- A key and what its value means. -/
def Member.pair? {α : Type} (meaning : Source → Option α) (member : Member Source) :
    Option (String × α) :=
  member.key.text?.bind fun key => (meaning member.value).map (key, ·)

theorem foldItems_map {α : Type} (meaning : Source → Option α) (next : σ → α → σ) (start : σ)
    (items : List (Item Source)) :
    foldItems (fun state source => (meaning source).map (next state)) start items =
      (items.mapM fun item => meaning item.value).map (·.foldl next start) := by
  induction items generalizing start with
  | nil => rfl
  | cons item items ih =>
    rw [foldItems, List.foldlM_cons, List.mapM_cons]
    cases meaning item.value with
    | none => rfl
    | some value =>
      refine (ih (next start value)).trans ?_
      cases items.mapM fun item => meaning item.value <;> rfl

theorem foldMembers_map {α : Type} (meaning : Source → Option α) (next : String → σ → α → σ)
    (start : σ) (members : List (Member Source)) :
    foldMembers (fun key state source => (meaning source).map (next key state)) start members =
      (members.mapM (Member.pair? meaning)).map
        (·.foldl (fun state pair => next pair.1 state pair.2) start) := by
  induction members generalizing start with
  | nil => rfl
  | cons member members ih =>
    rw [foldMembers, List.foldlM_cons, List.mapM_cons, Member.pair?]
    cases member.key.text? with
    | none => rfl
    | some key =>
      cases meaning member.value with
      | none => rfl
      | some value =>
        refine (ih (next key start value)).trans ?_
        cases members.mapM (Member.pair? meaning) <;> rfl

theorem itemLoop_items {item : σ → Reader σ} {meaning : σ → Source → Option σ}
    (h : ∀ state source, Reads (item state) source (meaning state source))
    (items : List (Item Source)) (close : Blanks) (rest : List Char) (first : Bool) {turns : Nat}
    (hturns : items.length < turns) (state : σ) :
    (itemLoop item turns first state
        (itemsChars first items ++ (close.chars ++ ']' :: rest))).toOption =
      (foldItems meaning state items).map (·, rest) := by
  induction items generalizing first turns state with
  | nil =>
    obtain ⟨turns, rfl⟩ := Nat.exists_eq_add_of_lt hturns
    simp only [itemLoop, itemsChars, List.nil_append, nextItem_close]
    rfl
  | cons element items ih =>
    obtain ⟨gap, value⟩ := element
    obtain ⟨turns, rfl⟩ := Nat.exists_eq_succ_of_ne_zero (Nat.ne_zero_of_lt hturns)
    obtain ⟨c, others, hchars, -, hc⟩ := value.exists_cons
    have hnext := value.skipSpace_append
      (itemsChars false items ++ (close.chars ++ ']' :: rest))
    have hread := h state value _ _ ((skipSpace_skipSpace _).trans hnext)
      (ends_after_item items close rest)
    have hstep : itemLoop item (turns + 1) first state
        (itemsChars first (⟨gap, value⟩ :: items) ++ (close.chars ++ ']' :: rest)) =
        item state (skipSpace (value.chars ++ (itemsChars false items ++
          (close.chars ++ ']' :: rest)))) >>= fun next =>
            itemLoop item turns false next.1 next.2 := by
      rw [itemLoop, itemsChars, List.append_assoc, List.append_assoc,
        nextItem_gap gap first (hnext.trans (by rw [hchars]; rfl)) hc]
      rfl
    rw [hstep, toOption_bind, hread, foldItems, List.foldlM_cons, Option.bind_map]
    cases hmeaning : meaning state value with
    | none => rfl
    | some next =>
      exact ih false (Nat.lt_of_succ_lt_succ hturns) next

theorem length_itemsChars (first : Bool) (items : List (Item Source)) :
    items.length ≤ (itemsChars first items).length := by
  induction items generalizing first with
  | nil => exact Nat.zero_le _
  | cons item items ih =>
    have hvalue := item.value.length_pos
    have hrest := ih false
    simp only [itemsChars, List.length_append, List.length_cons]
    omega

theorem items_append {item : σ → Reader σ} {meaning : σ → Source → Option σ}
    (h : ∀ state source, Reads (item state) source (meaning state source))
    (elements : List (Item Source)) (close : Blanks) (rest : List Char) (start : σ) :
    (items item start (itemsChars true elements ++ (close.chars ++ ']' :: rest))).toOption =
      (foldItems meaning start elements).map (·, rest) := by
  apply itemLoop_items h
  have hlength := length_itemsChars true elements
  rw [List.length_append]
  omega

theorem memberLoop_members {member : String → σ → Reader σ}
    {meaning : String → σ → Source → Option σ}
    (h : ∀ key state source, ReadsMember (member key state) source (meaning key state source))
    (members : List (Member Source)) (close : Blanks) (rest : List Char) (first : Bool)
    {turns : Nat} (hturns : members.length < turns) (state : σ) :
    (memberLoop member turns first state
        (membersChars first members ++ (close.chars ++ '\x7d' :: rest))).toOption =
      (foldMembers meaning state members).map (·, rest) := by
  induction members generalizing first turns state with
  | nil =>
    obtain ⟨turns, rfl⟩ := Nat.exists_eq_add_of_lt hturns
    simp only [memberLoop, membersChars, List.nil_append, nextMember_close]
    rfl
  | cons element members ih =>
    obtain ⟨gap, key, colon, space, value⟩ := element
    obtain ⟨turns, rfl⟩ := Nat.exists_eq_succ_of_ne_zero (Nat.ne_zero_of_lt hturns)
    have hstep : memberLoop member (turns + 1) first state
        (membersChars first (⟨gap, key, colon, space, value⟩ :: members) ++
          (close.chars ++ '\x7d' :: rest)) =
        stringBody [] (key.body ++ '"' :: (colon.chars ++ ':' :: (space.chars ++ (value.chars ++
          (membersChars false members ++ (close.chars ++ '\x7d' :: rest)))))) >>=
            fun key => member key.1 state key.2 >>= fun next =>
              memberLoop member turns false next.1 next.2 := by
      have htext : membersChars first (⟨gap, key, colon, space, value⟩ :: members) ++
          (close.chars ++ '\x7d' :: rest) = gap.chars first ++ '"' :: (key.body ++ '"' ::
            (colon.chars ++ ':' :: (space.chars ++ (value.chars ++
              (membersChars false members ++ (close.chars ++ '\x7d' :: rest)))))) := by
        simp [membersChars, Literal.chars]
      rw [memberLoop, htext, nextMember_gap]
      rfl
    rw [hstep, toOption_bind, key.stringBody_body, foldMembers, List.foldlM_cons, Option.bind_map]
    cases hkey : key.text? with
    | none => rfl
    | some name =>
      have hread := h name state value _ _ _ (passColon_append colon _)
        ((space.skipSpace_append _).trans (value.skipSpace_append _))
        (ends_after_member members close rest)
      simp only [Option.bind_some, Function.comp]
      rw [toOption_bind, hread, Option.bind_map]
      cases hmeaning : meaning name state value with
      | none => rfl
      | some next =>
        exact ih false (Nat.lt_of_succ_lt_succ hturns) next

theorem length_membersChars (first : Bool) (members : List (Member Source)) :
    members.length ≤ (membersChars first members).length := by
  induction members generalizing first with
  | nil => exact Nat.zero_le _
  | cons member members ih =>
    have hrest := ih false
    simp only [membersChars, List.length_append, List.length_cons]
    omega

theorem members_append {member : String → σ → Reader σ}
    {meaning : String → σ → Source → Option σ}
    (h : ∀ key state source, ReadsMember (member key state) source (meaning key state source))
    (elements : List (Member Source)) (close : Blanks) (rest : List Char) (start : σ) :
    (members member start
        (membersChars true elements ++ (close.chars ++ '\x7d' :: rest))).toOption =
      (foldMembers meaning start elements).map (·, rest) := by
  apply memberLoop_members h
  have hlength := length_membersChars true elements
  rw [List.length_append]
  omega

/-- The elements of a list, the last one first. -/
theorem items_listItem {α : Type} {reader : Reader α} {meaning : Source → Option α}
    (h : ∀ source, Reads reader source (meaning source)) (elements : List (Item Source))
    (close : Blanks) (rest : List Char) :
    (items (listItem reader) []
        (itemsChars true elements ++ (close.chars ++ ']' :: rest))).toOption =
      ((elements.mapM fun element => meaning element.value).map List.reverse).map (·, rest) := by
  have hitem (read : List α) (source : Source) :
      Reads (listItem reader read) source ((meaning source).map (· :: read)) :=
    fun text rest htext hends => toOption_return (h source text rest htext hends) (· :: read)
  rw [items_append hitem, foldItems_map]
  simp

end ResumeTerminal.Json
