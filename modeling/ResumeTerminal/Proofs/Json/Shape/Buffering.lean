import ResumeTerminal.Proofs.Json.Shape.Meaning

/-! The two ways to read a value: straight from the text, and from a tree that was made of it
before. They agree on every value that has a tree. A value that has none is lost where a tree is
wanted, even in a member that nobody asks for. -/
namespace ResumeTerminal.Json

/-! Lists of partial values. -/

theorem isSome_mapM {α β : Type} (f : α → Option β) (list : List α) :
    (list.mapM f).isSome = list.all fun a => (f a).isSome := by
  induction list with
  | nil => rfl
  | cons a list ih =>
    rw [List.mapM_cons, List.all_cons, ← ih]
    cases f a with
    | none => rfl
    | some b => cases list.mapM f <;> rfl

theorem mapM_cons_eq_some {α β : Type} {f : α → Option β} {a : α} {list : List α}
    {images : List β} (h : (a :: list).mapM f = some images) :
    ∃ b others, f a = some b ∧ list.mapM f = some others ∧ images = b :: others := by
  rw [List.mapM_cons] at h
  obtain ⟨b, hb, hrest⟩ := Option.bind_eq_some_iff.mp h
  obtain ⟨others, hothers, hcons⟩ := Option.bind_eq_some_iff.mp hrest
  exact ⟨b, others, hb, hothers, (Option.some.inj hcons).symm⟩

/-- Two passes over a list are one, if they are so at every element. -/
theorem mapM_eq_of_mapM {α β γ : Type} {f : α → Option β} {g : α → Option γ} {k : β → Option γ}
    (h : ∀ a b, f a = some b → g a = k b) {list : List α} {images : List β}
    (himages : list.mapM f = some images) : list.mapM g = images.mapM k := by
  induction list generalizing images with
  | nil =>
    cases himages
    rfl
  | cons a list ih =>
    obtain ⟨b, others, hb, hothers, rfl⟩ := mapM_cons_eq_some himages
    rw [List.mapM_cons, List.mapM_cons, h a b hb, ih hothers]

theorem length_of_mapM {α β : Type} {f : α → Option β} {list : List α} {images : List β}
    (himages : list.mapM f = some images) : images.length = list.length := by
  induction list generalizing images with
  | nil =>
    cases himages
    rfl
  | cons a list ih =>
    obtain ⟨b, others, -, hothers, rfl⟩ := mapM_cons_eq_some himages
    rw [List.length_cons, List.length_cons, ih hothers]

/-! Trees. -/

/-- Which tree a value has, and when. -/
inductive Source.HasTree : Nat → Source → Json → Prop where
  | null {depth : Nat} : HasTree depth .null .null
  | boolean {depth : Nat} (value : Bool) : HasTree depth (.boolean value) (.boolean value)
  | number {depth : Nat} {numeral : Numeral} {number : Number}
    (h : numeral.number? = some number) : HasTree depth (.number numeral) (.number number)
  | text {depth : Nat} {literal : Literal} {text : String} (h : literal.text? = some text) :
    HasTree depth (.text literal) (.text text)
  | array {depth : Nat} {items : List (Item Source)} {close : Blanks} {trees : List Json}
    (h : items.mapM (fun item => item.value.tree? depth) = some trees) :
    HasTree (depth + 1) (.array items close) (.array trees)
  | object {depth : Nat} {members : List (Member Source)} {close : Blanks}
    {pairs : List (String × Json)} (h : members.mapM (Member.pair? (tree? depth)) = some pairs) :
    HasTree (depth + 1) (.object members close) (.object pairs)

theorem Source.hasTree_of_tree? {depth : Nat} {source : Source} {tree : Json}
    (h : source.tree? depth = some tree) : source.HasTree depth tree := by
  cases source with
  | null =>
    cases depth <;> cases h <;> exact .null
  | boolean value =>
    cases depth <;> cases h <;> exact .boolean value
  | number numeral =>
    have hnumber : numeral.number?.map Json.number = some tree := by cases depth <;> exact h
    obtain ⟨value, hvalue, rfl⟩ := Option.map_eq_some_iff.mp hnumber
    exact .number hvalue
  | text literal =>
    have htext : literal.text?.map Json.text = some tree := by cases depth <;> exact h
    obtain ⟨value, hvalue, rfl⟩ := Option.map_eq_some_iff.mp htext
    exact .text hvalue
  | array items close =>
    cases depth with
    | zero => cases h
    | succ depth =>
      obtain ⟨trees, htrees, rfl⟩ := Option.map_eq_some_iff.mp h
      exact .array htrees
  | object members close =>
    cases depth with
    | zero => cases h
    | succ depth =>
      obtain ⟨pairs, hpairs, rfl⟩ := Option.map_eq_some_iff.mp h
      exact .object hpairs

/-! Agreement. -/

theorem mapM_pair?_of_tree? {α : Type} {meaning : Source → Option α}
    {treeMeaning : Json → Option α} {depth : Nat}
    (h : ∀ source tree, source.tree? depth = some tree → meaning source = treeMeaning tree)
    {members : List (Member Source)} {pairs : List (String × Json)}
    (hpairs : members.mapM (Member.pair? (Source.tree? depth)) = some pairs) :
    members.mapM (Member.pair? meaning) =
      pairs.mapM fun pair => (treeMeaning pair.2).map (pair.1, ·) := by
  refine mapM_eq_of_mapM (fun member pair hpair => ?_) hpairs
  obtain ⟨key, hkey, hvalue⟩ := Option.bind_eq_some_iff.mp hpair
  obtain ⟨tree, htree, rfl⟩ := Option.map_eq_some_iff.mp hvalue
  rw [Member.pair?, hkey, Option.bind_some, h _ _ htree]

theorem slotsFromMembers_of_tree? {σ : Type}
    {set : String → Source → σ → Option σ} {setTree : String → Json → σ → Option σ} {depth : Nat}
    (h : ∀ key source tree slots, source.tree? depth = some tree →
      set key source slots = setTree key tree slots)
    (names : List String) {members : List (Member Source)} {pairs : List (String × Json)}
    (hpairs : members.mapM (Member.pair? (Source.tree? depth)) = some pairs)
    (seen : List String) (slots : σ) :
    (foldMembers (recordStep names set) (seen, slots) members).map Prod.snd =
      slotsFromMembers names setTree seen slots pairs := by
  induction members generalizing pairs seen slots with
  | nil =>
    cases hpairs
    rfl
  | cons member members ih =>
    obtain ⟨pair, others, hpair, hothers, rfl⟩ := mapM_cons_eq_some hpairs
    obtain ⟨key, hkey, hvalue⟩ := Option.bind_eq_some_iff.mp hpair
    obtain ⟨tree, htree, rfl⟩ := Option.map_eq_some_iff.mp hvalue
    rw [foldMembers, List.foldlM_cons, hkey, Option.bind_some, slotsFromMembers, recordStep]
    split
    · rfl
    · rw [h key member.value tree slots htree]
      cases setTree key tree slots with
      | none => rfl
      | some next => exact ih hothers (key :: seen) next

/-- The value of a field that may be `null`, from its tree. -/
def orNull {α β : Type} (absent : β) (present : α → β) (meaning : Json → Option α) :
    Json → Option β
  | .null => some absent
  | tree => (meaning tree).map present

theorem Source.orNull_of_tree? {α β : Type} {meaning : Source → Option α}
    {treeMeaning : Json → Option α} {depth : Nat} {source : Source} {tree : Json}
    (htree : source.tree? depth = some tree) (h : meaning source = treeMeaning tree)
    (absent : β) (present : α → β) :
    source.orNull absent present meaning = tree.orNull absent present treeMeaning := by
  cases source.hasTree_of_tree? htree with
  | null => rfl
  | boolean _ | number _ | text _ | array _ | object _ => exact congrArg (Option.map present) h

theorem Fields.setFromTree_field {α β σ : Type} (name : String) (shape : Shape α) (absent : β)
    (present : α → β) (others : Fields σ) (key : String) (tree : Json) (slots : β × σ) :
    (Fields.field name shape absent present others).setFromTree key tree slots =
      if key = name then (tree.orNull absent present shape.ofTree).map (·, slots.2)
      else (others.setFromTree key tree slots.2).map (slots.1, ·) := by
  cases tree <;> simp only [Fields.setFromTree, orNull, Option.map_map, Option.map_some] <;> rfl

theorem Fields.ofTrees_field_cons {α β σ : Type} (name : String) (shape : Shape α) (absent : β)
    (present : α → β) (others : Fields σ) (tree : Json) (trees : List Json) :
    (Fields.field name shape absent present others).ofTrees (tree :: trees) =
      (tree.orNull absent present shape.ofTree).bind fun value =>
        (others.ofTrees trees).map (value, ·) := by
  have hpair : ∀ (value : Option α) (rest : Option σ),
      (do let value ← value; return (present value, ← rest)) =
        (value.map present).bind fun value => rest.map (value, ·) := by
    intro value rest
    cases value <;> cases rest <;> rfl
  cases tree with
  | null => rfl
  | boolean _ | number _ | text _ | array _ | object _ =>
    simp only [Fields.ofTrees, orNull, hpair]

mutual

/-- Where a value has a tree, it does not matter which way it is read. -/
theorem Shape.ofSource_of_tree? {α : Type} (shape : Shape α) {depth : Nat} {source : Source}
    {tree : Json} (h : source.tree? depth = some tree) :
    shape.ofSource depth source = shape.ofTree tree := by
  cases shape with
  | text =>
    rw [Shape.ofSource]
    cases source.hasTree_of_tree? h with
    | text htext => exact htext
    | null | boolean _ | number _ | array _ | object _ => rfl
  | integer =>
    rw [Shape.ofSource]
    cases source.hasTree_of_tree? h with
    | number hnumber =>
      rw [Source.number?, hnumber]
      rfl
    | null | boolean _ | text _ | array _ | object _ => rfl
  | float =>
    rw [Shape.ofSource]
    cases source.hasTree_of_tree? h with
    | number hnumber =>
      rw [Source.number?, hnumber]
      rfl
    | null | boolean _ | text _ | array _ | object _ => rfl
  | list item =>
    cases source.hasTree_of_tree? h with
    | array htrees => exact mapM_eq_of_mapM (fun a b hb => Shape.ofSource_of_tree? item hb) htrees
    | null | boolean _ | number _ | text _ => cases depth <;> rfl
    | object _ => rfl
  | map value =>
    cases source.hasTree_of_tree? h with
    | object hpairs =>
      have hread := mapM_pair?_of_tree?
        (fun source tree htree => Shape.ofSource_of_tree? value htree) hpairs
      rw [Shape.ofSource, Shape.ofTree, hread, Option.map_eq_bind]
      rfl
    | null | boolean _ | number _ | text _ => cases depth <;> rfl
    | array _ => rfl
  | record name complete fields make =>
    cases source.hasTree_of_tree? h with
    | object hpairs =>
      have hslots := slotsFromMembers_of_tree?
        (fun key source tree slots htree => Fields.setFromSource_of_tree? fields key slots htree)
        fields.names hpairs [] fields.absent
      rw [Shape.ofSource, Shape.ofTree, ← hslots, Option.map_map]
      rfl
    | array htrees =>
      have hsources := Fields.ofSources_of_tree? fields (List.mapM_map.trans htrees)
      rw [Shape.ofSource, Shape.ofTree, length_of_mapM htrees, hsources]
    | null | boolean _ | number _ | text _ => cases depth <;> rfl
  | choice name options =>
    rw [Shape.ofSource, h]
    rfl

theorem Fields.setFromSource_of_tree? {σ : Type} (fields : Fields σ) (key : String) (slots : σ)
    {depth : Nat} {source : Source} {tree : Json} (h : source.tree? depth = some tree) :
    fields.setFromSource depth key source slots = fields.setFromTree key tree slots := by
  cases fields with
  | done => rfl
  | field name shape absent present others =>
    have hvalue := Source.orNull_of_tree? h (Shape.ofSource_of_tree? shape h) absent present
    have hothers := Fields.setFromSource_of_tree? others key slots.2 h
    rw [Fields.setFromSource, Fields.setFromTree_field, hvalue, hothers]

theorem Fields.ofSources_of_tree? {σ : Type} (fields : Fields σ) {depth : Nat}
    {sources : List Source} {trees : List Json}
    (h : sources.mapM (Source.tree? depth) = some trees) :
    fields.ofSources depth sources = fields.ofTrees trees := by
  cases fields with
  | done =>
    cases sources with
    | nil =>
      cases h
      rfl
    | cons source sources =>
      obtain ⟨tree, others, -, -, rfl⟩ := mapM_cons_eq_some h
      rfl
  | field name shape absent present others =>
    cases sources with
    | nil =>
      cases h
      rfl
    | cons source sources =>
      obtain ⟨tree, rest, htree, hrest, rfl⟩ := mapM_cons_eq_some h
      have hvalue :=
        Source.orNull_of_tree? htree (Shape.ofSource_of_tree? shape htree) absent present
      have hothers := Fields.ofSources_of_tree? others hrest
      rw [Fields.ofSources, Fields.ofTrees_field_cons, hvalue, hothers]

end

end ResumeTerminal.Json
