import ResumeTerminal.Proofs.Json.Shape.Field
import ResumeTerminal.Proofs.Json.Shape.Site

/-! Where a record stands within a value. What the whole value means depends on the record only
through what the record means, so a change that makes no difference to the record makes none to
the whole. -/
namespace ResumeTerminal.Json

/-- A bracket around a value, with the elements on both sides of the value. -/
inductive Frame where
  | item (before : List (Item Source)) (gap : Gap) (after : List (Item Source)) (close : Blanks)
  | member (before : List (Member Source)) (gap : Gap) (key : Literal) (colon space : Blanks)
    (after : List (Member Source)) (close : Blanks)

def Frame.plug : Frame → Source → Source
  | .item before gap after close, source => .array (before ++ ⟨gap, source⟩ :: after) close
  | .member before gap key colon space after close, source =>
    .object (before ++ ⟨gap, key, colon, space, source⟩ :: after) close

/-- A value in its brackets, the outermost first. -/
def Source.within (source : Source) (frames : List Frame) : Source :=
  frames.foldr Frame.plug source

/-- A pass over a list reads on from what it finds at one element. -/
theorem exists_mapM_append_cons {α β : Type} (f : α → Option β) (before after : List α) :
    ∃ finish : β → Option (List β), ∀ a,
      (before ++ a :: after).mapM f = (f a).bind finish := by
  refine ⟨fun b => (before.mapM f).bind fun images =>
    (after.mapM f).map fun others => images ++ b :: others, fun a => ?_⟩
  rw [List.mapM_append, List.mapM_cons]
  cases before.mapM f with
  | none => simp
  | some images => cases f a <;> cases after.mapM f <;> rfl

theorem Source.orNull_of_ne {α β : Type} {source : Source} (h : source ≠ .null) (absent : β)
    (present : α → β) (meaning : Source → Option α) :
    source.orNull absent present meaning = (meaning source).map present := by
  cases source with
  | null => exact absurd rfl h
  | _ => rfl

namespace Fields.At
variable {α β σ : Type} {name : String} {shape : Shape α} {absent : β} {present : α → β}
  {fields : Fields σ} {get : σ → β}

theorem exists_put (h : At name shape absent present fields get) (depth : Nat) :
    ∃ put : σ → β → σ, ∀ source slots, fields.setFromSource depth name source slots =
      (source.orNull absent present (shape.ofSource depth)).map (put slots) := by
  induction h with
  | here =>
    refine ⟨fun slots value => (value, slots.2), fun source slots => ?_⟩
    rw [Fields.setFromSource, if_pos rfl]
  | there hne _ ih =>
    obtain ⟨put, hput⟩ := ih
    refine ⟨fun slots value => (slots.1, put slots.2 value), fun source slots => ?_⟩
    rw [Fields.setFromSource, if_neg (Ne.symm hne), hput, Option.map_map]
    rfl

theorem exists_place (h : At name shape absent present fields get) (depth : Nat)
    {before : List Source} (hbefore : before.length = fields.names.idxOf name)
    (after : List Source) :
    ∃ finish : β → Option σ, ∀ source, fields.ofSources depth (before ++ source :: after) =
      (source.orNull absent present (shape.ofSource depth)).bind finish := by
  induction h generalizing before with
  | here =>
    rw [Fields.names, List.idxOf_cons_self, List.length_eq_zero_iff] at hbefore
    subst hbefore
    exact ⟨_, fun source => rfl⟩
  | @there _ _ _ _ otherShape otherAbsent otherPresent others _ hne hothers ih =>
    rw [Fields.names, List.idxOf_cons_ne _ hne] at hbefore
    cases before with
    | nil => cases hbefore
    | cons first before =>
      obtain ⟨finish, hfinish⟩ := ih (Nat.succ.inj hbefore)
      refine ⟨fun value =>
        (first.orNull otherAbsent otherPresent (otherShape.ofSource depth)).bind fun slot =>
          (finish value).map (slot, ·), fun source => ?_⟩
      rw [List.cons_append, Fields.ofSources, hfinish]
      cases first.orNull otherAbsent otherPresent (otherShape.ofSource depth) with
      | none => exact (Option.bind_fun_none _).symm
      | some slot => exact Option.map_bind

end Fields.At

/-- Whether a value is admitted in a frame depends on it and on what else is in the frame. -/
theorem Frame.exists_admits_plug (frame : Frame) (depth : Nat) (buffered : Bool) :
    ∃ rest : Bool, ∀ source, Site.admits ⟨depth + 1, buffered⟩ (frame.plug source) =
      (Site.admits ⟨depth, buffered⟩ source && rest) := by
  cases frame with
  | item before gap after close =>
    simp only [plug, Site.admits_array, List.all_append, List.all_cons]
    exact ⟨_, fun source => Bool.and_left_comm _ _ _⟩
  | member before gap key colon space after close =>
    have hentry (source : Source) : Site.admitsEntry ⟨depth, buffered⟩ (key, source) =
        (Site.admits ⟨depth, buffered⟩ source && (!buffered || key.text?.isSome)) := by
      rw [Site.admitsEntry, Bool.or_and_distrib_left, Bool.and_comm]
      rfl
    simp only [plug, Site.admits_object, List.map_append, List.map_cons, List.all_append,
      List.all_cons, Member.entry, hentry, Bool.and_assoc]
    exact ⟨_, fun source => Bool.and_left_comm _ _ _⟩

theorem Source.within_ne_null {source : Source} (h : source ≠ .null) (frames : List Frame) :
    source.within frames ≠ .null := by
  cases frames with
  | nil => exact h
  | cons frame frames => cases frame <;> rintro ⟨⟩

namespace Shape
variable {α β σ : Type}

/-- What the whole frame means is read on from what the value in it means, and so it means nothing
where the value does not. -/
def ReadsOn (outer : Shape α) (inner : Shape β) (frame : Frame) (depth : Nat) : Prop :=
  ∃ finish : β → Option α, ∀ source, source ≠ .null →
    outer.ofSource (depth + 1) (frame.plug source) = (inner.ofSource depth source).bind finish

theorem ReadsOn.exists_finish {outer : Shape α} {inner : Shape β} {frame : Frame} {depth : Nat}
    (hframe : outer.ReadsOn inner frame depth) {buffered : Bool} {frames : List Frame}
    {innermost : Shape σ} {site : Site}
    (h : ∃ finish : σ → Option β, ∀ members close,
      inner.meaning ⟨depth, buffered⟩ ((Source.object members close).within frames) =
        (innermost.meaning site (.object members close)).bind finish) :
    ∃ finish : σ → Option α, ∀ members close,
      outer.meaning ⟨depth + 1, buffered⟩ ((Source.object members close).within (frame :: frames)) =
        (innermost.meaning site (.object members close)).bind finish := by
  obtain ⟨finish, hfinish⟩ := hframe
  obtain ⟨rest, hrest⟩ := frame.exists_admits_plug depth buffered
  obtain ⟨first, hfirst⟩ := h
  refine ⟨fun value => (first value).bind fun value => if rest then finish value else none,
    fun members close => ?_⟩
  have hnull := (Source.object members close).within_ne_null (by rintro ⟨⟩) frames
  rw [← Option.bind_assoc, ← hfirst, Source.within, List.foldr_cons, ← Source.within, meaning,
    meaning, hrest, hfinish _ hnull]
  cases Site.admits ⟨depth, buffered⟩ ((Source.object members close).within frames) with
  | false => rfl
  | true => cases rest <;> simp

theorem readsOn_list (item : Shape α) (before : List (Item Source)) (gap : Gap)
    (after : List (Item Source)) (close : Blanks) (depth : Nat) :
    (Shape.list item).ReadsOn item (.item before gap after close) depth := by
  obtain ⟨finish, hfinish⟩ := exists_mapM_append_cons
    (fun element : Item Source => item.ofSource depth element.value) before after
  refine ⟨finish, fun source _ => ?_⟩
  rw [Frame.plug, ofSource]
  exact hfinish ⟨gap, source⟩

theorem readsOn_map (value : Shape α) (before : List (Member Source)) (gap : Gap)
    (key : Literal) (colon space : Blanks) (after : List (Member Source)) (close : Blanks)
    (depth : Nat) :
    (Shape.map value).ReadsOn value (.member before gap key colon space after close) depth := by
  obtain ⟨finish, hfinish⟩ :=
    exists_mapM_append_cons (Member.pair? (value.ofSource depth)) before after
  refine ⟨fun read => (key.text?.bind fun text => finish (text, read)).map OrderedMap.ofList,
    fun source _ => ?_⟩
  rw [Frame.plug, ofSource, hfinish, Member.pair?]
  cases key.text? with
  | none => simp
  | some text => cases value.ofSource depth source <;> rfl

variable {γ : Type} {field : String} {inner : Shape γ} {absent : β} {present : γ → β}
  {fields : Fields σ} {get : σ → β}

theorem readsOn_member (hat : Fields.At field inner absent present fields get)
    (label : String) (complete : Bool) (make : σ → α) (before : List (Member Source)) (gap : Gap)
    {key : Literal} (hkey : key.text? = some field) (colon space : Blanks)
    (after : List (Member Source)) (close : Blanks) (depth : Nat) :
    (Shape.record label complete fields make).ReadsOn inner
      (.member before gap key colon space after close) depth := by
  obtain ⟨put, hput⟩ := hat.exists_put depth
  refine ⟨fun value => (fields.slots? depth [field] (put fields.absent (present value))
    (before.map Member.entry ++ after.map Member.entry)).map make, fun source hsource => ?_⟩
  have hfirst : isRepeated fields.names [] field = false := by simp [isRepeated]
  -- The other members are read after this one, which makes no difference.
  rw [Frame.plug, ofSource_object, List.map_append, List.map_cons,
    fields.slots?_perm depth List.perm_middle, Member.entry, Fields.slots?, hkey, Option.bind_some,
    hfirst, hput, source.orNull_of_ne hsource]
  cases inner.ofSource depth source <;> rfl

theorem readsOn_place (hat : Fields.At field inner absent present fields get)
    (label : String) (complete : Bool) (make : σ → α) {before : List (Item Source)}
    (hbefore : before.length = fields.names.idxOf field) (gap : Gap) (after : List (Item Source))
    (close : Blanks) (depth : Nat) :
    (Shape.record label complete fields make).ReadsOn inner (.item before gap after close)
      depth := by
  rw [← List.length_map Item.value] at hbefore
  obtain ⟨finish, hfinish⟩ := hat.exists_place depth hbefore (after.map Item.value)
  refine ⟨fun value =>
    if complete ∧ before.length + (after.length + 1) < fields.names.length then none
    else (finish (present value)).map make, fun source hsource => ?_⟩
  rw [Frame.plug, ofSource, List.map_append, List.map_cons, hfinish, source.orNull_of_ne hsource,
    List.length_append, List.length_cons]
  split
  · exact (Option.bind_fun_none _).symm
  · cases inner.ofSource depth source <;> rfl

end Shape

/-! Choices. -/

/-- An option that is the only one to take objects. -/
inductive Options.Takes {α β : Type} (shape : Shape β) (make : β → α) : Options α → Prop where
  | here {others : Options α} (h : ∀ pairs, others.ofTree (.object pairs) = none) :
    Takes shape make (.option shape make others)
  | there {γ : Type} {other : Shape γ} {otherMake : γ → α} {others : Options α}
    (h : ∀ pairs, other.ofTree (.object pairs) = none) (hothers : Takes shape make others) :
    Takes shape make (.option other otherMake others)

theorem Options.Takes.ofTree_object {α β : Type} {shape : Shape β} {make : β → α}
    {options : Options α} (h : options.Takes shape make) (pairs : List (String × Json)) :
    options.ofTree (.object pairs) = (shape.ofTree (.object pairs)).map make := by
  induction h with
  | here hothers =>
    rw [Options.ofTree, hothers]
    cases shape.ofTree (.object pairs) <;> rfl
  | there hother _ ih => rw [Options.ofTree, hother, ih]

theorem Shape.meaning_choice {α β : Type} {shape : Shape β} {make : β → α} {options : Options α}
    (h : options.Takes shape make) (name : String) (depth : Nat) (buffered : Bool)
    (members : List (Member Source)) (close : Blanks) :
    (Shape.choice name options).meaning ⟨depth, buffered⟩ (.object members close) =
      (shape.meaning ⟨depth, true⟩ (.object members close)).map make := by
  have hchoice : (Shape.choice name options).meaning ⟨depth, buffered⟩ (.object members close) =
      ((Source.object members close).tree? depth).bind options.ofTree := by
    rw [meaning, ofSource, Site.admits]
    cases (Source.object members close).tree? depth with
    | none => exact ite_self _
    | some tree => simp
  rw [hchoice, meaning_buffered]
  cases htree : (Source.object members close).tree? depth with
  | none => rfl
  | some tree =>
    cases Source.hasTree_of_tree? htree with
    | object hpairs => exact h.ofTree_object _

/-! Positions. -/

/-- A shape stands within another one, and these frames are around its values. A record may be
written as a list, and then its fields have their places there. -/
inductive Shape.Inside {β : Type} (inner : Shape β) (site : Site) :
    {α : Type} → Shape α → Site → List Frame → Prop where
  | here : Inside inner site inner site []
  | item {α : Type} {item : Shape α} {depth : Nat} {buffered : Bool} {frames : List Frame}
    (before : List (Item Source)) (gap : Gap) (after : List (Item Source)) (close : Blanks)
    (h : Inside inner site item ⟨depth, buffered⟩ frames) :
    Inside inner site (.list item) ⟨depth + 1, buffered⟩ (.item before gap after close :: frames)
  | entry {α : Type} {value : Shape α} {depth : Nat} {buffered : Bool} {frames : List Frame}
    (before : List (Member Source)) (gap : Gap) (key : Literal) (colon space : Blanks)
    (after : List (Member Source)) (close : Blanks)
    (h : Inside inner site value ⟨depth, buffered⟩ frames) :
    Inside inner site (.map value) ⟨depth + 1, buffered⟩
      (.member before gap key colon space after close :: frames)
  | member {α γ δ σ : Type} {field : String} {shape : Shape γ} {absent : δ} {present : γ → δ}
    {fields : Fields σ} {get : σ → δ} {label : String} {complete : Bool} {make : σ → α}
    {depth : Nat} {buffered : Bool} {frames : List Frame}
    (hat : Fields.At field shape absent present fields get)
    (before : List (Member Source)) (gap : Gap) {key : Literal} (hkey : key.text? = some field)
    (colon space : Blanks) (after : List (Member Source)) (close : Blanks)
    (h : Inside inner site shape ⟨depth, buffered⟩ frames) :
    Inside inner site (.record label complete fields make) ⟨depth + 1, buffered⟩
      (.member before gap key colon space after close :: frames)
  | place {α γ δ σ : Type} {field : String} {shape : Shape γ} {absent : δ} {present : γ → δ}
    {fields : Fields σ} {get : σ → δ} {label : String} {complete : Bool} {make : σ → α}
    {depth : Nat} {buffered : Bool} {frames : List Frame}
    (hat : Fields.At field shape absent present fields get)
    {before : List (Item Source)} (hbefore : before.length = fields.names.idxOf field)
    (gap : Gap) (after : List (Item Source)) (close : Blanks)
    (h : Inside inner site shape ⟨depth, buffered⟩ frames) :
    Inside inner site (.record label complete fields make) ⟨depth + 1, buffered⟩
      (.item before gap after close :: frames)
  | option {α γ : Type} {shape : Shape γ} {make : γ → α} {options : Options α} {name : String}
    {depth : Nat} {buffered : Bool} {frames : List Frame} (hoption : options.Takes shape make)
    (hobject : ∀ members close, ∃ others otherClose,
      (Source.object members close).within frames = .object others otherClose)
    (h : Inside inner site shape ⟨depth, true⟩ frames) :
    Inside inner site (.choice name options) ⟨depth, buffered⟩ frames

/-- The rest of the value is read on from what the object within it means. -/
theorem Shape.Inside.exists_finish {α β : Type} {inner : Shape β} {outer : Shape α}
    {site outerSite : Site} {frames : List Frame}
    (h : inner.Inside site outer outerSite frames) :
    ∃ finish : β → Option α, ∀ members close,
      outer.meaning outerSite ((Source.object members close).within frames) =
        (inner.meaning site (.object members close)).bind finish := by
  induction h with
  | here => exact ⟨some, fun members close => (Option.bind_fun_some _).symm⟩
  | item before gap after close _ ih =>
    exact (readsOn_list _ before gap after close _).exists_finish ih
  | entry before gap key colon space after close _ ih =>
    exact (readsOn_map _ before gap key colon space after close _).exists_finish ih
  | member hat before gap hkey colon space after close _ ih =>
    exact (readsOn_member hat _ _ _ before gap hkey colon space after close _).exists_finish ih
  | place hat hbefore gap after close _ ih =>
    exact (readsOn_place hat _ _ _ hbefore gap after close _).exists_finish ih
  | @option _ _ _ make _ name depth buffered _ hoption hobject _ ih =>
    obtain ⟨finish, hfinish⟩ := ih
    refine ⟨fun value => (finish value).map make, fun members close => ?_⟩
    obtain ⟨others, otherClose, hwithin⟩ := hobject members close
    have hshape := hfinish members close
    rw [hwithin] at hshape ⊢
    rw [meaning_choice hoption, hshape, Option.map_bind]
    rfl

/-! All positions. -/

mutual

/-- The records of a shape by name, with the sites of their values. -/
def Shape.records {α : Type} (shape : Shape α) (site : Site) : List (String × Site) :=
  match shape with
  | .text | .integer | .float => []
  | .list item => item.records site.inner
  | .map value => value.records site.inner
  | .record name _ fields _ => (name, site) :: fields.records site.inner
  | .choice _ options => options.records ⟨site.depth, true⟩

def Fields.records {σ : Type} (fields : Fields σ) (site : Site) : List (String × Site) :=
  match fields with
  | .done => []
  | .field _ shape _ _ others => shape.records site ++ others.records site

def Options.records {α : Type} (options : Options α) (site : Site) : List (String × Site) :=
  match options with
  | .done => []
  | .option shape _ others => shape.records site ++ others.records site

end

theorem Fields.At.records_subset {α β σ : Type} {name : String} {shape : Shape α} {absent : β}
    {present : α → β} {fields : Fields σ} {get : σ → β}
    (h : At name shape absent present fields get) (site : Site) :
    shape.records site ⊆ fields.records site := by
  induction h with
  | here => exact List.subset_append_left _ _
  | there _ _ ih => exact List.subset_append_of_subset_right _ ih

theorem Options.Takes.records_subset {α β : Type} {shape : Shape β} {make : β → α}
    {options : Options α} (h : options.Takes shape make) (site : Site) :
    shape.records site ⊆ options.records site := by
  induction h with
  | here _ => exact List.subset_append_left _ _
  | there _ _ ih => exact List.subset_append_of_subset_right _ ih

theorem Shape.Inside.records_subset {α β : Type} {inner : Shape β} {outer : Shape α}
    {site outerSite : Site} {frames : List Frame}
    (h : inner.Inside site outer outerSite frames) :
    inner.records site ⊆ outer.records outerSite := by
  induction h with
  | here => exact List.Subset.refl _
  | item _ _ _ _ _ ih => exact ih
  | entry _ _ _ _ _ _ _ _ ih => exact ih
  | member hat _ _ _ _ _ _ _ _ ih | place hat _ _ _ _ _ ih =>
    exact List.Subset.trans (List.Subset.trans ih (hat.records_subset _))
      (List.subset_cons_self _ _)
  | option hoption _ _ ih => exact List.Subset.trans ih (hoption.records_subset _)

theorem Shape.Inside.mem_records {α β σ : Type} {name : String} {complete : Bool}
    {fields : Fields σ} {make : σ → β} {outer : Shape α} {site outerSite : Site}
    {frames : List Frame}
    (h : (Shape.record name complete fields make).Inside site outer outerSite frames) :
    (name, site) ∈ outer.records outerSite :=
  h.records_subset List.mem_cons_self

end ResumeTerminal.Json
