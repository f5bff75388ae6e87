import ResumeTerminal.Json.Tree
import ResumeTerminal.Proofs.Json.Bracketed

/-! Reading any value as a tree of what it denotes. The blanks are gone from it, the order
of members and keys that come more than once are not. -/
namespace ResumeTerminal.Json

/-- The tree that a value denotes, if it opens no more than `depth` brackets at once, and
if all its numbers are in range and all its strings denote texts. -/
def Source.tree? (depth : Nat) (source : Source) : Option Json :=
  match depth, source with
  | _, .null => some .null
  | _, .boolean value => some (.boolean value)
  | _, .number numeral => numeral.number?.map .number
  | _, .text literal => literal.text?.map .text
  | 0, .array .. | 0, .object .. => none
  | depth + 1, .array items _ =>
    (items.mapM fun item : Item Source => item.value.tree? depth).map .array
  | depth + 1, .object members _ => (members.mapM (Member.pair? (Source.tree? depth))).map .object

/-- The members of an object, the last one first. -/
theorem members_memberTree {reader : Reader Json} {meaning : Source → Option Json}
    (h : ∀ source, Reads reader source (meaning source)) (elements : List (Member Source))
    (close : Blanks) (rest : List Char) :
    (members (memberTree reader) []
        (membersChars true elements ++ (close.chars ++ '\x7d' :: rest))).toOption =
      ((elements.mapM (Member.pair? meaning)).map List.reverse).map (·, rest) := by
  have hmember (key : String) (read : List (String × Json)) (source : Source) :
      ReadsMember (memberTree reader key read) source
        ((meaning source).map fun tree => (key, tree) :: read) := by
    intro text value rest hcolon htext hends
    rw [memberTree, hcolon]
    exact toOption_return (h source value rest htext hends) fun tree => (key, tree) :: read
  rw [members_append hmember, foldMembers_map]
  simp

/-! Values without brackets are read alike at every depth. -/

theorem reads_readTree_null (depth : Nat) : Reads (readTree depth) .null (some .null) := by
  intro text rest htext _
  rw [Source.chars] at htext
  cases depth <;> simp only [readTree, htext, List.cons_append] <;> rfl

theorem reads_readTree_boolean (depth : Nat) (value : Bool) :
    Reads (readTree depth) (.boolean value) (some (.boolean value)) := by
  intro text rest htext _
  rw [Source.chars] at htext
  cases value <;> cases depth <;> simp only [readTree, htext, wordChars, List.cons_append] <;> rfl

theorem reads_readTree_literal (depth : Nat) (literal : Literal) :
    Reads (readTree depth) (.text literal) (literal.text?.map .text) := by
  intro text rest htext _
  have hread := toOption_return (literal.stringBody_body rest) Json.text
  rw [Source.text_chars_append] at htext
  cases depth <;> simpa only [readTree, htext] using hread

theorem reads_readTree_numeral (depth : Nat) (numeral : Numeral) :
    Reads (readTree depth) (.number numeral) (numeral.number?.map .number) := by
  intro text rest htext hends
  have hread := toOption_return (numeral.readNumber_append hends) Json.number
  obtain ⟨c, others, hchars, hc⟩ := numeral.exists_cons
  obtain ⟨-, hquote, hlist, hobject, hnull, htrue, hfalse⟩ := Numeral.ne_of_head hc
  rw [Source.chars, hchars] at htext
  rw [hchars] at hread
  cases depth <;> simp only [readTree, htext, List.cons_append] at hread ⊢ <;> split <;> simp_all

theorem reads_readTree (depth : Nat) (source : Source) :
    Reads (readTree depth) source (source.tree? depth) := by
  induction depth generalizing source with
  | zero =>
    cases source with
    | null => exact reads_readTree_null 0
    | boolean value => exact reads_readTree_boolean 0 value
    | number numeral => exact reads_readTree_numeral 0 numeral
    | text literal => exact reads_readTree_literal 0 literal
    | array items close | object members close =>
      intro text rest htext _
      rw [Source.chars] at htext
      simp only [readTree, htext, List.cons_append]
      rfl
  | succ depth ih =>
    cases source with
    | null => exact reads_readTree_null _
    | boolean value => exact reads_readTree_boolean _ value
    | number numeral => exact reads_readTree_numeral _ numeral
    | text literal => exact reads_readTree_literal _ literal
    | array elements close =>
      intro text rest htext _
      rw [Source.array_chars_append] at htext
      have hread := items_listItem ih elements close rest
      have harray := toOption_return hread fun read => Json.array read.reverse
      simp only [Option.map_map, Function.comp_def, List.reverse_reverse] at harray
      simp only [readTree, htext, Source.tree?, Option.map_map, Function.comp_def]
      exact harray
    | object elements close =>
      intro text rest htext _
      rw [Source.object_chars_append] at htext
      have hread := members_memberTree ih elements close rest
      have hobject := toOption_return hread fun read => Json.object read.reverse
      simp only [Option.map_map, Function.comp_def, List.reverse_reverse] at hobject
      simp only [readTree, htext, Source.tree?, Option.map_map, Function.comp_def]
      exact hobject

end ResumeTerminal.Json
