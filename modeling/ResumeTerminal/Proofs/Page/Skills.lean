import ResumeTerminal.Proofs.Profile.Members
import ResumeTerminal.Proofs.Session.Page

/-! From the text of a profile to the page of the skills. The text may name a category more than
once. The page has it in the place where it comes up first, with the skills it is given last. -/
namespace ResumeTerminal

/-- The texts of a list that holds nothing else. -/
def Json.Source.texts? : Json.Source → Option (List String)
  | .array items _ => items.mapM fun item => item.value.text?
  | _ => none

namespace Profile
open Json

theorem ofSource_texts (depth : Nat) : texts.ofSource (depth + 1) = Source.texts? := by
  funext source
  cases source with
  | array items close =>
    rw [texts, Shape.ofSource, Source.texts?]
    simp only [Shape.ofSource]
  | null | boolean value | number numeral | text literal | object members close => rfl

/-- A list that is read before the brackets run out is a list of texts. -/
theorem texts_pair?_of_ofSource {depth : Nat} {member : Member Source}
    {pair : String × List String} (h : member.pair? (texts.ofSource depth) = some pair) :
    member.pair? Source.texts? = some pair := by
  cases depth with
  | zero =>
    obtain ⟨key, -, hvalue⟩ := Option.bind_eq_some_iff.mp h
    cases hvalue
  | succ depth => rwa [ofSource_texts] at h

/-- The reader leaves every category once. -/
theorem skills_of_text {document : Document} {profile : Profile}
    (htext : ofText document.text = .ok profile) {members : List (Member Source)} {close : Blanks}
    (hskills : document.value.field? shape "skills" = some (.object members close)) :
    ∃ pairs, members.mapM (Member.pair? Source.texts?) = some pairs ∧
      profile.skills = some (OrderedMap.ofList pairs) := by
  obtain ⟨table, inner, hprofile, hmap⟩ :=
    exists_skills ((ofText_eq_ok_iff document profile).mp htext) hskills
  cases inner with
  | zero => cases hmap
  | succ depth =>
    obtain ⟨pairs, hpairs, rfl⟩ := Option.map_eq_some_iff.mp hmap
    have htexts : members.mapM (Member.pair? Source.texts?) = pairs.mapM some :=
      mapM_eq_of_mapM (fun _ _ hpair => texts_pair?_of_ofSource hpair) hpairs
    refine ⟨pairs, htexts.trans ?_, hprofile⟩
    exact List.mapM_pure.trans (congrArg some pairs.map_id)

theorem all_isPlainChar_skills : "skills".toList.all isPlainChar = true := rfl

/-- A text with nothing in it but skills. -/
def skillsDocument (members : List (Member Source)) (close : Blanks) : Document :=
  sectionsDocument [compactMember "skills" all_isPlainChar_skills (.object members close)]

/-- Skills that are lists of texts under texts are read, however often a category comes up. -/
theorem ofText_skillsDocument {members : List (Member Source)} {close : Blanks}
    {pairs : List (String × List String)}
    (h : members.mapM (Member.pair? Source.texts?) = some pairs) :
    ofText (skillsDocument members close).text =
      .ok { skills := some (OrderedMap.ofList pairs) } := by
  have hmap : (Shape.map texts).ofSource 126 (.object members close) =
      some (OrderedMap.ofList pairs) := by
    rw [Shape.ofSource, ofSource_texts, h, Option.map_some]
  have hkey := Literal.text?_quoting "skills" all_isPlainChar_skills
  rw [ofText_eq_ok_iff, skillsDocument, sectionsDocument, shape, nestingLimit, Shape.ofSource,
    foldMembers]
  simp [compactMember, hkey, recordStep, isRepeated, Fields.optional, Fields.setFromSource,
    Source.orNull, hmap, Fields.absent]

end Profile

namespace Page

/-- A category over its skills. -/
def skillBlock (entry : String × List String) : List String :=
  (entry.1 ++ ":") :: entry.2.map ("  • " ++ ·)

theorem flatMap_skillRows (table : List (String × List String)) :
    table.flatMap skillRows = (table.map skillBlock).flatMap (· ++ [""]) := by
  rw [List.flatMap_map]
  rfl

end Page

namespace Session
open Json Profile

/-- Each category of the text has one block, in the order in which they come up, with the skills of
its last member. Between the blocks there is a blank row, and nothing is left away. -/
theorem skills_show_last_members {document : Document} {profile : Profile}
    (htext : ofText document.text = .ok profile) {members : List (Member Source)} {close : Blanks}
    (hskills : document.value.field? shape "skills" = some (.object members close)) :
    ∃ pairs, members.mapM (Member.pair? Source.texts?) = some pairs ∧
      ∃ table : List (String × List String), table.map (·.1) = (pairs.map (·.1)).eraseDups ∧
      (∀ entry ∈ table, pairs.reverse.lookup entry.1 = some entry.2) ∧
      ∀ (config : Config) (initial : Option Profile) (now : Timestamp)
        (operations : List Operation),
        ((start config initial now).after operations).profile = some profile →
          ∃ text, ((start config initial now).after operations).Tells "skills" text ∧
            Page.Shows text
              (["TECHNICAL SKILLS", String.ofList (List.replicate config.ruleWidth '='), ""] ++
                [""].intercalate (table.map Page.skillBlock)) := by
  obtain ⟨pairs, hpairs, htable⟩ := skills_of_text htext hskills
  refine ⟨pairs, hpairs, OrderedMap.merged pairs, OrderedMap.keys_merged pairs,
    fun _ => OrderedMap.lookup_of_mem_merged, ?_⟩
  intro config initial now operations hprofile
  have hshown := showsBlocks_skills hprofile htable
  refine ⟨_, hshown.tells, Page.shows_iff.mpr ?_⟩
  rw [OrderedMap.entries_ofList, Page.flatMap_skillRows, Page.layout_flatMap_append_blank]
  rfl

/-! The tools come up twice, and the second time they are others. -/

def compactTexts (texts : List Literal) : Source :=
  .array (texts.map fun text => ⟨⟨.none, .none⟩, .text text⟩) .none

def repeatedSkills : List (Member Source) :=
  [compactMember "Tools" rfl (compactTexts [.quoting "git" rfl]),
   compactMember "Languages" rfl (compactTexts [.quoting "Go" rfl, .quoting "Rust" rfl]),
   compactMember "Tools" rfl (compactTexts [.quoting "make" rfl])]

theorem skills_show_repeated_category :
    ∃ profile, ofText (skillsDocument repeatedSkills .none).text = .ok profile ∧
      (skillsDocument repeatedSkills .none).value.field? shape "skills" =
        some (.object repeatedSkills .none) ∧
      (start { ruleWidth := 3 } (some profile) ⟨0, 0, 0⟩).Tells "skills"
        "TECHNICAL SKILLS\n===\n\nTools:\n  • make\n\nLanguages:\n  • Go\n  • Rust" := by
  have hread : repeatedSkills.mapM (Member.pair? Source.texts?) =
      some [("Tools", ["git"]), ("Languages", ["Go", "Rust"]), ("Tools", ["make"])] := rfl
  have htext : ofText (skillsDocument repeatedSkills .none).text = .ok _ :=
    ofText_skillsDocument hread
  refine ⟨_, htext, rfl, ?_⟩
  obtain ⟨pairs, hpairs, table, hkeys, hlast, hshown⟩ :=
    skills_show_last_members htext (rfl : _ = some (Source.object repeatedSkills .none))
  obtain rfl := Option.some.inj (hread.symm.trans hpairs)
  have htable : table = [("Tools", ["make"]), ("Languages", ["Go", "Rust"])] := by
    obtain ⟨⟨tools, make⟩, rest, rfl, rfl, hrest⟩ := List.map_eq_cons_iff.mp hkeys
    obtain ⟨⟨languages, rust⟩, none, rfl, rfl, hnone⟩ := List.map_eq_cons_iff.mp hrest
    obtain rfl := List.map_eq_nil_iff.mp hnone
    cases hlast _ List.mem_cons_self
    cases hlast _ (List.mem_cons_of_mem _ List.mem_cons_self)
    rfl
  obtain ⟨text, htells, hrows⟩ := hshown { ruleWidth := 3 } _ ⟨0, 0, 0⟩ [] rfl
  rw [Page.shows_iff.mp hrows, htable] at htells
  exact htells

end Session
end ResumeTerminal
