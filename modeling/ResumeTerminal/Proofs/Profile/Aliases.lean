import ResumeTerminal.Profile.Reading
import ResumeTerminal.Proofs.Alias
import ResumeTerminal.Proofs.Json.Shape.Field
import ResumeTerminal.Proofs.Json.Shape.Reading
import ResumeTerminal.Proofs.OrderedMap
import ResumeTerminal.Session

/-! From the text of a profile to its aliases. Two rules meet here. Members with the very
same key are one alias, in the place of the first of them and with the expansion of the
last. Of the aliases that are left, and whose names differ only in case or in the blanks
around them, the last one counts. -/
namespace ResumeTerminal

namespace Json

theorem Document.toOption_ofText (document : Document) :
    (Profile.ofText document.text).toOption =
      Profile.shape.ofSource nestingLimit document.value := by
  rw [← Profile.shape.toOption_ofText, Profile.ofText]
  cases Profile.shape.ofText document.text <;> rfl

end Json

namespace Profile
open Json

theorem ofText_eq_ok_iff (document : Document) (profile : Profile) :
    ofText document.text = .ok profile ↔
      shape.ofSource nestingLimit document.value = some profile := by
  rw [← document.toOption_ofText, toOption_eq_some_iff]

theorem slot_terminal {depth : Nat} {source : Source} {profile : Profile}
    (h : shape.ofSource depth source = some profile) :
    ∃ inner, depth = inner + 1 ∧ slot? none some (terminalShape.ofSource inner)
      (source.field? shape "terminal") = some profile.terminal := by
  obtain ⟨inner, slots, hdepth, rfl, hslots⟩ := Shape.exists_slots h
  have hat := hslots (.there (by decide) (.there (by decide) (.there (by decide)
    (.there (by decide) .here))))
  exact ⟨inner, hdepth, hat⟩

theorem slot_aliases {depth : Nat} {source : Source} {settings : TerminalSettings}
    (h : terminalShape.ofSource depth source = some settings) :
    ∃ inner, depth = inner + 1 ∧ slot? {} id ((Shape.map .text).ofSource inner)
      (source.field? terminalShape "aliases") = some settings.aliases := by
  obtain ⟨inner, slots, hdepth, rfl, hslots⟩ := Shape.exists_slots h
  have hat := hslots (.there (by decide) (.there (by decide) .here))
  exact ⟨inner, hdepth, hat⟩

/-- The aliases of a profile are read from the object that stands for them. -/
theorem exists_aliases {depth : Nat} {source : Source} {profile : Profile}
    (h : shape.ofSource depth source = some profile) {members : List (Member Source)}
    {close : Blanks}
    (haliases : ((source.field? shape "terminal").bind
      (·.field? terminalShape "aliases")) = some (.object members close)) :
    ∃ settings inner, profile.terminal = some settings ∧
      (Shape.map .text).ofSource inner (.object members close) = some settings.aliases := by
  obtain ⟨terminal, hfield, hinner⟩ := Option.bind_eq_some_iff.mp haliases
  obtain ⟨outer, -, hterminal⟩ := slot_terminal h
  have hnull : terminal ≠ .null := by
    rintro rfl
    cases hinner
  rw [hfield] at hterminal
  obtain ⟨settings, hsettings, hsome⟩ := exists_of_slot? hnull hterminal
  obtain ⟨inner, -, hslot⟩ := slot_aliases hsettings
  rw [hinner] at hslot
  obtain ⟨map, hmap, rfl⟩ := exists_of_slot? (by rintro ⟨⟩) hslot
  exact ⟨settings, inner, hsome.symm, hmap⟩

theorem aliases_of_text {document : Document} {profile : Profile}
    (htext : ofText document.text = .ok profile) {members : List (Member Source)}
    {close : Blanks}
    (haliases : ((document.value.field? shape "terminal").bind
      (·.field? terminalShape "aliases")) = some (.object members close)) :
    ∃ pairs, members.mapM (Member.pair? Source.text?) = some pairs ∧
      profile.aliases = OrderedMap.merged pairs := by
  have hprofile := (ofText_eq_ok_iff document profile).mp htext
  obtain ⟨settings, inner, hsettings, hmap⟩ := exists_aliases hprofile haliases
  cases inner with
  | zero => cases hmap
  | succ depth =>
    have hmeaning : Shape.text.ofSource depth = Source.text? := by
      funext source
      rw [Shape.ofSource]
    rw [Shape.ofSource, hmeaning] at hmap
    obtain ⟨pairs, hpairs, hread⟩ := Option.map_eq_some_iff.mp hmap
    refine ⟨pairs, hpairs, ?_⟩
    rw [Profile.aliases, hsettings, Option.map_some, Option.getD_some, ← hread,
      OrderedMap.entries_ofList]

/-- What a typed name stands for, from the text of the profile alone. -/
theorem resolve_merged_aliases {document : Document} {profile : Profile}
    (htext : ofText document.text = .ok profile) {members : List (Member Source)}
    {close : Blanks}
    (haliases : ((document.value.field? shape "terminal").bind
      (·.field? terminalShape "aliases")) = some (.object members close)) :
    ∃ pairs, members.mapM (Member.pair? Source.text?) = some pairs ∧
      ∀ (config : Config) (name : String) (args : List String),
        let resolved := (Setup.of (some profile) config).aliases.resolve name args
        let definition := AliasTable.lastDefinition? (OrderedMap.merged pairs) name
        (∀ expansion, definition = some expansion →
          ∃ command first, Text.words expansion = command :: first ∧
            resolved = (command, first ++ args)) ∧
        (definition = none → resolved = (name, args)) := by
  obtain ⟨pairs, hpairs, hprofile⟩ := aliases_of_text htext haliases
  refine ⟨pairs, hpairs, fun config name args => ?_⟩
  have htable : (Setup.of (some profile) config).aliases =
      AliasTable.ofPairs (OrderedMap.merged pairs) := by
    rw [← hprofile]
    rfl
  have hexpansion := AliasTable.expansion?_ofPairs (OrderedMap.merged pairs) name
  rw [htable]
  constructor
  · intro expansion hdefinition
    rw [hdefinition, Option.map_some] at hexpansion
    cases hwords : Text.words expansion with
    | nil =>
      have hvisible := AliasTable.isBlank_of_lastDefinition? hdefinition
      rw [Text.words_eq_nil_iff, hvisible] at hwords
      cases hwords
    | cons command first =>
      refine ⟨command, first, rfl, ?_⟩
      exact AliasTable.resolve_of_expansion hexpansion ((Text.words_trim _).trans hwords) args
  · intro hdefinition
    rw [hdefinition, Option.map_none] at hexpansion
    exact AliasTable.resolve_of_expansion?_eq_none hexpansion args

/-! Two of these keys are the same, and the third is another spelling of it. -/

/-- A member without blanks. -/
def compactMember (key : String) (h : key.toList.all isPlainChar = true) (value : Source) :
    Member Source where
  gap := ⟨.none, .none⟩
  key := .quoting key h
  colon := .none
  space := .none
  value

def repeatedMembers : List (Member Source) :=
  [compactMember "sk" rfl (.text (.quoting "one" rfl)),
   compactMember "SK" rfl (.text (.quoting "two" rfl)),
   compactMember "sk" rfl (.text (.quoting "three" rfl))]

def repeatedDocument : Document where
  lead := .none
  value := .object [compactMember "terminal" rfl (.object [compactMember "aliases" rfl
    (.object repeatedMembers .none)] .none)] .none
  trail := .none

theorem field_repeatedDocument :
    ((repeatedDocument.value.field? shape "terminal").bind (·.field? terminalShape "aliases")) =
      some (.object repeatedMembers .none) := rfl

theorem exists_ofText_repeatedDocument :
    ∃ profile, ofText repeatedDocument.text = .ok profile ∧
      profile.aliases = [("sk", "three"), ("SK", "two")] := by
  have haliases : (shape.ofSource nestingLimit repeatedDocument.value).map aliases =
      some [("sk", "three"), ("SK", "two")] := by decide +kernel
  obtain ⟨profile, hread, hprofile⟩ := Option.map_eq_some_iff.mp haliases
  exact ⟨profile, (ofText_eq_ok_iff repeatedDocument profile).mpr hread, hprofile⟩

theorem resolve_repeated_alias :
    ∃ profile, ofText repeatedDocument.text = .ok profile ∧
      (Setup.of (some profile) {}).aliases.resolve "sk" ["-v"] = ("two", ["-v"]) := by
  obtain ⟨profile, htext, -⟩ := exists_ofText_repeatedDocument
  obtain ⟨pairs, hpairs, hresolve⟩ := resolve_merged_aliases htext field_repeatedDocument
  have hknown : some [("sk", "one"), ("SK", "two"), ("sk", "three")] = some pairs := hpairs
  cases hknown
  obtain ⟨command, first, hwords, hresolved⟩ := (hresolve {} "sk" ["-v"]).1 "two" (by decide)
  have htwo : Text.words "two" = ["two"] := by decide
  rw [htwo] at hwords
  cases hwords
  exact ⟨profile, htext, hresolved⟩

/-- The last definition of the name in the text is not the one that counts, because it
stands in the place of the first. -/
theorem last_repeated_alias_is_hidden :
    repeatedDocument.text = "\x7b\"terminal\":\x7b\"aliases\":\x7b\"sk\":\"one\",\"SK\":\"two\"," ++
        "\"sk\":\"three\"\x7d\x7d\x7d" ∧
      repeatedMembers.mapM (Member.pair? Source.text?) =
        some [("sk", "one"), ("SK", "two"), ("sk", "three")] ∧
      AliasTable.lastDefinition? [("sk", "one"), ("SK", "two"), ("sk", "three")] "sk" =
        some "three" ∧
      ∃ profile, ofText repeatedDocument.text = .ok profile ∧
        (Setup.of (some profile) {}).aliases.resolve "sk" [] = ("two", []) := by
  refine ⟨by decide, rfl, by decide, ?_⟩
  obtain ⟨profile, htext, hprofile⟩ := exists_ofText_repeatedDocument
  have htable : (Setup.of (some profile) {}).aliases = AliasTable.ofPairs profile.aliases := rfl
  refine ⟨profile, htext, ?_⟩
  rw [htable, hprofile]
  decide

end Profile
end ResumeTerminal
