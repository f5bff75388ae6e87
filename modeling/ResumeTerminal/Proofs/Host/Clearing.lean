import ResumeTerminal.Proofs.Host.Editing
import ResumeTerminal.Proofs.Session.Overview

/-! The key that clears the screen. It submits the word `clear`, as if it had been typed, so it
clears where that word leads to the command of that name. An alias of the same name can lead
elsewhere, and then the key clears nothing. -/
namespace ResumeTerminal

/-- Whether the profile's aliases leave the word `clear` to the command: none of them has that
name, or the one that counts stands for the command again. -/
def Profile.LeavesClear (profile : Profile) : Prop :=
  ∀ expansion, AliasTable.lastDefinition? profile.aliases "clear" = some expansion →
    (Text.words expansion).head?.map Text.lower = some "clear"

theorem Profile.leavesClear_iff (profile : Profile) (args : List String) :
    profile.LeavesClear ↔
      Text.lower ((AliasTable.ofPairs profile.aliases).resolve "clear" args).1 = "clear" := by
  have hshown := AliasTable.expansion?_ofPairs profile.aliases "clear"
  unfold LeavesClear
  cases hlast : AliasTable.lastDefinition? profile.aliases "clear" with
  | none =>
    rw [hlast, Option.map_none] at hshown
    have hclear : Text.lower "clear" = "clear" := by decide
    rw [AliasTable.resolve_of_expansion?_eq_none hshown]
    exact iff_of_true nofun hclear
  | some expansion =>
    rw [hlast, Option.map_some] at hshown
    cases hwords : Text.words expansion with
    | nil =>
      have hvisible := AliasTable.isBlank_of_lastDefinition? hlast
      rw [Text.words_eq_nil_iff, hvisible] at hwords
      cases hwords
    | cons command first =>
      rw [AliasTable.resolve_of_expansion hshown ((Text.words_trim _).trans hwords)]
      simp [hwords]

namespace Session

theorem clear_not_mem_printed (text : String) : Call.clear ∉ printed text := by
  simp [printed]

theorem clear_mem_shown_iff (output : Output) : Call.clear ∈ shown output ↔ output = .clear := by
  cases output <;> simp [shown, clear_not_mem_printed]

variable {session : Session}

theorem WellFormed.clear_mem_dispatch_iff (h : session.WellFormed) (name : String)
    (args : List String) :
    Call.clear ∈ session.dispatch name args ↔ Text.lower name = "clear" := by
  unfold dispatch
  cases hlookup : session.setup.registry.lookup name with
  | none =>
    refine iff_of_false (by simp) ?_
    intro hname
    obtain ⟨clear, hclear, hclearName, -⟩ :=
      Command.exists_mem_all_clear session.profile session.config
    rw [h.lookup_eq_some_iff.mpr ⟨hclear, hclearName.trans hname.symm⟩] at hlookup
    cases hlookup
  | some command =>
    obtain ⟨hmem, hname⟩ := h.lookup_eq_some_iff.mp hlookup
    rw [← hname, ← Environment.run_eq_clear_iff hmem session.environment args]
    dsimp only [answer]
    cases session.environment.run command.action args with
    | ok output => rw [clear_mem_shown_iff, Except.ok.injEq]
    | error failure => exact iff_of_false (clear_not_mem_printed _) nofun

theorem WellFormed.dispatch_eq_clear (h : session.WellFormed) {name : String}
    (hname : Text.lower name = "clear") (args : List String) :
    session.dispatch name args = [.clear] := by
  obtain ⟨clear, hclear, hclearName, haction⟩ :=
    Command.exists_mem_all_clear session.profile session.config
  have hlookup := h.lookup_eq_some_iff.mpr ⟨hclear, hclearName.trans hname.symm⟩
  rw [dispatch, hlookup]
  dsimp only
  rw [answer, haction]
  rfl

theorem submit_clear (session : Session) {name : String} {args : List String}
    (h : session.setup.aliases.resolve "clear" [] = (name, args)) :
    (session.submit "clear").2 =
      .line (session.prompt ++ " clear") :: session.dispatch name args ++ [.setInput ""] := by
  have hwords : Text.words "clear" = ["clear"] := by decide
  have htrim : Text.trim "clear" = "clear" := by decide
  rw [submit_dispatches hwords h, htrim, String.append_assoc]
  rfl

/-- Whether the word clears is up to the aliases. -/
theorem WellFormed.submit_clear_cases (h : session.WellFormed) :
    if Text.lower (session.setup.aliases.resolve "clear" []).1 = "clear" then
      (session.submit "clear").2 =
        [.line (session.prompt ++ " clear"), .clear, .setInput ""]
    else Call.clear ∉ (session.submit "clear").2 := by
  rcases hresolve : session.setup.aliases.resolve "clear" [] with ⟨name, args⟩
  rw [submit_clear session hresolve]
  dsimp only
  split
  · next hname =>
    rw [h.dispatch_eq_clear hname]
    rfl
  · next hname => simpa using mt (h.clear_mem_dispatch_iff name args).mp hname

end Session

namespace Host

/-- The calls that reach the console when a key is pressed. -/
def received (host : Host) (key : Key) : List Call :=
  match (key.press host.console.input).1 with
  | .event event => (host.session.handle event).2
  | _ => []

theorem press_writes_received (host : Host) (key : Key) :
    (host.press key).2.2 =
      (Console.performAll { host.console with input := (key.press host.console.input).2 }
        (host.received key)).2 := by
  unfold press received
  rcases key.press host.console.input with ⟨action, input⟩
  cases action <;> rfl

theorem session_run {host : Host} (h : host.session.WellFormed)
    (presses : List (Timestamp × Key)) :
    (host.run presses).1.session.WellFormed ∧
      (host.run presses).1.session.setup = host.session.setup := by
  induction presses generalizing host with
  | nil => exact ⟨h, rfl⟩
  | cons moment rest ih =>
    obtain ⟨now, key⟩ := moment
    obtain ⟨hwell, hsetup⟩ := session_turnAt h now key
    unfold run
    dsimp only
    split
    · exact ⟨hwell, hsetup⟩
    · rw [← hsetup]
      exact ih hwell

theorem clear_key_clears_iff (config : Config) (profile : Profile) (now : Timestamp)
    (presses : List (Timestamp × Key)) (moment : Timestamp) (shift alt : Bool) :
    let host := ((start config profile now).1.run presses).1.waiting moment
    let key : Key := { code := .char 'l', ctrl := true, shift, alt }
    let calls := host.received key
    (host.press key).2.2 = (host.console.performAll calls).2 ∧
    (calls.count .clear = 1 ↔ profile.LeavesClear) ∧
    (profile.LeavesClear →
      calls = [.line (host.session.prompt ++ " clear"), .clear, .setInput ""]) ∧
    (¬ profile.LeavesClear → Call.clear ∉ calls) := by
  intro host key calls
  obtain ⟨hrun, hsetup⟩ := session_run (wellFormed_start config profile now) presses
  have hwell : host.session.WellFormed := hrun.tick moment
  have haliases : host.session.setup.aliases = AliasTable.ofPairs profile.aliases :=
    congrArg Setup.aliases hsetup
  have hcases := hwell.submit_clear_cases
  rw [haliases] at hcases
  have hclears : profile.LeavesClear →
      calls = [.line (host.session.prompt ++ " clear"), .clear, .setInput ""] := by
    intro hleaves
    rwa [if_pos ((profile.leavesClear_iff []).mp hleaves)] at hcases
  have hfails : ¬ profile.LeavesClear → Call.clear ∉ calls := by
    intro hcovered
    rwa [if_neg (mt (profile.leavesClear_iff []).mpr hcovered)] at hcases
  refine ⟨press_writes_received host key, ⟨?_, ?_⟩, hclears, hfails⟩
  · intro hcount
    by_contra hcovered
    rw [List.count_eq_zero.mpr (hfails hcovered)] at hcount
    cases hcount
  · intro hleaves
    rw [hclears hleaves]
    rfl

/-- An alias with the name of the command takes the key over. -/
theorem clear_key_shows_user :
    let profile : Profile := { terminal := some { aliases := .ofList [("clear", "whoami")] } }
    let host := (start {} profile ⟨0, 0, 0⟩).1
    let calls := host.received { code := .char 'l', ctrl := true }
    ¬ profile.LeavesClear ∧ calls.count .clear = 0 ∧
      calls = [.line "hacker@cyberdesk $ clear", .line "hacker@cyberdesk", .setInput ""] := by
  intro profile host calls
  have hcalls :
      calls = [.line "hacker@cyberdesk $ clear", .line "hacker@cyberdesk", .setInput ""] := by
    decide
  refine ⟨?_, by rw [hcalls]; rfl, hcalls⟩
  intro hleaves
  exact absurd (hleaves "whoami" (by decide)) (by decide)

end Host
end ResumeTerminal
