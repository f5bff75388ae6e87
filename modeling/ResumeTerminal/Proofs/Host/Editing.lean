import ResumeTerminal.Host
import ResumeTerminal.Proofs.Session.Run

/-! The host as a line editor. Console, history and commands are kept by three parts that
only talk through calls; together they do what an editor does that has the input, the
entered lines and the cursor in one place. -/
namespace ResumeTerminal

structure Editor where
  input : String := ""
  entries : List String := []
  cursor : Nat := 0
  deriving DecidableEq

namespace Editor

def enter (editor : Editor) (line : String) : Editor :=
  if Text.isBlank line then { editor with input := "" }
  else
    let entries := editor.entries ++ [Text.trim line]
    ⟨"", entries, entries.length⟩

/-- Steps stay between the first entry and the fresh line behind the last one. -/
def move (editor : Editor) (step : Int) : Editor :=
  if editor.entries = [] then editor
  else
    let cursor := (max 0 (min (editor.cursor + step) editor.entries.length)).toNat
    { editor with input := editor.entries[cursor]?.getD "", cursor }

/-- An input that is the beginning of exactly one name becomes that name. -/
def completed (names : List String) (input : String) : String :=
  if input = "" then input
  else
    match names.filter fun name => (Text.lower input).toList.isPrefixOf name.toList with
    | [name] => name
    | _ => input

/-- The editor after a key, and whether the key ends the run. -/
def press (names : List String) (editor : Editor) (key : Key) : Editor × Bool :=
  match key.code with
  | .escape => (editor, true)
  | .char c =>
    if key.ctrl = false then ({ editor with input := editor.input.push c }, false)
    else if c = 'c' ∨ c = 'd' then (editor, true)
    else if c = 'u' then ({ editor with input := "" }, false)
    else if c = 'l' then (editor.enter "clear", false)
    else (editor, false)
  | .backspace =>
    ({ editor with input := String.ofList editor.input.toList.dropLast }, false)
  | .enter => (editor.enter editor.input, false)
  | .tab => ({ editor with input := completed names editor.input }, false)
  | .up => (editor.move (-1), false)
  | .down => (editor.move 1, false)
  | _ => (editor, false)

/-- The editor after the keys, of which none is read after one that ends the run. -/
def run (names : List String) (editor : Editor) : List Key → Editor × Bool
  | [] => (editor, false)
  | key :: rest =>
    let next := editor.press names key
    if next.2 then next else next.1.run names rest

end Editor

namespace Host

/-- Turns for keys at their times, of which none is read after one that quits. -/
def run (host : Host) : List (Timestamp × Key) → Host × Bool
  | [] => (host, false)
  | (now, key) :: rest =>
    let next := host.turnAt now key
    if next.2.1 = .quit then (next.1, true) else next.1.run rest

/-- The editor that a host amounts to. -/
def editor (host : Host) : Editor :=
  ⟨host.console.input, host.session.history.entries, host.session.history.cursor⟩

end Host

/-! Events, as the editor sees them. -/

theorem Editor.move_eq_next {history : History} (h : history.entries ≠ [])
    (hcursor : history.cursor ≤ history.size) (input : String) (direction : Direction) :
    (⟨input, history.entries, history.cursor⟩ : Editor).move direction.step =
      ⟨history.lineAt (history.next direction), history.entries, history.next direction⟩ := by
  have hclamp : (max 0 (min ((history.cursor : Int) + direction.step)
      history.entries.length)).toNat = history.next direction := by
    unfold History.size at hcursor
    cases direction with
    | older =>
      simp only [Direction.step, History.next]
      omega
    | newer =>
      simp only [Direction.step, History.next, History.size]
      omega
  rw [move, if_neg h]
  simp only [hclamp, History.lineAt]

namespace Host

/-- The host once an event is handled and its calls are carried out. -/
def handled (host : Host) (event : Event) : Host :=
  ⟨(host.session.handle event).1, (host.console.performAll (host.session.handle event).2).1⟩

theorem editor_handled (host : Host) (event : Event) :
    (host.handled event).editor =
      ⟨Console.inputAfter host.console.input (host.session.handle event).2,
        (host.session.handle event).1.history.entries,
        (host.session.handle event).1.history.cursor⟩ := by
  rw [editor, handled, Console.input_performAll]

theorem editor_submit (host : Host) (line : String) :
    (host.handled (.submit line)).editor = host.editor.enter line := by
  rw [editor_handled, Session.handle, Editor.enter]
  cases hline : Text.isBlank line with
  | true =>
    rw [Session.submit_of_isBlank _ hline]
    rfl
  | false =>
    rw [Session.submit_of_visible _ hline, Console.inputAfter_append_setInput]
    simp [editor, History.size]

theorem editor_navigate {host : Host} (h : host.session.WellFormed) (direction : Direction) :
    (host.handled (.navigate direction)).editor = host.editor.move direction.step := by
  rw [editor_handled, Session.handle, Session.navigate]
  by_cases hentries : host.session.history.entries = []
  · have hmove : host.editor.move direction.step = host.editor := if_pos hentries
    rw [History.navigate_of_eq_nil hentries, hmove]
    rfl
  · rw [History.navigate_of_ne_nil hentries h.cursor_le]
    exact (Editor.move_eq_next hentries h.cursor_le host.console.input direction).symm

theorem inputAfter_complete (session : Session) (input : String) :
    Console.inputAfter input (session.complete input) =
      Editor.completed session.setup.registry.names input := by
  unfold Session.complete Registry.complete Editor.completed
  by_cases hinput : input = ""
  · subst hinput
    rfl
  · have hempty : input.isEmpty = false := by simpa using hinput
    simp only [hempty, hinput, Bool.false_eq_true, if_false]
    cases session.setup.registry.names.filter fun name =>
      (Text.lower input).toList.isPrefixOf name.toList with
    | nil => rfl
    | cons name others => cases others <;> rfl

theorem editor_complete (host : Host) :
    (host.handled (.complete host.console.input)).editor =
      { host.editor with
        input := Editor.completed host.session.setup.registry.names host.console.input } := by
  rw [editor_handled, Session.handle, inputAfter_complete]
  rfl

/-! Keys. -/

theorem press_of_event {host : Host} {key : Key} {event : Event}
    (h : key.press host.console.input = (.event event, host.console.input)) :
    (host.press key).1 = host.handled event ∧ (host.press key).2.1 = .event event := by
  unfold press
  rw [h]
  exact ⟨rfl, rfl⟩

theorem press_of_not_event {host : Host} {key : Key} {action : KeyAction} {input : String}
    (h : key.press host.console.input = (action, input)) (hevent : ∀ event, action ≠ .event event) :
    (host.press key).1 = { host with console := { host.console with input } } ∧
      (host.press key).2.1 = action := by
  unfold press
  rw [h]
  cases action with
  | event event => exact absurd rfl (hevent event)
  | edited | ignored | quit => exact ⟨rfl, rfl⟩

/-- A key that reports an event has the host handle it. -/
theorem editor_press_of_event {host : Host} {key : Key} {event : Event} {editor : Editor}
    (h : key.press host.console.input = (.event event, host.console.input))
    (heditor : (host.handled event).editor = editor) :
    ((host.press key).1.editor, decide ((host.press key).2.1 = .quit)) = (editor, false) := by
  obtain ⟨hhost, haction⟩ := press_of_event h
  rw [hhost, haction, heditor]
  rfl

theorem editor_press_of_not_event {host : Host} {key : Key} {action : KeyAction}
    {input : String} (h : key.press host.console.input = (action, input))
    (hevent : ∀ event, action ≠ .event event) :
    ((host.press key).1.editor, decide ((host.press key).2.1 = .quit)) =
      ({ host.editor with input }, decide (action = .quit)) := by
  obtain ⟨hhost, haction⟩ := press_of_not_event h hevent
  rw [hhost, haction]
  rfl

theorem editor_press {host : Host} (h : host.session.WellFormed) (key : Key) :
    ((host.press key).1.editor, decide ((host.press key).2.1 = .quit)) =
      host.editor.press host.session.setup.registry.names key := by
  obtain ⟨code, ctrl, shift, alt⟩ := key
  cases code with
  | enter => exact editor_press_of_event rfl (editor_submit host _)
  | tab => exact editor_press_of_event rfl (editor_complete host)
  | up => exact editor_press_of_event rfl (editor_navigate h .older)
  | down => exact editor_press_of_event rfl (editor_navigate h .newer)
  | char c =>
    cases ctrl with
    | false => exact editor_press_of_not_event rfl fun _ => KeyAction.noConfusion
    | true =>
      -- Of the letters with control, `l` alone reaches the session.
      by_cases hquit : c = 'c' ∨ c = 'd'
      · have hkey : Key.press ⟨.char c, true, shift, alt⟩ host.console.input =
            (.quit, host.console.input) := by
          simp [Key.press, hquit]
        rw [editor_press_of_not_event hkey fun _ => KeyAction.noConfusion]
        simp [Editor.press, hquit, editor]
      by_cases hkill : c = 'u'
      · subst hkill
        exact editor_press_of_not_event rfl fun _ => KeyAction.noConfusion
      by_cases hclear : c = 'l'
      · subst hclear
        exact editor_press_of_event rfl (editor_submit host "clear")
      have hkey : Key.press ⟨.char c, true, shift, alt⟩ host.console.input =
          (.ignored, host.console.input) := by
        simp [Key.press, hquit, hkill, hclear]
      rw [editor_press_of_not_event hkey fun _ => KeyAction.noConfusion]
      simp [Editor.press, hquit, hkill, hclear, editor]
  | _ => exact editor_press_of_not_event rfl fun _ => KeyAction.noConfusion

theorem session_press (host : Host) (key : Key) :
    (host.press key).1.session = host.session ∨
      ∃ event, (host.press key).1.session = (host.session.handle event).1 := by
  unfold press
  rcases key.press host.console.input with ⟨action, input⟩
  cases action with
  | event event => exact .inr ⟨event, rfl⟩
  | edited | ignored | quit => exact .inl rfl

/-! Runs. -/

/-- The host as it waits at a given time, with its last row drawn. -/
def waiting (host : Host) (now : Timestamp) : Host :=
  (await { host with session := { host.session with now } }).1

theorem turnAt_eq_press (host : Host) (now : Timestamp) (key : Key) :
    (host.turnAt now key).1 = ((host.waiting now).press key).1 ∧
      (host.turnAt now key).2.1 = ((host.waiting now).press key).2.1 :=
  ⟨rfl, rfl⟩

theorem editor_turnAt {host : Host} (h : host.session.WellFormed) (now : Timestamp) (key : Key) :
    ((host.turnAt now key).1.editor, decide ((host.turnAt now key).2.1 = .quit)) =
      host.editor.press host.session.setup.registry.names key := by
  obtain ⟨hhost, haction⟩ := turnAt_eq_press host now key
  rw [hhost, haction]
  exact editor_press (h.tick now) key

theorem session_turnAt {host : Host} (h : host.session.WellFormed) (now : Timestamp) (key : Key) :
    (host.turnAt now key).1.session.WellFormed ∧
      (host.turnAt now key).1.session.setup = host.session.setup := by
  rw [(turnAt_eq_press host now key).1]
  rcases session_press (host.waiting now) key with hsession | ⟨event, hsession⟩
  · rw [hsession]
    exact ⟨h.tick now, rfl⟩
  · rw [hsession]
    refine ⟨(h.tick now).handle event, ?_⟩
    rw [Session.handle_eq]
    rfl

theorem editor_run {host : Host} (h : host.session.WellFormed)
    (presses : List (Timestamp × Key)) :
    ((host.run presses).1.editor, (host.run presses).2) =
      host.editor.run host.session.setup.registry.names (presses.map Prod.snd) := by
  induction presses generalizing host with
  | nil => rfl
  | cons moment rest ih =>
    obtain ⟨now, key⟩ := moment
    obtain ⟨hwell, hsetup⟩ := session_turnAt h now key
    rw [List.map_cons, Editor.run, ← editor_turnAt h now key, run]
    by_cases hquit : (host.turnAt now key).2.1 = .quit
    · simp [hquit]
    · simp only [hquit, decide_false, Bool.false_eq_true, if_false]
      rw [ih hwell, hsetup]

theorem wellFormed_start (config : Config) (profile : Profile) (now : Timestamp) :
    (start config profile now).1.session.WellFormed :=
  (Session.wellFormed_start config none now).load profile

theorem setup_start (config : Config) (profile : Profile) (now : Timestamp) :
    (start config profile now).1.session.setup = .of (some profile) config := rfl

/-- Suggestions are shown above the input line and leave it empty. -/
theorem inputAfter_suggestions (config : Config) (profile : Profile) (input : String) :
    Console.inputAfter input (Session.suggestions config profile) = input := by
  unfold Session.suggestions
  dsimp only
  split <;> rfl

theorem editor_start (config : Config) (profile : Profile) (now : Timestamp) :
    (start config profile now).1.editor = {} := by
  have hinput : (start config profile now).1.console.input =
      Console.inputAfter "" (Session.suggestions config profile) :=
    Console.input_performAll {} _
  rw [editor, hinput, inputAfter_suggestions]
  rfl

theorem run_simulates_editor (config : Config) (profile : Profile) (now : Timestamp)
    (presses : List (Timestamp × Key)) :
    let names := (Setup.of (some profile) config).registry.names
    let result := (start config profile now).1.run presses
    names.Nodup ∧
      (result.1.editor, result.2) = Editor.run names {} (presses.map Prod.snd) := by
  intro names result
  refine ⟨Setup.nodup_names_of (some profile) config, ?_⟩
  rw [editor_run (wellFormed_start config profile now) presses, editor_start, setup_start]

-- Typed in capitals, completed, entered and recalled.
example : (Editor.run ["help", "history"] {} [{ code := .char 'H' }, { code := .char 'E' },
    { code := .tab }, { code := .enter }, { code := .up }]).1 = ⟨"help", ["help"], 0⟩ := by
  decide

end Host
end ResumeTerminal
