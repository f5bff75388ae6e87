import ResumeTerminal.Console
import ResumeTerminal.Proofs.Session.Run

/-! The cursor after a submission. A recorded line brings it back to the fresh line, so
that the next step to older lines recalls what was just entered. A blank line empties the
input too, but leaves the cursor where the last recall has put it. -/
namespace ResumeTerminal

namespace History

/-- From the fresh line the way to older lines begins with the last one. -/
theorem navigate_older_of_fresh {history : History} (h : history.cursor = history.size)
    {last : String} (hlast : history.entries.getLast? = some last) :
    (history.navigate .older).2 = some last := by
  have hne : history.entries ≠ [] := by
    intro hnil
    rw [hnil] at hlast
    cases hlast
  have hplace : history.entries[history.next .older]? = some last := by
    rw [next, h, size, ← List.getLast?_eq_getElem?, hlast]
  rw [navigate_of_ne_nil hne (Nat.le_of_eq h), lineAt, hplace, Option.getD_some]

end History

namespace Session

theorem inputAfter_submit (session : Session) (line typed : String) :
    Console.inputAfter typed (session.submit line).2 = "" := by
  cases h : Text.isBlank line with
  | true => rw [submit_of_isBlank session h, Console.inputAfter, Console.inputAfter]
  | false => rw [submit_of_visible session h, Console.inputAfter_append_setInput]

theorem cursor_submit_eq_size_iff (session : Session) (line : String) :
    (session.submit line).1.history.cursor = (session.submit line).1.history.size ↔
      Text.isBlank line = false ∨ session.history.cursor = session.history.size := by
  cases h : Text.isBlank line with
  | true => rw [submit_of_isBlank session h]; simp
  | false => rw [submit_of_visible session h]; simp [History.size]

theorem navigate_older_of_fresh {session : Session}
    (h : session.history.cursor = session.history.size) {last : String}
    (hlast : session.history.entries.getLast? = some last) :
    (session.navigate .older).2 = [.setInput last] := by
  have hcalls : (session.navigate .older).2 =
      ((session.history.navigate .older).2.map Call.setInput).toList := rfl
  rw [hcalls, History.navigate_older_of_fresh h hlast]
  rfl

theorem submit_refreshes_cursor_iff (config : Config) (profile : Option Profile)
    (now : Timestamp) (operations : List Operation) (line : String) :
    let session := (start config profile now).after operations
    let next := (session.submit line).1
    (∀ typed, Console.inputAfter typed (session.submit line).2 = "") ∧
    (next.history.cursor = next.history.size ↔
      Text.isBlank line = false ∨ session.history.cursor = session.history.size) ∧
    (next.history.cursor = next.history.size →
      ∀ last, next.history.entries.getLast? = some last →
        (next.navigate .older).2 = [.setInput last]) := by
  intro session
  refine ⟨inputAfter_submit session line, cursor_submit_eq_size_iff session line, ?_⟩
  intro hfresh last hlast
  exact navigate_older_of_fresh hfresh hlast

/-- Two lines are entered, the second one is recalled, and Enter is pressed on a blank
input: the next recall passes over the second line. -/
theorem blank_line_keeps_recall :
    let session := (start {} none ⟨0, 0, 0⟩).after [.handle (.submit "first"),
      .handle (.submit "second"), .handle (.navigate .older), .handle (.submit " ")]
    session.history = ⟨["first", "second"], 1⟩ ∧
      (session.navigate .older).2 = [.setInput "first"] := by
  decide

end Session
end ResumeTerminal
