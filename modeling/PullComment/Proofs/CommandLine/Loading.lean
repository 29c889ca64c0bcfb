import PullComment.Proofs.CommandLine.Input
import PullComment.Proofs.Json.LineEnds

namespace PullComment

open Text

namespace Schema

theorem validateText_commandResponse (text : String) :
    validateText .commandResponse text = (readJsonText readResponse text).map .response := by
  rw [validateText, readJsonText, readJsonText]
  cases Json.parse text with
  | none => rfl
  | some v =>
      show reported .json ((readResponse v).map Record.response) =
        (reported .json (readResponse v)).map Record.response
      cases readResponse v <;> rfl

theorem validateText_eq_of_joinLineEnds {text other : String}
    (h : joinLineEnds other.toList = joinLineEnds text.toList) (model : Model) :
    validateText model other = validateText model text := by
  rw [validateText, ← readJsonText_joinLineEnds, h, readJsonText_joinLineEnds, validateText]

end Schema

namespace CommandLine

open Schema

section Text

variable {read : Reader} {file text : String} (hread : read (Path.ofText file) = .ok (encodeText text))

include hread

theorem loadResponse_of_encodeText :
    loadResponse read file =
      match readJsonText readResponse text with
      | .ok r => .ok r.content
      | .error e => .error (.invalid e) := by
  have hload := loadResponse_of_text (readTextFile_of_text hread)
  rw [readJsonText_joinLineEnds] at hload
  exact hload

theorem loadResponse_eq_ok_iff {response : CommandResponse String} :
    loadResponse read file = .ok response ↔
      ∃ r, validateText .commandResponse text = .ok (.response r) ∧ r.content = response := by
  rw [loadResponse_of_encodeText hread, validateText_commandResponse]
  cases readJsonText readResponse text <;> simp [Except.map]

theorem loadResponse_eq_error_iff {problem : Problem} :
    loadResponse read file = .error problem ↔
      ∃ e, validateText .commandResponse text = .error e ∧ problem = .invalid e := by
  rw [loadResponse_of_encodeText hread, validateText_commandResponse]
  cases readJsonText readResponse text <;> simp [Except.map, eq_comm]

end Text

/-- However the line ends of a text are written, it is valid as the same records or breaks the same rules in the
same places. So what is loaded from a file is what its text is valid as before any line end is translated. -/
theorem line_ends_do_not_count (text : String) :
    let translated := String.ofList (joinLineEnds text.toList)
    (∀ model, validateText model translated = validateText model text) ∧
    (∀ model other, joinLineEnds other.toList = joinLineEnds text.toList →
      validateText model other = validateText model text) ∧
    ∀ (read : Reader) (file : String), read (Path.ofText file) = .ok (encodeText text) →
      readTextFile read file = .ok translated ∧
      (∀ response, loadResponse read file = .ok response ↔
        ∃ r, validateText .commandResponse text = .ok (.response r) ∧ r.content = response) ∧
      ∀ problem, loadResponse read file = .error problem ↔
        ∃ e, validateText .commandResponse text = .error e ∧ problem = .invalid e := by
  intro translated
  refine ⟨fun model => readJsonText_joinLineEnds (readAs model) text, ?_, fun read file hread => ?_⟩
  · intro model other h
    exact validateText_eq_of_joinLineEnds h model
  · exact ⟨readTextFile_of_text hread, fun _ => loadResponse_eq_ok_iff hread,
      fun _ => loadResponse_eq_error_iff hread⟩

theorem line_ends_do_not_count_in_a_file :
    let valid := "\x7b\r\n\"failure\":\r\"a\\r\"\r\n\x7d\r"
    let broken := "\x7b\"failure\":\"a\r\n\"\x7d"
    let read : Reader := fun p => .ok (encodeText (if p.text = "valid" then valid else broken))
    read (Path.ofText "valid") = .ok (encodeText valid) ∧ read (Path.ofText "broken") = .ok (encodeText broken) ∧
    joinLineEnds "\x7b\n\"failure\":\n\"a\\r\"\n\x7d\n".toList = joinLineEnds valid.toList ∧
    validateText .commandResponse "\x7b\n\"failure\":\n\"a\\r\"\n\x7d\n" = validateText .commandResponse valid ∧
    loadResponse read "valid" = .ok ⟨none, "a\r", []⟩ ∧
    loadResponse read "broken" = .error (.invalid ⟨.json, [⟨[], .invalidJson⟩]⟩) := by
  intro valid broken read
  have hvalid : read (Path.ofText "valid") = .ok (encodeText valid) := by decide +kernel
  have hbroken : read (Path.ofText "broken") = .ok (encodeText broken) := by decide +kernel
  have hlines : joinLineEnds "\x7b\n\"failure\":\n\"a\\r\"\n\x7d\n".toList = joinLineEnds valid.toList := by
    decide +kernel
  obtain ⟨-, hsame, hloaded⟩ := line_ends_do_not_count valid
  obtain ⟨-, -, hrefused⟩ := line_ends_do_not_count broken
  obtain ⟨-, hok, -⟩ := hloaded read "valid" hvalid
  obtain ⟨-, -, herror⟩ := hrefused read "broken" hbroken
  refine ⟨hvalid, hbroken, hlines, hsame .commandResponse _ hlines, ?_, ?_⟩
  · exact (hok _).mpr ⟨⟨none, "a\r", [], ⟨false, true, false⟩⟩, by decide +kernel, rfl⟩
  · exact (herror _).mpr ⟨⟨.json, [⟨[], .invalidJson⟩]⟩, by decide +kernel, rfl⟩

end CommandLine

end PullComment
