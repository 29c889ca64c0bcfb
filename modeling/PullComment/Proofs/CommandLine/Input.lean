import PullComment.CommandLine.Run
import PullComment.Proofs.Schema.Valid
import PullComment.Proofs.Text.Quoted
import PullComment.Proofs.Text.StandsIn
import PullComment.Proofs.Text.Utf8

namespace PullComment

theorem bind_eq_error_iff {ε α β : Type} {x : Except ε α} {f : α → Except ε β} {e : ε} :
    x.bind f = .error e ↔ x = .error e ∨ ∃ a, x = .ok a ∧ f a = .error e := by
  cases x with
  | error e' => simp [Except.bind]
  | ok a => simp [Except.bind]

namespace CommandLine

open Text

namespace FileTree

def readFaults : List FaultKind :=
  [.noEntry, .isADirectory, .notADirectory, .nameTooLong]

theorem follow_error {t : FileTree} {names parts : List String} {kind : FaultKind}
    (h : t.follow names parts = .error kind) : kind ∈ readFaults := by
  fun_induction follow t names parts with
  | case1 => cases h
  | case2 names rest ih => exact ih h
  | case3 =>
      cases h
      decide
  | case4 names part rest _ _ _ ih => exact ih h
  | case5 => cases h
  | case6 =>
      cases h
      decide
  | case7 => cases h
  | case8 =>
      cases h
      decide

theorem locate_error {t : FileTree} {p : Path} {kind : FaultKind} (h : t.locate p = .error kind) :
    kind ∈ readFaults := by
  unfold locate at h
  split_ifs at h
  · cases h
    decide
  · exact follow_error h

theorem read_error {t : FileTree} {p : Path} {f : SystemFault} (h : t.read p = .error f) :
    f.kind ∈ readFaults := by
  have hdirectory : FaultKind.isADirectory ∈ readFaults := by decide
  have habsent : FaultKind.noEntry ∈ readFaults := by decide
  unfold read faultAt at h
  split at h
  · cases h
  · cases h
    exact hdirectory
  · cases h
    exact habsent
  · rename_i kind hkind
    cases h
    exact locate_error hkind

end FileTree

theorem newline_not_mem_message {f : SystemFault} (h : f.kind ∈ FileTree.readFaults) :
    '\n' ∉ f.message.toList := by
  have hkind : ∀ k ∈ FileTree.readFaults,
      '\n' ∉ (toString k.code).toList ∧ '\n' ∉ k.reason.toList := by decide
  have hfile : '\n' ∉
      (if [quote f.path].isEmpty then "" else ": " ++ " -> ".intercalate [quote f.path]).toList := by
    rw [if_neg (by simp), String.intercalate_singleton, String.toList_append, List.mem_append]
    exact not_or.mpr ⟨by decide, newline_not_mem_quote f.path⟩
  rw [SystemFault.message, faultText, String.toList_append, String.toList_append, String.toList_append,
    String.toList_append]
  simp only [List.mem_append, not_or]
  exact ⟨⟨⟨⟨by decide, (hkind _ h).1⟩, by decide⟩, (hkind _ h).2⟩, hfile⟩

def Garbled (read : Reader) (file : String) : Prop :=
  ∃ octets, read (Path.ofText file) = .ok octets ∧ ∀ text, octets ≠ encodeText text

section Reader

variable {read : Reader} {file : String}

theorem readTextFile_of_text {text : String} (h : read (Path.ofText file) = .ok (encodeText text)) :
    readTextFile read file = .ok (String.ofList (joinLineEnds text.toList)) := by
  simp only [readTextFile, h, decodeText_encodeText]

theorem not_garbled_of_text {text : String} (h : read (Path.ofText file) = .ok (encodeText text)) :
    ¬ Garbled read file := by
  rintro ⟨octets, hread, hoctets⟩
  cases h.symm.trans hread
  exact hoctets text rfl

theorem not_garbled_of_error {f : SystemFault} (h : read (Path.ofText file) = .error f) :
    ¬ Garbled read file := by
  rintro ⟨octets, hread, -⟩
  cases h.symm.trans hread

theorem garbled_of_malformed {octets : List UInt8} {m : MalformedText}
    (h : read (Path.ofText file) = .ok octets) (hm : decodeText octets = .error m) : Garbled read file := by
  refine ⟨octets, h, ?_⟩
  rintro text rfl
  rw [decodeText_encodeText] at hm
  cases hm

theorem readTextFile_error {problem : Problem} (h : readTextFile read file = .error problem) :
    (∃ f, problem = .unreadable f ∧ read (Path.ofText file) = .error f) ∨
      ∃ m, problem = .malformed m ∧ Garbled read file := by
  unfold readTextFile at h
  split at h
  · rename_i f hread
    cases h
    exact .inl ⟨f, rfl, hread⟩
  · rename_i octets hread
    split at h
    · rename_i m hm
      cases h
      exact .inr ⟨m, rfl, garbled_of_malformed hread hm⟩
    · cases h

theorem exists_malformed_of_garbled (h : Garbled read file) :
    ∃ m, readTextFile read file = .error (.malformed m) := by
  obtain ⟨octets, hread, hoctets⟩ := h
  cases hdecode : decodeText octets with
  | error m => exact ⟨m, by simp only [readTextFile, hread, hdecode]⟩
  | ok cs => exact absurd (decodeText_eq_ok_iff.mp hdecode) (hoctets _)

theorem loadResponse_of_text {text : String} (h : readTextFile read file = .ok text) :
    loadResponse read file =
      match Schema.readJsonText Schema.readResponse text with
      | .ok r => .ok r.content
      | .error e => .error (.invalid e) := by
  rw [loadResponse, h]
  rfl

theorem loadResponse_of_error {problem : Problem} (h : readTextFile read file = .error problem) :
    loadResponse read file = .error problem := by
  rw [loadResponse, h]
  rfl

theorem loadResponse_error {problem : Problem} (h : loadResponse read file = .error problem) :
    readTextFile read file = .error problem ∨ ∃ e, problem = .invalid e := by
  cases htext : readTextFile read file with
  | error other =>
      rw [loadResponse_of_error htext] at h
      cases h
      exact .inl rfl
  | ok text =>
      rw [loadResponse_of_text htext] at h
      split at h
      · cases h
      · cases h
        exact .inr ⟨_, rfl⟩

theorem renderArguments_eq (a : RenderArguments) :
    renderArguments read a = (chooseResponse read a).bind fun response =>
      (chooseLog read a).bind fun log =>
        .ok (Comment.render ⟨a.command, log, a.verbose, .none⟩ response) :=
  rfl

end Reader

end CommandLine

end PullComment
