import PullComment.CommandLine.Arguments

namespace PullComment.CommandLine

namespace Draft

theorem setValue_debug (option value : String) (d : Draft) (debug : Bool) :
    setValue option value { d with debug } = (setValue option value d).map ({ · with debug }) := by
  unfold setValue
  split <;> rfl

theorem setFlag_debug (option : String) (d : Draft) (debug : Bool) :
    ∃ debug', setFlag option { d with debug } = (setFlag option d).map ({ · with debug := debug' }) := by
  unfold setFlag
  split
  · exact ⟨debug, rfl⟩
  · exact ⟨debug, rfl⟩
  · exact ⟨true, rfl⟩
  · exact ⟨false, rfl⟩
  · exact ⟨debug, rfl⟩

section

variable {d d' : Draft} {argument option value : String} {rest : List String}

theorem read_dashes (d : Draft) (rest : List String) : d.read ("--" :: rest) = some (d.addFiles rest) := by
  rw [read, if_pos rfl]

variable (hdashes : argument ≠ "--")

include hdashes

theorem read_joined (hoption : isOption argument = true) (hsplit : splitValue argument = (option, some value)) :
    d.read (argument :: rest) = (d.setValue option value).bind fun d' => d'.read rest := by
  rw [read, if_neg hdashes, if_pos hoption, hsplit]

theorem read_flag (hoption : isOption argument = true) (hsplit : splitValue argument = (option, none))
    (hflag : d.setFlag option = some d') : d.read (argument :: rest) = d'.read rest := by
  rw [read, if_neg hdashes, if_pos hoption, hsplit]
  simp only [hflag]

theorem read_valueMissing (hoption : isOption argument = true) (hsplit : splitValue argument = (option, none))
    (hflag : d.setFlag option = none) : d.read [argument] = none := by
  rw [read, if_neg hdashes, if_pos hoption, hsplit]
  simp only [hflag]

theorem read_value (hoption : isOption argument = true) (hsplit : splitValue argument = (option, none))
    (hflag : d.setFlag option = none) :
    d.read (argument :: value :: rest) = (d.setValue option value).bind fun d' => d'.read rest := by
  rw [read, if_neg hdashes, if_pos hoption, hsplit]
  simp only [hflag]

theorem read_file (hoption : ¬ isOption argument = true) :
    d.read (argument :: rest) = (d.addFiles [argument]).read rest := by
  rw [read, if_neg hdashes, if_neg hoption]

end

theorem read_debug (d : Draft) (debug : Bool) (arguments : List String) :
    ∃ debug', read { d with debug } arguments = (read d arguments).map ({ · with debug := debug' }) := by
  fun_induction read d arguments generalizing debug with
  | case1 d => exact ⟨debug, rfl⟩
  | case2 d rest =>
      rw [read_dashes]
      exact ⟨debug, rfl⟩
  | case3 d argument rest hdashes hoption option value hsplit ih =>
      rw [read_joined hdashes hoption hsplit, setValue_debug]
      cases d.setValue option value with
      | none => exact ⟨debug, rfl⟩
      | some d' => exact ih d' debug
  | case4 d argument rest hdashes hoption option hsplit d' hflag ih =>
      obtain ⟨debug', hflag'⟩ := setFlag_debug option d debug
      rw [hflag, Option.map_some] at hflag'
      rw [read_flag hdashes hoption hsplit hflag']
      exact ih debug'
  | case5 d argument hdashes hoption option hsplit hflag =>
      obtain ⟨debug', hflag'⟩ := setFlag_debug option d debug
      rw [hflag, Option.map_none] at hflag'
      rw [read_valueMissing hdashes hoption hsplit hflag']
      exact ⟨debug, rfl⟩
  | case6 d argument hdashes hoption option hsplit hflag value rest ih =>
      obtain ⟨debug', hflag'⟩ := setFlag_debug option d debug
      rw [hflag, Option.map_none] at hflag'
      rw [read_value hdashes hoption hsplit hflag', setValue_debug]
      cases d.setValue option value with
      | none => exact ⟨debug, rfl⟩
      | some d' => exact ih d' debug
  | case7 d argument rest hdashes hoption ih =>
      rw [read_file hdashes hoption]
      exact ih debug

theorem finish_debug (d : Draft) (debug : Bool) :
    finish { d with debug } = (finish d).map ({ · with debug }) := by
  obtain ⟨files, command, logFile, verbose, output, given⟩ := d
  rcases files with _ | ⟨file, _ | ⟨other, files⟩⟩
  case cons.cons => rfl
  all_goals
    dsimp only [finish]
    split
    · rw [Option.map_map]
      rfl
    · rfl

end Draft

theorem Invocation.ofArguments?_render_iff {rest : List String} {a : RenderArguments} :
    Invocation.ofArguments? ("render" :: rest) = some (.render a) ↔
      ∃ d, Draft.initial.read rest = some d ∧ d.finish = some a := by
  show (readRender rest).map Invocation.render = some (.render a) ↔ _
  simp only [readRender, Option.map_eq_some_iff, Invocation.render.injEq, exists_eq_right,
    Option.bind_eq_some_iff]

theorem Invocation.ofArguments?_debug {rest : List String} {a : RenderArguments}
    (h : Invocation.ofArguments? ("render" :: rest) = some (.render a)) :
    ∃ debug, Invocation.ofArguments? ("render" :: "--debug" :: rest) = some (.render { a with debug }) := by
  have hsplit : Draft.splitValue "--debug" = ("--debug", none) := by decide
  have hflag : Draft.initial.read ("--debug" :: rest) = Draft.read { Draft.initial with debug := true } rest :=
    Draft.read_flag (by decide) (by decide) hsplit rfl
  obtain ⟨d, hd, ha⟩ := Invocation.ofArguments?_render_iff.mp h
  obtain ⟨debug, hread⟩ := Draft.read_debug Draft.initial true rest
  refine ⟨debug, Invocation.ofArguments?_render_iff.mpr ⟨{ d with debug }, ?_, ?_⟩⟩
  · rw [hflag, hread, hd, Option.map_some]
  · rw [Draft.finish_debug, ha, Option.map_some]

end PullComment.CommandLine
