import Mathlib.Data.List.Basic
import PullComment.Proofs.Comment.Framing
import PullComment.Proofs.Comment.Precedence

namespace PullComment

variable {π : Type} [Label π]

def Template.variables : Template → List String
  | .help => []
  | .errorWithLog => ["command", "verbose", "log", "error"]
  | .failureWithLog => ["command", "verbose", "log", "failure"]
  | .singleProject => ["command", "verbose", "log", "results"]
  | .multiProject => ["command", "verbose", "log", "results"]
  | .error => ["command", "error"]
  | .failure => ["command", "failure"]
  | .planSuccess => ["terraform_output", "lock_url"]
  | .applySuccess => ["output"]

def Template.builtins : List String :=
  ["range", "dict", "lipsum", "cycler", "joiner", "namespace", "self", "true", "True", "false", "False", "none", "None"]

def Template.knownNames (t : Template) : List String :=
  builtins ++ t.variables

def Faults.only (used : List Template) (faults : Faults) : Faults :=
  fun t => if t ∈ used then faults t else .none

theorem Faults.only_of_mem {used : List Template} {t : Template} (h : t ∈ used) (faults : Faults) :
    faults.only used t = faults t :=
  if_pos h

/-- What is logged when a template is used: something only if it shows a name that has no value there. -/
def Faults.log? (faults : Faults) (t : Template) : Option (Severity × String) :=
  (faults t).bind fun v =>
    if v ∈ t.knownNames then .none
    else some (.error, "template rendering failed: " ++ Comment.undefinedReason v)

theorem Faults.log?_of_known {faults : Faults} {t : Template} {v : String} (h : faults t = some v)
    (hv : v ∈ t.knownNames) : faults.log? t = .none := by
  rw [Faults.log?, h, Option.bind_some, if_pos hv]

theorem Faults.log?_of_unknown {faults : Faults} {t : Template} {v : String} (h : faults t = some v)
    (hv : v ∉ t.knownNames) :
    faults.log? t = some (.error, "template rendering failed: " ++ Comment.undefinedReason v) := by
  rw [Faults.log?, h, Option.bind_some, if_neg hv]

def ProjectResult.template? (p : ProjectResult π) : Option Template :=
  p.outcome.map fun o => Template.ofKind o.kind

def ProjectResult.log? (faults : Faults) (p : ProjectResult π) : Option (Severity × String) :=
  match p.template? with
  | some t => faults.log? t
  | none => some (.warning, "no template matches the outcome for project " ++ Label.text p.path)

def Comment.logs (c : Comment) : List (Severity × String) :=
  c.events.map fun e => (e.severity, e.message)

def settle (p : ProjectResult π) : List (ProjectResult π) → List (ProjectResult π)
  | [] => [p]
  | q :: rest => if Label.alike q.path p.path then ⟨q.path, p.outcome⟩ :: rest else q :: settle p rest

def latest (results : List (ProjectResult π)) : List (ProjectResult π) :=
  results.foldl (fun kept p => settle p kept) []

namespace Shown

def projects : Shown π → List (ProjectResult π)
  | .results given => given
  | _ => []

def outer : Shown π → Template
  | .help => .help
  | .error _ => .errorWithLog
  | .failure _ => .failureWithLog
  | .results given => if (latest given).length = 1 then .singleProject else .multiProject

def templates (s : Shown π) : List Template :=
  s.outer :: s.projects.filterMap ProjectResult.template?

def text (r : Request) (parts : List (String × String)) : Shown π → String
  | .help => Template.helpText
  | .error message => Template.errorText r.command.title message ++ Template.logFragment r.verbose r.log
  | .failure message => Template.failureText r.command.title message ++ Template.logFragment r.verbose r.log
  | .results _ =>
      (if parts.length = 1 then Template.singleText parts else Template.multiText r.command.title parts)
        ++ Template.logFragment r.verbose r.log

end Shown

namespace Comment

def part (r : Request) (p : ProjectResult π) : String × String :=
  (Label.text p.path, (ofResult r p).markdown)

theorem fill_of_none {faults : Faults} {t : Template} (h : faults t = none) (scope : Scope) (text : String) :
    fill faults t scope text = ⟨text, []⟩ := by
  simp only [fill, h]

theorem markdown_fill_of_some {faults : Faults} {t : Template} {v : String} (h : faults t = some v)
    (scope : Scope) (text : String) :
    (fill faults t scope text).markdown =
      (value? scope v).getD (Template.bugNotice ++ undefinedReason v) := by
  simp only [fill, h]
  cases value? scope v <;> rfl

theorem value?_isSome {scope : Scope} {t : Template} (hscope : scope.map Prod.fst = t.variables) (v : String) :
    (value? scope v).isSome ↔ v ∈ t.knownNames := by
  have hnames : (builtinScope ++ scope).map Prod.fst = t.knownNames := by
    rw [List.map_append, hscope]
    rfl
  rw [value?, Members.get?_isSome, hnames]

theorem logs_fill {faults : Faults} {t : Template} {scope : Scope} (hscope : scope.map Prod.fst = t.variables)
    (text : String) : (fill faults t scope text).logs = (faults.log? t).toList := by
  cases hf : faults t with
  | none =>
      rw [fill_of_none hf, Faults.log?, hf]
      rfl
  | some v =>
      have hknown := value?_isSome hscope v
      simp only [fill, hf]
      cases hvalue : value? scope v with
      | some value =>
          rw [Faults.log?_of_known hf (hknown.mp (by rw [hvalue]; rfl))]
          rfl
      | none =>
          rw [Faults.log?_of_unknown hf fun hv => by simp [hvalue] at hknown; exact hknown hv]
          rfl

theorem map_fst_outcomeScope (command : String) (o : Outcome) :
    (outcomeScope command o).map Prod.fst = (Template.ofKind o.kind).variables := by
  cases o <;> rfl

theorem logs_ofResult (r : Request) (p : ProjectResult π) : (ofResult r p).logs = (p.log? r.faults).toList := by
  cases ho : p.outcome with
  | none =>
      simp only [ofResult, ProjectResult.log?, ProjectResult.template?, ho]
      rfl
  | some o =>
      simp only [ofResult, ProjectResult.log?, ProjectResult.template?, ho]
      exact logs_fill (map_fst_outcomeScope r.command.title o) _

theorem ofResult_congr {r : Request} {faults : Faults} {p : ProjectResult π}
    (h : ∀ t, p.template? = some t → faults t = r.faults t) :
    ofResult { r with faults := faults } p = ofResult r p := by
  cases ho : p.outcome with
  | none => simp only [ofResult, ho]
  | some o =>
      have ht : p.template? = some (Template.ofKind o.kind) := by
        rw [ProjectResult.template?, ho]
        rfl
      simp only [ofResult, ho]
      exact fill_congr (h _ ht) _ _

theorem put_map_part (r : Request) (p : ProjectResult π) (kept : List (ProjectResult π)) :
    put p.path (ofResult r p).markdown (kept.map fun q => (q.path, (ofResult r q).markdown)) =
      (settle p kept).map fun q => (q.path, (ofResult r q).markdown) := by
  have houtcome : ∀ q : ProjectResult π,
      (ofResult r ⟨q.path, p.outcome⟩).markdown = (ofResult r p).markdown := by
    intro q
    cases h : p.outcome <;> simp only [ofResult, h]
  induction kept with
  | nil => rfl
  | cons q kept ih =>
      simp only [List.map_cons, put, settle]
      split
      · simp only [List.map_cons, houtcome]
      · rw [ih, List.map_cons]

theorem placed_eq_map_latest (r : Request) (results : List (ProjectResult π)) :
    placed r results = (latest results).map fun q => (q.path, (ofResult r q).markdown) := by
  -- putting texts and settling outcomes go hand in hand, whatever has been kept so far
  have main : ∀ (results kept : List (ProjectResult π)),
      results.foldl (fun done p => put p.path (ofResult r p).markdown done)
          (kept.map fun q => (q.path, (ofResult r q).markdown)) =
        (results.foldl (fun kept p => settle p kept) kept).map fun q => (q.path, (ofResult r q).markdown) := by
    intro results
    induction results with
    | nil => intro kept; rfl
    | cons p results ih =>
        intro kept
        rw [List.foldl_cons, put_map_part, ih, List.foldl_cons]
  exact main results []

theorem sections_eq_map_latest (r : Request) (results : List (ProjectResult π)) :
    sections r results = (latest results).map (part r) := by
  rw [sections, placed_eq_map_latest, List.map_map]
  rfl

def outerScope (r : Request) : Shown π → Scope
  | .help => []
  | .error message => commonScope r ++ [("error", message)]
  | .failure message => commonScope r ++ [("failure", message)]
  | .results results => commonScope r ++ [("results", asOne (placed r results))]

theorem map_fst_outerScope (r : Request) (s : Shown π) : (outerScope r s).map Prod.fst = s.outer.variables := by
  cases s with
  | help | error message | failure message => rfl
  | results results =>
      rw [Shown.outer]
      split <;> rfl

def outerComment (r : Request) (s : Shown π) : Comment :=
  fill r.faults s.outer (outerScope r s) (s.text r ((latest s.projects).map (part r)))

theorem ofShown_eq_outerComment (r : Request) (s : Shown π) :
    ofShown r s = ⟨(outerComment r s).markdown,
      s.projects.flatMap (fun p => (ofResult r p).events) ++ (outerComment r s).events⟩ := by
  cases s with
  | help | error message | failure message => rfl
  | results results =>
      have houter : ofSections r (asOne (placed r results)) (sections r results) =
          outerComment r (.results results) := by
        simp only [outerComment, ofSections, Shown.outer, Shown.text, outerScope, Shown.projects,
          sections_eq_map_latest, List.length_map]
        split <;> rfl
      rw [ofShown, ofResults, houter]
      rfl

theorem logs_ofShown (r : Request) (s : Shown π) :
    (ofShown r s).logs =
      s.projects.filterMap (ProjectResult.log? r.faults) ++ (r.faults.log? s.outer).toList := by
  have hinner : (s.projects.flatMap fun p => (ofResult r p).events).map (fun e => (e.severity, e.message)) =
      s.projects.filterMap (ProjectResult.log? r.faults) := by
    rw [List.map_flatMap, List.filterMap_eq_flatMap_toList]
    exact List.flatMap_congr fun p _ => logs_ofResult r p
  have houter : (outerComment r s).events.map (fun e => (e.severity, e.message)) =
      (r.faults.log? s.outer).toList :=
    logs_fill (map_fst_outerScope r s) _
  rw [Comment.logs, ofShown_eq_outerComment, List.map_append, hinner, houter]

theorem ofShown_congr {r : Request} {faults : Faults} {s : Shown π}
    (h : ∀ t ∈ s.templates, faults t = r.faults t) : ofShown { r with faults := faults } s = ofShown r s := by
  have hinner : ∀ p ∈ s.projects, ofResult { r with faults := faults } p = ofResult r p := by
    intro p hp
    refine ofResult_congr fun t ht => h t ?_
    exact List.mem_cons_of_mem _ (List.mem_filterMap.mpr ⟨p, hp, ht⟩)
  have hplaced : placed { r with faults := faults } s.projects = placed r s.projects :=
    List.foldl_ext _ _ _ fun done p hp => by rw [hinner p hp]
  have hparts : (latest s.projects).map (part { r with faults := faults }) =
      (latest s.projects).map (part r) := by
    rw [← sections_eq_map_latest, ← sections_eq_map_latest, sections, hplaced, sections]
  have hscope : outerScope { r with faults := faults } s = outerScope r s := by
    cases s with
    | help | error message | failure message => rfl
    | results results => exact congrArg (fun done => commonScope r ++ [("results", asOne done)]) hplaced
  have hevents : (s.projects.flatMap fun p => (ofResult { r with faults := faults } p).events) =
      s.projects.flatMap fun p => (ofResult r p).events :=
    List.flatMap_congr fun p hp => by rw [hinner p hp]
  have htext : ∀ parts, s.text { r with faults := faults } parts = s.text r parts := by
    intro parts
    cases s <;> rfl
  have houter : outerComment { r with faults := faults } s = outerComment r s := by
    rw [outerComment, outerComment, hparts, hscope, htext]
    exact fill_congr (h _ List.mem_cons_self) _ _
  rw [ofShown_eq_outerComment, ofShown_eq_outerComment, hevents, houter]

theorem markdown_ofShown_of_none {r : Request} {s : Shown π} (h : r.faults s.outer = none) :
    (ofShown r s).markdown = s.text r ((latest s.projects).map (part r)) := by
  rw [ofShown_eq_outerComment, outerComment, fill_of_none h]

theorem markdown_ofShown_of_undefined {r : Request} {s : Shown π} {v : String}
    (h : r.faults s.outer = some v) (hv : v ∉ s.outer.knownNames) :
    (ofShown r s).markdown = Template.bugNotice ++ undefinedReason v := by
  have hnone : value? (outerScope r s) v = none := by
    rw [← Option.not_isSome_iff_eq_none, value?_isSome (map_fst_outerScope r s)]
    exact hv
  rw [ofShown_eq_outerComment, outerComment, markdown_fill_of_some h, hnone]
  rfl

theorem part_of_no_fault {r : Request} {p : ProjectResult π}
    (h : ∀ t, p.template? = some t → r.faults t = none) :
    part r p = (Label.text p.path, shownText r.command.title p.outcome) := by
  have hcongr : ofResult { r with faults := Faults.none } p = ofResult r p :=
    ofResult_congr fun t ht => (h t ht).symm
  rw [part, ← hcongr, markdown_ofResult rfl]

theorem part_of_fault {r : Request} {p : ProjectResult π} {o : Outcome} {v : String}
    (ho : p.outcome = some o) (hv : r.faults (Template.ofKind o.kind) = some v) :
    part r p = (Label.text p.path, (value? (outcomeScope r.command.title o) v).getD
      (Template.bugNotice ++ undefinedReason v)) := by
  simp only [part, ofResult, ho, ofOutcome, markdown_fill_of_some hv]

/-- A fault of a template that is not used does nothing. One that is used is logged where a name has no value,
and changes the one text that its template makes: `kept` is settled without any fault. -/
theorem faults_are_isolated (r : Request) (response : CommandResponse π) :
    let shown := response.shown r.command
    let kept := latest shown.projects
    let healthy : Request := { r with faults := Faults.none }
    render { r with faults := r.faults.only shown.templates } response = render r response ∧
    (render r response).logs =
      shown.projects.filterMap (ProjectResult.log? r.faults) ++ (r.faults.log? shown.outer).toList ∧
    (render healthy response).markdown = shown.text r (kept.map (part healthy)) ∧
    (r.faults shown.outer = none → (render r response).markdown = shown.text r (kept.map (part r))) ∧
    (∀ v, r.faults shown.outer = some v → v ∉ shown.outer.knownNames →
      (render r response).markdown = Template.bugNotice ++ undefinedReason v) ∧
    ∀ p ∈ kept, part healthy p = (Label.text p.path, shownText r.command.title p.outcome) ∧
      ((∀ t, p.template? = some t → r.faults t = none) → part r p = part healthy p) ∧
      ∀ o v, p.outcome = some o → r.faults (Template.ofKind o.kind) = some v →
        part r p = (Label.text p.path, (value? (outcomeScope r.command.title o) v).getD
          (Template.bugNotice ++ undefinedReason v)) := by
  intro shown kept healthy
  have hr : render r response = ofShown r shown := render_eq_ofShown r response
  have hhealthy : render healthy response = ofShown healthy shown := render_eq_ofShown healthy response
  have hsound : ∀ p : ProjectResult π,
      part healthy p = (Label.text p.path, shownText r.command.title p.outcome) :=
    fun p => part_of_no_fault fun _ _ => rfl
  refine ⟨?_, ?_, ?_, ?_, ?_, ?_⟩
  · rw [hr, render_eq_ofShown]
    exact ofShown_congr fun t ht => Faults.only_of_mem ht r.faults
  · rw [hr]
    exact logs_ofShown r shown
  · have htext : shown.text healthy (kept.map (part healthy)) = shown.text r (kept.map (part healthy)) := by
      cases shown <;> rfl
    rw [hhealthy, markdown_ofShown_of_none rfl, htext]
  · intro h
    rw [hr, markdown_ofShown_of_none h]
  · intro v hv hundefined
    rw [hr, markdown_ofShown_of_undefined hv hundefined]
  · intro p _
    refine ⟨hsound p, ?_, ?_⟩
    · intro h
      rw [hsound p, part_of_no_fault h]
    · intro o v ho hv
      exact part_of_fault ho hv

theorem faults_are_isolated_of_repeated_path :
    let faults : Faults := fun
      | .error => some "missing"
      | .planSuccess => some "lock_url"
      | .singleProject => some "gone"
      | _ => none
    let r : Request := ⟨.plan, "L", false, faults⟩
    let response : CommandResponse String :=
      ⟨none, "", [⟨"a", some (.error "x")⟩, ⟨"b", some (.planSuccess "+1" "u")⟩, ⟨"a", none⟩]⟩
    let shown := response.shown r.command
    (r.faults shown.outer = none ∧ r.faults .planSuccess = some "lock_url") ∧
    (render r response).logs =
      [(.error, "template rendering failed: 'missing' is undefined"),
        (.warning, "no template matches the outcome for project a")] ∧
    part r ⟨"b", some (.planSuccess "+1" "u")⟩ = ("b", "u") ∧
    (render r response).markdown =
      "Ran Plan in 2 directories:\n * `a`\n * `b`\n\n" ++
        "## a/\nFound no template. This is a bug!\n---\n## b/\nu\n---\n\n" := by
  intro faults r response shown
  have houter : r.faults shown.outer = none := by decide
  have hkept : latest shown.projects = [⟨"a", none⟩, ⟨"b", some (.planSuccess "+1" "u")⟩] := by decide
  obtain ⟨-, hlogs, -, hmarkdown, -, hparts⟩ := faults_are_isolated r response
  have hnone := ((hparts ⟨"a", none⟩ (by decide)).2.1 (by intro t ht; cases ht)).trans (hparts ⟨"a", none⟩ (by decide)).1
  have hplan : part r ⟨"b", some (.planSuccess "+1" "u")⟩ = ("b", "u") :=
    (hparts ⟨"b", some (.planSuccess "+1" "u")⟩ (by decide)).2.2 _ _ rfl rfl
  refine ⟨⟨houter, rfl⟩, ?_, hplan, ?_⟩
  · have hreason : "template rendering failed: " ++ undefinedReason "missing" =
        "template rendering failed: 'missing' is undefined" := by decide +kernel
    have herror : ProjectResult.log? r.faults (⟨"a", some (.error "x")⟩ : ProjectResult String) =
        some (.error, "template rendering failed: " ++ undefinedReason "missing") :=
      Faults.log?_of_unknown (t := .error) rfl (by decide)
    have hown : ProjectResult.log? r.faults (⟨"b", some (.planSuccess "+1" "u")⟩ : ProjectResult String) = none :=
      Faults.log?_of_known (t := .planSuccess) (v := "lock_url") rfl (by decide)
    have hprojects : shown.projects = response.results := rfl
    rw [hlogs, hprojects, List.filterMap_cons_some herror, List.filterMap_cons_none hown, hreason]
    rfl
  · rw [hmarkdown houter, hkept, List.map_cons, List.map_cons, hnone, hplan]
    decide

theorem builtin_name_is_not_undefined :
    let r : Request := ⟨.plan, "", false, fun t => if t = .error then some "range" else none⟩
    let response : CommandResponse String := ⟨none, "", [⟨"p", some (.error "m")⟩]⟩
    "range" ∉ Template.error.variables ∧
      (render r response).logs ≠ [(.error, "template rendering failed: 'range' is undefined")] ∧
      render r response = ⟨"<class 'range'>\n\n", []⟩ := by
  decide

end Comment

end PullComment
