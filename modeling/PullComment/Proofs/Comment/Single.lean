import PullComment.Proofs.Comment.Header

namespace PullComment

namespace Text

theorem append_cons_inj {mark : Char} {a a' b b' : List Char} (hb : mark ∉ b) (hb' : mark ∉ b')
    (h : a ++ mark :: b = a' ++ mark :: b') : a = a' ∧ b = b' := by
  rcases List.append_eq_append_iff.mp h with ⟨c, rfl, hc⟩ | ⟨c, rfl, hc⟩
  · cases c with
    | nil =>
        obtain ⟨-, rfl⟩ := List.cons.inj hc
        exact ⟨(List.append_nil a).symm, rfl⟩
    | cons d c =>
        obtain ⟨-, rfl⟩ := List.cons.inj hc
        simp at hb
  · cases c with
    | nil =>
        obtain ⟨-, rfl⟩ := List.cons.inj hc
        exact ⟨List.append_nil a', rfl⟩
    | cons d c =>
        obtain ⟨-, rfl⟩ := List.cons.inj hc
        simp at hb'

end Text

variable {π σ : Type} [Label π] [Label σ]

def CommandResponse.lastOutcome (response : CommandResponse π) : Option Outcome :=
  response.results.getLast?.bind ProjectResult.outcome

structure CommandResponse.OnOneProject (response : CommandResponse π) : Prop where
  error : response.error = none
  failure : response.failure = ""
  paths : response.paths.length = 1

def Outcome.lockUrl? : Outcome → Option String
  | .planSuccess _ lockUrl => some lockUrl
  | _ => none

def Outcome.UrlOnOneLine (o : Option Outcome) : Prop :=
  ∀ url ∈ o.bind lockUrl?, '\n' ∉ url.toList

section Latest

theorem settle_ne_nil (p : ProjectResult π) (kept : List (ProjectResult π)) : settle p kept ≠ [] := by
  cases kept with
  | nil => exact List.cons_ne_nil _ _
  | cons q kept =>
      rw [settle]
      split <;> exact List.cons_ne_nil _ _

theorem outcome_of_settle_eq_singleton {p q : ProjectResult π} {kept : List (ProjectResult π)}
    (h : settle p kept = [q]) : q.outcome = p.outcome := by
  cases kept with
  | nil =>
      cases h
      rfl
  | cons s kept =>
      rw [settle] at h
      split at h
      · cases h
        rfl
      · exact absurd (List.cons.inj h).2 (settle_ne_nil p kept)

theorem lastOutcome_of_latest_eq_singleton {response : CommandResponse π} {p : ProjectResult π}
    (h : latest response.results = [p]) : response.lastOutcome = p.outcome := by
  cases hresults : response.results using List.reverseRecOn with
  | nil =>
      rw [hresults] at h
      cases h
  | append_singleton before q _ =>
      have hq : settle q (latest before) = [p] := by
        rw [hresults, latest, List.foldl_append] at h
        exact h
      rw [CommandResponse.lastOutcome, hresults, List.getLast?_concat, Option.bind_some]
      exact (outcome_of_settle_eq_singleton hq).symm

end Latest

namespace Comment

open Text

section Injective

variable {command : String}

theorem errorText_injective {message message' : String}
    (h : Template.errorText command message = Template.errorText command message') : message = message' :=
  (String.append_right_inj _).mp ((String.append_left_inj _).mp h)

theorem failureText_injective {message message' : String}
    (h : Template.failureText command message = Template.failureText command message') : message = message' :=
  (String.append_right_inj _).mp ((String.append_left_inj _).mp h)

theorem applyText_injective {output output' : String}
    (h : Template.applyText output = Template.applyText output') : output = output' :=
  (String.append_right_inj _).mp ((String.append_left_inj _).mp h)

theorem toList_planText (terraformOutput lockUrl : String) :
    (Template.planText terraformOutput lockUrl).toList = ("```diff\n" ++ terraformOutput ++ "\n```\n").toList ++
      '\n' :: ("* To **discard** this plan click [here](" ++ lockUrl ++ ").").toList := by
  have hseam : "\n```\n\n* To **discard** this plan click [here](" =
      "\n```\n" ++ ("\n" ++ "* To **discard** this plan click [here](") := by decide
  rw [Template.planText, hseam]
  simp only [String.toList_append, List.append_assoc]
  rfl

theorem newline_notMem_lastLine {lockUrl : String} (h : '\n' ∉ lockUrl.toList) :
    '\n' ∉ ("* To **discard** this plan click [here](" ++ lockUrl ++ ").").toList := by
  simp only [String.toList_append, List.mem_append, not_or]
  exact ⟨⟨by decide, h⟩, by decide⟩

theorem planText_injective {terraformOutput lockUrl terraformOutput' lockUrl' : String}
    (hurl : '\n' ∉ lockUrl.toList) (hurl' : '\n' ∉ lockUrl'.toList)
    (h : Template.planText terraformOutput lockUrl = Template.planText terraformOutput' lockUrl') :
    terraformOutput = terraformOutput' ∧ lockUrl = lockUrl' := by
  have hlists := congrArg String.toList h
  rw [toList_planText, toList_planText] at hlists
  obtain ⟨hbefore, hline⟩ :=
    append_cons_inj (newline_notMem_lastLine hurl) (newline_notMem_lastLine hurl') hlists
  have houtput := String.toList_inj.mp hbefore
  have hurls := String.toList_inj.mp hline
  exact ⟨(String.append_right_inj _).mp ((String.append_left_inj _).mp houtput),
    (String.append_right_inj _).mp ((String.append_left_inj _).mp hurls)⟩

-- with a line feed in the URL the seam could be at either of two places
example : Template.planText "a" "b\n```\n\n* To **discard** this plan click [here](c" =
    Template.planText "a\n```\n\n* To **discard** this plan click [here](b" "c" := by decide

theorem errorText_ne_failureText (message failure : String) :
    Template.errorText command message ≠ Template.failureText command failure := by
  intro h
  simp only [Template.errorText, Template.failureText, String.append_assoc] at h
  have hrest := (String.append_right_inj _).mp ((String.append_right_inj _).mp h)
  have hletter := congrArg (fun s => s.toList[1]?) hrest
  simp only [String.toList_append] at hletter
  have hsame : some 'E' = some 'F' := hletter
  exact absurd hsame (by decide)

theorem planText_ne_applyText (terraformOutput lockUrl output : String) :
    Template.planText terraformOutput lockUrl ≠ Template.applyText output := by
  intro h
  have hlast := congrArg (fun s => s.toList.getLast?) h
  simp only [Template.planText, Template.applyText, String.toList_append, List.getLast?_append] at hlast
  exact absurd (Option.some.inj hlast) (by decide)

def firstMark : Option Outcome → Char
  | none => 'F'
  | some (.error _) => '*'
  | some (.failure _) => '*'
  | some (.planSuccess _ _) => '`'
  | some (.applySuccess _) => '`'

theorem head?_shownText (o : Option Outcome) : (shownText command o).toList.head? = some (firstMark o) := by
  cases o with
  | none =>
      show Template.noOutcomeText.toList.head? = some 'F'
      decide
  | some o =>
      cases o <;>
        simp only [shownText, Template.outcomeText, Template.errorText, Template.failureText, Template.planText,
          Template.applyText, String.toList_append, List.append_assoc] <;> rfl

theorem shownText_inj {o o' : Option Outcome} (ho : Outcome.UrlOnOneLine o) (ho' : Outcome.UrlOnOneLine o') :
    shownText command o = shownText command o' ↔ o = o' := by
  refine ⟨fun h => ?_, congrArg _⟩
  have hmark : firstMark o = firstMark o' := by
    have hheads := congrArg (fun s => s.toList.head?) h
    simp only [head?_shownText] at hheads
    exact Option.some.inj hheads
  -- outcomes of one first mark are told apart further on
  match o, o' with
  | none, none => rfl
  | some (.error _), some (.error _) => rw [errorText_injective h]
  | some (.failure _), some (.failure _) => rw [failureText_injective h]
  | some (.error message), some (.failure failure) => exact absurd h (errorText_ne_failureText message failure)
  | some (.failure failure), some (.error message) => exact absurd h.symm (errorText_ne_failureText message failure)
  | some (.planSuccess _ url), some (.planSuccess _ url') =>
      obtain ⟨rfl, rfl⟩ := planText_injective (ho url rfl) (ho' url' rfl) h
      rfl
  | some (.applySuccess _), some (.applySuccess _) => rw [applyText_injective h]
  | some (.planSuccess output url), some (.applySuccess output') =>
      exact absurd h (planText_ne_applyText output url output')
  | some (.applySuccess output'), some (.planSuccess output url) =>
      exact absurd h.symm (planText_ne_applyText output url output')
  | none, some o' => cases o' <;> exact absurd hmark (by simp [firstMark])
  | some o, none => cases o <;> exact absurd hmark (by simp [firstMark])
  | some (.error _), some (.planSuccess _ _) | some (.error _), some (.applySuccess _)
  | some (.failure _), some (.planSuccess _ _) | some (.failure _), some (.applySuccess _)
  | some (.planSuccess _ _), some (.error _) | some (.planSuccess _ _), some (.failure _)
  | some (.applySuccess _), some (.error _) | some (.applySuccess _), some (.failure _) =>
      exact absurd hmark (by simp [firstMark])

end Injective

theorem body_of_one_project {c : Command} (hc : c ≠ .help) {response : CommandResponse π}
    (h : response.OnOneProject) : response.body c = shownText c.title response.lastOutcome ++ "\n" := by
  have hone := h.paths
  rw [CommandResponse.paths, List.length_map] at hone
  obtain ⟨p, hp⟩ := List.length_eq_one_iff.mp hone
  rw [CommandResponse.body, CommandResponse.shown_of_ne_help hc, h.error, lastOutcome_of_latest_eq_singleton hp]
  simp only [h.failure, ↓reduceIte, Shown.body, hp, List.map_singleton, List.length_singleton,
    Template.singleText, String.join_cons, String.join_nil, String.append_empty, soundPart]

/-- Two comments, each on a single project, are the same just if the projects had the same outcome last. -/
theorem single_comment_tells_the_last_outcome {r : Request} (hr : r.command ≠ .help)
    (hfaults : r.faults = Faults.none) {response : CommandResponse π} {other : CommandResponse σ}
    (h : response.OnOneProject) (h' : other.OnOneProject) (hurl : Outcome.UrlOnOneLine response.lastOutcome)
    (hurl' : Outcome.UrlOnOneLine other.lastOutcome) :
    ((render r response).markdown = (render r other).markdown ↔ response.lastOutcome = other.lastOutcome) ∧
    ∀ plain : CommandResponse String, plain.paths = Members.distinct (plain.results.map ProjectResult.path) := by
  refine ⟨?_, fun plain => map_path_latest plain.results⟩
  rw [markdown_eq_body_append hr hfaults, markdown_eq_body_append hr hfaults, body_of_one_project hr h,
    body_of_one_project hr h', String.append_left_inj, String.append_left_inj]
  exact shownText_inj hurl hurl'

theorem single_comment_tells_the_last_outcome_beside_an_imitation :
    let r : Request := ⟨.apply, "L", true, Faults.none⟩
    let plan : Outcome := .planSuccess "x" "u"
    let output : Outcome := .applySuccess "x\n```\n\n* To **discard** this plan click [here](u)."
    let a : CommandResponse String := ⟨none, "", [⟨"a", none⟩, ⟨"a", some plan⟩]⟩
    let b : CommandResponse Json := ⟨none, "", [⟨.number (.integer 1), some plan⟩]⟩
    let c : CommandResponse String := ⟨none, "", [⟨"a", some output⟩]⟩
    (r.command ≠ .help ∧ a.OnOneProject ∧ b.OnOneProject ∧ c.OnOneProject ∧ Outcome.UrlOnOneLine a.lastOutcome ∧
      Outcome.UrlOnOneLine b.lastOutcome ∧ Outcome.UrlOnOneLine c.lastOutcome) ∧
    (render r a).markdown = (render r b).markdown ∧ (render r a).markdown ≠ (render r c).markdown := by
  intro r plan output a b c
  have hr : r.command ≠ .help := by decide
  have ha : a.OnOneProject := ⟨rfl, rfl, rfl⟩
  have hb : b.OnOneProject := ⟨rfl, rfl, rfl⟩
  have hc : c.OnOneProject := ⟨rfl, rfl, rfl⟩
  have hline : ∀ url ∈ some "u", '\n' ∉ url.toList := by decide
  have hnone : Outcome.UrlOnOneLine c.lastOutcome := nofun
  obtain ⟨hsame, -⟩ := single_comment_tells_the_last_outcome hr rfl ha hb hline hline
  obtain ⟨hother, -⟩ := single_comment_tells_the_last_outcome hr rfl ha hc hline hnone
  exact ⟨⟨hr, ha, hb, hc, hline, hline, hnone⟩, hsame.mpr rfl, fun h => absurd (hother.mp h) (by decide)⟩

end Comment

end PullComment
