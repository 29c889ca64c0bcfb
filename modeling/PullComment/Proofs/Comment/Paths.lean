import PullComment.Comment.Render
import PullComment.Session.Patched

namespace PullComment

variable {π σ : Type} [Label π] [Label σ]

structure Label.Keeps (f : π → σ) : Prop where
  alike : ∀ a b, Label.alike (f a) (f b) = Label.alike a b
  text : ∀ a, Label.text (f a) = Label.text a
  quoted : ∀ a, Label.quoted (f a) = Label.quoted a

theorem Label.keeps_string : Label.Keeps Json.string where
  alike a b := Json.alike_string a b
  text _ := rfl
  quoted _ := rfl

def ProjectResult.mapPath (f : π → σ) (p : ProjectResult π) : ProjectResult σ :=
  ⟨f p.path, p.outcome⟩

def CommandResponse.mapPaths (f : π → σ) (r : CommandResponse π) : CommandResponse σ :=
  ⟨r.error, r.failure, r.results.map (ProjectResult.mapPath f)⟩

namespace Comment

variable {f : π → σ}

theorem ofResult_mapPath (hf : Label.Keeps f) (r : Request) (p : ProjectResult π) :
    ofResult r (p.mapPath f) = ofResult r p := by
  cases h : p.outcome <;> simp [ofResult, ProjectResult.mapPath, h, hf.text]

theorem put_map (hf : Label.Keeps f) (path : π) (text : String) (l : List (π × String)) :
    put (f path) text (l.map fun s => (f s.1, s.2)) = (put path text l).map fun s => (f s.1, s.2) := by
  induction l with
  | nil => rfl
  | cons s l ih =>
      obtain ⟨p, t⟩ := s
      simp only [List.map_cons, put, hf.alike, ih]
      split <;> rfl

theorem placed_map (hf : Label.Keeps f) (r : Request) (results : List (ProjectResult π)) :
    placed r (results.map (ProjectResult.mapPath f)) = (placed r results).map fun s => (f s.1, s.2) := by
  have main : ∀ (results : List (ProjectResult π)) (done : List (π × String)),
      (results.map (ProjectResult.mapPath f)).foldl
          (fun done p => put p.path (ofResult r p).markdown done) (done.map fun s => (f s.1, s.2)) =
        (results.foldl (fun done p => put p.path (ofResult r p).markdown done) done).map
          fun s => (f s.1, s.2) := by
    intro results
    induction results with
    | nil => intro done; rfl
    | cons p results ih =>
        intro done
        simp only [List.map_cons, List.foldl_cons, ofResult_mapPath hf]
        rw [← ih, ← put_map hf]
        rfl
  exact main results []

theorem ofResults_map (hf : Label.Keeps f) (r : Request) (results : List (ProjectResult π)) :
    ofResults r (results.map (ProjectResult.mapPath f)) = ofResults r results := by
  have hs : sections r (results.map (ProjectResult.mapPath f)) = sections r results := by
    simp [sections, placed_map hf, hf.text, Function.comp_def]
  have hw : asOne (placed r (results.map (ProjectResult.mapPath f))) = asOne (placed r results) := by
    simp [asOne, placed_map hf, hf.quoted, Function.comp_def]
  simp only [ofResults, hs, hw, List.flatMap_map, ofResult_mapPath hf]

theorem render_mapPaths (hf : Label.Keeps f) (r : Request) (response : CommandResponse π) :
    render r (response.mapPaths f) = render r response := by
  simp only [render, CommandResponse.mapPaths, ofResults_map hf]

end Comment

end PullComment
