import PullComment.Proofs.Schema.Lossless
import PullComment.Proofs.Schema.Media
import PullComment.Proofs.Schema.RoundTrip

namespace PullComment.Schema

open Checked

inductive Input.InJson : Input → Prop
  | text (text : String) : InJson (.text text)
  | value (v : Json) : InJson (.json v)
  | memory (v : Json) : InJson (.memory (.ofJson v))

theorem Input.InJson.exists_readAs {input : Input} {model : Model} {r : Record} (h : input.InJson)
    (hr : input.validate model = .ok r) : ∃ v : Json, readAs model v = .ok r := by
  cases h with
  | text text =>
      have hread := validated_eq_ok_iff.mp hr
      unfold readJsonText at hread
      split at hread
      · exact ⟨_, reported_eq_ok_iff.mp hread⟩
      · cases hread
  | value v => exact ⟨v, (validate_json_eq_ok_iff.mp hr).2⟩
  | memory v =>
      rw [validate_memory_ofJson, validated_eq_ok_iff, reported_eq_ok_iff] at hr
      exact ⟨v, hr⟩

inductive Carries (v : Json) : Medium → Input → Prop
  | value : Carries v .json (.json v)
  | text (layout : Json.Layout) : Carries v .json (.text (Json.print layout v))
  | memory : Carries v .memory (.memory (.ofJson v))

theorem Carries.validate_eq {v : Json} {m : Medium} {input : Input} (h : Carries v m input)
    (hv : v.Plain Json.Reading.levelLimit) (model : Model) :
    input.validate model = validated (reported m (readAs model v)) := by
  cases h with
  | value => exact validate_json_of_withinLimits hv.withinLimits
  | text layout => rw [Input.validate, Input.readWith, readJsonText, Json.parse_print hv]
  | memory => exact validate_memory_ofJson model v

theorem Carries.validate_dump {o : DumpOptions} {r q : Record} {m : Medium} {input : Input}
    (h : Carries (r.dump o) m input) (hread : readAs r.model (r.dump o) = .ok q) :
    input.validate r.model = .ok q := by
  rw [h.validate_eq (r.plain_dump o), hread]
  rfl

theorem Carries.validate_dump_of_report {o : DumpOptions} {r : Record} {m : Medium} {input : Input}
    {vs : List Violation} (h : Carries (r.dump o) m input) (hreport : report r.model (r.dump o) = vs)
    (hne : vs ≠ []) : input.validate r.model = .error (.invalid ⟨m, vs⟩) := by
  have hread := reports_readAs r.model (r.dump o)
  rw [hreport] at hread
  rw [h.validate_eq (r.plain_dump o), hread.eq_error hne]
  rfl

end PullComment.Schema
