import Dataflow.Draft
import Dataflow.Event
import Dataflow.Issue

/-! Repairs of a draft, with what they report.

One repair follows another on the draft that it leaves behind, and their reports
are put together in that order. -/
namespace Dataflow

structure Repair where
  draft : Draft
  issues : List Issue
  events : List Event

namespace Repair

/-- Nothing is repaired. -/
def none (draft : Draft) : Repair := ⟨draft, [], []⟩

/-- Another repair after this one. -/
def andThen (r : Repair) (next : Draft → Repair) : Repair :=
  let other := next r.draft
  ⟨other.draft, r.issues ++ other.issues, r.events ++ other.events⟩

@[simp] theorem draft_none (draft : Draft) : (none draft).draft = draft := rfl

@[simp] theorem issues_none (draft : Draft) : (none draft).issues = [] := rfl

@[simp] theorem events_none (draft : Draft) : (none draft).events = [] := rfl

section
variable (r : Repair) (next : Draft → Repair)

@[simp] theorem draft_andThen : (r.andThen next).draft = (next r.draft).draft := rfl

@[simp] theorem issues_andThen :
    (r.andThen next).issues = r.issues ++ (next r.draft).issues := rfl

@[simp] theorem events_andThen :
    (r.andThen next).events = r.events ++ (next r.draft).events := rfl

end

@[simp] theorem none_andThen (draft : Draft) (next : Draft → Repair) :
    (none draft).andThen next = next draft := rfl

end Repair

end Dataflow
