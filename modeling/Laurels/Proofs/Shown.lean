import Mathlib.Data.List.Forall2
import Laurels.Answer
import Laurels.Web

/-!
# What clients see

A report reaches its client as a value, an object of named fields with further objects in it. What is proved of a report
is of use to the client only if it can be read off that value, field by field, and `Report.ShownBy` says under which
names. So it is with a refusal, whose code stands in a field of its own (`Web.Response.Refuses`).

Nothing is lost on the way (`Report.shownBy_accept`).
-/

namespace Laurels

/-- A field of an object, if it has that field. -/
def Value.field? (name : String) : Value → Option Value
  | .object fields => fields.lookup name
  | _ => none

/-- Whether a value shows a requirement. -/
structure Requirement.ShownBy (r : Requirement) (v : Value) : Prop where
  metric : v.field? "metric" = some (.text r.metric)
  label : v.field? "metricLabel" = some (.text r.label)
  op : v.field? "op" = some (.text r.op.symbol)
  target : v.field? "target" = some (.number r.target)
  current : v.field? "current" = some (.number r.current)
  satisfied : v.field? "satisfied" = some (.flag r.satisfied)
  closeness : v.field? "progress01" = some (.number (.float r.closeness))

/-- Whether a value shows an entry, with the number of its requirements and of those that are satisfied. -/
structure Entry.ShownBy (e : Entry) (v : Value) : Prop where
  id : v.field? "id" = some (.int e.achievement.id)
  name : v.field? "name" = some (.text e.achievement.name)
  description : v.field? "description" = some (.text e.achievement.description)
  criteria : v.field? "criteria" = some (.text e.achievement.criteria)
  unlockedAt : v.field? "unlockedAtMs" = some (.int e.unlockedAt)
  eligible : v.field? "eligibleNow" = some (.flag e.eligible)
  overall : v.field? "overallProgress01" = some (.number (.float e.overall))
  begun : v.field? "hasAnyProgress" = some (.flag e.hasProgress)
  satisfied : v.field? "requirementsSatisfied" = some (.int e.satisfiedCount)
  total : v.field? "requirementsTotal" = some (.int e.requirements.length)
  requirements : ∃ shown, v.field? "requirements" = some (.list shown)
    ∧ List.Forall₂ Requirement.ShownBy e.requirements shown

/-- Whether a value shows a snapshot. -/
structure Snapshot.ShownBy (s : Snapshot) (v : Value) : Prop where
  races : v.field? "races" = some (.number s.races)
  finished : v.field? "finished" = some (.number s.finished)
  wins : v.field? "wins" = some (.number s.wins)
  dnf : v.field? "dnf" = some (.number s.dnf)
  actions : ∃ counters, v.field? "actions" = some (.object counters)
    ∧ List.Forall₂ (fun a c => c = (a.1, Value.number a.2)) s.actions counters

/-- Whether a value shows a report. -/
structure Report.ShownBy (r : Report) (v : Value) : Prop where
  viewer : v.field? "viewerUserId" = some (.text r.viewer)
  metrics : ∃ shown, v.field? "metrics" = some shown ∧ r.metrics.ShownBy shown
  entries : ∃ shown, v.field? "achievements" = some (.list shown) ∧ List.Forall₂ Entry.ShownBy r.entries shown

/-! ## Nothing is lost -/

theorem Requirement.shownBy_toValue (r : Requirement) : r.ShownBy r.toValue := by
  constructor <;> rfl

theorem Entry.shownBy_toValue (e : Entry) : e.ShownBy e.toValue := by
  refine ⟨rfl, rfl, rfl, rfl, rfl, rfl, rfl, rfl, rfl, rfl, e.requirements.map Requirement.toValue, rfl, ?_⟩
  rw [List.forall₂_map_right_iff, List.forall₂_same]
  exact fun r _ => r.shownBy_toValue

theorem Snapshot.shownBy_toValue (s : Snapshot) : s.ShownBy s.toValue := by
  refine ⟨rfl, rfl, rfl, rfl, _, rfl, ?_⟩
  rw [List.forall₂_map_right_iff, List.forall₂_same]
  exact fun _ _ => rfl

namespace Web

/-- Whether a response refuses with a code. -/
def Response.Refuses (response : Response) (code : String) : Prop :=
  response.body.field? "error" = some (.text code)

theorem refuses_refuse (status : Nat) (code message details : String) :
    (refuse status code message details).Refuses code := rfl

end Web

/-- **A report is shown by a response that has its fields,** next to the time at which it is told. -/
theorem Report.shownBy_accept (r : Report) (time : Int) :
    r.ShownBy (Web.accept (("serverTimeMs", .int time) :: r.fields)).body := by
  refine ⟨rfl, ⟨_, rfl, r.metrics.shownBy_toValue⟩, r.entries.map Entry.toValue, rfl, ?_⟩
  rw [List.forall₂_map_right_iff, List.forall₂_same]
  exact fun e _ => e.shownBy_toValue

end Laurels
