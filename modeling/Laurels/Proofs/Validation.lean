import Laurels.Proofs.Criteria.WrittenOut
import Laurels.Web.Exchange

/-!
# Checked criteria

A client can have a criteria text checked, and is shown its clauses under canonical names. The clauses that are shown
can be used in place of those of the text: they agree with them clause by clause, and read the same counters
(`canonical_criteria`). If their thresholds are integers, they make up a criteria text once more, whatever space is
left between the parts of a line, and the check of that text is answered as the first one was.
-/

namespace Laurels

namespace Web

/-! ## The check -/

/-- A message that has a criteria text checked. -/
def Message.Checks (m : Message) (text : String) : Prop :=
  ∃ request, m.arrival? = some request ∧ request.method = "POST" ∧ Route.ofPath? request.path = some .validate
    ∧ criteriaOf request = .ok text

/-- The plainest such message. -/
def validation (text : String) : Message :=
  ⟨"POST", "/api/v1/achievements/validate", [], some (.object [("criteria", .text text)])⟩

theorem checks_validation (text : String) : (validation text).Checks text := by
  have hpath : Target.path? "/api/v1/achievements/validate" = some "/api/v1/achievements/validate".toList := by
    decide +kernel
  have harrival : (validation text).arrival? = some ⟨"POST", "/api/v1/achievements/validate".toList,
      [(typeHeader, "application/json")], some (.object [("criteria", .text text)])⟩ := by
    unfold Message.arrival? validation
    dsimp only
    rw [hpath]
    rfl
  have hroute : Route.ofPath? "/api/v1/achievements/validate".toList = some .validate := by decide +kernel
  have hcriteria : criteriaOf ⟨"POST", "/api/v1/achievements/validate".toList, [(typeHeader, "application/json")],
      some (.object [("criteria", .text text)])⟩ = .ok text := by
    have hjson : isJson "application/json" = true := by decide +kernel
    show (if !isJson "application/json" then .error bodyNoObject else criteriaIn [("criteria", .text text)]) = .ok text
    rw [hjson]
    rfl
  exact ⟨_, harrival, rfl, hroute, hcriteria⟩

theorem exchange_of_checks {m : Message} {text : String} (h : m.Checks text) : exchange m = validateText text := by
  obtain ⟨request, hm, hmethod, hroute, hcriteria⟩ := h
  have hfree : request.method ≠ "OPTIONS" := by
    rw [hmethod]
    decide
  have hanswers : Route.validate.methods.contains request.method = true := by
    rw [hmethod]
    decide
  have hvalidate : respond request .validate = validateText text := by
    unfold respond validate
    dsimp only
    rw [hcriteria]
  rw [exchange_of_route hm hfree hroute hanswers, hmethod, hvalidate]
  -- nothing is taken off the response to a message of this method
  unfold validateText
  split
  · rfl
  · split <;> rfl

end Web

/-! ## The clauses that are shown -/

/-- The clause that a value shows: an object with a metric, a comparison and a threshold. -/
def Clause.shownBy? : Value → Option Clause
  | .object fields => do
    let metric ← (fields.lookup "metric").bind Value.text?
    let op ← (fields.lookup "op").bind Value.text?
    let threshold ← (fields.lookup "threshold").bind Value.number?
    pure ⟨metric, .ofSymbol op, threshold⟩
  | _ => none

namespace Web

/-- The clauses that a response shows. -/
def Response.clauses? (r : Response) : Option (List Clause) :=
  match r.body with
  | .object fields =>
    match fields.lookup "clauses" with
    | some (.list xs) => xs.mapM Clause.shownBy?
    | _ => none
  | _ => none

/-- Whoever has a criteria text checked is shown these clauses. -/
structure Shows (text : String) (shown : List Clause) : Prop where
  asked : ∃ m : Message, m.Checks text
  answered : ∀ m : Message, m.Checks text →
    ∃ response, exchange m = .done response ∧ response.status = 200 ∧ response.clauses? = some shown

end Web

open Criteria

theorem Operator.ofSymbol_symbol (s : Spelling) : ofSymbol s.meaning.symbol = s.meaning := by
  cases s <;> rfl

/-- A clause is read off the value that shows it. -/
theorem Clause.shownBy?_toValue {c : Clause} {s : Spelling} (h : s.meaning = c.op) : shownBy? c.toValue = some c := by
  show some (Clause.mk c.metric (.ofSymbol c.op.symbol) c.threshold) = some c
  rw [← h, Operator.ofSymbol_symbol, h]

theorem shownBy?_toValues {cs : List Clause} (h : ∀ c ∈ cs, ∃ s : Spelling, s.meaning = c.op) :
    (cs.map Clause.toValue).mapM Clause.shownBy? = some cs := by
  induction cs with
  | nil => rfl
  | cons c cs ih =>
    rw [List.forall_mem_cons] at h
    obtain ⟨s, hs⟩ := h.1
    rw [List.map_cons, List.mapM_cons, Clause.shownBy?_toValue hs, ih h.2]
    rfl

namespace Web

theorem validateText_of_parse {text : String} {cs : List Clause} (h : parse text = .ok cs) :
    validateText text = .done (accept [("clauses", .list ((cs.map Clause.canonical).map Clause.toValue)),
      ("warnings", .list ((unknownMetrics cs).map fun name => .text (unknownWarning name)))]) := by
  unfold validateText
  rw [h, List.map_map]
  rfl

/-- **An accepted text is shown** as its clauses under canonical names. -/
theorem shows_of_parse {text : String} {cs : List Clause} (h : parse text = .ok cs) :
    Shows text (cs.map Clause.canonical) where
  asked := ⟨validation text, checks_validation text⟩
  answered := by
    intro m hm
    refine ⟨_, (exchange_of_checks hm).trans (validateText_of_parse h), rfl, shownBy?_toValues ?_⟩
    rw [List.forall_mem_map]
    intro c hc
    obtain ⟨_, _, r, _, _, hmeans⟩ := exists_line h c hc
    exact ⟨r.spelling, hmeans.op.symm.trans (Clause.op_canonical c).symm⟩

end Web

/-! ## Clauses under canonical names -/

/-- A text stands for another one, for whose check clauses are shown: it is read as these, and its check is answered
in the same way. -/
structure StandsFor (text' text : String) (shown : List Clause) : Prop where
  read : parse text' = .ok shown
  shows : Web.Shows text' shown
  alike : ∀ m m' : Web.Message, m.Checks text → m'.Checks text' → Web.exchange m' = Web.exchange m

/-- Clauses are shown for the clauses of a text, and mean what these mean. -/
structure Canonicalised (text : String) (clauses shown : List Clause) : Prop where
  shows : Web.Shows text shown
  /-- They measure and compare the same, one by one. -/
  agree : List.Forall₂ Clause.Agrees clauses shown
  satisfied : ∀ s, satisfied shown s = satisfied clauses s
  actionKeys : actionKeys shown = actionKeys clauses
  unknownMetrics : unknownMetrics shown = unknownMetrics clauses
  /-- If all thresholds are integers, the clauses can be written out again. -/
  rewritten : (∀ c ∈ clauses, ∃ n : Int, c.threshold = .int n) →
    ∀ gap, StandsFor (textOf gap shown) text shown

/--
**Canonicalising keeps the meaning of a rule.** The check of an accepted text shows its clauses under their canonical
names, and these clauses measure, compare and ask for the same. If they can be written out, with so many spaces
between their parts, they are a text that is read as these very clauses and is shown as them.
-/
theorem canonical_criteria {text : String} {clauses : List Clause} (h : parse text = .ok clauses) :
    Canonicalised text clauses (clauses.map Clause.canonical) := by
  have hname : ∀ c ∈ clauses, LowerName c.metric.toList := by
    intro c hc
    obtain ⟨_, _, haccepted⟩ := exists_line h c hc
    exact haccepted.lowerName
  have hagree : ∀ c ∈ clauses, c.Agrees c.canonical := fun c hc => Clause.agrees_canonical (hname c hc)
  have htarget : ∀ c ∈ clauses, c.canonical.target = c.target := fun c hc => Clause.target_canonical (hname c hc)
  have htwice : (clauses.map Clause.canonical).map Clause.canonical = clauses.map Clause.canonical := by
    rw [List.map_map]
    exact List.map_congr_left fun c hc => Clause.canonical_canonical (hname c hc)
  refine ⟨Web.shows_of_parse h, ?_, satisfied_map hagree, actionKeys_map htarget, unknownMetrics_map htarget, ?_⟩
  · rw [List.forall₂_map_right_iff, List.forall₂_same]
    exact hagree
  intro hint gap
  have hne : clauses.map Clause.canonical ≠ [] := mt List.map_eq_nil_iff.mp (parse_eq_ok h).1
  have hwritable : ∀ c ∈ clauses.map Clause.canonical, Writable c := by
    rw [List.forall_mem_map]
    intro c hc
    obtain ⟨_, _, haccepted⟩ := exists_line h c hc
    exact (haccepted.writable (hint c hc)).canonical
  have hread := parse_textOf hne hwritable gap
  have hshows := Web.shows_of_parse hread
  rw [htwice] at hshows
  refine ⟨hread, hshows, fun m m' hm hm' => ?_⟩
  rw [Web.exchange_of_checks hm, Web.exchange_of_checks hm', Web.validateText_of_parse h,
    Web.validateText_of_parse hread, htwice, unknownMetrics_map htarget]

/-- A text with an action within an action, a further spelling, zeros in front and a name that measures nothing. -/
def nestedText : String := "Action_action.Jump > -7\n# finished\nDNFs = +003; laps != 12"

/-- The clauses of the text. -/
def nestedClauses : List Clause :=
  [⟨"action_action.jump", .above, .int (-7)⟩, ⟨"dnfs", .equal, .int 3⟩, ⟨"laps", .notEqual, .int 12⟩]

/-- The clauses that are shown for it. -/
def nestedShown : List Clause :=
  [⟨"action:action.jump", .above, .int (-7)⟩, ⟨"dnf", .equal, .int 3⟩, ⟨"laps", .notEqual, .int 12⟩]

theorem canonical_criteria_nested :
    parse nestedText = .ok nestedClauses ∧ Canonicalised nestedText nestedClauses nestedShown
      ∧ textOf 0 nestedShown = "action:action.jump>-7\ndnf==3\nlaps!=12" := by
  have hparse : parse nestedText = .ok nestedClauses := by decide +kernel
  have hshown : nestedClauses.map Clause.canonical = nestedShown := by decide +kernel
  have h := canonical_criteria hparse
  rw [hshown] at h
  exact ⟨hparse, h, by decide +kernel⟩

end Laurels
