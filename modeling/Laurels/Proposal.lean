import Laurels.Award

/-!
# Proposed achievements

An achievement that is proposed, and not yet in the catalogue, has an id and a name that are values of any
kind, and so are its criteria. It is compiled as those of the catalogue are: one that is proposed as it stands
there is named alike in the log (`mention_proposal`) and has the same criteria (`asText_criteria_proposal`).
-/

namespace Laurels

/-- An achievement that is proposed. -/
structure Proposal where
  id : Value
  name : Value
  criteria : Value

namespace Proposal

/-- Name a proposed achievement in the log. -/
def mention (p : Proposal) : String := p.id.written ++ " (" ++ p.name.nested ++ ")"

end Proposal

/-- The proposed achievements whose criteria are accepted, with their clauses. One without an id is passed
over. -/
def compileProposals (warn : Bool) : List Proposal → Procedure (List (Proposal × List Clause))
  | [] => .done []
  | p :: rest =>
    if p.id.isEmpty then compileProposals warn rest
    else do
      let clauses? ← compileCriteria warn p.mention p.criteria.asText
      let compiled ← compileProposals warn rest
      pure ((clauses?.map fun clauses => (p, clauses)).toList ++ compiled)

/-- An achievement of the catalogue as a proposal. -/
def Achievement.proposal (a : Achievement) : Proposal := ⟨.int a.id, .text a.name, .text a.criteria⟩

theorem Achievement.mention_proposal (a : Achievement) : a.proposal.mention = a.mention := rfl

theorem Achievement.asText_criteria_proposal (a : Achievement) : a.proposal.criteria.asText = a.criteria := by
  cases h : a.criteria.isEmpty with
  | true =>
    have empty : a.criteria = "" := by simpa using h
    simp [proposal, Value.asText, Value.isEmpty, empty]
  | false => simp [proposal, Value.asText, Value.isEmpty, Value.written, h]

end Laurels
