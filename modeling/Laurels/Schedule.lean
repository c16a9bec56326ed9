import Laurels.World

/-!
# Procedures side by side

Several procedures can be under way at once, their steps interleaved, while other things happen at once. The
two-phase schedule is the interleaving in which awards race each other hardest: each procedure in turn runs
until it has read which pairs are unlocked, and only then does each in turn go on to its end. An event happens
in the first phase, when its turn comes.
-/

namespace Laurels

/-- What takes part in a schedule. -/
inductive Participant (α : Type) where
  /-- A procedure, which others may interrupt between two of its steps. -/
  | procedure (p : Procedure α)
  /-- Something that happens at once. -/
  | event (happen : World → α × World)

/-- Whether a query reads which pairs are unlocked. -/
def readsPairs : Query → Bool
  | .unlockedPairs .. => true
  | _ => false

namespace Participant

variable {α : Type}

/-- Let a participant run through its first query that `gate` accepts and that is answered, or to its end. -/
def approach (gate : Query → Bool) (p : Participant α) (w : World) : Procedure α × World :=
  match p with
  | .procedure p => p.runThrough gate w
  | .event happen => (.done (happen w).1, (happen w).2)

/-- Let a participant run to its end alone. -/
def run (p : Participant α) (w : World) : Except Fault α × World :=
  match p with
  | .procedure p => p.run w
  | .event happen => (.ok (happen w).1, (happen w).2)

end Participant

namespace Schedule

variable {α : Type}

/-- Let each participant in turn approach its gate. -/
def approach (gate : Query → Bool) : List (Participant α) → World → List (Procedure α) × World
  | [], w => ([], w)
  | p :: ps, w =>
    let r := p.approach gate w
    let rest := approach gate ps r.2
    (r.1 :: rest.1, rest.2)

/-- Let each procedure in turn run to its end. -/
def finish : List (Procedure α) → World → List (Except Fault α) × World
  | [], w => ([], w)
  | p :: ps, w =>
    let r := p.run w
    let rest := finish ps r.2
    (r.1 :: rest.1, rest.2)

/-- The two-phase schedule. -/
def twoPhase (ps : List (Participant α)) (w : World) : List (Except Fault α) × World :=
  let r := approach readsPairs ps w
  finish r.1 r.2

end Schedule

end Laurels
