import Laurels.Criteria.Parser
import Laurels.Number.Basic
import Laurels.Store.Query
import Laurels.Value

/-!
# Faults

A call that ends without an answer ends with a cause. Some causes are refusals, which have a code of their
own that clients see; the others are failures of the storage or of a computation.
-/

namespace Laurels

/-- The refusals, by what is refused. -/
inductive Refusal where
  | general
  | criteriaRequired
  | invalidCriteria
  | viewerRequired
  | storageMissing
deriving DecidableEq, Repr

namespace Refusal

/-- The code of a refusal. -/
def code : Refusal → String
  | .general => "achievement_error"
  | .criteriaRequired => "criteria_required"
  | .invalidCriteria => "invalid_criteria"
  | .viewerRequired => "missing_viewer_user_id"
  | .storageMissing => "db_not_initialized"

/-- The message of a refusal: what it is told with, or its code if that is empty. -/
def message (r : Refusal) (wording : Value) : Value := if wording.isEmpty then .text r.code else wording

end Refusal

/-- Why a call ends without an answer. -/
inductive Fault where
  | criteria (cause : CriteriaFault)
  | viewerRequired
  | store (cause : StoreFault)
  | number (cause : NumberFault)
  | shape (cause : ShapeFault)
  /-- A request names its target by something that is no reference. -/
  | badTarget
deriving DecidableEq, Repr

namespace CriteriaFault

/-- The refusal that a fault in a criteria text amounts to. -/
def refusal? : CriteriaFault → Option Refusal
  | .required => some .criteriaRequired
  | .badLine _ => some .invalidCriteria
  | .notFinite _ => some .invalidCriteria
  | .noClauses => some .invalidCriteria
  | .tooManyDigits _ => none

end CriteriaFault

/-- The wording of a fault of numbers. -/
def NumberFault.message : NumberFault → String
  | .integerTooLarge => "int too large to convert to float"
  | .quotientTooLarge => "integer division result too large for a float"
  | .infinite => "cannot convert float infinity to integer"
  | .notNumber => "cannot convert float NaN to integer"
  | .divisionByZero => "division by zero"
  | .unreadable => "not a numeral"
  | .wrongKind => "not a number"

/-- The wording of a fault of shape. -/
def ShapeFault.message : ShapeFault → String
  | .noList => "not a list"
  | .noFields => "not an object"
  | .noKey => "not a key"
  | .unknownField => "unknown field"
  | .noPair => "not a pair"
  | .unordered => "no common order"

namespace Fault

/-- The refusal that a fault amounts to, if it is one. -/
def refusal? : Fault → Option Refusal
  | .criteria cause => cause.refusal?
  | .viewerRequired => some .viewerRequired
  | .store (.missing _) => some .storageMissing
  | _ => none

/-- The wording of a fault. -/
def message : Fault → String
  | .criteria cause => cause.message
  | .viewerRequired => "Viewer user id is required."
  | .store cause => cause.message
  | .number cause => cause.message
  | .shape cause => cause.message
  | .badTarget => "not a reference"

end Fault

end Laurels
