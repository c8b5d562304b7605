/-
What can go wrong outside the texts themselves. Reading and writing a text
never fails: what is malformed is carried through. Failures come from files,
from documents that are no records, from texts that are refused, and from
the browser.
-/
import Coursebook.Integrity.Sanitize

namespace Coursebook

/-- A failure and its cause. -/
inductive Failure where
  | file (reason : Text)
  | json (reason : Text)
  | invalidDocument (reason : Text)
  | rejected (rejection : Integrity.Rejection)
  | capture (reason : Text)
  | browser (reason : Text)
  | rendering (reason : Text)
  | other (reason : Text)
deriving Repr, DecidableEq

namespace Failure

def message : Failure → Text
  | file reason => "I/O error: ".toList ++ reason
  | json reason => "JSON error: ".toList ++ reason
  | invalidDocument reason => "Invalid document: ".toList ++ reason
  | rejected r =>
    "Content rejected: ".toList ++ Text.ofNat r.fatal ++ " fatal of ".toList ++ Text.ofNat r.findings ++ " findings".toList
  | capture reason => "Capture failed: ".toList ++ reason
  | browser reason => "Browser error: ".toList ++ reason
  | rendering reason => "Rendering error: ".toList ++ reason
  | other reason => reason

end Failure

end Coursebook
