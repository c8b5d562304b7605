/-
The balance of braces in a text. A character behind a backslash does not
count.
-/
import Coursebook.Command.Argument

namespace Coursebook.Command

/-- How many braces a text opens beyond those that it closes; negative if it closes more. -/
def braceBalance : Text → Int
  | [] => 0
  | ['\\'] => 0
  | '\\' :: _ :: s => braceBalance s
  | '{' :: s => braceBalance s + 1
  | '}' :: s => braceBalance s - 1
  | _ :: s => braceBalance s

end Coursebook.Command
