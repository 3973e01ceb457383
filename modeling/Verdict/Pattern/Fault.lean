/-!
# What a pattern is refused for

A text is no pattern if it is malformed, and a pattern that would take too much room is not searched for.
-/

namespace Verdict

inductive PatternFault where
  | malformed
  | tooLarge
deriving DecidableEq, Repr

namespace Pattern

/-- The most bytes that a pattern may count. -/
def maxBytes : Nat := 10 * 1024 * 1024

end Pattern

/-- The first line of what is said about a pattern. -/
def PatternFault.message : PatternFault → String
  | malformed => "regex parse error:"
  | tooLarge => "Compiled regex exceeds size limit of " ++ toString Pattern.maxBytes ++ " bytes."

end Verdict
