/-! What can go wrong while a condition is tested or a value is worked out. -/

namespace BuildingQuery

inductive Fault where
  /-- An integer lies beyond the range of floats. -/
  | integerTooLarge
  /-- A regular expression has a count at or above the limit. -/
  | hugeCount
  /-- A regular expression asks for two kinds of character classes at once. -/
  | scriptConflict
  /-- A value is of a kind that the operation does not know. -/
  | mistyped
  /-- Something is asked of a value that has nothing of the kind. -/
  | missingPart
deriving DecidableEq

end BuildingQuery
