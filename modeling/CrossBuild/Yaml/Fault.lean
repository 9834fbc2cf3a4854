-- The faults of documents. Most documents that can not be read break the rules of the format;
-- the other faults are bytes that are no text, scalars that are written well and stand for no
-- value, and documents that lead on without an end.

namespace CrossBuild.Yaml

/-- What went wrong with a document. -/
inductive Fault where
  /-- The document breaks the rules of the format. -/
  | malformed
  /-- The document ends inside of a token. -/
  | unfinished
  /-- The document is not a text in UTF-8. -/
  | notText
  /-- A number, a date or a character that does not exist. -/
  | outOfRange
  /-- A number, or the code of a character, that is too large to be reckoned with. -/
  | tooLarge
  /-- A number without any digit. -/
  | emptyNumber
  /-- A text that is declared to be a truth value and is none. -/
  | unknownTruth
  /-- A text that is declared to be a point in time and is none. -/
  | unknownTime
  /-- A point in time that is declared of a mapping. -/
  | mappedTime
  /-- Collections that are nested too deep, or a scalar that is looked for without an end. -/
  | tooDeep
  deriving DecidableEq, Repr

end CrossBuild.Yaml
