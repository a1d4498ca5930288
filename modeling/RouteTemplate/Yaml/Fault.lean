/-
Why a YAML document cannot be read.
-/

namespace RouteTemplate
namespace Yaml

inductive Fault where
  /-- The text breaks the rules of the format, or holds more than plain data. -/
  | malformed
  /-- An escape by number that is beyond the last character. -/
  | noSuchCharacter
  /-- An escape by number of more than 31 bits. -/
  | escapeTooGreat
  /-- Collections that are nested too deep, or a default value without an end. -/
  | tooDeep
  /-- A scalar tagged with a type whose form it does not have. -/
  | notInteger
  | notNumber
  | notFlag
  | notDate
  /-- A scalar tagged as a number that holds no digits at all. -/
  | noDigits
  /-- A number with so many parts that what the first of them counts for is
  beyond all numbers. -/
  | tooManyParts
  /-- A date of the right form that is not in the calendar. -/
  | noSuchDay
  /-- A date that is given as the default of a mapping. -/
  | dateOfMapping
deriving DecidableEq, Repr

end Yaml
end RouteTemplate
