import Teletype.Calendar
import Teletype.Decimal.Literal

/-!
# Documents that cannot be read

A settings document is malformed when its notation is broken or its parts do not fit together. It
cannot be read either when a scalar does not spell a value of the kind that it has: a number with
too many digits or with none, a day that is not in the calendar, or a character that does not exist.
-/

namespace Teletype

/-- Why a document cannot be read. -/
inductive DocumentFault where
  | malformed
  /-- A whole number has too many digits. -/
  | overlong (e : Overlong)
  /-- A scalar does not spell a whole number in its base. -/
  | notInteger (base : Nat) (t : Text)
  /-- A scalar does not spell a number. -/
  | notNumber (t : Text)
  /-- A number is spelt by nothing at all. -/
  | noNumeral
  /-- A scalar is no word for a truth value. -/
  | notTruth (t : Text)
  /-- A scalar does not spell a point in time. -/
  | notMoment
  /-- A point in time is spelt by a mapping. -/
  | mappingForMoment
  /-- A scalar spells a point in time that does not exist. -/
  | calendar (f : CalendarFault)
  /-- An escape names no character. -/
  | noCharacter
deriving DecidableEq, Repr

/-- The text that reports why a document cannot be read; a malformed one is reported with its
name, which stands in front. -/
def DocumentFault.message : DocumentFault → Text
  | malformed => "...".toList
  | overlong e => e.message.toList
  | notInteger base t => Literal.notIntegerMessage base t
  | notNumber t => Literal.notNumberMessage t
  | noNumeral => "string index out of range".toList
  | notTruth t => Text.quote t
  | notMoment => "'NoneType' object has no attribute 'groupdict'".toList
  | mappingForMoment => "expected string or bytes-like object, got 'list'".toList
  | calendar f => f.message.toList
  | noCharacter => "chr() arg not in range(0x110000)".toList

end Teletype
