import CrateDdl.Value.Text

/-!
# Faults

Everything that can go wrong, by cause, with the wording of each cause in one place. The first
four causes are those that a platform or a hook may raise on purpose, with any value as argument;
the others are misuses found on the way.
-/

set_option autoImplicit false

namespace CrateDdl

inductive Fault
  /-- A fault of a platform that has no closer description. -/
  | platform (argument : Value)
  /-- The database has no way to express the operation. -/
  | unsupported (operation : Value)
  | invalidArgument (argument : Value)
  | configuration (argument : Value)
  /-- A column was given something that is no column type. -/
  | columnType (column : String) (received : Value)
  | notLogicalType (received : Value)
  /-- A log level was given by a name that is not known. -/
  | unknownLevel (name : String)
  /-- A log level was given by something that is neither a number nor a name. -/
  | levelKind (received : Value)
  /-- A value that cannot be a key, because it can change. -/
  | unhashable (kind : String)
  /-- A signaling value that is no number cannot be a key. -/
  | signalingKey
  /-- A signaling value that is no number was compared with a number. -/
  | signalingComparison
  | notIterable (kind : String)
  /-- An item of a sequence to be joined is no text. -/
  | notText (position : Nat) (kind : String)
  | unknownKey (key : Value)
  /-- A value does not have an operation that texts have. -/
  | missingOperation (kind operation : String)
  /-- A byte string was asked to replace a text in itself. -/
  | bytesWanted
  | missingArguments (operation : String) (names : List String)
  /-- More arguments than an operation takes, which is from `least` to `most`. -/
  | surplusArguments (operation : String) (least most given : Nat)
  | unreadableFloat (text : String)
  | unreadableFraction (text : String)
  | unreadableDecimal
  /-- A character is no hexadecimal digit. -/
  | unreadableByte (position : Nat)
  /-- A decimal whose exponent is beyond all bounds. -/
  | decimalRange
  | zeroDenominator (numerator : Int)
  /-- A numeral has more digits than whole numbers may have. -/
  | longNumeral (digits : Nat)
  /-- A value cannot be written because of a whole number in it that is too long. -/
  | longValue
  /-- Handlers call each other without an end in sight. -/
  | nestedTooDeeply
deriving Repr, Inhabited

namespace Fault

/-- The operation is named by a text of this library. -/
def unsupportedOperation (name : String) : Fault := .unsupported (.text name)

/-- Names in quotes, with commas and a final conjunction. -/
def enumeration : List String → String
  | [] => ""
  | [a] => "'" ++ a ++ "'"
  | [a, b] => "'" ++ a ++ "' and '" ++ b ++ "'"
  | [a, b, c] => "'" ++ a ++ "', '" ++ b ++ "', and '" ++ c ++ "'"
  | a :: rest => "'" ++ a ++ "', " ++ enumeration rest

def plural (count : Nat) (noun : String) : String := if count = 1 then noun else noun ++ "s"

/-- The platform itself counts as the first argument of its operations. -/
def takes (least most : Nat) : String :=
  if least = most then
    toString (most + 1) ++ " positional " ++ plural (most + 1) "argument"
  else
    "from " ++ toString (least + 1) ++ " to " ++ toString (most + 1) ++ " positional arguments"

/-- The wording shown to users. -/
def message : Fault → String
  | platform argument | invalidArgument argument | configuration argument => argument.display
  | unsupported operation =>
    "Operation '" ++ operation.display ++ "' is not supported by platform."
  | columnType column received =>
    "Column '" ++ column ++ "' requires a LogicalType, StandardType or CustomSQL, received " ++
      received.literal
  | notLogicalType received => received.literal ++ " is not a valid LogicalType"
  | unknownLevel name => "Unknown level: " ++ Text.escaped name
  | levelKind received => "Level not an integer or a valid string: " ++ received.literal
  | unhashable kind => "unhashable type: '" ++ kind ++ "'"
  | signalingKey => "Cannot hash a signaling NaN value"
  | notIterable kind => "'" ++ kind ++ "' object is not iterable"
  | notText position kind =>
    "sequence item " ++ toString position ++ ": expected str instance, " ++ kind ++ " found"
  | unknownKey key => key.literal
  | missingOperation kind operation =>
    "'" ++ kind ++ "' object has no attribute '" ++ operation ++ "'"
  | bytesWanted => "a bytes-like object is required, not 'str'"
  | missingArguments operation names =>
    "CratePlatform." ++ operation ++ "() missing " ++ toString names.length ++
      " required positional " ++ plural names.length "argument" ++ ": " ++ enumeration names
  | surplusArguments operation least most given =>
    "CratePlatform." ++ operation ++ "() takes " ++ takes least most ++ " but " ++
      toString (given + 1) ++ " were given"
  | unreadableFloat text => "could not convert string to float: " ++ Text.escaped text
  | unreadableFraction text => "Invalid literal for Fraction: " ++ Text.escaped text
  | unreadableDecimal => "[<class 'decimal.ConversionSyntax'>]"
  | unreadableByte position =>
    "non-hexadecimal number found in fromhex() arg at position " ++ toString position
  | signalingComparison | decimalRange => "[<class 'decimal.InvalidOperation'>]"
  | zeroDenominator numerator => "Fraction(" ++ toString numerator ++ ", 0)"
  | longNumeral digits =>
    "Exceeds the limit (" ++ toString Value.maxDigits ++
      " digits) for integer string conversion: value has " ++ toString digits ++
      " digits; use sys.set_int_max_str_digits() to increase the limit"
  | longValue =>
    "Exceeds the limit (" ++ toString Value.maxDigits ++
      " digits) for integer string conversion; " ++
      "use sys.set_int_max_str_digits() to increase the limit"
  | nestedTooDeeply => "maximum recursion depth exceeded"

/-- The groups under which a fault can be caught. -/
inductive Category
  | platform
  | unsupported
  | invalidArgument
  | configuration
  | runtime
  | value
  | type
deriving DecidableEq, Repr

/-- The categories of a fault. Those that a platform raises on purpose are platform faults and
run-time faults; an invalid argument is a bad value as well. -/
def categories : Fault → List Category
  | platform _ => [.platform, .runtime]
  | unsupported _ => [.platform, .unsupported, .runtime]
  | invalidArgument _ => [.platform, .invalidArgument, .runtime, .value]
  | configuration _ => [.platform, .configuration, .runtime]
  | columnType .. | levelKind _ | unhashable _ | signalingKey | notIterable _ | notText ..
  | bytesWanted | missingArguments .. | surplusArguments .. => [.type]
  | notLogicalType _ | unknownLevel _ | unreadableFloat _ | unreadableFraction _
  | unreadableByte _ | longNumeral _ | longValue => [.value]
  | unknownKey _ | missingOperation .. | unreadableDecimal | decimalRange | signalingComparison
  | zeroDenominator _ => []
  | nestedTooDeeply => [.runtime]

end Fault

end CrateDdl
