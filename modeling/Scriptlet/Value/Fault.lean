/-
# Faults

Evaluation stops for one of these reasons.

    script             a diagnostic of the script
    raised             a `Mishap` in the library, in the host or with a file; the call that it
                       happened in turns it into a diagnostic
    exhausted          evaluation is nested too deeply
    interrupted        no failure: something outside wants everything to stop, and no call, no
                       `include` and no runner gets over it
    wordlessFailure    a failure of the host whose message cannot be put into words
    wordlessError      an error that the host states on behalf of the script, with such a
                       message

A host may choose any value for a message.  Nothing comes of that until the message is
needed, and then the `Obstacle` takes the place of the failure: for a failure of the host
itself at the call that it happened in, for an error that it states at the next `include`
or at the end of the run.

All wording of mishaps is here: `category` and `reason` are the two halves of
what a diagnostic quotes.
-/
import Scriptlet.Diagnostic
import Scriptlet.File.Fault
import Scriptlet.Token.Scan

namespace Scriptlet

/-- What a library or host function refuses, and why. -/
inductive Mishap where
  /-- An operator that does not take these types. -/
  | unsupportedOperands (symbol left right : String)
  | unorderable (symbol left right : String)
  | cannotConcatenate (sequence other : String)
  | cannotRepeat (count : String)
  | notCallable (type : String)
  | notIterable (type : String)
  | noLength (type : String)
  | noItemAssignment (type : String)
  | badListIndex (type : String)
  | cannotIndex (container key : String)
  | unhashable (type : String)
  | notAnInteger (type : String)
  | badFrameKey (name : String)
  /-- `pop` on an object, which would have to be told the key. -/
  | popNeedsKey
  | missingArguments (function : String) (names : List String)
  /-- More arguments than the `most` that the function takes; it needs `least`. -/
  | tooManyArguments (function : String) (least most given : Nat)
  | rangeTooFew
  | rangeTooMany (given : Nat)
  | noAttribute (type name : String)
  | countTooLarge (type : String)
  | indexTooLarge (type : String)
  | indexOutOfRange
  | integerTooLarge
  | quotientTooLarge
  | repeatTooLong
  | rangeTooLong
  | outOfMemory
  | divisionByZero
  | floatDivisionByZero
  | rangeStepZero
  /-- An integer too long to be written in decimal. -/
  | integerTooLong
  /-- An integer literal with too many digits. -/
  | literalTooLong (fault : TooManyDigits)
  /-- A failure of the host, in its own words. -/
  | host (kind text : String)
  /-- A value whose nesting leaves no room to write it. -/
  | nestedTooDeeplyToWrite
  | file (fault : File.Fault)
  deriving DecidableEq, Repr, Inhabited

namespace Mishap

/-- Names in quotes: `'a'`, `'a' and 'b'`, `'a', 'b', and 'c'`. -/
def nameList (names : List String) : String :=
  let quoted := names.map fun name => "'" ++ name ++ "'"
  match quoted with
  | [] => ""
  | [a] => a
  | [a, b] => a ++ " and " ++ b
  | many => ", ".intercalate many.dropLast ++ ", and " ++ many.getLastD ""

def plural (count : Nat) (noun : String) : String := if count = 1 then noun else noun ++ "s"

/-- The kind of mishap. -/
def category : Mishap → String
  | unsupportedOperands .. | unorderable .. | cannotConcatenate .. | cannotRepeat _
  | notCallable _ | notIterable _ | noLength _ | noItemAssignment _ | badListIndex _
  | cannotIndex .. | unhashable _ | notAnInteger _ | badFrameKey _ | popNeedsKey
  | missingArguments .. | tooManyArguments .. | rangeTooFew | rangeTooMany _ => "TypeError"
  | noAttribute .. => "AttributeError"
  | countTooLarge _ | integerTooLarge | quotientTooLarge | repeatTooLong
  | rangeTooLong => "OverflowError"
  | indexTooLarge _ | indexOutOfRange => "IndexError"
  | outOfMemory => "MemoryError"
  | divisionByZero | floatDivisionByZero => "ZeroDivisionError"
  | rangeStepZero | integerTooLong | literalTooLong _ => "ValueError"
  | host kind _ => kind
  | nestedTooDeeplyToWrite => "RecursionError"
  | file fault => fault.category

/-- Where to go for more digits. -/
def digitAdvice : String := "use sys.set_int_max_str_digits() to increase the limit"

def digitLimitText : String :=
  "Exceeds the limit (" ++ toString digitLimit ++ " digits) for integer string conversion"

/-- The words for a mishap. -/
def reason : Mishap → String
  | unsupportedOperands symbol left right =>
    "unsupported operand type(s) for " ++ symbol ++ ": '" ++ left ++ "' and '" ++ right ++ "'"
  | unorderable symbol left right =>
    "'" ++ symbol ++ "' not supported between instances of '" ++ left ++ "' and '" ++ right ++ "'"
  | cannotConcatenate sequence other =>
    "can only concatenate " ++ sequence ++ " (not \"" ++ other ++ "\") to " ++ sequence
  | cannotRepeat count => "can't multiply sequence by non-int of type '" ++ count ++ "'"
  | notCallable type => "'" ++ type ++ "' object is not callable"
  | notIterable type => "'" ++ type ++ "' object is not iterable"
  | noLength type => "object of type '" ++ type ++ "' has no len()"
  | noItemAssignment type => "'" ++ type ++ "' object does not support item assignment"
  | badListIndex type => "list indices must be integers or slices, not " ++ type
  | cannotIndex container key => "cannot index " ++ container ++ " with " ++ key
  | unhashable type => "unhashable type: '" ++ type ++ "'"
  | notAnInteger type => "'" ++ type ++ "' object cannot be interpreted as an integer"
  | badFrameKey name => "Environment key must be a str, not <class '" ++ name ++ "'>"
  | popNeedsKey => "pop expected at least 1 argument, got 0"
  | missingArguments function names =>
    function ++ "() missing " ++ toString names.length ++ " required positional " ++
      plural names.length "argument" ++ ": " ++ nameList names
  | tooManyArguments function least most given =>
    let takes :=
      if least = most then toString most ++ " positional " ++ plural most "argument"
      else "from " ++ toString least ++ " to " ++ toString most ++ " positional arguments"
    function ++ "() takes " ++ takes ++ " but " ++ toString given ++
      (if given = 1 then " was given" else " were given")
  | rangeTooFew => "range expected at least 1 argument, got 0"
  | rangeTooMany given => "range expected at most 3 arguments, got " ++ toString given
  | noAttribute type name => "'" ++ type ++ "' object has no attribute '" ++ name ++ "'"
  | countTooLarge type | indexTooLarge type =>
    "cannot fit '" ++ type ++ "' into an index-sized integer"
  | indexOutOfRange => "list assignment index out of range"
  | integerTooLarge => "int too large to convert to float"
  | quotientTooLarge => "integer division result too large for a float"
  | repeatTooLong => "repeated string is too long"
  | rangeTooLong => "Python int too large to convert to C ssize_t"
  | outOfMemory => ""
  | divisionByZero => "division by zero"
  | floatDivisionByZero => "float division by zero"
  | rangeStepZero => "range() arg 3 must not be zero"
  | integerTooLong => digitLimitText ++ "; " ++ digitAdvice
  | literalTooLong fault =>
    digitLimitText ++ ": value has " ++ toString fault.count ++ " digits; " ++ digitAdvice
  | host _ text => text
  | nestedTooDeeplyToWrite =>
    "maximum recursion depth exceeded while getting the repr of an object"
  | file fault => fault.reason

end Mishap

/-- What keeps a value from being put into words. -/
inductive Obstacle where
  /-- An integer in it is too long. -/
  | integerTooLong
  /-- It is nested too deeply. -/
  | tooDeep
  deriving DecidableEq, Repr, Inhabited

/-- Why evaluation stops. -/
inductive Fault where
  | script (diagnostic : Diagnostic)
  | raised (mishap : Mishap)
  | exhausted
  /-- No failure, but the word of the host or its user to stop everything. -/
  | interrupted (kind : String)
  /-- A failure of the host whose message cannot be put into words. -/
  | wordlessFailure (why : Obstacle)
  /-- An error stated by the host whose message cannot be put into words. -/
  | wordlessError (why : Obstacle)
  deriving Inhabited

/-- The fault that an obstacle is where words are needed during evaluation. -/
def Obstacle.fault : Obstacle → Fault
  | integerTooLong => .raised .integerTooLong
  | tooDeep => .exhausted

/-- The fault that an obstacle is where words are needed after evaluation. -/
def Obstacle.lateFault : Obstacle → Fault
  | integerTooLong => .raised .integerTooLong
  | tooDeep => .raised .nestedTooDeeplyToWrite

end Scriptlet
