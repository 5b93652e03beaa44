/-
# What can go wrong with a file

A file that is not there, cannot be one or does not hold text in the encoding
asked for.  `category` and `reason` are the two halves of every report.
-/
import Scriptlet.Text.Quoted

namespace Scriptlet.File

/-- Why bytes are not text. -/
inductive BadBytes where
  | invalidStart
  | invalidContinuation
  | unexpectedEnd
  /-- A byte beyond ASCII. -/
  | outOfRange
  /-- Bytes that are too few for a unit of their encoding. -/
  | truncatedUnit
  /-- A first half of a pair of units whose second half is something else. -/
  | brokenPair
  /-- A second half of a pair of units on its own. -/
  | loneSecondHalf
  | surrogate
  | beyondLastCharacter
  /-- A byte that has no character on its code page. -/
  | unmapped
  | specialCharacter
  | illFormedShift
  | partialCharacter
  | strayPadding
  | unterminatedShift
  | loneBackslash
  /-- An escape with too few hexadecimal digits; `form` is how it is written. -/
  | truncatedEscape (form : String)
  | escapeBeyondLast
  | rawEscapeBeyondLast
  | malformedNamedEscape
  | unknownCharacterName
  | illegalMultibyte
  /-- Bytes that are too few for a character. -/
  | incompleteMultibyte
  deriving DecidableEq, Repr, Inhabited

def BadBytes.message : BadBytes → String
  | .invalidStart => "invalid start byte"
  | .invalidContinuation => "invalid continuation byte"
  | .unexpectedEnd => "unexpected end of data"
  | .outOfRange => "ordinal not in range(128)"
  | .truncatedUnit => "truncated data"
  | .brokenPair => "illegal UTF-16 surrogate"
  | .loneSecondHalf => "illegal encoding"
  | .surrogate => "code point in surrogate code point range(0xd800, 0xe000)"
  | .beyondLastCharacter => "code point not in range(0x110000)"
  | .unmapped => "character maps to <undefined>"
  | .specialCharacter => "unexpected special character"
  | .illFormedShift => "ill-formed sequence"
  | .partialCharacter => "partial character in shift sequence"
  | .strayPadding => "non-zero padding bits in shift sequence"
  | .unterminatedShift => "unterminated shift sequence"
  | .loneBackslash => "\\ at end of string"
  | .truncatedEscape form => "truncated " ++ form ++ " escape"
  | .escapeBeyondLast => "illegal Unicode character"
  | .rawEscapeBeyondLast => "\\Uxxxxxxxx out of range"
  | .malformedNamedEscape => "malformed \\N character escape"
  | .unknownCharacterName => "unknown Unicode character name"
  | .illegalMultibyte => "illegal multibyte sequence"
  | .incompleteMultibyte => "incomplete multibyte sequence"

/-- Why numbers behind a hyphen are no characters. -/
inductive BadPunycode where
  | incomplete
  | noDigit (c : Char)
  /-- A number leads beyond the last code point. -/
  | beyondLast (code : Nat)
  deriving DecidableEq, Repr, Inhabited

def BadPunycode.message : BadPunycode → String
  | .incomplete => "incomplete punicode string"
  | .noDigit c => "Invalid extended code point '" ++ c.toString ++ "'"
  | .beyondLast code => "Invalid character U+" ++ String.ofList (Text.hexDigits 1 code)

/-- Why a label of a domain name is none. -/
inductive BadLabel where
  | punycode (why : BadPunycode)
  /-- A code point that names may not hold. -/
  | prohibited (code : Nat)
  /-- Characters of both directions of writing. -/
  | bothDirections
  /-- A text from right to left with something else at an end. -/
  | openDirection
  | badLength
  /-- A text that begins as if it was in Punycode. -/
  | marked
  /-- The label is written otherwise than its text would be, which is `form`. -/
  | otherForm (label form : List Nat)
  deriving DecidableEq, Repr, Inhabited

def BadLabel.message : BadLabel → String
  | .punycode why =>
    "decoding with 'punycode' codec failed (UnicodeError: " ++ why.message ++ ")"
  | .prohibited code => "Invalid character " ++ Text.quotedCode code
  | .bothDirections => "Violation of BIDI requirement 2"
  | .openDirection => "Violation of BIDI requirement 3"
  | .badLength => "label empty or too long"
  | .marked => "Label starts with ACE prefix"
  | .otherForm label form =>
    "('IDNA does not round-trip', " ++ Text.quotedBytes label ++ ", " ++
      Text.quotedBytes form ++ ")"

/-- Why a file gives no text. -/
inductive Fault where
  | notFound (path : String)
  | notADirectory (path : String)
  | isADirectory (path : String)
  | nameTooLong (path : String)
  | embeddedNull
  /-- The bytes from `first` to `last` are no text; `byte` is the first of them. -/
  | undecodable (encoding : String) (byte first last : Nat) (why : BadBytes)
  | unknownEncoding (name : String)
  /-- The name of an encoding has a NUL in it. -/
  | nullInEncoding
  /-- The encoding turns bytes into bytes. -/
  | notATextEncoding (name : String)
  /-- The bytes must say in which order they stand, and do not. -/
  | noByteOrderMark (units : String)
  | undefinedEncoding
  /-- A single shift into a character set that has no single shift. -/
  | internalFailure
  | badPunycode (why : BadPunycode)
  | badLabel (why : BadLabel)
  deriving DecidableEq, Repr, Inhabited

namespace Fault

/-- The kind of fault. -/
def category : Fault → String
  | notFound _ => "FileNotFoundError"
  | notADirectory _ => "NotADirectoryError"
  | isADirectory _ => "IsADirectoryError"
  | nameTooLong _ => "OSError"
  | embeddedNull => "ValueError"
  | undecodable .. => "UnicodeDecodeError"
  | unknownEncoding _ => "LookupError"
  | nullInEncoding => "ValueError"
  | notATextEncoding _ => "LookupError"
  | noByteOrderMark _ => "UnicodeError"
  | undefinedEncoding => "UnicodeError"
  | internalFailure => "RuntimeError"
  | badPunycode _ => "UnicodeError"
  | badLabel _ => "UnicodeError"

/-- The words for a fault. -/
def reason : Fault → String
  | notFound path => "[Errno 2] No such file or directory: " ++ Text.quoted path
  | notADirectory path => "[Errno 20] Not a directory: " ++ Text.quoted path
  | isADirectory path => "[Errno 21] Is a directory: " ++ Text.quoted path
  | nameTooLong path => "[Errno 36] File name too long: " ++ Text.quoted path
  | embeddedNull => "embedded null byte"
  | undecodable encoding byte first last why =>
    let place :=
      if first = last then
        "byte 0x" ++ String.ofList (Text.hexDigits 2 byte) ++ " in position " ++ toString first
      else "bytes in position " ++ toString first ++ "-" ++ toString last
    "'" ++ encoding ++ "' codec can't decode " ++ place ++ ": " ++ why.message
  | unknownEncoding name => "unknown encoding: " ++ name
  | nullInEncoding => "embedded null character"
  | notATextEncoding name =>
    "'" ++ name ++ "' is not a text encoding; use codecs.open() to handle arbitrary codecs"
  | noByteOrderMark units => units ++ " stream does not start with BOM"
  | undefinedEncoding => "undefined encoding"
  | internalFailure => "internal codec error"
  | badPunycode why => why.message
  | badLabel why => why.message

end Fault

end Scriptlet.File
