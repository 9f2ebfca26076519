import Clipbook.Text.Quoted

/-!
# Clipbook — faults and warnings

A fault ends a computation; a warning is left beside its result.  Both are named for their cause,
and the wording is in `Fault.message` and `Warning.message`.
-/

namespace Clipbook

/-! ## What faults speak of -/

/-- What a value is. -/
inductive Kind where
  | null
  | bool
  | int
  | float
  | str
  | arr
  | obj
  deriving DecidableEq, Repr

/-- The name that messages give a kind. -/
def Kind.name : Kind → Text
  | .null => "NoneType".toList
  | .bool => "bool".toList
  | .int => "int".toList
  | .float => "float".toList
  | .str => "str".toList
  | .arr => "list".toList
  | .obj => "dict".toList

/-- What can be done with a clip. -/
inductive Action where
  | addToVault
  | saveFile
  | copy
  | share
  deriving DecidableEq, Repr

namespace Action

def all : List Action :=
  [addToVault, saveFile, copy, share]

def name : Action → Text
  | addToVault => "addToObsidian".toList
  | saveFile => "saveFile".toList
  | copy => "copyToClipboard".toList
  | share => "share".toList

def names : List Text :=
  all.map name

end Action

/-! ## Faults of JSON text -/

inductive JsonFault where
  | byteOrderMark
  | expectedValue
  | expectedName
  | expectedColon
  | expectedComma
  | openText
  | controlCharacter
  | badEscape
  | badUnicodeEscape
  | extraData
  deriving DecidableEq, Repr

def JsonFault.message : JsonFault → Text
  | byteOrderMark => "Unexpected UTF-8 BOM (decode using utf-8-sig)".toList
  | expectedValue => "Expecting value".toList
  | expectedName => "Expecting property name enclosed in double quotes".toList
  | expectedColon => "Expecting ':' delimiter".toList
  | expectedComma => "Expecting ',' delimiter".toList
  | openText => "Unterminated string starting at".toList
  | controlCharacter => "Invalid control character at".toList
  | badEscape => "Invalid \\escape".toList
  | badUnicodeEscape => "Invalid \\uXXXX escape".toList
  | extraData => "Extra data".toList

/-- A place in a text: line and column count from one, the offset from zero. -/
structure Position where
  line : Nat
  column : Nat
  offset : Nat
  deriving DecidableEq, Repr

/-- The place after the given text. -/
def Position.after (t : Text) : Position :=
  ⟨t.count '\n' + 1, (t.reverse.takeWhile (· ≠ '\n')).length + 1, t.length⟩

/-! ## Faults of files -/

inductive PathFault where
  | nameTooLong
  | isFile
  | belowFile
  | isFolder
  deriving DecidableEq, Repr

def PathFault.message : PathFault → Text
  | nameTooLong => "File name too long".toList
  | isFile => "File exists".toList
  | belowFile => "Not a directory".toList
  | isFolder => "Is a directory".toList

/-! ## Faults -/

inductive Fault where
  | notInteger (numeral : Text)
  | longNumeral (digits : Nat)
  | notANumber
  | quotientTooLarge
  | tooDeep
  | repetitionTooLarge
  | json (fault : JsonFault) (place : Position)
  | noMember (kind : Kind) (member : Text)
  | notIterable (kind : Kind)
  | notSubscriptable (kind : Kind)
  | indexNotInteger
  | noMarkup (literal : Text)
  | notSearchable (kind : Kind)
  | unhashableSlice
  | notText (index : Nat) (kind : Kind)
  | unhashable (kind : Kind)
  | missingKey (key : Text)
  | invalidUrl (url : Text)
  | invalidHost
  | ambiguousHost (host : Text)
  | notAddress (host : Text)
  | futureAddress
  | bracketedAddress
  | yearOutOfRange (year : Int)
  | instantOutOfRange
  | instantNotRepresentable
  | unknownPropertyType (type name : Text)
  | invalidTemplatesFile (path reason : Text)
  | invalidTemplate (path reason : Text)
  | noTemplate
  | unknownAction (action : Text)
  | missingColumn (column : Text)
  | unknownLevel (level : Text)
  | unknownHome
  | nullInPath
  | unreachable (cause : PathFault)
  | limitTooLarge
  | rejectedMarkup (reason : Text)
  | notCallable (kind : Kind)
  | unexpectedArgument (callee argument : Text)
  /-- A fault of an engine, in its own words. -/
  | engine (reason : Text)
  | pageContent (reason : Text)
  deriving DecidableEq, Repr

namespace Fault

def message : Fault → Text
  | notInteger numeral =>
    "invalid literal for int() with base 10: ".toList ++ (Text.quoted numeral).take 200
  | longNumeral digits =>
    "Exceeds the limit (4300 digits) for integer string conversion: value has ".toList
      ++ Text.ofNat digits
      ++ " digits; use sys.set_int_max_str_digits() to increase the limit".toList
  | notANumber => "cannot convert float NaN to integer".toList
  | quotientTooLarge => "integer division result too large for a float".toList
  | tooDeep => "maximum recursion depth exceeded".toList
  | repetitionTooLarge => "the repetition number is too large".toList
  | json fault place =>
    fault.message ++ ": line ".toList ++ Text.ofNat place.line ++ " column ".toList
      ++ Text.ofNat place.column ++ " (char ".toList ++ Text.ofNat place.offset ++ [')']
  | noMember kind member =>
    '\'' :: kind.name ++ "' object has no attribute '".toList ++ member ++ ['\'']
  | notIterable kind => '\'' :: kind.name ++ "' object is not iterable".toList
  | notSubscriptable kind => '\'' :: kind.name ++ "' object is not subscriptable".toList
  | indexNotInteger => "list indices must be integers or slices, not str".toList
  | noMarkup literal =>
    "Incoming markup is of an invalid type: ".toList ++ literal
      ++ ". Markup must be a string, a bytestring, or an open filehandle.".toList
  | notSearchable kind =>
    "expected string or bytes-like object, got '".toList ++ kind.name ++ ['\'']
  | unhashableSlice => "unhashable type: 'slice'".toList
  | notText index kind =>
    "sequence item ".toList ++ Text.ofNat index ++ ": expected str instance, ".toList ++ kind.name
      ++ " found".toList
  | unhashable kind => "unhashable type: '".toList ++ kind.name ++ ['\'']
  | missingKey key => Text.quoted key
  | invalidUrl url => "Invalid URL: ".toList ++ Text.quoted url
  | invalidHost => "Invalid IPv6 URL".toList
  | ambiguousHost host =>
    "netloc '".toList ++ host ++ "' contains invalid characters under NFKC normalization".toList
  | notAddress host =>
    Text.quoted host ++ " does not appear to be an IPv4 or IPv6 address".toList
  | futureAddress => "IPvFuture address is invalid".toList
  | bracketedAddress => "An IPv4 address cannot be in brackets".toList
  | yearOutOfRange year => "year ".toList ++ Text.ofInt year ++ " is out of range".toList
  | instantOutOfRange => "timestamp out of range for platform time_t".toList
  | instantNotRepresentable => "[Errno 75] Value too large for defined data type".toList
  | unknownPropertyType type name =>
    "Unknown property type ".toList ++ type ++ " for ".toList ++ name
  | invalidTemplatesFile path reason =>
    "Invalid templates file ".toList ++ path ++ ": ".toList ++ reason
  | invalidTemplate path reason => "Invalid template in ".toList ++ path ++ ": ".toList ++ reason
  | noTemplate => []
  | unknownAction action =>
    "Unknown action '".toList ++ action ++ "'. Expected one of: ".toList
      ++ Text.join ", ".toList Action.names
  | missingColumn column => "NOT NULL constraint failed: ".toList ++ column
  | unknownLevel level => "Unknown level: ".toList ++ Text.quoted level
  | unknownHome => "Could not determine home directory.".toList
  | nullInPath => "embedded null byte".toList
  | unreachable cause => cause.message
  | limitTooLarge => "Python int too large to convert to SQLite INTEGER".toList
  | rejectedMarkup reason => reason
  | notCallable kind => '\'' :: kind.name ++ "' object is not callable".toList
  | unexpectedArgument callee argument =>
    callee ++ "() got an unexpected keyword argument '".toList ++ argument ++ ['\'']
  | engine reason => reason
  | pageContent reason => "Unable to initialize page content: ".toList ++ reason

end Fault

/-! ## Warnings -/

inductive Warning where
  | unknownFilter (name : Text)
  | filterFailed (name : Text)
  | invalidPattern (pattern : Text)
  | invalidSplitPattern (pattern : Text)
  | invalidSelector (selector : Text)
  | invalidDuration
  | deepSchema (property : Text)
  | skippedDeepValues (count : Nat)
  | skippedDataBlock
  | readerFailed
  | noArticle
  deriving DecidableEq, Repr

/-- The message with the places of its particulars left open. -/
def Warning.message : Warning → Text
  | unknownFilter _ => "Unknown filter: %s".toList
  | filterFailed _ => "Filter %s failed on %r".toList
  | invalidPattern _ => "Invalid regex pattern %r: %s".toList
  | invalidSplitPattern _ => "Invalid split pattern %r: %s".toList
  | invalidSelector _ => "Invalid selector %r: %s".toList
  | invalidDuration => "Invalid ISO-8601 duration: %r".toList
  | deepSchema _ => "Schema graph too deep to search for %s".toList
  | skippedDeepValues _ => "Skipped %d schema values nested too deeply to serialize".toList
  | skippedDataBlock => "Skipping invalid JSON-LD block: %s".toList
  | readerFailed => "Readability failed: %s".toList
  | noArticle => "Readability found no article, falling back to full content".toList

end Clipbook
