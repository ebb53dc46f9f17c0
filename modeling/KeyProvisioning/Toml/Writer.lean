import KeyProvisioning.Text.Digits
import KeyProvisioning.Toml.Scalar

/-!
# Writing TOML

Assignments of numbers and strings, one a line. A string is written in the plainest of five forms
that can hold it: double quotes without escapes, single quotes, three double quotes without
escapes, three single quotes, and double quotes with escapes, on several lines if the string has
line ends. A string of several lines starts on a line of its own.
-/

namespace KeyProvisioning.Toml.Writer

/-- Whether a character can only be written as an escape: the control characters but tab and line
feed. -/
def needsEscape (c : Char) : Bool :=
  (c < ' ' && c != '\t' && c != '\n') || c == '\x7f'

/-- The most times in a row that a character occurs, given how often it occurred just before. -/
def longestRunFrom (quote : Char) : (run : Nat) → List Char → Nat
  | run, [] => run
  | run, c :: cs =>
    if c = quote then longestRunFrom quote (run + 1) cs
    else max run (longestRunFrom quote 0 cs)

/-- The most times in a row that a character occurs. -/
def longestRun (quote : Char) (cs : List Char) : Nat :=
  longestRunFrom quote 0 cs

/-- The forms of a string. -/
inductive Style
  /-- Double quotes, on one line or on several. -/
  | basic (multiline : Bool)
  /-- Single quotes, on one line or on several. -/
  | literal (multiline : Bool)
  deriving DecidableEq, Repr

/-- The most quotes in a row that a form of several lines holds without escapes. -/
def maxQuotesInLines : Nat := 2

/-- The form in which a string is written. -/
def styleOf (cs : List Char) : Style :=
  let escapes := cs.any needsEscape
  let backslash := cs.contains '\\'
  let lines := cs.contains '\n'
  let doubles := longestRun '"' cs
  let singles := longestRun '\'' cs
  if !escapes && !backslash && doubles == 0 && !lines then .basic false
  else if !escapes && singles == 0 && !lines then .literal false
  else if !escapes && !backslash && doubles ≤ maxQuotesInLines then .basic true
  else if !escapes && singles ≤ maxQuotesInLines then .literal true
  else .basic lines

/-- The escape of a character that is not written as it is. -/
def escape (c : Char) : List Char :=
  if c = '\x08' then ['\\', 'b']
  else if c = '\t' then ['\\', 't']
  else if c = '\n' then ['\\', 'n']
  else if c = '\x0c' then ['\\', 'f']
  else if c = '\r' then ['\\', 'r']
  else if c = '"' then ['\\', '"']
  else if c = '\\' then ['\\', '\\']
  else '\\' :: 'u' :: Hex.fixed Hex.upperDigit 4 c.toNat

/-- Whether a character between double quotes is written as it is, after `run` double quotes that
were. -/
def isRaw (multiline : Bool) (run : Nat) (c : Char) : Bool :=
  if c = '"' then multiline && run < maxQuotesInLines
  else if c = '\n' then multiline
  else !(needsEscape c || c == '\t' || c == '\\')

/-- The characters between double quotes, after `run` double quotes written as they are. -/
def basicContent (multiline : Bool) : (run : Nat) → List Char → List Char
  | _, [] => []
  | run, c :: cs =>
    if isRaw multiline run c then
      c :: basicContent multiline (if c = '"' then run + 1 else 0) cs
    else escape c ++ basicContent multiline 0 cs

/-- The line end after three opening quotes, where the string has line ends. -/
def openingLineEnd (cs : List Char) : List Char :=
  if cs.contains '\n' then ['\n'] else []

/-- The text of a string in a form. -/
def writeAs (style : Style) (cs : List Char) : List Char :=
  match style with
  | .basic false => '"' :: basicContent false 0 cs ++ ['"']
  | .literal false => '\'' :: cs ++ ['\'']
  | .basic true =>
    ['"', '"', '"'] ++ openingLineEnd cs ++ basicContent true 0 cs ++ ['"', '"', '"']
  | .literal true => ['\'', '\'', '\''] ++ openingLineEnd cs ++ cs ++ ['\'', '\'', '\'']

/-- The text of a string. -/
def writeString (text : String) : String :=
  String.ofList (writeAs (styleOf text.toList) text.toList)

/-- The text of a count, if a document may hold it. -/
def writeCount? (n : Nat) : Option String :=
  if (n : Int) ≤ maxInteger then some (toString n) else none

/-- A line that gives a bare key a value. -/
def line (key value : String) : String :=
  key ++ " = " ++ value ++ "\n"

end KeyProvisioning.Toml.Writer
