import KeyProvisioning.Text.Digits

/-!
# Quoted strings of TOML documents

Strings stand between double quotes, with escapes, or between single quotes, without; either kind
may span several lines between three quotes. Lines end in a line feed here: a carriage return
before one is dropped beforehand, and any other carriage return is refused like every other
control character but the tab. Reading is by a machine that takes one character at a time.
-/

namespace KeyProvisioning.Toml

/-- The characters that stand for themselves in comments and between quotes. -/
def isPlain (c : Char) : Bool :=
  c == '\t' || (' ' ≤ c && c ≤ '~') || 0x80 ≤ c.toNat

/-- Spaces and tabs. -/
def isBlank (c : Char) : Bool :=
  c == ' ' || c == '\t'

/-- The character with a given number, if there is one. -/
def char? (n : Nat) : Option Char :=
  if n.isValidChar then some (Char.ofNat n) else none

/-! ## Escapes -/

/-- What follows a backslash. -/
inductive Escape
  /-- One character that names another. -/
  | named (c : Char)
  /-- A number of `width` hexadecimal digits. -/
  | numbered (width : Nat)
  deriving DecidableEq, Repr

/-- The escape that a character after a backslash starts. -/
def escape? : Char → Option Escape
  | 'b' => some (.named '\x08')
  | 't' => some (.named '\t')
  | 'n' => some (.named '\n')
  | 'f' => some (.named '\x0c')
  | 'r' => some (.named '\r')
  | '"' => some (.named '"')
  | '\\' => some (.named '\\')
  | 'u' => some (.numbered 4)
  | 'U' => some (.numbered 8)
  | _ => none

/-! ## Double quotes -/

/-- Where a reader between double quotes stands. -/
inductive BasicState
  | text
  /-- After a backslash. -/
  | escaped
  /-- Inside a numbered escape: digits still to come after the next one, and the number so far. -/
  | number (more value : Nat)
  /-- After a backslash and blanks, before the end of the line. -/
  | lineEnd
  /-- After a backslash at the end of a line: blanks and line ends are dropped. -/
  | trimming
  deriving DecidableEq, Repr

/-- One character between double quotes, other than a quote: the characters it finishes and the
state after it. The forms that reach over line ends are open to strings of several lines only. -/
def BasicState.step (multiline : Bool) : BasicState → Char → Option (List Char × BasicState)
  | .text, c => plainStep c
  | .escaped, c =>
    match escape? c with
    | some (.named d) => some ([d], .text)
    | some (.numbered width) => some ([], .number (width - 1) 0)
    | none =>
      if multiline && c == '\n' then some ([], .trimming)
      else if multiline && isBlank c then some ([], .lineEnd)
      else none
  | .number more value, c =>
    match Hex.value? c with
    | none => none
    | some digit =>
      match more with
      | 0 => (char? (value * 16 + digit)).map fun d => ([d], .text)
      | more + 1 => some ([], .number more (value * 16 + digit))
  | .lineEnd, c =>
    if c == '\n' then some ([], .trimming)
    else if isBlank c then some ([], .lineEnd)
    else none
  | .trimming, c =>
    if c == '\n' || isBlank c then some ([], .trimming) else plainStep c
where
  /-- A character that no escape is open for. -/
  plainStep (c : Char) : Option (List Char × BasicState) :=
    if c == '\\' then some ([], .escaped)
    else if isPlain c || (multiline && c == '\n') then some ([c], .text)
    else none

/-- Whether a double quote counts as a quote here, rather than as part of an escape. -/
def BasicState.seesQuote : BasicState → Bool
  | .text | .trimming => true
  | _ => false

/-- Put characters in front of what a scanner reads. -/
def prepend (cs : List Char) : Option (List Char × List Char) → Option (List Char × List Char)
  | some (ds, rest) => some (cs ++ ds, rest)
  | none => none

/-- Read to the closing double quote of a string of one line. -/
def readBasic : BasicState → Scanner (List Char)
  | _, [] => none
  | state, c :: cs =>
    if c == '"' && state.seesQuote then some ([], cs)
    else
      match state.step false c with
      | none => none
      | some (out, state') => prepend out (readBasic state' cs)

/-- The most quotes in a row at the end of a string of several lines: two of its own and the three
that close it. -/
def maxQuoteRun : Nat := 5

/-- Read to the three double quotes that close a string of several lines. `run` counts the quotes
just before; three or more of them close the string, fewer belong to it. -/
def readBasicLines : (run : Nat) → BasicState → Scanner (List Char)
  | run, _, [] => if 3 ≤ run then some (List.replicate (run - 3) '"', []) else none
  | run, state, c :: cs =>
    if c == '"' && state.seesQuote then
      if run + 1 = maxQuoteRun then some (List.replicate (run - 2) '"', cs)
      else readBasicLines (run + 1) .text cs
    else if 3 ≤ run then some (List.replicate (run - 3) '"', c :: cs)
    else
      match state.step true c with
      | none => none
      | some (out, state') => prepend (List.replicate run '"' ++ out) (readBasicLines 0 state' cs)

/-! ## Single quotes -/

/-- Read to the closing single quote of a string of one line. -/
def readLiteral : Scanner (List Char)
  | [] => none
  | c :: cs =>
    if c == '\'' then some ([], cs)
    else if isPlain c then prepend [c] (readLiteral cs)
    else none

/-- Read to the three single quotes that close a string of several lines, as `readBasicLines`
does. -/
def readLiteralLines : (run : Nat) → Scanner (List Char)
  | run, [] => if 3 ≤ run then some (List.replicate (run - 3) '\'', []) else none
  | run, c :: cs =>
    if c == '\'' then
      if run + 1 = maxQuoteRun then some (List.replicate (run - 2) '\'', cs)
      else readLiteralLines (run + 1) cs
    else if 3 ≤ run then some (List.replicate (run - 3) '\'', c :: cs)
    else if isPlain c || c == '\n' then
      prepend (List.replicate run '\'' ++ [c]) (readLiteralLines 0 cs)
    else none

/-! ## Any quotes -/

/-- A line end directly after three opening quotes is not part of the string. -/
def dropFirstLineEnd : List Char → List Char
  | '\n' :: cs => cs
  | cs => cs

/-- Read a string on one line, from its opening quote on. -/
def readQuotedLine : Scanner (List Char)
  | '"' :: cs => readBasic .text cs
  | '\'' :: cs => readLiteral cs
  | _ => none

/-- Read a string of any kind, from its opening quotes on. -/
def readQuoted : Scanner (List Char)
  | '"' :: '"' :: '"' :: cs => readBasicLines 0 .text (dropFirstLineEnd cs)
  | '\'' :: '\'' :: '\'' :: cs => readLiteralLines 0 (dropFirstLineEnd cs)
  | cs => readQuotedLine cs

end KeyProvisioning.Toml
