import KeyProvisioning.Toml.Quoted
import KeyProvisioning.Toml.Table

/-!
# TOML documents

A document is read line by line into assignments and headers, and these are put together into one
table. Arrays and tables between braces may be nested up to a fixed depth; reading is by
recursion on the depth that is left.
-/

namespace KeyProvisioning.Toml

/-! ## Blanks, comments and line ends -/

/-- Drop every carriage return that stands before a line feed. -/
def joinLineEnds : List Char → List Char
  | '\r' :: '\n' :: cs => '\n' :: joinLineEnds cs
  | c :: cs => c :: joinLineEnds cs
  | [] => []

/-- Drop blanks. -/
def dropBlanks (cs : List Char) : List Char :=
  cs.dropWhile isBlank

/-- Drop a comment, where one starts. -/
def dropComment : List Char → List Char
  | '#' :: cs => cs.dropWhile isPlain
  | cs => cs

/-- Pass over blanks, a comment and the end of the line or of the document. -/
def endLine? (cs : List Char) : Option (List Char) :=
  match dropComment (dropBlanks cs) with
  | [] => some []
  | '\n' :: rest => some rest
  | _ => none

/-- Pass over blanks, line ends and whole comments. -/
def dropTrivia : (inComment : Bool) → List Char → Option (List Char)
  | _, [] => some []
  | false, c :: cs =>
    if isBlank c || c == '\n' then dropTrivia false cs
    else if c == '#' then dropTrivia true cs
    else some (c :: cs)
  | true, c :: cs =>
    if c == '\n' then dropTrivia false cs
    else if isPlain c then dropTrivia true cs
    else none

/-! ## Keys -/

/-- The characters of a key without quotes. -/
def isBareChar (c : Char) : Bool :=
  isDecimalDigit c || ('a' ≤ c && c ≤ 'z') || ('A' ≤ c && c ≤ 'Z') || c == '_' || c == '-'

/-- Read one name of a key. -/
def readName : Scanner String
  | [] => none
  | c :: cs =>
    if c == '"' || c == '\'' then
      (readQuotedLine (c :: cs)).map fun (name, rest) => (String.ofList name, rest)
    else if isBareChar c then
      some (String.ofList ((c :: cs).takeWhile isBareChar), (c :: cs).dropWhile isBareChar)
    else none

/-- Read the names of a dotted key. -/
def readNames : (fuel : Nat) → Scanner (List String)
  | 0, _ => none
  | fuel + 1, cs =>
    match readName (dropBlanks cs) with
    | none => none
    | some (name, rest) =>
      match dropBlanks rest with
      | '.' :: rest' => (readNames fuel rest').map fun (names, rest'') => (name :: names, rest'')
      | rest' => some ([name], rest')

/-- One more than the deepest nesting and than the most names of a key. -/
def nestingLimit : Nat := 80

/-- Read a dotted key and the blanks around it. -/
def readKey : Scanner Key := fun cs =>
  match readNames (cs.length + 1) cs with
  | none => none
  | some (names, rest) =>
    match names.getLast? with
    | none => none
    | some name =>
      if names.length < nestingLimit then some (⟨names.dropLast, name⟩, rest) else none

/-! ## Values -/

/-- Read the elements of an array up to its closing bracket. -/
def readElements (value : Scanner Node) : (fuel : Nat) → Scanner (List Node)
  | 0, _ => none
  | fuel + 1, cs =>
    match dropTrivia false cs with
    | none => none
    | some (']' :: rest) => some ([], rest)
    | some cs' =>
      match value cs' with
      | none => none
      | some (node, rest) =>
        match dropTrivia false rest with
        | some (',' :: rest') =>
          (readElements value fuel rest').map fun (nodes, rest'') => (node :: nodes, rest'')
        | some (']' :: rest') => some ([node], rest')
        | _ => none

/-- Read an assignment and the blanks after it. -/
def readAssignment (value : Scanner Node) : Scanner Assignment := fun cs =>
  match readKey cs with
  | some (key, '=' :: rest) =>
    match value (dropBlanks rest) with
    | none => none
    | some (node, rest') => some (⟨key, node⟩, dropBlanks rest')
  | _ => none

/-- Read the assignments of a table between braces, from the first one up to the closing brace. -/
def readAssignments (value : Scanner Node) : (fuel : Nat) → Scanner (List Assignment)
  | 0, _ => none
  | fuel + 1, cs =>
    match readAssignment value cs with
    | some (assignment, ',' :: rest) =>
      (readAssignments value fuel rest).map fun (assignments, rest') =>
        (assignment :: assignments, rest')
    | some (assignment, '}' :: rest) => some ([assignment], rest)
    | _ => none

/-- Read a value, with `nested` for the values inside an array or a table between braces, or
nothing where the depth is used up. -/
def readValueWith (nested : Option (Scanner Node)) : Scanner Node
  | [] => none
  | '[' :: cs =>
    match nested with
    | none => none
    | some value =>
      (readElements value (cs.length + 1) cs).map fun (nodes, rest) => (.array nodes, rest)
  | '{' :: cs =>
    match nested with
    | none => none
    | some value =>
      match dropBlanks cs with
      | '}' :: rest => some (.inlineTable [], rest)
      | cs' =>
        match readAssignments value (cs'.length + 1) cs' with
        | none => none
        | some (assignments, rest) =>
          (insertAll [] assignments).map fun entries => (.inlineTable entries, rest)
  | c :: cs =>
    if c == '"' || c == '\'' then
      (readQuoted (c :: cs)).map fun (text, rest) =>
        (.scalar (.string (String.ofList text)), rest)
    else (readWord (c :: cs)).map fun (value, rest) => (.scalar value, rest)

/-- Read a value inside which arrays and tables are nested at most `depth` deep. -/
def readValue : (depth : Nat) → Scanner Node
  | 0, cs => readValueWith none cs
  | depth + 1, cs => readValueWith (some (readValue depth)) cs

/-! ## Lines -/

/-- Read a header from its opening bracket up to its closing one. -/
def readHeader : Scanner Header
  | '[' :: '[' :: cs =>
    match readKey cs with
    | some (key, ']' :: ']' :: rest) => some (⟨true, key⟩, rest)
    | _ => none
  | '[' :: cs =>
    match readKey cs with
    | some (key, ']' :: rest) => some (⟨false, key⟩, rest)
    | _ => none
  | _ => none

/-- Read one line that is not blank, from its first character up to its end. -/
def readStatement : Scanner Statement
  | '[' :: cs =>
    match readHeader ('[' :: cs) with
    | none => none
    | some (header, rest) => (endLine? rest).map fun rest' => (.header header, rest')
  | cs =>
    match readAssignment (readValue (nestingLimit - 1)) cs with
    | none => none
    | some (assignment, rest) => (endLine? rest).map fun rest' => (.assign assignment, rest')

/-- Read the lines of a document. Every line takes a character, so their number plus one is fuel
enough. -/
def readStatements : (fuel : Nat) → List Char → Option (List Statement)
  | 0, _ => none
  | fuel + 1, cs =>
    match dropBlanks cs with
    | [] => some []
    | '\n' :: rest => readStatements fuel rest
    | '#' :: rest =>
      match endLine? ('#' :: rest) with
      | none => none
      | some rest' => readStatements fuel rest'
    | cs' =>
      match readStatement cs' with
      | none => none
      | some (statement, rest) => (readStatements fuel rest).map (statement :: ·)

/-- Drop the mark of byte order at the start of a document. -/
def dropByteOrderMark : List Char → List Char
  | '\uFEFF' :: cs => cs
  | cs => cs

/-- The lines of a document. -/
def statements? (text : String) : Option (List Statement) :=
  let cs := joinLineEnds (dropByteOrderMark text.toList)
  readStatements (cs.length + 1) cs

/-- The table that a document describes. -/
def parse (text : String) : Option Entries :=
  (statements? text).bind build

/-! ## Fields -/

namespace Node

/-- The value as a truth value. -/
def boolean? : Node → Option Bool
  | scalar (.boolean value) => some value
  | _ => none

/-- The value as a string. -/
def string? : Node → Option String
  | scalar (.string value) => some value
  | _ => none

/-- The value as a number from zero up to, but not including, `limit`. -/
def natBelow? (limit : Nat) : Node → Option Nat
  | scalar (.integer (.ofNat n)) => if n < limit then some n else none
  | _ => none

/-- The value as a count of 32 bits. -/
def uint32? (node : Node) : Option UInt32 :=
  (node.natBelow? UInt32.size).map UInt32.ofNat

/-- The value as a count of 64 bits. -/
def uint64? (node : Node) : Option UInt64 :=
  (node.natBelow? UInt64.size).map UInt64.ofNat

end Node

/-- The field under a name: the default where it is absent, nothing where it has another type. -/
def Entries.field {α : Type} (entries : Entries) (name : String) (read : Node → Option α)
    (default : α) : Option α :=
  match entries.get? name with
  | none => some default
  | some node => read node

end KeyProvisioning.Toml
