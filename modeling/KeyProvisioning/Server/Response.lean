import KeyProvisioning.Server.Head
import KeyProvisioning.Text.Digits
import KeyProvisioning.Text.Utf8

/-!
# Answers of the provisioning server

The octets that a peer sends are read as the head of an answer and its body, in chunks or whole.
-/

namespace KeyProvisioning.Server

/-!
## Bodies in chunks

A body whose length is not known beforehand comes in chunks, each after a line with its size in
hexadecimal digits. A chunk of size zero ends the body; fields may follow it, up to an empty line.
Every line ends with a carriage return and a line feed.
-/

/-- The octets before the first carriage return, which a line feed must follow, and those after. -/
def splitStrictLine? : Bytes → Option (Bytes × Bytes)
  | [] => none
  | 13 :: 10 :: bs => some ([], bs)
  | b :: bs =>
    if b = 13 then none else (splitStrictLine? bs).map fun (line, rest) => (b :: line, rest)

theorem length_lt_of_splitStrictLine? {bs line rest : Bytes}
    (h : splitStrictLine? bs = some (line, rest)) : rest.length < bs.length := by
  fun_induction splitStrictLine? bs generalizing line with
  | case1 => simp at h
  | case2 bs =>
    simp only [Option.some.injEq, Prod.mk.injEq] at h
    obtain ⟨_, rfl⟩ := h
    simp only [List.length_cons]
    omega
  | case3 => simp at h
  | case4 b bs _ _ ih =>
    cases hs : splitStrictLine? bs with
    | none => simp [hs] at h
    | some p =>
      simp only [hs, Option.map_some, Option.some.injEq, Prod.mk.injEq] at h
      exact Nat.lt_succ_of_lt (ih (show splitStrictLine? bs = some (p.1, rest) by rw [hs, ← h.2]))

/-- A size: hexadecimal digits of a number of 64 bits, blanks, and perhaps a semicolon with
anything but a line feed after it. -/
def chunkSize? (line : List Char) : Option Nat := do
  let (digits, rest) := line.span fun c => (Hex.value? c).isSome
  let size ← Hex.number? digits
  let rest := rest.dropWhile isBlank
  let ends := rest.isEmpty || (rest.head? == some ';' && rest.all (· != '\n'))
  if digits.isEmpty || !ends || UInt64.size ≤ size then none else return size

/-- The fields after the last chunk. -/
def skipTrailer? (bs : Bytes) : Option Unit :=
  match _h : splitStrictLine? bs with
  | none => none
  | some ([], _) => some ()
  | some (b :: line, rest) => do
    let _ ← HeadField.ofLine? (octetText (b :: line))
    skipTrailer? rest
termination_by bs.length
decreasing_by exact length_lt_of_splitStrictLine? _h

/-- The body that chunks make up. What follows the last of them is not read. -/
def unchunk? (bs : Bytes) : Option Bytes :=
  match _h : splitStrictLine? bs with
  | none => none
  | some (line, rest) =>
    match chunkSize? (octetText line) with
    | none => none
    | some 0 => (skipTrailer? rest).map fun _ => []
    | some (size + 1) =>
      match _hs : splitExactly (size + 1) rest with
      | some (chunk, 13 :: 10 :: rest) => (unchunk? rest).map (chunk ++ ·)
      | _ => none
termination_by bs.length
decreasing_by
  have hline := length_lt_of_splitStrictLine? _h
  have hcut := congrArg List.length (splitExactly_eq_some_iff.mp _hs).1
  simp at hcut
  omega

/-!
## Whole answers

The head of an answer tells where its body ends: after a number of octets, after the last of its
chunks, or where the octets end. Answers with some statuses have no body. An answer that only tells
of progress is passed over, and the one after it counts.
-/

/-- Where a body ends. -/
inductive Framing
  /-- After a number of octets. -/
  | sized (length : Nat)
  /-- After the last chunk. -/
  | chunked
  /-- Where the octets end. -/
  | untilEnd
  deriving DecidableEq, Repr

/-- An answer: its status, and the octets after its head with the place where its body ends. -/
structure Response where
  status : Nat
  framing : Framing
  octets : Bytes
  deriving DecidableEq, Repr

/-- Whether a status reports success. -/
def isSuccess (status : Nat) : Bool :=
  200 ≤ status && status < 300

/-- Whether a status comes before the answer proper. -/
def isInformational (status : Nat) : Bool :=
  status < 200 && status != 101

/-- Whether answers with a status have no body. -/
def isBodiless (status : Nat) : Bool :=
  status == 101 || status == 204 || status == 304

/-- No body is longer than this. -/
def maxLength : Nat := UInt64.size - 3

/-- The length that all announcements agree on. -/
def agreedLength? (values : List (List Char)) : Option Nat := do
  let written := (values.flatMap (·.splitOn ',')).map trimBlanks
  let lengths ← written.mapM fun digits =>
    if digits.isEmpty then none else numberOfDigits? 10 decimalDigit? digits
  let length ← lengths.head?
  if lengths.all (· = length) && length ≤ maxLength then return length else none

/-- Whether the last of some codings is the one in chunks. -/
def endsInChunks (codings : List (List Char)) : Bool :=
  let last := ((codings.getLast?.getD []).splitOn ',').getLast?.getD []
  (trimBlanks last).map Char.toLower = "chunked".toList

/-- Where the body after a head ends. A head that contradicts itself has no body. -/
def Head.framing? (head : Head) : Option Framing :=
  let codings := head.values "transfer-encoding"
  let lengths := head.values "content-length"
  if isBodiless head.status then some (.sized 0)
  else if !codings.isEmpty then
    if !head.isCurrent then none
    else if endsInChunks codings then some .chunked else some .untilEnd
  else if !lengths.isEmpty then (agreedLength? lengths).map .sized
  else some .untilEnd

namespace Response

/-- The first answer among the octets that does not only tell of progress. -/
def read? (bs : Bytes) : Option Response :=
  match _h : Head.read? bs with
  | none => none
  | some (head, rest) =>
    if isInformational head.status then read? rest
    else head.framing?.map fun framing => ⟨head.status, framing, rest⟩
termination_by bs.length
decreasing_by exact Head.length_lt_of_read? _h

/-- The body, or nothing when octets of it are missing. -/
def body? (response : Response) : Option Bytes :=
  match response.framing with
  | .sized length =>
    if response.octets.length < length then none else some (response.octets.take length)
  | .chunked => unchunk? response.octets
  | .untilEnd => some response.octets

/-- The octets of an answer with a status line, an announced length and a body, after which the
connection is closed. -/
def write (status : List Char) (length : Nat) (body : Bytes) : Bytes :=
  Utf8.encode ("HTTP/1.1 ".toList ++ status ++ "\r\nContent-Length: ".toList ++
    Nat.toDigits 10 length ++ "\r\nConnection: close\r\n\r\n".toList) ++ body

end Response

end KeyProvisioning.Server
