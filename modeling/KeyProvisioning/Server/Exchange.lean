import KeyProvisioning.Bytes
import KeyProvisioning.Fault
import KeyProvisioning.Server.Response
import KeyProvisioning.Url.Parser

/-!
# Exchanges with the provisioning server

A request goes to one of the two endpoints of the server, and its answer is read.
-/

namespace KeyProvisioning.Server

/-!
## Endpoints

The server is known by a base address. Its two endpoints are reached by appending their paths to
the text of the base, less the slashes at its end, and reading the result as an address. The
signing endpoint is told the challenge in the query, as text in which malformed octets are
replaced.
-/

/-- The path of the endpoint that answers with key material. -/
def keyPath : List Char := "/v1/eekchain".toList

/-- The path of the endpoint that signs certificates. -/
def signingPath : List Char := "/v1:signCertificates".toList

/-- The text of a base address without the slashes at its end. -/
def trimSlashes (base : List Char) : List Char :=
  (base.reverse.dropWhile (· == '/')).reverse

/-- The address of an endpoint. -/
def endpoint (base : String) (path : List Char) : Except TransportFault Url :=
  match Url.parse? (trimSlashes base.toList ++ path) with
  | some url => .ok url
  | none => .error .invalidUrl

/-- The address that answers with key material. -/
def keyUrl (base : String) : Except TransportFault Url :=
  endpoint base keyPath

/-- The address that signs certificates for a challenge. -/
def signingUrl (base : String) (challenge : Bytes) : Except TransportFault Url := do
  return (← endpoint base signingPath).addPair "challenge".toList (Utf8.decodeLossy challenge)

/-!
## Requests and answers

One exchange sends one request and reads one answer. It fails when the peer gives no answer, when
the answer ends before the announced length and, if the client is strict, when the status reports
no success. A lenient client warns of such a status and reads on.
-/

/-- What is asked of the server. -/
inductive Call
  /-- Key material. -/
  | fetchKeys
  /-- Certificates for a signing request and a challenge. -/
  | sign (csr challenge : Bytes)
  deriving DecidableEq, Repr

/-- A request as the peer receives it. -/
structure Request where
  method : List Char
  target : List Char
  contentType : Option String
  body : Bytes
  deriving DecidableEq, Repr

namespace Call

/-- The address that a call goes to. -/
def url (base : String) : Call → Except TransportFault Url
  | fetchKeys => keyUrl base
  | sign _ challenge => signingUrl base challenge

/-- The request that a call makes of an address. -/
def request (url : Url) : Call → Request
  | fetchKeys => ⟨"GET".toList, url.target, none, []⟩
  | sign csr _ => ⟨"POST".toList, url.target, some "application/cbor", csr⟩

end Call

/-- The first line of a request. -/
def Request.line (request : Request) : String :=
  String.ofList (request.method ++ ' ' :: request.target ++ " HTTP/1.1".toList)

/-- What the peer does with a connection. -/
inductive Peer
  /-- It accepts none. -/
  | refuses
  /-- It reads the request and gives no answer. -/
  | closes
  /-- It reads the request, answers with some octets and closes the connection. -/
  | answers (octets : Bytes)
  deriving DecidableEq, Repr

/-- An address longer than this is not asked. -/
def maxUrlLength : Nat := 65534

/-- What came of an exchange. -/
structure Exchange where
  result : Except TransportFault Bytes
  /-- How many warnings the client gave. -/
  warnings : Nat
  /-- What the peer received. -/
  received : Option Request

/-- What a client makes of an answer, and how many warnings it gives. -/
def accept (isStrict : Bool) (response : Response) : Except TransportFault Bytes × Nat :=
  if !isSuccess response.status && isStrict then (.error .badStatus, 0)
  else
    let result := match response.body? with
      | some octets => .ok octets
      | none => .error .bodyRead
    (result, if isSuccess response.status then 0 else 1)

/-- Whether a request can be made of an address. -/
def isReachable (url : Url) : Bool :=
  (url.scheme = "http".toList || url.scheme = "https".toList) && url.render.length ≤ maxUrlLength

/-- Make a call to the server at a base address. -/
def exchange (isStrict : Bool) (base : String) (call : Call) (peer : Peer) : Exchange :=
  match call.url base with
  | .error fault => ⟨.error fault, 0, none⟩
  | .ok url =>
    if !isReachable url then ⟨.error .requestFailed, 0, none⟩
    else
      let received := some (call.request url)
      match peer with
      | .refuses => ⟨.error .requestFailed, 0, none⟩
      | .closes => ⟨.error .requestFailed, 0, received⟩
      | .answers octets =>
        match Response.read? octets with
        | none => ⟨.error .requestFailed, 0, received⟩
        | some response =>
          let (result, warnings) := accept isStrict response
          ⟨result, warnings, received⟩

end KeyProvisioning.Server
