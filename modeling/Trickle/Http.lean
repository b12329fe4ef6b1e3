/-
This file writes the messages in which requests travel to a node, and reads those in
which replies come back. A message closes its connection, so a reply is complete when
nothing more comes; its body is marked by its length, by chunks, or not at all.
-/

import Trickle.Text.Parts
import Trickle.Url

namespace Trickle.Http

/-! ### Requests -/

/-- The line end between the parts of a message. -/
def lineEnd : String := "\r\n"

/-- What a message says about where it goes. -/
def target (url : Url) : String :=
  let path := url.path.text
  let query := (url.query.map fun query => "?" ++ String.ofList query).getD ""
  (if path.isEmpty then "/" else path) ++ query

/-- The name of the service a message goes to. -/
def authority (url : Url) : String :=
  (url.withoutUser.authority.map Authority.text).getD ""

/-- The message that carries a body. -/
def request (url : Url) (body : String) : Bytes :=
  let content := Utf8.ofString body
  let head := [
    s!"POST {target url} HTTP/1.1",
    s!"host: {authority url}",
    "content-type: application/json",
    "accept: */*",
    s!"content-length: {content.length}",
    "connection: close"]
  Utf8.ofString (lineEnd.intercalate head ++ lineEnd ++ lineEnd) ++ content

/-! ### Replies -/

/-- A reply: its status and its body. -/
structure Response where
  status : Nat
  body : Bytes
  deriving DecidableEq, Repr

/-- The bytes up to the first line end, and those behind it. -/
def line? : Bytes → Option (Bytes × Bytes)
  | [] => none
  | 0x0D :: 0x0A :: rest => some ([], rest)
  | byte :: rest => (line? rest).map fun (line, behind) => (byte :: line, behind)

/-- A header: its name in lower case, and its content without blanks around it. -/
def header (line : Bytes) : String × String :=
  let text := (Utf8.lossy line).toList
  let name := text.takeWhile (· ≠ ':')
  let content := (text.drop (name.length + 1)).dropWhile (· = ' ')
  (String.ofList (name.map Char.toLower),
    String.ofList ((content.reverse.dropWhile (· = ' ')).reverse))

/-- The headers up to the empty line, and the bytes behind it. -/
def headers? : (rounds : Nat) → Bytes → Option (List (String × String) × Bytes)
  | 0, _ => none
  | rounds + 1, bytes =>
    match line? bytes with
    | none => none
    | some ([], rest) => some ([], rest)
    | some (line, rest) =>
      (headers? rounds rest).map fun (headers, body) => (header line :: headers, body)

/-- The status in the first line of a reply. -/
def status? (line : Bytes) : Option Nat :=
  match partsAt ' ' (Utf8.lossy line).toList with
  | protocol :: status :: _ =>
    if "HTTP/1.".toList.isPrefixOf protocol ∧ status.length = 3 then
      (String.ofList status).toNat?
    else none
  | _ => none

/-- The body that chunks make: each begins with a line that tells its length, and one without
length is the last. -/
def unchunked? : (rounds : Nat) → Bytes → Option Bytes
  | 0, _ => none
  | rounds + 1, bytes => do
    let (line, rest) ← line? bytes
    let size ← (Hex.accumulate 0 0 (line.takeWhile fun byte => (Hex.digit? byte).isSome)).toOption
    if size = 0 then some []
    else if rest.length < size then none
    else (unchunked? rounds (rest.drop (size + 2))).map (rest.take size ++ ·)

/-- Reads a whole reply. -/
def response? (bytes : Bytes) : Option Response := do
  let (first, rest) ← line? bytes
  let status ← status? first
  let (headers, rest) ← headers? (rest.length + 1) rest
  if headers.lookup "transfer-encoding" = some "chunked" then
    some ⟨status, ← unchunked? (rest.length + 1) rest⟩
  else
    match headers.lookup "content-length" with
    | none => some ⟨status, rest⟩
    | some text =>
      let length ← text.toNat?
      if length ≤ rest.length then some ⟨status, rest.take length⟩ else none

end Trickle.Http
