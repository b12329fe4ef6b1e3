/-
This file reads the address of a service: a scheme, an authority with a user, a host and
a port, a path, a query and a fragment. Reading forgives missing and additional slashes,
but insists on a scheme, and for the schemes whose hosts are looked up also on a host
that can be. The text of an address is written in one form, whatever form it was read
from.
-/

import Trickle.Number.Literal
import Trickle.Url.Host
import Trickle.Url.Path

namespace Trickle

/-- Who is asked, where, and on behalf of whom. The name and the password are encoded; no text
means there is none. -/
structure Authority where
  user : List Char
  password : List Char
  host : Option Host
  port : Option Nat
  deriving DecidableEq, Repr

/-- The address of a service. -/
structure Url where
  scheme : String
  authority : Option Authority
  path : UrlPath
  query : Option (List Char)
  fragment : Option (List Char)
  deriving DecidableEq, Repr

namespace Authority

/-! ### Users -/

/-- Characters that are encoded in the name and the password of a user. -/
def userSpecial : List Char :=
  UrlPath.special ++ ['/', ':', ';', '=', '@', '[', '\\', ']', '^', '|']

/-- The text in front of the last at-sign, if there is one, and the text behind it. -/
def splitUser (text : List Char) : Option (List Char) × List Char :=
  if text.contains '@' then
    let behind := (text.reverse.takeWhile (· ≠ '@')).reverse
    (some (text.take (text.length - behind.length - 1)), behind)
  else (none, text)

/-- The name and the password of a user: the first colon is between them. -/
def nameAndPassword (text : List Char) : List Char × List Char :=
  let name := text.takeWhile (· ≠ ':')
  (Percent.encode userSpecial name, Percent.encode userSpecial (text.drop (name.length + 1)))

/-! ### Hosts and ports -/

/-- The host at the front of a text, and the rest. A colon between brackets belongs to the host. -/
def splitHost (inBrackets : Bool) : List Char → List Char × List Char
  | [] => ([], [])
  | char :: rest =>
    if char = ':' ∧ !inBrackets then ([], char :: rest)
    else
      let inside := if char = '[' then true else if char = ']' then false else inBrackets
      let (host, behind) := splitHost inside rest
      (char :: host, behind)

/-- Reads a host. Only a host that is not looked up may have no name. -/
def readHost (kind : SchemeKind) (text : List Char) : Except UrlError (Option Host) :=
  if kind = .service then
    if text.isEmpty then .error .emptyHost else (Host.read text).map some
  else if text.isEmpty then .ok none
  else (Host.readOpaque text).map some

/-- Reads a port in front of a backslash or the end, and leaves the rest. A scheme's own port need
not be kept, and neither need no digits at all. -/
def readPort (scheme : String) (text : List Char) :
    Except UrlError (Option Nat × List Char) :=
  let (digits, rest) := Digits.split text
  let number := Digits.value digits
  if 65535 < number ∨ ¬ (rest.isEmpty ∨ rest.head? = some '\\') then .error .badPort
  else if digits.isEmpty ∨ Scheme.defaultPort? scheme = some number then .ok (none, rest)
  else .ok (some number, rest)

/-- Reads an authority and leaves the rest of its text. `followed` says whether anything stands
behind that text. -/
def read (scheme : String) (followed : Bool) (text : List Char) :
    Except UrlError (Authority × List Char) := do
  let kind := Scheme.kindOf scheme
  let (userText, behind) := splitUser text
  if userText = some [] ∧ behind.isEmpty ∧ followed then throw .emptyHost
  let (user, password) := nameAndPassword (userText.getD [])
  let (hostText, rest) := splitHost false behind
  let host ← readHost kind hostText
  if host.isNone ∧ ¬ rest.isEmpty then throw .emptyHost
  let (port, rest) ← readPort scheme (rest.drop 1)
  if host.isNone ∧ ¬ (user.isEmpty ∧ password.isEmpty) then throw .emptyHost
  return (⟨user, password, host, port⟩, rest)

/-- Reads the authority of a file, a host at most. The machine itself need not be named. -/
def ofFile (text : List Char) : Except UrlError Authority :=
  if text.isEmpty then .ok ⟨[], [], none, none⟩
  else (Host.read text).map fun host =>
    ⟨[], [], if host = .name "localhost".toList then none else some host, none⟩

/-! ### Writing -/

/-- The text of an authority. -/
def text (authority : Authority) : String :=
  let password :=
    if authority.password.isEmpty then "" else ":" ++ String.ofList authority.password
  let user := String.ofList authority.user ++ password
  let host := (authority.host.map Host.text).getD ""
  let port := (authority.port.map fun port => s!":{port}").getD ""
  (if user.isEmpty then "" else user ++ "@") ++ host ++ port

/-- An encoded text, if its bytes are text. -/
def decoded? (text : List Char) : Option String :=
  Utf8.decode? (Percent.decode (Utf8.encode text))

/-- An authority without its user, unless the name or a password without a name is no text. -/
def withoutUser (authority : Authority) : Authority :=
  match decoded? authority.user, decoded? authority.password with
  | none, _ => authority
  | some "", none => authority
  | some _, _ => { authority with user := [], password := [] }

end Authority

namespace Url

/-! ### Reading -/

/-- Characters that are encoded in a fragment. -/
def fragmentSpecial : List Char := [' ', '"', '<', '>', '\x60']

/-- Characters that are encoded in a query. -/
def querySpecial (kind : SchemeKind) : List Char :=
  if kind = .other then [' ', '"', '#', '<', '>'] else [' ', '"', '#', '<', '>', '\'']

/-- The text up to a character, and what stands behind the character if it is there. -/
def cutAt (mark : Char) (text : List Char) : List Char × Option (List Char) :=
  match text.dropWhile (· ≠ mark) with
  | [] => (text, none)
  | _ :: behind => (text.takeWhile (· ≠ mark), some behind)

/-- The authority of a file that is on no named host. -/
def nobody : Authority :=
  ⟨[], [], none, none⟩

/-- Reads the path of a file behind its host. A path that begins with a drive belongs to no host;
without a host, a slash at the front is a step of its own. -/
def filePath (authority : Authority) (text : List Char) : Authority × UrlPath :=
  let behind := if authority.host.isSome then UrlPath.behindSlash .file text else text
  let walked := UrlPath.walk .file [] (UrlPath.names .file behind)
  (if walked.head?.any UrlPath.isDrive then nobody else authority, .ofWalked .file walked)

/-- Reads the authority and the path of a file. A drive is no host. -/
def fileBody (text : List Char) : Except UrlError (Authority × UrlPath) :=
  match text with
  | first :: second :: rest =>
    if SchemeKind.file.isSlash first ∧ SchemeKind.file.isSlash second then
      let front := rest.takeWhile fun char => !SchemeKind.file.isSlash char
      if UrlPath.isDrive front then .ok (nobody, .ofSteps .file rest)
      else (Authority.ofFile front).map fun authority =>
        filePath authority (rest.drop front.length)
    else .ok (nobody, .ofSteps .file text)
  | _ => .ok (nobody, .ofSteps .file text)

/-- Reads the authority and the path of an address whose authority stands at the front. `followed`
says whether a query or a fragment stands behind the text. -/
def namedBody (scheme : String) (followed : Bool) (text : List Char) :
    Except UrlError (Option Authority × UrlPath) := do
  let kind := Scheme.kindOf scheme
  let front := text.takeWhile fun char => !kind.isSlash char
  let behind := text.drop front.length
  let (authority, rest) ← Authority.read scheme (followed || !behind.isEmpty) front
  return (some authority, .ofSteps kind (rest ++ behind))

/-- Reads what stands behind the scheme, without query and fragment. -/
def body (scheme : String) (followed : Bool) (text : List Char) :
    Except UrlError (Option Authority × UrlPath) :=
  match Scheme.kindOf scheme with
  | .service => namedBody scheme followed (text.dropWhile SchemeKind.service.isSlash)
  | .file => (fileBody text).map fun (authority, path) => (some authority, path)
  | .other =>
    match text with
    | '/' :: '/' :: rest => namedBody scheme followed rest
    | '/' :: _ => .ok (none, .ofSteps .other text)
    | _ => .ok (none, .ofText text)

/-- Reads an address. -/
def read (text : String) : Except UrlError Url :=
  match Scheme.read? (Scheme.cleaned text.toList) with
  | none => .error .noScheme
  | some (scheme, rest) => do
    let (front, fragment) := cutAt '#' rest
    let (front, query) := cutAt '?' front
    let (authority, path) ← body scheme (query.isSome || fragment.isSome) front
    return {
      scheme := scheme
      authority := authority
      path := path
      query := query.map (Percent.encode (querySpecial (Scheme.kindOf scheme)))
      fragment := fragment.map (Percent.encode fragmentSpecial) }

/-! ### Writing -/

/-- The host of an address, if it has one. -/
def host? (url : Url) : Option Host :=
  url.authority.bind (·.host)

/-- The text of an address. Without an authority a path must not begin as if there were one. -/
def text (url : Url) : String :=
  let path := url.path.text
  let named := match url.authority with
    | some authority => "//" ++ authority.text
    | none => if path.startsWith "//" then "/." else ""
  let query := (url.query.map fun query => "?" ++ String.ofList query).getD ""
  let fragment := (url.fragment.map fun fragment => "#" ++ String.ofList fragment).getD ""
  s!"{url.scheme}:{named}{path}{query}{fragment}"

/-- An address without its user. -/
def withoutUser (url : Url) : Url :=
  { url with authority := url.authority.map Authority.withoutUser }

end Url

end Trickle
