/-
This file runs the program: it connects the surroundings that the rest of the library
only talks about with files, environment, clock, network and console. Nothing is decided
here. A run over an address file with rows does not end by itself.

Two things that go on around the program are left out. The log is written to the console
only, and to no file. A node is reached over plain connections only; one whose address
asks for a secured connection is out of reach, as if nothing got through to it.
-/

import Std.Async.DNS
import Std.Async.TCP
import Std.Time.DateTime
import Trickle.Http
import Trickle.Rpc.Node
import Trickle.Rpc.Retry
import Trickle.Startup

namespace Trickle.Console

open Std.Async

/-- Effects that may end in a breakdown. -/
abbrev Act := ExceptT Breakdown IO

/-! ### The log -/

/-- A number with at least `count` digits. -/
def padded (count : Nat) (value : Int) : String :=
  Ether.padded count value.toNat

/-- The day and the time of day, as they stand in front of an event. -/
def stamp : IO String := do
  let seconds := (← Std.Time.Timestamp.now).toSecondsSinceUnixEpoch.val
  let day := Std.Time.PlainDate.ofEpochDay (.ofInt (seconds / 86400))
  return s!"{padded 4 day.year}-{padded 2 day.month.val}-{padded 2 day.day.val}T" ++
    s!"{padded 2 (seconds / 3600 % 24)}:{padded 2 (seconds / 60 % 60)}:{padded 2 (seconds % 60)}Z"

/-- Shows an event. -/
def note (event : Event) : IO Unit := do
  if event.level.isShown then
    let level := event.level.name
    let blanks := String.ofList (List.replicate (5 - level.length) ' ')
    IO.println s!"{← stamp} {blanks}{level} {event.text}"
    (← IO.getStdout).flush

/-! ### Files -/

/-- Why a file could not be read. -/
def fault (error : IO.Error) : FileFault :=
  match error with
  | .noFileOrDirectory .. => .notFound
  | .inappropriateType _ 20 _ => .notDirectory
  | .inappropriateType .. => .isDirectory
  | .invalidArgument _ 36 _ | .resourceExhausted _ 36 _ => .nameTooLong
  | error => .other (toString error)

/-- Reads a file. -/
def file (path : String) : IO (Except FileFault Bytes) := do
  if path.contains '\x00' then return .error .holdsNul
  try
    return .ok (← IO.FS.readBinFile path).toList
  catch error => return .error (fault error)

/-! ### The environment -/

/-- The entries of an environment, each of which ends with a zero byte. -/
def entries (environment : Bytes) : List Bytes :=
  environment.foldr (fun byte rest =>
    if byte = 0 then [] :: rest
    else match rest with
      | [] => [[byte]]
      | entry :: others => (byte :: entry) :: others) []

/-- What an environment holds under a name. -/
def value? (name : String) (environment : Bytes) : Option Bytes :=
  let front := Utf8.ofString (name ++ "=")
  ((entries environment).find? front.isPrefixOf).map fun entry => entry.drop front.length

/-- Looks up a setting. The bytes the process was started with are read where the system shows
them, since a setting need not be a text. -/
def setting (name : String) : IO (Option Bytes) := do
  try
    return value? name (← IO.FS.readBinFile "/proc/self/environ").toList
  catch _ => return (← IO.getEnv name).map Utf8.ofString

/-! ### The network -/

/-- The addresses at which a host answers. -/
def addresses (host : Host) : IO (List Std.Net.IPAddr) :=
  match host with
  | .fourth number =>
    match Bytes.ofNat 4 number with
    | [a, b, c, d] => return [.v4 (.ofParts a b c d)]
    | _ => return []
  | .sixth pieces =>
    match pieces.map UInt16.ofNat with
    | [a, b, c, d, e, f, g, h] => return [.v6 (.ofParts a b c d e f g h)]
    | _ => return []
  | .name text => do return (← (DNS.getAddrInfo (String.ofList text) "").block).toList

/-- Takes everything that comes over a connection. -/
partial def receive (client : TCP.Socket.Client) (taken : ByteArray) : IO ByteArray := do
  match ← (client.recv? 65536).block with
  | some part => receive client (taken ++ part)
  | none => return taken

/-- Sends bytes to a service and takes everything that comes back. -/
def converse (address : Std.Net.SocketAddress) (bytes : Bytes) : IO Bytes := do
  let client ← TCP.Socket.Client.mk
  (client.connect address).block
  (client.send ⟨bytes.toArray⟩).block
  return (← receive client .empty).toList

/-- The address of a port. -/
def socketAddress (port : Nat) : Std.Net.IPAddr → Std.Net.SocketAddress
  | .v4 address => .v4 ⟨address, UInt16.ofNat port⟩
  | .v6 address => .v6 ⟨address, UInt16.ofNat port⟩

/-- Sends bytes to the first address of a list that takes them. -/
def firstOf (port : Nat) (bytes : Bytes) : List Std.Net.IPAddr → IO (Option Bytes)
  | [] => return none
  | address :: rest => do
    try
      return some (← converse (socketAddress port address) bytes)
    catch _ => firstOf port bytes rest

/-- Sends a request to a node. -/
def exchange (numbers : IO.Ref Nat) (endpoint : Endpoint) (request : Request) : IO Delivery := do
  let number ← numbers.modifyGet fun number => (number, number + 1)
  let url := endpoint.url
  match url.scheme, url.authority with
  | "http", some authority =>
    let bytes := Http.request url (request.body number)
    let hosts ← try (authority.host.map addresses).getD (pure []) catch _ => pure []
    let reply ← try firstOf (authority.port.getD 80) bytes hosts catch _ => pure none
    match reply.bind Http.response? with
    | none => return .failed endpoint.failure
    | some response =>
      if response.status = 200 then return .received response.body
      else return .refused response.status response.body
  | _, _ => return .failed endpoint.failure

/-- Waits for a task until a time, looking every millisecond. -/
partial def waitUntil {Result : Type} (time : Nat) (task : Task (Except IO.Error Result)) :
    IO (Option Result) := do
  if ← IO.hasFinished task then
    return some (← IO.ofExcept task.get)
  if time < (← IO.monoMsNow) then return none
  IO.sleep 1
  waitUntil time task

/-- Answers a question to the line to a node. -/
def line (numbers : IO.Ref Nat) (endpoint : Endpoint) :
    (question : WireQuestion) → IO (Wire.Answer question)
  | .clock => IO.monoMsNow
  | .sleepUntil time => do IO.sleep (UInt32.ofNat (time - (← IO.monoMsNow)))
  | .exchange request => exchange numbers endpoint request
  | .exchangeBy deadline request => do
    waitUntil deadline (← IO.asTask (exchange numbers endpoint request))

/-! ### The program -/

/-- Answers a question of the program. -/
def world (numbers : IO.Ref Nat) : (question : WorldQuestion) → Act (World.Answer question)
  | .file path => file path
  | .variable name => setting name
  | .chain endpoint question =>
    let dialogue := (Rpc.carryOut endpoint.patience question).through Rpc.Retry.carryOut
    ExceptT.mk (dialogue.perform (line numbers endpoint) note)

/-- Performs a dialogue of the program. -/
def perform {Result : Type} (numbers : IO.Ref Nat) (dialogue : Dialogue World Result) :
    Act Result :=
  dialogue.perform (world numbers) (fun event => note event)

/-- Takes the turns of a run without a limit, one after the other, until it ends. -/
partial def takeTurns (numbers : IO.Ref Nat) (session : Session) (summary : Summary) :
    Act Unit := do
  match ← perform numbers (session.turn summary) with
  | .error breakdown => throw breakdown
  | .ok (.ended _ _) => return
  | .ok (.going summary cursor) => takeTurns numbers { session with cursor := cursor } summary

/-- Starts the program and runs it. -/
def program (numbers : IO.Ref Nat) : Act UInt32 := do
  match ← perform numbers Startup.session with
  | .error error =>
    if error.isBreakdown then return 101
    IO.eprintln s!"Error: {error.message}"
    return 1
  | .ok session =>
    takeTurns numbers session Summary.empty
    return 0

end Trickle.Console

/-- Runs the program. -/
def main : IO UInt32 := do
  let numbers ← IO.mkRef 0
  match ← (Trickle.Console.program numbers).run with
  | .ok code => return code
  | .error _ => return 101
