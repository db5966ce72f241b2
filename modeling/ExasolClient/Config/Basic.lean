-- SUMMARY: The configuration of a connection, and what follows from it.
import ExasolClient.Config.Duration
import ExasolClient.Config.TlsMode
import ExasolClient.Text.Quoted

/-!
# Configuration

A configuration names the server, the account and the behaviour of the client.
The description of a configuration never shows the password.
-/

namespace ExasolClient

/-- The port on which a server listens unless it is told otherwise. -/
def defaultPort : UInt16 := 8563

/-- The most bytes that one fetch may ask for: 64 MiB. -/
def maxFetchSize : UInt64 := 64 * 1024 * 1024

/-- The version of this client. -/
def clientVersion : String := "0.1.0"

/-- The configuration of a connection. -/
structure Config where
  host : String := "localhost"
  port : UInt16 := defaultPort
  user : String := ""
  password : String := ""
  /-- The name under which the client introduces itself. -/
  clientName : String := "exaws"
  clientVersion : String := clientVersion
  connectTimeout : Duration := .ofSeconds 30
  /-- How long a query may take; the server decides when nothing is set. -/
  queryTimeout : Option Duration := none
  tlsMode : TlsMode := .disable
  /-- Errors of the server are returned but not logged. -/
  suppressErrors : Bool := false
  /-- Prepared statements stay open for the next use. -/
  cacheStatements : Bool := false
  /-- The bytes that one fetch asks for. -/
  fetchSize : UInt64 := maxFetchSize
  deriving DecidableEq, Repr, Inhabited

namespace Config

/-- The bytes that one fetch does ask for: neither none nor more than the most. -/
def bytesPerFetch (c : Config) : UInt64 :=
  if c.fetchSize = 0 ∨ maxFetchSize < c.fetchSize then maxFetchSize else c.fetchSize

/-- The time limit in the server's unit; a limit below one second is not sent. -/
def queryTimeoutSeconds (c : Config) : Option UInt64 :=
  (c.queryTimeout.map (·.wholeSeconds)).filter (0 < ·)

/-- The text of a port. -/
def portText (port : UInt16) : List Char := Text.writeNat port.toNat

/-- The address of a host: one with a colon stands in brackets, unless it does already. -/
def hostText (host : List Char) : List Char :=
  if ':' ∈ host ∧ host.head? ≠ some '[' then '[' :: host ++ [']'] else host

/-- Host and port of the server, in one text. -/
def socketAddress (c : Config) : String :=
  String.ofList (hostText c.host.toList ++ ':' :: portText c.port)

/-- The address of the server, with the scheme. -/
def endpoint (c : Config) : String :=
  (if c.tlsMode.isEnabled then "wss" else "ws") ++ "://" ++ c.socketAddress

/-- The description of an optional duration. -/
def durationText : Option Duration → String
  | some d => s!"Some({d.text})"
  | none => "None"

/-- The description of a configuration, in which the password is not shown. -/
def describe (c : Config) : String :=
  "ExaConfig \x7b " ++ ", ".intercalate [
    "host: " ++ Text.quoted c.host,
    "port: " ++ toString c.port.toNat,
    "user: " ++ Text.quoted c.user,
    "password: " ++ Text.quoted "<redacted>",
    "client_name: " ++ Text.quoted c.clientName,
    "client_version: " ++ Text.quoted c.clientVersion,
    "connect_timeout: " ++ c.connectTimeout.text,
    "query_timeout: " ++ durationText c.queryTimeout,
    "tls_mode: " ++ c.tlsMode.name,
    "suppress_errors: " ++ toString c.suppressErrors,
    "cache_prepared_statements: " ++ toString c.cacheStatements,
    "fetch_size: " ++ toString c.fetchSize.toNat] ++ " \x7d"

end Config
end ExasolClient
