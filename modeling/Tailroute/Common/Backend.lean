/-
# Common.Backend — backend addresses and their texts

A backend is a host and a port. It is written as a URL in three places (the
route an agent registers, the fingerprint in a heartbeat, the intent an admin
enables) and read back by `parse_backend_url`. The URL parser is a crate of its
own and enters as the function `UrlParser`; `httpUrl` is a small concrete one for
the URLs this program writes.
-/
import Tailroute.Common.Hostname

namespace Tailroute.Common

open Tailroute.Theory.TextOrder

set_option autoImplicit false

structure Backend where
  host : Text
  port : UInt16
deriving DecidableEq

namespace Backend

/-- `host:port`, with brackets around a bare IPv6 address. -/
def authority (b : Backend) : Text :=
  if ':' ∈ b.host ∧ b.host.head? ≠ some '[' then
    "[".toList ++ b.host ++ "]:".toList ++ Nat.toDigits 10 b.port.toNat
  else b.host ++ ":".toList ++ Nat.toDigits 10 b.port.toNat

def baseUrl (b : Backend) : Text := "http://".toList ++ b.authority ++ "/".toList

def fingerprint (b : Backend) : Text := "http://".toList ++ b.authority ++ "/".toList

end Backend

/-! ## Parsing -/

/-- The parts of a `url::Url` that are looked at. -/
structure Url where
  scheme : Text
  username : Text
  password : Option Text
  path : Text
  query : Option Text
  hostStr : Option Text
  port : Option UInt16

/-- `Url::parse`, with the text of its error. -/
abbrev UrlParser := Text → Except Text Url

def parseBackendUrl (parseUrl : UrlParser) (raw : Text) : Except Error Backend :=
  let trimmed := trim raw
  if trimmed = [] then .error (.invalidBackend "empty".toList)
  else if trimmed.any fun c => decide (c.toNat < 32) then
    .error (.invalidBackend "control characters".toList)
  else
    match parseUrl trimmed with
    | .error e => .error (.invalidBackend e)
    | .ok url =>
        if url.scheme ≠ "http".toList then
          .error (.invalidBackend "only http scheme supported".toList)
        else if url.username ≠ [] ∨ url.password.isSome then
          .error (.invalidBackend "credentials not allowed".toList)
        else if url.path ≠ "/".toList ∧ url.path ≠ [] then
          .error (.invalidBackend "path not allowed".toList)
        else if url.query.isSome then .error (.invalidBackend "query not allowed".toList)
        else
          match url.hostStr with
          | none => .error (.invalidBackend "missing host".toList)
          | some host =>
              let port := url.port.getD 80
              if port = 0 then .error (.invalidBackend "invalid port".toList)
              else .ok ⟨host, port⟩

/-- `http://host:port` with a numeric port and an optional final slash; every
other text is refused. -/
def httpUrl : UrlParser := fun raw =>
  if "http://".toList <+: raw then
    match (trimEndMatches '/' (raw.drop 7)).splitOn ':' with
    | [host, port] =>
        if port ≠ [] ∧ port.all Char.isDigit ∧ decimalValue port < 65536 then
          .ok ⟨"http".toList, [], none, "/".toList, none, some host,
            some (UInt16.ofNat (decimalValue port))⟩
        else .error "invalid port number".toList
    | _ => .error "unsupported".toList
  else .error "unsupported".toList

example : parseBackendUrl httpUrl "http://172.18.0.4:3000".toList =
    .ok ⟨"172.18.0.4".toList, 3000⟩ := by decide +kernel

end Tailroute.Common
