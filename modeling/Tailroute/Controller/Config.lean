/-
# Controller.Config — the policy and the environment of the handlers

`hostnameAllowed` is `ControllerConfig::hostname_allowed` with the texts of its
two refusals. `Env` gathers what the handlers take from outside the store: the
configured lease time and policy, the timestamp parser and the token hash. The
hash and its check are parameters without any law; a result that needs one
assumes it. `ApiError` is what a handler answers instead of a result.
-/
import Tailroute.Common.Rfc3339
import Tailroute.Storage.Store

namespace Tailroute.Controller

open Tailroute.Common Tailroute.Storage

set_option autoImplicit false

inductive ApiError where
  | unauthorized
  | forbidden (message : Text)
  | storage (error : StorageError)
deriving DecidableEq

structure SecurityConfig where
  allowedSuffixes : List Text
  blockedNames : List Text
deriving DecidableEq

/-- `str::trim_start_matches` of one character. -/
def trimStartMatches (c : Char) (s : Text) : Text := s.dropWhile fun d => d == c

def hostnameAllowed (security : SecurityConfig) (host : Text) : Except Text Unit :=
  let h := toAsciiLowercase host
  if security.blockedNames.any fun b => h == toAsciiLowercase b then
    .error ("hostname blocked by policy: ".toList ++ host)
  else if security.allowedSuffixes.isEmpty then .ok ()
  else if security.allowedSuffixes.any fun suf =>
      let s := toAsciiLowercase suf
      h == trimStartMatches '.' s || s.isSuffixOf h then
    .ok ()
  else .error ("hostname not under allowed_suffixes: ".toList ++ host)

/-- The loop of `put_routes` over the requested routes: the first refusal wins. -/
def hostnamesAllowed (security : SecurityConfig) : List Text → Except Text Unit
  | [] => .ok ()
  | host :: rest =>
      match hostnameAllowed security host with
      | .ok _ => hostnamesAllowed security rest
      | .error message => .error message

/-- `bearer_token`: what follows `Bearer ` in the `Authorization` header. -/
def bearerToken (authorization : Option Text) : Option Text :=
  authorization.bind fun value =>
    if "Bearer ".toList.isPrefixOf value then some (value.drop 7) else none

example : bearerToken (some "Bearer t0k".toList) = some "t0k".toList := by decide
example : bearerToken (some "bearer t0k".toList) = none := by decide

structure Env where
  rfc : Rfc3339
  /-- `agent_ttl_seconds` as a duration. -/
  ttl : Int
  security : SecurityConfig
  /-- `hash_token` with the salt it drew. -/
  hashToken : Text → Text → Text
  verifyToken : Text → Text → Bool

/-- An environment to run concrete requests in: a lease of 90 seconds, no policy
and tokens that are their own hash. -/
def plainEnv : Env where
  rfc := layoutParser
  ttl := 90 * nanosPerSecond
  security := ⟨[], []⟩
  hashToken := fun _ token => token
  verifyToken := fun hash token => hash == token

end Tailroute.Controller
