/-
# Proxy.Routes — the agent's route table

The map the reverse proxy reads. It is replaced as a whole; a lookup cuts a port
off the Host value and ignores letter case, so a normalized hostname is looked up
as it stands (`resolve_of_normalized`).
-/
import Tailroute.Theory.Table
import Tailroute.Common.Backend

namespace Tailroute.Proxy

open Tailroute.Theory Tailroute.Common

set_option autoImplicit false

structure BackendRoute where
  backend : Backend
  containerId : Option Text
  containerName : Option Text
deriving DecidableEq

abbrev SharedRouteStore := Table Text BackendRoute

/-- `SharedRouteStore::resolve`. -/
def SharedRouteStore.resolve (store : SharedRouteStore) (host : Text) : Option BackendRoute :=
  store.find? (toAsciiLowercase (host.takeWhile fun c => c != ':'))

/-- A normalized hostname has no port to cut off and no case to fold. -/
theorem resolve_of_normalized {host : Text} (store : SharedRouteStore)
    (normalized : Normalized host) : SharedRouteStore.resolve store host = store.find? host := by
  have whole : (host.takeWhile fun c => c != ':') = host := by
    rw [List.takeWhile_eq_self_iff]
    intro c member
    rw [bne_iff_ne]
    rintro rfl
    rcases normalized.chars member with alnum | hyphen | dot
    · exact absurd alnum (by decide)
    · exact absurd hyphen (by decide)
    · exact absurd dot (by decide)
  rw [SharedRouteStore.resolve, whole, normalized.1]

end Tailroute.Proxy
