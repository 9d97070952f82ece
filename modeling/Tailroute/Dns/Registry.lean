/-
# Dns.Registry — the map DNS answers registered names from

`DnsRegistry` holds one map from hostname to address. A replacement swaps the
whole map; a lookup reads the map under the canonical spelling of the name it is
given, lowercase and without trailing dots.
-/
import Tailroute.Theory.Table
import Tailroute.Common.Text

namespace Tailroute.Dns

open Tailroute.Theory Tailroute.Common

set_option autoImplicit false

abbrev DnsRegistry := Table Text Ipv4Addr

/-- The key a lookup reads: `hostname.trim_end_matches('.').to_ascii_lowercase()`. -/
def lookupKey (hostname : Text) : Text := toAsciiLowercase (trimEndMatches '.' hostname)

/-- The name has no trailing dot. -/
def Undotted (hostname : Text) : Prop := hostname.getLast? ≠ some '.'

instance (hostname : Text) : Decidable (Undotted hostname) := inferInstanceAs (Decidable (_ ≠ _))

/-- Without a trailing dot the key is the lowercase name. -/
theorem lookupKey_of_undotted {hostname : Text} (undotted : Undotted hostname) :
    lookupKey hostname = toAsciiLowercase hostname := by
  have untrimmed : trimEndMatches '.' hostname = hostname := by
    rw [trimEndMatches, List.rdropWhile_eq_self_iff]
    intro nonempty dot
    have last : hostname.getLast nonempty = '.' := by simpa using dot
    exact undotted (by rw [List.getLast?_eq_some_getLast nonempty, last])
  rw [lookupKey, untrimmed]

theorem toLower_eq_dot {c : Char} (dot : c.toLower = '.') : c = '.' := by
  simp only [Char.toLower] at dot
  split at dot
  · rename_i upper
    have value := congrArg (fun d : Char => d.val.toNat) dot
    simp only [ge_iff_le, UInt32.le_iff_toNat_le] at upper
    simp [UInt32.toNat_add] at value upper
    omega
  · exact dot

theorem undotted_toAsciiLowercase {hostname : Text} (undotted : Undotted hostname) :
    Undotted (toAsciiLowercase hostname) := by
  intro dot
  rw [toAsciiLowercase, List.getLast?_map] at dot
  obtain ⟨c, last, lower⟩ := Option.map_eq_some_iff.mp dot
  exact undotted (last.trans (by rw [toLower_eq_dot lower]))

/-- A name in any letter case and with the root dot is looked up under its own key. -/
theorem lookupKey_rootDot {host name : Text} (undotted : Undotted host)
    (lower : toAsciiLowercase name = host) : lookupKey (name ++ ['.']) = host := by
  have bare : Undotted name := by
    intro dot
    apply undotted
    rw [← lower, toAsciiLowercase, List.getLast?_map, dot]
    rfl
  have trimmed : trimEndMatches '.' (name ++ ['.']) = trimEndMatches '.' name := by
    rw [trimEndMatches, List.rdropWhile_concat_pos _ _ _ (by simp)]
    rfl
  rw [lookupKey, trimmed]
  exact (lookupKey_of_undotted bare).trans lower

namespace DnsRegistry

def lookupA (registry : DnsRegistry) (hostname : Text) : Option Ipv4Addr :=
  registry.find? (lookupKey hostname)

def contains (registry : DnsRegistry) (hostname : Text) : Bool :=
  (registry.lookupA hostname).isSome

end DnsRegistry

end Tailroute.Dns
