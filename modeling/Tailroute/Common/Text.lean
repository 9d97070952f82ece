/-
# Common.Text — the string operations the services are written with

Strings are handled as their characters. `toAsciiLowercase` and
`trimEndMatches` are the two standard library operations that decide which
spellings of a name are the same name, `trim` takes off what Unicode calls
whitespace, and `parseIpv4` is the standard library's dotted-decimal parser: four
octets, no sign, no leading zero, nothing around them.
-/
import Mathlib
import Tailroute.Theory.TextOrder

namespace Tailroute.Common

open Tailroute.Theory.TextOrder

set_option autoImplicit false

abbrev Text := List Char

-- one name for the proof that every membership test of a hostname list carries
instance : LawfulBEq Text := inferInstance

/-! ## Letter case and trailing characters -/

/-- `str::to_ascii_lowercase`. -/
def toAsciiLowercase (s : Text) : Text := s.map Char.toLower

/-- `str::trim_end_matches` of one character. -/
def trimEndMatches (c : Char) (s : Text) : Text := s.rdropWhile fun d => d == c

@[simp] theorem toAsciiLowercase_idem (s : Text) :
    toAsciiLowercase (toAsciiLowercase s) = toAsciiLowercase s := by
  simp only [toAsciiLowercase, List.map_map]
  exact List.map_congr_left fun c _ => Char.toLower_toLower_eq_toLower c

/-- `str::eq_ignore_ascii_case`. -/
def eqIgnoreAsciiCase (a b : Text) : Bool := toAsciiLowercase a == toAsciiLowercase b

/-! ## Whitespace and length -/

/-- `char::is_whitespace`: the Unicode property `White_Space`. -/
def isWhitespace (c : Char) : Bool :=
  let n := c.toNat
  (0x9 ≤ n && n ≤ 0xD) || n == 0x20 || n == 0x85 || n == 0xA0 || n == 0x1680 ||
    (0x2000 ≤ n && n ≤ 0x200A) || n == 0x2028 || n == 0x2029 || n == 0x202F || n == 0x205F ||
    n == 0x3000

/-- `str::trim`. -/
def trim (s : Text) : Text := (s.dropWhile isWhitespace).rdropWhile isWhitespace

/-- Nothing is stripped from a list whose ends do not satisfy the predicate. -/
theorem strip_eq_self {α : Type} {p : α → Bool} {s : List α}
    (first : ∀ c, s.head? = some c → p c = false) (last : ∀ c, s.getLast? = some c → p c = false) :
    (s.dropWhile p).rdropWhile p = s := by
  have left : s.dropWhile p = s := by
    cases s with
    | nil => rfl
    | cons c rest => rw [List.dropWhile_cons, first c rfl, if_neg Bool.false_ne_true]
  rw [left, List.rdropWhile_eq_self_iff]
  intro nonempty
  rw [last _ (List.getLast?_eq_getLast_of_ne_nil nonempty)]
  exact Bool.false_ne_true

/-- `str::len`: the bytes of the UTF-8 encoding. -/
def utf8Len (s : Text) : Nat := (s.map Char.utf8Size).sum

/-! ## Numbers -/

/-- `str::parse` of an unsigned type with the given greatest value: digits, with at
most one plus sign before them. -/
def parseUnsigned (max : Nat) (s : Text) : Option Nat :=
  let digits := if s.head? = some '+' then s.tail else s
  if digits ≠ [] ∧ digits.all Char.isDigit ∧ decimalValue digits ≤ max then
    some (decimalValue digits)
  else none

/-- `str::parse::<u16>`. -/
def parseU16 (s : Text) : Option UInt16 := (parseUnsigned 65535 s).map UInt16.ofNat

/-! ## IPv4 addresses -/

structure Ipv4Addr where
  octets : List UInt8
  four : octets.length = 4
deriving DecidableEq

/-- One decimal octet: at most three digits, no leading zero, at most 255. -/
def parseOctet (s : Text) : Option UInt8 :=
  if s ≠ [] ∧ s.all Char.isDigit ∧ s.length ≤ 3 ∧ (s.head? = some '0' → s.length = 1) ∧
      decimalValue s ≤ 255 then
    some (UInt8.ofNat (decimalValue s))
  else none

/-- `str::parse::<Ipv4Addr>`. -/
def parseIpv4 (s : Text) : Option Ipv4Addr :=
  match s.splitOn '.' with
  | [a, b, c, d] => do
      let a ← parseOctet a
      let b ← parseOctet b
      let c ← parseOctet c
      let d ← parseOctet d
      some ⟨[a, b, c, d], rfl⟩
  | _ => none

example : parseIpv4 "100.64.0.1".toList = some ⟨[100, 64, 0, 1], rfl⟩ := by decide
example : parseIpv4 "100.064.0.1".toList = none := by decide

end Tailroute.Common
