/-
# Agent.StatusScan — reading the own address off the status document

The status document lists the addresses of this node under the key `TailscaleIPs`, and those
of every peer under the same key further on. The agent takes everything behind the first
quoted `TailscaleIPs` and returns the first address between quotes, brackets and commas.

Numbers, literals and punctuation never look like an address, so only the strings of the
document count: the marker is the first one that spells the key, or ends in a quote and
the key, and the address is the first one in a string behind it
(`parseStatusJsonIp_eq_some`). Nothing ties that string to the array. If the array is null,
empty, or holds an IPv6 address alone, the next address in the text is that of a peer.
-/
import Tailroute.Theory.Json
import Tailroute.Theory.Split
import Tailroute.Agent.Tailscale

namespace Tailroute.Agent

open Tailroute.Theory Tailroute.Theory.Json Tailroute.Common

set_option autoImplicit false

/-! ## Addresses in a text -/

/-- The addresses between the cuts, in order. -/
def addresses (t : Text) : List Ipv4Addr := (t.splitOnP cutsStatus).filterMap statusAddress

theorem addresses_append_cons {c : Char} (cuts : cutsStatus c = true) (before after : Text) :
    addresses (before ++ c :: after) = addresses before ++ addresses after := by
  rw [addresses, List.splitOnP_append_cons before after cuts, List.filterMap_append]
  rfl

theorem digits_of_parseOctet {s : Text} {octet : UInt8} (parsed : parseOctet s = some octet) :
    s.count '.' = 0 ∧ ∀ c ∈ s, c.isDigit = true ∨ c = '.' := by
  obtain ⟨-, digits, -⟩ := parseOctet_eq_some parsed
  refine ⟨List.count_eq_zero.mpr fun member => ?_, fun c member => Or.inl (digits c member)⟩
  exact absurd (digits '.' member) (by decide)

/-- An address is digits with three dots between them. -/
theorem dots_of_parseIpv4 {s : Text} {ip : Ipv4Addr} (parsed : parseIpv4 s = some ip) :
    (∀ c ∈ s, c.isDigit = true ∨ c = '.') ∧ s.count '.' = 3 := by
  obtain ⟨a, b, c, d, w, x, y, z, parts, -, ha, hb, hc, hd⟩ := parseIpv4_eq_some parsed
  have spelled : s = a ++ '.' :: (b ++ '.' :: (c ++ '.' :: d)) := by
    have joined : ['.'].intercalate (s.splitOn '.') = s := List.intercalate_splitOn '.'
    rw [← joined, parts]
    simp [List.intercalate]
  obtain ⟨countA, digitsA⟩ := digits_of_parseOctet ha
  obtain ⟨countB, digitsB⟩ := digits_of_parseOctet hb
  obtain ⟨countC, digitsC⟩ := digits_of_parseOctet hc
  obtain ⟨countD, digitsD⟩ := digits_of_parseOctet hd
  rw [spelled]
  constructor
  · simp only [List.forall_mem_append, List.forall_mem_cons]
    exact ⟨digitsA, Or.inr trivial, digitsB, Or.inr trivial, digitsC, Or.inr trivial, digitsD⟩
  · simp only [List.count_append, List.count_cons_self, countA, countB, countC, countD]

/-! ## What stands between strings -/

/-- Free of quotes, of the key's first letter and of anything with the dots of an address. -/
structure Quiet (t : Text) : Prop where
  noQuote : '"' ∉ t
  noKey : 'T' ∉ t
  dots : ∀ part, part <:+: t → (∀ c ∈ part, c.isDigit = true ∨ c = '.') → part.count '.' ≤ 1

theorem quiet_of_count {t : Text} (noQuote : '"' ∉ t) (noKey : 'T' ∉ t) (few : t.count '.' ≤ 1) :
    Quiet t where
  noQuote := noQuote
  noKey := noKey
  dots _ inside _ := (inside.sublist.count_le '.').trans few

theorem quiet_scalar (s : Scalar) : Quiet s.text := by
  cases s with
  | null => exact quiet_of_count (by decide) (by decide) (by decide)
  | true => exact quiet_of_count (by decide) (by decide) (by decide)
  | false => exact quiet_of_count (by decide) (by decide) (by decide)
  | number n =>
      refine quiet_of_count ?_ ?_ n.count_dot_text
      · intro member
        exact absurd (Number.mem_text member) (by decide)
      · intro member
        exact absurd (Number.mem_text member) (by decide)

theorem quiet_join {c : Char} (separates : c ∈ separators) {before after : Text}
    (first : Quiet before) (second : Quiet after) : Quiet (before ++ c :: after) where
  noQuote member := by
    rcases List.mem_append.mp member with left | right
    · exact first.noQuote left
    · rcases List.mem_cons.mp right with rfl | right
      · exact absurd separates (by decide)
      · exact second.noQuote right
  noKey member := by
    rcases List.mem_append.mp member with left | right
    · exact first.noKey left
    · rcases List.mem_cons.mp right with rfl | right
      · exact absurd separates (by decide)
      · exact second.noKey right
  dots part inside digits := by
    have absent : c ∉ part := by
      intro member
      have other : (separators.all fun c => !c.isDigit && c != '.') = true := by decide
      have strange := List.all_eq_true.mp other c separates
      rcases digits c member with digit | dot
      · rw [digit] at strange
        cases strange
      · rw [dot] at strange
        exact absurd strange (by decide)
    rcases Split.infix_of_not_mem inside absent with left | right
    · exact first.dots part left digits
    · exact second.dots part right digits

theorem quiet_passesOver : PassesOver Quiet where
  nil := quiet_of_count (by decide) (by decide) (by decide)
  scalar := quiet_scalar
  join _ separates _ _ := quiet_join separates

theorem addresses_of_quiet {t : Text} (quiet : Quiet t) : addresses t = [] := by
  rw [addresses, List.filterMap_eq_nil_iff]
  intro part member
  rw [statusAddress_eq, Option.eq_none_iff_forall_ne_some]
  intro ip accepted
  obtain ⟨parsed, -⟩ := parseTsIp_eq_ok.mp (toOption_parseTsIp_eq_some.mp accepted)
  obtain ⟨digits, three⟩ := dots_of_parseIpv4 parsed
  have inside : trim part <:+: t :=
    ((List.rdropWhile_prefix _ _).isInfix.trans (List.dropWhile_suffix _).isInfix).trans
      (Split.infix_of_mem_splitOnP member)
  have few := quiet.dots (trim part) inside digits
  omega

theorem addresses_of_woven {ls : List Literal} {t : Text} (woven : Woven Quiet ls t) :
    addresses t = ls.flatMap fun l => addresses (Literal.text l) := by
  induction ls generalizing t with
  | nil => exact addresses_of_quiet woven
  | cons l ls ih =>
      obtain ⟨gap, rest, rfl, quiet, woven⟩ := woven
      rw [addresses_append_cons (by decide), addresses_append_cons (by decide),
        addresses_of_quiet quiet, ih woven, List.flatMap_cons, List.nil_append]

/-! ## Finding the key -/

/-- The scan stops in this string: from some quote on, its opening one included, it is the
key. -/
def Marks (l : Literal) : Prop := '"' :: keyName <:+ '"' :: Literal.text l

instance (l : Literal) : Decidable (Marks l) := inferInstanceAs (Decidable (_ <:+ _))

/-- The strings behind the first that marks. -/
def behindMarker : List Literal → List Literal
  | [] => []
  | l :: ls => if Marks l then ls else behindMarker ls

theorem sliceFrom_skip {gap : Text} (noQuote : '"' ∉ gap) (t : Text) :
    sliceFrom statusKey (gap ++ t) = sliceFrom statusKey t := by
  induction gap with
  | nil => rfl
  | cons c rest ih =>
      rw [List.mem_cons, not_or] at noQuote
      obtain ⟨other, noQuote⟩ := noQuote
      rw [List.cons_append, sliceFrom, if_neg, ih noQuote]
      intro found
      exact other (List.cons_prefix_cons.mp found).1

theorem keyName_eq : keyName = "TailscaleIP".toList ++ ['s'] := by decide

/-- Where the quoted key can start in a string and its closing quote. -/
theorem statusKey_prefix_iff {l : Literal} {v rest : Text} (ends : v <:+ '"' :: Literal.text l)
    (other : rest.head? ≠ some 'T') :
    statusKey <+: v ++ '"' :: rest ↔ v = '"' :: keyName := by
  constructor
  · intro found
    rcases v with _ | ⟨c, w⟩
    · -- at the closing quote: the key's first letter would stand outside the string
      obtain ⟨tail, rfl⟩ : keyName ++ ['"'] <+: rest := (List.cons_prefix_cons.mp found).2
      exact absurd rfl other
    · obtain ⟨rfl, tail, same⟩ := List.cons_prefix_cons.mp found
      rw [List.append_assoc] at same
      have inside : w <:+ Literal.text l := by
        rcases List.suffix_cons_iff.mp ends with whole | later
        · rw [(List.cons.inj whole).2]
        · exact (List.suffix_cons _ w).trans later
      rcases List.append_eq_append_iff.mp same with ⟨after, rfl, quote⟩ | ⟨after, short, quote⟩
      · rcases after with _ | ⟨d, after⟩
        · rw [List.append_nil]
        · obtain ⟨before, whole⟩ := inside
          obtain ⟨rfl, -⟩ := List.cons.inj quote
          have escaped : Literal.text l =
              (before ++ "TailscaleIP".toList) ++ 's' :: '"' :: after := by
            rw [← whole, keyName_eq, List.append_assoc, List.append_assoc]
            rfl
          exact absurd (Literal.quote_escaped l escaped) (by decide)
      · rcases after with _ | ⟨d, after⟩
        · rw [short, List.append_nil]
        · obtain ⟨rfl, -⟩ := List.cons.inj quote
          have quoted : '"' ∈ keyName := by
            rw [short]
            exact List.mem_append_right w List.mem_cons_self
          exact absurd quoted (by decide)
  · rintro rfl
    exact ⟨rest, by rw [statusKey, List.cons_append, List.cons_append, List.append_assoc]; rfl⟩

theorem sliceFrom_string {u rest : Text}
    (stops : ∀ v, v <:+ u → (statusKey <+: v ++ '"' :: rest ↔ v = '"' :: keyName)) :
    sliceFrom statusKey (u ++ '"' :: rest) =
      if '"' :: keyName <:+ u then some (statusKey ++ rest) else sliceFrom statusKey rest := by
  induction u with
  | nil =>
      have passed : ¬statusKey <+: '"' :: rest := by
        rw [← List.nil_append ('"' :: rest), stops [] List.suffix_rfl]
        nofun
      rw [List.nil_append, sliceFrom, if_neg passed, if_neg]
      exact fun ends => absurd (List.suffix_nil.mp ends) (by nofun)
  | cons c u ih =>
      have here := stops (c :: u) List.suffix_rfl
      have later := ih fun v ends => stops v (ends.trans (List.suffix_cons c u))
      rw [List.cons_append, sliceFrom]
      rw [List.cons_append] at here
      by_cases whole : c :: u = '"' :: keyName
      · rw [if_pos (here.mpr whole), whole, if_pos List.suffix_rfl, ← List.cons_append, whole,
          statusKey, List.cons_append, List.cons_append, List.append_assoc]
        rfl
      · rw [if_neg fun found => whole (here.mp found), later]
        have same : '"' :: keyName <:+ c :: u ↔ '"' :: keyName <:+ u := by
          rw [List.suffix_cons_iff, or_iff_right fun same => whole same.symm]
        simp only [same]

theorem woven_head? {ls : List Literal} {t : Text} (woven : Woven Quiet ls t) :
    t.head? ≠ some 'T' := by
  cases ls with
  | nil =>
      intro first
      exact woven.noKey (List.mem_of_head? first)
  | cons l ls =>
      obtain ⟨gap, rest, rfl, quiet, -⟩ := woven
      cases gap with
      | nil => nofun
      | cons c gap =>
          intro first
          exact quiet.noKey (List.mem_of_head? first)

theorem parseStatusJsonIp_eq (t : Text) :
    parseStatusJsonIp t = (sliceFrom statusKey t).bind fun slice => (addresses slice).head? := by
  unfold parseStatusJsonIp addresses
  simp only [List.head?_filterMap]

theorem addresses_statusKey (rest : Text) : addresses (statusKey ++ rest) = addresses rest := by
  have none : addresses keyName = [] := by decide +kernel
  have empty : addresses [] = [] := by decide +kernel
  have spelled : statusKey ++ rest = [] ++ '"' :: (keyName ++ '"' :: rest) := by
    rw [statusKey, List.cons_append, List.append_assoc]
    rfl
  rw [spelled, addresses_append_cons (by decide), addresses_append_cons (by decide), none, empty]
  rfl

/-- **The scan, seen from the strings.** -/
theorem scan_woven {ls : List Literal} {t : Text} (woven : Woven Quiet ls t) :
    parseStatusJsonIp t =
      ((behindMarker ls).flatMap fun l => addresses (Literal.text l)).head? := by
  rw [parseStatusJsonIp_eq]
  induction ls generalizing t with
  | nil =>
      rw [← List.append_nil t, sliceFrom_skip woven.noQuote]
      rfl
  | cons l ls ih =>
      obtain ⟨gap, rest, rfl, quiet, woven⟩ := woven
      have stops := fun v ends => @statusKey_prefix_iff l v rest ends (woven_head? woven)
      rw [sliceFrom_skip quiet.noQuote, ← List.cons_append, sliceFrom_string stops, behindMarker]
      by_cases marks : '"' :: keyName <:+ '"' :: Literal.text l
      · have here : Marks l := marks
        rw [if_pos marks, if_pos here, Option.bind_some, addresses_statusKey,
          addresses_of_woven woven]
      · have other : ¬Marks l := marks
        rw [if_neg marks, if_neg other]
        exact ih woven

/-! ## The own address -/

def isKey (l : Literal) : Bool := Literal.units l == keyName.flatMap utf16

/-- An element of the array of the first key means this address. -/
def Own (doc : Document) (ip : Ipv4Addr) : Prop :=
  ∃ own l s, doc.value.findMember isKey = some own ∧ Value.string l ∈ own.elements ∧
    Literal.Means l s ∧ parseIpv4 (trim s) = some ip

/-- No element of the array of the first key means this address: there is no such key, its
value is no array, or its strings mean something else. -/
def Elsewhere (doc : Document) (ip : Ipv4Addr) : Prop :=
  ∀ own, doc.value.findMember isKey = some own → ∀ l, Value.string l ∈ own.elements →
    ∀ s, Literal.Means l s → parseIpv4 (trim s) ≠ some ip

theorem elsewhere_iff_not_own {doc : Document} {ip : Ipv4Addr} :
    Elsewhere doc ip ↔ ¬Own doc ip := by
  simp only [Elsewhere, Own, not_exists, not_and]
  exact ⟨fun none own l s found member => none own found l member s,
    fun none own found l member s => none own l s found member⟩

/-- Behind the first string that marks, the first string with an address has one that is not
in the array of the first key. -/
def Strays (doc : Document) : Prop :=
  ∃ before marker between stray after ip,
    doc.literals = before ++ marker :: (between ++ stray :: after) ∧
      (∀ l ∈ before, ¬Marks l) ∧ Marks marker ∧
        (∀ l ∈ between, addresses (Literal.text l) = []) ∧
          (addresses (Literal.text stray)).head? = some ip ∧ Elsewhere doc ip

theorem behindMarker_append {before after : List Literal} {marker : Literal}
    (passed : ∀ l ∈ before, ¬Marks l) (marks : Marks marker) :
    behindMarker (before ++ marker :: after) = after := by
  induction before with
  | nil => exact if_pos marks
  | cons l before ih =>
      obtain ⟨other, passed⟩ := List.forall_mem_cons.mp passed
      rw [List.cons_append, behindMarker, if_neg other]
      exact ih passed

theorem exists_marker (ls : List Literal) : behindMarker ls = [] ∨
    ∃ before marker, ls = before ++ marker :: behindMarker ls ∧ (∀ l ∈ before, ¬Marks l) ∧
      Marks marker := by
  induction ls with
  | nil => exact Or.inl rfl
  | cons l ls ih =>
      by_cases marks : Marks l
      · rw [behindMarker, if_pos marks]
        exact Or.inr ⟨[], l, rfl, nofun, marks⟩
      · rw [behindMarker, if_neg marks]
        refine ih.imp_right ?_
        rintro ⟨before, marker, whole, passed, found⟩
        refine ⟨l :: before, marker, ?_, List.forall_mem_cons.mpr ⟨marks, passed⟩, found⟩
        exact congrArg (l :: ·) whole

/-- **What is read from a document**: the first address in a string behind the marker. -/
theorem parseStatusJsonIp_eq_some {doc : Document} {ip : Ipv4Addr} :
    parseStatusJsonIp doc.text = some ip ↔
      ∃ before marker between stray after,
        doc.literals = before ++ marker :: (between ++ stray :: after) ∧
          (∀ l ∈ before, ¬Marks l) ∧ Marks marker ∧
            (∀ l ∈ between, addresses (Literal.text l) = []) ∧
              (addresses (Literal.text stray)).head? = some ip := by
  rw [scan_woven (doc.woven quiet_passesOver), List.head?_flatMap, List.findSome?_eq_some_iff]
  simp only [List.head?_eq_none_iff]
  constructor
  · rintro ⟨between, stray, after, behind, found, none⟩
    rcases exists_marker doc.literals with empty | ⟨before, marker, whole, passed, marks⟩
    · rw [empty] at behind
      exact absurd behind (by simp)
    · rw [behind] at whole
      exact ⟨before, marker, between, stray, after, whole, passed, marks, none, found⟩
  · rintro ⟨before, marker, between, stray, after, whole, passed, marks, none, found⟩
    rw [whole, behindMarker_append passed marks]
    exact ⟨between, stray, after, rfl, found, none⟩

/-- **Discovery yields the node's own address, but for two kinds of output.** A status document
whose first address behind the marker is not in the node's array gives that address, and an
output whose first 100.x.y.z lies outside the range gives that one. -/
theorem discovery_own_iff (doc : Document) (source : Source) (output : Text) :
    ((∀ ip, parseStatusJsonIp doc.text = some ip → Own doc ip) ↔ ¬Strays doc) ∧
      ((∀ ip, source.read output = some ip → Cgnat ip) ↔ ¬OutsideFirst source output) := by
  refine ⟨⟨?_, ?_⟩, read_cgnat_iff source output⟩
  · rintro owned ⟨before, marker, between, stray, after, ip, whole, passed, marks, none, found, other⟩
    exact elsewhere_iff_not_own.mp other (owned ip (parseStatusJsonIp_eq_some.mpr
      ⟨before, marker, between, stray, after, whole, passed, marks, none, found⟩))
  · intro fine ip taken
    obtain ⟨before, marker, between, stray, after, whole, passed, marks, none, found⟩ :=
      parseStatusJsonIp_eq_some.mp taken
    by_contra other
    exact fine ⟨before, marker, between, stray, after, ip, whole, passed, marks, none, found,
      elsewhere_iff_not_own.mpr other⟩

/-- A string without escapes. -/
def plainLiteral (s : Text) : Literal :=
  s.filterMap fun c =>
    if fits : c ≠ '"' ∧ c ≠ '\\' ∧ 32 ≤ c.toNat then some (.plain c fits) else none

def noGap : Gap where
  chars := []
  blank _ member := absurd member List.not_mem_nil

def field (key : Text) (v : Value) : Members := .last (plainLiteral key) noGap noGap v noGap

/-- A node without addresses and its peer. -/
def peerStatus : Document where
  before := noGap
  value := .object noGap (.cons (plainLiteral "Self".toList) noGap noGap
    (.object noGap (field keyName (.scalar .null))) noGap noGap
    (field "Peer".toList (.object noGap (field "nodekey:1".toList (.object noGap
      (field keyName (.array noGap (.last (.string (plainLiteral "100.64.0.30".toList)) noGap))))))))
  after := noGap

def peerAddress : Ipv4Addr := ⟨[100, 64, 0, 30], rfl⟩

def publicAddress : Ipv4Addr := ⟨[100, 1, 2, 3], rfl⟩

/-- The address of a peer is read where the node has none, and a public address is accepted. -/
theorem foreign_addresses_read :
    (peerStatus.text = ("\x7b\"Self\":\x7b\"TailscaleIPs\":null\x7d,\"Peer\":".toList ++
        "\x7b\"nodekey:1\":\x7b\"TailscaleIPs\":[\"100.64.0.30\"]\x7d\x7d\x7d".toList) ∧
      parseStatusJsonIp peerStatus.text = some peerAddress ∧ ¬Own peerStatus peerAddress) ∧
      Source.read .tailscaleCli "100.1.2.3\n".toList = some publicAddress ∧
        ¬Cgnat publicAddress := by
  refine ⟨⟨by decide +kernel, by decide +kernel, ?_⟩, by decide +kernel, ?_⟩
  · rintro ⟨own, l, s, first, member, -⟩
    have null : peerStatus.value.findMember isKey = some (.scalar .null) := by rfl
    rw [null] at first
    cases first
    cases member
  · rintro ⟨b, c, d, octets, low, -⟩
    cases octets
    exact absurd low (by decide)

end Tailroute.Agent
