/-
# Common.HostGrammar — the names that hostnames are normalized to

`HostGrammar` is the grammar the checks of `validate_hostname_syntax` amount to, wherever
they stand: labels of letters, digits and inner hyphens, joined by dots. It does not
depend on letter case, and its texts survive trimming.

Of IDNA mapping two things are used: it lowercases ASCII names without
punycode labels, and a name it has produced is left alone. For ASCII input the grammar then
decides what `normalize_hostname` accepts; for any input it describes what is returned, and
what is returned is normalized again to itself. The comma-separated lists of
`parse_host_list` inherit this: a list is read as a whole, without repetitions, and the
list that was read is read back.
-/
import Tailroute.Common.Hostname
import Tailroute.Theory.FirstOccurrence

namespace Tailroute.Common

open Tailroute.Theory

set_option autoImplicit false

/-! ## The grammar -/

/-- Letters, digits and hyphens, one to 63 of them, with no hyphen at either end. -/
structure LabelGrammar (label : Text) : Prop where
  length : 1 ≤ label.length ∧ label.length ≤ 63
  alphabet : ∀ c ∈ label, c.isAlphanum = true ∨ c = '-'
  ends : label.head? ≠ some '-' ∧ label.getLast? ≠ some '-'

/-- Labels separated by dots, of 253 characters at most. -/
structure HostGrammar (host : Text) : Prop where
  length : 1 ≤ host.length ∧ host.length ≤ 253
  labels : ∀ label ∈ host.splitOn '.', LabelGrammar label

def Ascii (s : Text) : Prop := ∀ c ∈ s, c.toNat < 128

/-- The codes of letters and digits. -/
theorem toNat_of_isAlphanum {c : Char} (alnum : c.isAlphanum = true) :
    48 ≤ c.toNat ∧ c.toNat ≤ 57 ∨ 65 ≤ c.toNat ∧ c.toNat ≤ 90 ∨ 97 ≤ c.toNat ∧ c.toNat ≤ 122 := by
  simp only [Char.isAlphanum, Char.isAlpha, Char.isUpper, Char.isLower, Char.isDigit,
    Bool.or_eq_true, Bool.and_eq_true, decide_eq_true_eq, UInt32.le_iff_toNat_le] at alnum
  simp at alnum
  omega

theorem toNat_lt_of_isAlphanum {c : Char} (alnum : c.isAlphanum = true) : c.toNat < 128 := by
  have codes := toNat_of_isAlphanum alnum
  omega

theorem utf8Len_of_ascii {s : Text} (ascii : Ascii s) : utf8Len s = s.length := by
  unfold utf8Len
  induction s with
  | nil => rfl
  | cons c rest ih =>
      have one : c.utf8Size = 1 := by
        have low := ascii c List.mem_cons_self
        simp only [Char.utf8Size, UInt32.le_iff_toNat_le]
        rw [if_pos (by simp; omega)]
      have later := ih fun d member => ascii d (List.mem_cons_of_mem _ member)
      rw [List.map_cons, List.sum_cons, one, later, List.length_cons, Nat.add_comm]

theorem ascii_of_alphabet {label : Text} (alphabet : ∀ c ∈ label, c.isAlphanum = true ∨ c = '-') :
    Ascii label := by
  intro c member
  rcases alphabet c member with alnum | rfl
  · exact toNat_lt_of_isAlphanum alnum
  · decide

theorem validateLabel_eq_ok {label : Text} : validateLabel label = .ok () ↔ LabelGrammar label := by
  constructor
  · intro valid
    have alphabet : ∀ c ∈ label, c.isAlphanum = true ∨ c = '-' := fun c member =>
      alphabet_of_validateLabel valid member
    unfold validateLabel at valid
    rw [utf8Len_of_ascii (ascii_of_alphabet alphabet)] at valid
    split at valid
    · cases valid
    rename_i nonempty
    split at valid
    · cases valid
    rename_i short
    split at valid
    · cases valid
    rename_i ends
    exact ⟨⟨List.length_pos_iff.mpr nonempty, by omega⟩, alphabet, not_or.mp ends⟩
  · intro grammar
    have clean : label.find? (fun c => !c.isAlphanum && c != '-') = none := by
      rw [List.find?_eq_none]
      intro c member
      rcases grammar.alphabet c member with alnum | rfl
      · simp [alnum]
      · simp
    have short := utf8Len_of_ascii (ascii_of_alphabet grammar.alphabet)
    unfold validateLabel
    rw [if_neg (List.length_pos_iff.mp grammar.length.1), if_neg (by have := grammar.length; omega),
      if_neg (not_or.mpr grammar.ends), clean]

theorem forM_validateLabel_eq_ok {labels : List Text} :
    forM labels validateLabel = .ok () ↔ ∀ label ∈ labels, LabelGrammar label := by
  constructor
  · intro valid label member
    exact validateLabel_eq_ok.mp (validateLabel_of_forM valid label member)
  · intro grammar
    induction labels with
    | nil => rfl
    | cons first rest ih =>
        rw [List.forM_cons, validateLabel_eq_ok.mpr (grammar first List.mem_cons_self)]
        exact ih fun label member => grammar label (List.mem_cons_of_mem _ member)

/-- The characters of a name whose labels are well formed. -/
theorem alphabet_of_labels {host : Text} (labels : ∀ label ∈ host.splitOn '.', LabelGrammar label) :
    ∀ c ∈ host, c.isAlphanum = true ∨ c = '-' ∨ c = '.' := by
  intro c member
  rcases Split.mem_splitOn '.' member with dot | ⟨label, listed, inside⟩
  · exact Or.inr (Or.inr dot)
  · exact ((labels label listed).alphabet c inside).imp_right Or.inl

/-- A name that ends in a dot has an empty last label. -/
theorem not_labels_of_trailing_dot {host : Text} (dot : host.getLast? = some '.') :
    ¬∀ label ∈ host.splitOn '.', LabelGrammar label := by
  intro labels
  obtain ⟨before, rfl⟩ := List.getLast?_eq_some_iff.mp dot
  have empty := labels [] (by simp [List.splitOn_append_cons_self])
  exact absurd empty.length.1 (by simp)

/-- **The checks of `validate_hostname_syntax` are the grammar.** -/
theorem validateHostnameSyntax_eq_ok {host : Text} :
    validateHostnameSyntax host = .ok () ↔ HostGrammar host := by
  by_cases labels : ∀ label ∈ host.splitOn '.', LabelGrammar label
  · have ascii : Ascii host := by
      intro c member
      rcases alphabet_of_labels labels c member with alnum | rfl | rfl
      · exact toNat_lt_of_isAlphanum alnum
      · decide
      · decide
    have nonempty : 1 ≤ host.length := by
      refine List.length_pos_iff.mpr ?_
      rintro rfl
      have empty := labels [] (by simp)
      exact absurd empty.length.1 (by simp)
    unfold validateHostnameSyntax
    rw [utf8Len_of_ascii ascii, if_neg fun dot => not_labels_of_trailing_dot dot labels]
    split
    · rename_i long
      refine iff_of_false (fun refused => nomatch refused) fun grammar => ?_
      have := grammar.length
      omega
    · exact iff_of_true (forM_validateLabel_eq_ok.mpr labels) ⟨⟨nonempty, by omega⟩, labels⟩
  · refine iff_of_false ?_ fun grammar => labels grammar.labels
    intro valid
    unfold validateHostnameSyntax at valid
    split at valid
    · cases valid
    split at valid
    · cases valid
    exact labels (forM_validateLabel_eq_ok.mp valid)

/-! ## Letter case -/

/-- Lowercasing makes no character that is not a letter. -/
theorem toLower_eq_iff {c d : Char} (plain : d.isAlpha = false) : c.toLower = d ↔ c = d := by
  cases letter : c.isAlpha with
  | true =>
      refine iff_of_false ?_ ?_
      · rintro rfl
        rw [Char.isAlpha_toLower_eq_isAlpha, letter] at plain
        cases plain
      · rintro rfl
        rw [letter] at plain
        cases plain
  | false =>
      have small : c.isUpper ≠ true := by
        intro upper
        rw [Char.isAlpha, upper] at letter
        cases letter
      rw [Char.toLower_eq_of_not_isUpper small]

theorem isAlphanum_toLower (c : Char) : c.toLower.isAlphanum = c.isAlphanum := by
  cases letter : c.isAlpha with
  | true => simp [Char.isAlphanum, letter]
  | false =>
      have small : c.isUpper ≠ true := by
        intro upper
        rw [Char.isAlpha, upper] at letter
        cases letter
      rw [Char.toLower_eq_of_not_isUpper small]

theorem splitOn_toAsciiLowercase {x : Char} (plain : x.isAlpha = false) (s : Text) :
    (toAsciiLowercase s).splitOn x = (s.splitOn x).map toAsciiLowercase := by
  induction s with
  | nil => rfl
  | cons c rest ih =>
      have same : (c.toLower == x) = (c == x) := by
        rw [Bool.eq_iff_iff, beq_iff_eq, beq_iff_eq, toLower_eq_iff plain]
      rw [toAsciiLowercase, List.map_cons, List.splitOn_cons_eq_if_modifyHead,
        List.splitOn_cons_eq_if_modifyHead, same]
      rw [toAsciiLowercase] at ih
      rw [ih]
      split
      · rfl
      · cases rest.splitOn x <;> rfl

theorem labelGrammar_toAsciiLowercase {label : Text} :
    LabelGrammar (toAsciiLowercase label) ↔ LabelGrammar label := by
  have letter : ∀ c : Char, (c.toLower.isAlphanum = true ∨ c.toLower = '-') ↔
      (c.isAlphanum = true ∨ c = '-') := by
    intro c
    rw [isAlphanum_toLower, toLower_eq_iff (by decide)]
  have hyphen : ∀ o : Option Char, o.map Char.toLower = some '-' ↔ o = some '-' := by
    intro o
    cases o with
    | none => simp
    | some c => simp [toLower_eq_iff (show '-'.isAlpha = false by decide)]
  constructor
  · rintro ⟨length, alphabet, ends⟩
    simp only [toAsciiLowercase, List.length_map, List.forall_mem_map, letter, ne_eq,
      List.head?_map, List.getLast?_map, hyphen] at length alphabet ends
    exact ⟨length, alphabet, ends⟩
  · rintro ⟨length, alphabet, ends⟩
    refine ⟨?_, ?_, ?_⟩ <;>
      simp only [toAsciiLowercase, List.length_map, List.forall_mem_map, letter, ne_eq,
        List.head?_map, List.getLast?_map, hyphen]
    · exact length
    · exact alphabet
    · exact ends

/-- **The grammar does not depend on letter case.** -/
theorem hostGrammar_toAsciiLowercase {host : Text} :
    HostGrammar (toAsciiLowercase host) ↔ HostGrammar host := by
  have length : (toAsciiLowercase host).length = host.length := List.length_map _
  have labels : (∀ label ∈ (toAsciiLowercase host).splitOn '.', LabelGrammar label) ↔
      ∀ label ∈ host.splitOn '.', LabelGrammar label := by
    rw [splitOn_toAsciiLowercase (by decide), List.forall_mem_map]
    simp only [labelGrammar_toAsciiLowercase]
  constructor
  · rintro ⟨long, all⟩
    exact ⟨length ▸ long, labels.mp all⟩
  · rintro ⟨long, all⟩
    exact ⟨length.symm ▸ long, labels.mpr all⟩

/-! ## What does not occur in a name -/

theorem not_isWhitespace_of_isAlphanum {c : Char} (alnum : c.isAlphanum = true) :
    isWhitespace c = false := by
  have codes := toNat_of_isAlphanum alnum
  simp [isWhitespace]
  omega

/-- Whitespace, control characters, and the characters that separate a port, a path or
the names of a list. -/
def Foreign (c : Char) : Prop :=
  isWhitespace c = true ∨ c.toNat < 32 ∨ c = ':' ∨ c = '/' ∨ c = ','

theorem HostGrammar.not_foreign {host : Text} (grammar : HostGrammar host) {c : Char}
    (member : c ∈ host) : ¬Foreign c := by
  rcases alphabet_of_labels grammar.labels c member with alnum | rfl | rfl
  · rintro (white | control | rfl | rfl | rfl)
    · rw [not_isWhitespace_of_isAlphanum alnum] at white
      cases white
    · have codes := toNat_of_isAlphanum alnum
      omega
    all_goals exact absurd alnum (by decide)
  · unfold Foreign
    decide
  · unfold Foreign
    decide

theorem trim_eq_self {s : Text} (inner : ∀ c ∈ s, isWhitespace c = false) : trim s = s :=
  strip_eq_self (fun c first => inner c (List.mem_of_head? first))
    fun c last => inner c (List.mem_of_getLast? last)

/-! ## Normalization -/

/-- No label is written in punycode. -/
def NoPunycode (s : Text) : Prop :=
  ∀ label ∈ s.splitOn '.', ¬"xn--".toList <+: toAsciiLowercase label

/-- A name that IDNA mapping has produced is mapped to itself, in lowercase. -/
def Idna.Idempotent (idna : Idna) : Prop :=
  ∀ s ascii, idna s = .ok ascii → idna (toAsciiLowercase ascii) = .ok (toAsciiLowercase ascii)

/-- ASCII names without punycode labels are lowercased. -/
def Idna.Lowercases (idna : Idna) : Prop :=
  ∀ s, Ascii s → NoPunycode s → idna s = .ok (toAsciiLowercase s)

variable {idna : Idna}

theorem NormalizedHostname.eq_of_text {h h' : NormalizedHostname} (same : h.text = h'.text) :
    h = h' := by
  cases h
  cases h'
  cases same
  rfl

theorem NormalizedHostname.grammar (h : NormalizedHostname) : HostGrammar h.text :=
  validateHostnameSyntax_eq_ok.mp h.wellFormed

/-- What `normalize_hostname` accepts, and what it makes of it. -/
theorem normalizeHostname_eq_ok {s : Text} {h : NormalizedHostname} :
    normalizeHostname idna s = .ok h ↔
      trim s ≠ [] ∧ ':' ∉ trim s ∧ '/' ∉ trim s ∧
        ∃ ascii, idna (trim s) = .ok ascii ∧ h.text = toAsciiLowercase ascii := by
  have scheme : "://".toList <:+: trim s → ':' ∈ trim s := by
    intro inside
    exact inside.subset (by decide)
  unfold normalizeHostname
  simp only
  split
  · rename_i empty
    exact iff_of_false (fun refused => nomatch refused) fun accepted => accepted.1 empty
  rename_i nonempty
  split
  · rename_i colon
    exact iff_of_false (fun refused => nomatch refused) fun accepted => accepted.2.1 colon
  rename_i noColon
  split
  · rename_i slash
    exact iff_of_false (fun refused => nomatch refused) fun accepted => accepted.2.2.1 slash
  rename_i noSlash
  rw [if_neg fun inside => noColon (scheme inside)]
  constructor
  · intro accepted
    refine ⟨nonempty, noColon, noSlash, ?_⟩
    split at accepted
    · cases accepted
    · rename_i ascii mapped
      split at accepted
      · cases accepted
      · cases accepted
        exact ⟨ascii, mapped, rfl⟩
  · rintro ⟨-, -, -, ascii, mapped, text⟩
    rw [mapped]
    simp only
    split
    · rename_i e refused
      have valid := h.wellFormed
      rw [text, refused] at valid
      cases valid
    · exact congrArg Except.ok (NormalizedHostname.eq_of_text text.symm)

/-- A normalized name is normalized to itself. -/
theorem normalizeHostname_text (idempotent : idna.Idempotent) {s : Text} {h : NormalizedHostname}
    (accepted : normalizeHostname idna s = .ok h) : normalizeHostname idna h.text = .ok h := by
  obtain ⟨-, -, -, ascii, mapped, text⟩ := normalizeHostname_eq_ok.mp accepted
  have grammar := h.grammar
  have trimmed : trim h.text = h.text := by
    apply trim_eq_self
    intro c member
    by_contra white
    exact grammar.not_foreign member (Or.inl (by simpa using white))
  rw [normalizeHostname_eq_ok, trimmed]
  refine ⟨List.length_pos_iff.mp grammar.length.1, ?_, ?_, h.text, ?_, h.lowercase.symm⟩
  · intro colon
    exact grammar.not_foreign colon (Or.inr (Or.inr (Or.inl rfl)))
  · intro slash
    exact grammar.not_foreign slash (Or.inr (Or.inr (Or.inr (Or.inl rfl))))
  · rw [text]
    exact idempotent _ _ mapped

/-- ASCII names are accepted exactly if they are in the grammar, and lowercased. -/
theorem normalizeHostname_ascii (lowercases : idna.Lowercases) {s : Text} (ascii : Ascii s)
    (plain : NoPunycode (trim s)) (h : NormalizedHostname) :
    normalizeHostname idna s = .ok h ↔
      HostGrammar (trim s) ∧ h.text = toAsciiLowercase (trim s) := by
  have trimmed : Ascii (trim s) := by
    intro c member
    refine ascii c ?_
    exact (List.dropWhile_suffix _).subset ((List.rdropWhile_prefix _ _).subset member)
  rw [normalizeHostname_eq_ok, lowercases _ trimmed plain]
  constructor
  · rintro ⟨-, -, -, lower, mapped, text⟩
    cases mapped
    rw [toAsciiLowercase_idem] at text
    refine ⟨?_, text⟩
    rw [← hostGrammar_toAsciiLowercase, ← text]
    exact h.grammar
  · rintro ⟨grammar, text⟩
    rw [← toAsciiLowercase_idem] at text
    refine ⟨List.length_pos_iff.mp grammar.length.1, ?_, ?_, _, rfl, text⟩
    · intro colon
      exact grammar.not_foreign colon (Or.inr (Or.inr (Or.inl rfl)))
    · intro slash
      exact grammar.not_foreign slash (Or.inr (Or.inr (Or.inr (Or.inl rfl))))

/-- **`normalize_hostname` accepts the grammar and returns canonical names.** -/
theorem normalizeHostname_canonical (idna : Idna) (lowercases : idna.Lowercases)
    (idempotent : idna.Idempotent) :
    (∀ s, Ascii s → NoPunycode (trim s) →
      ((∃ h, normalizeHostname idna s = .ok h) ↔ HostGrammar (trim s)) ∧
        ∀ h, normalizeHostname idna s = .ok h → h.text = toAsciiLowercase (trim s)) ∧
    ∀ s h, normalizeHostname idna s = .ok h →
      HostGrammar h.text ∧ toAsciiLowercase h.text = h.text ∧ (∀ c ∈ h.text, ¬Foreign c) ∧
        h.text.getLast? ≠ some '.' ∧ normalizeHostname idna h.text = .ok h := by
  constructor
  · intro s ascii plain
    have accepted := normalizeHostname_ascii lowercases ascii plain
    refine ⟨⟨?_, ?_⟩, ?_⟩
    · rintro ⟨h, normalized⟩
      exact ((accepted h).mp normalized).1
    · intro grammar
      have lower := hostGrammar_toAsciiLowercase.mpr grammar
      exact ⟨⟨_, toAsciiLowercase_idem _, validateHostnameSyntax_eq_ok.mpr lower⟩,
        (accepted _).mpr ⟨grammar, rfl⟩⟩
    · intro h normalized
      exact ((accepted h).mp normalized).2
  · intro s h normalized
    refine ⟨h.grammar, h.lowercase, fun c member => h.grammar.not_foreign member, ?_,
      normalizeHostname_text idempotent normalized⟩
    intro dot
    exact not_labels_of_trailing_dot dot h.grammar.labels

theorem asciiIdna_lowercases : asciiIdna.Lowercases := fun _ _ _ => rfl

theorem asciiIdna_idempotent : asciiIdna.Idempotent := by
  intro s ascii mapped
  show Except.ok _ = _
  rw [toAsciiLowercase_idem]

/-- A name with whitespace around it and in mixed case. -/
theorem normalizeHostname_canonical_grafana :
    ∃ h, normalizeHostname asciiIdna "  Grafana.Internal  ".toList = .ok h ∧
      h.text = "grafana.internal".toList ∧ normalizeHostname asciiIdna h.text = .ok h := by
  obtain ⟨onAscii, onAll⟩ :=
    normalizeHostname_canonical asciiIdna asciiIdna_lowercases asciiIdna_idempotent
  have accepted : (normalizeHostname asciiIdna "  Grafana.Internal  ".toList).isOk = true := by
    decide +kernel
  cases normalized : normalizeHostname asciiIdna "  Grafana.Internal  ".toList with
  | error e =>
      rw [normalized] at accepted
      cases accepted
  | ok h =>
      refine ⟨h, rfl, ?_, (onAll _ h normalized).2.2.2.2⟩
      rw [(onAscii _ (by simp [Ascii]) (by unfold NoPunycode; decide +kernel)).2 h normalized]
      decide +kernel

/-! ## Lists of hostnames -/

/-- What each part of a list is normalized to. -/
def Parts (idna : Idna) (raw : Text) (parts : List NormalizedHostname) : Prop :=
  List.Forall₂ (fun part h => normalizeHostname idna part = .ok h) (raw.splitOn ',') parts

theorem Parts.ne_nil {raw : Text} {parts : List NormalizedHostname} (all : Parts idna raw parts) :
    parts ≠ [] := by
  rintro rfl
  have none := List.forall₂_nil_right_iff.mp all
  exact List.splitOn_ne_nil ',' raw none

theorem Parts.exists_part {raw : Text} {parts : List NormalizedHostname}
    (all : Parts idna raw parts) {h : NormalizedHostname} (listed : h ∈ parts) :
    ∃ part, normalizeHostname idna part = .ok h := by
  unfold Parts at all
  generalize raw.splitOn ',' = pieces at all
  induction all with
  | nil => cases listed
  | cons here _ ih =>
      rcases List.mem_cons.mp listed with rfl | later
      · exact ⟨_, here⟩
      · exact ih later

theorem exists_parts_iff {raw : Text} :
    (∃ parts, Parts idna raw parts) ↔
      ∀ part ∈ raw.splitOn ',', ∃ h, normalizeHostname idna part = .ok h := by
  unfold Parts
  induction raw.splitOn ',' with
  | nil => simp
  | cons part rest ih =>
      rw [List.forall_mem_cons, ← ih]
      constructor
      · rintro ⟨parts, all⟩
        cases all with
        | cons here later => exact ⟨⟨_, here⟩, _, later⟩
      · rintro ⟨⟨h, here⟩, parts, later⟩
        exact ⟨h :: parts, .cons here later⟩

/-- The list that is read from the parts of a text. -/
theorem parseHostList_eq_ok {raw : Text} {hosts : List NormalizedHostname} :
    parseHostList idna raw = .ok hosts ↔
      ∃ parts, Parts idna raw parts ∧ parts.foldl push [] = hosts := by
  have loop : ∀ out, (raw.splitOn ',').foldlM
      (fun (out : List NormalizedHostname) part => do
        let h ← normalizeHostname idna part
        pure (if h ∈ out then out else out ++ [h])) [] = .ok out ↔
      ∃ parts, Parts idna raw parts ∧ parts.foldl push [] = out :=
    fun out => foldlM_push_eq_ok
  rw [← loop, parseHostList]
  cases read : (raw.splitOn ',').foldlM
      (fun (out : List NormalizedHostname) part => do
        let h ← normalizeHostname idna part
        pure (if h ∈ out then out else out ++ [h])) [] with
  | error e => exact Iff.rfl
  | ok out =>
      obtain ⟨parts, all, pushed⟩ := (loop out).mp read
      have some : out ≠ [] := by
        rw [← pushed]
        exact (firstOccurrences_foldl_push parts).ne_nil all.ne_nil
      show (if out = [] then _ else _) = _ ↔ _
      rw [if_neg some]

/-- The names that were read, joined by commas, are the parts of that text. -/
theorem parts_intercalate (idempotent : idna.Idempotent) {hosts : List NormalizedHostname}
    (some : hosts ≠ [])
    (normalized : ∀ h ∈ hosts, ∃ part, normalizeHostname idna part = .ok h) :
    Parts idna ([','].intercalate (hosts.map NormalizedHostname.text)) hosts := by
  have split : ([','].intercalate (hosts.map NormalizedHostname.text)).splitOn ',' =
      hosts.map NormalizedHostname.text := by
    apply List.splitOn_intercalate
    · intro text listed comma
      obtain ⟨h, -, rfl⟩ := List.mem_map.mp listed
      exact h.grammar.not_foreign comma (Or.inr (Or.inr (Or.inr (Or.inr rfl))))
    · simpa using some
  rw [Parts, split, List.forall₂_map_left_iff, List.forall₂_same]
  intro h listed
  obtain ⟨part, accepted⟩ := normalized h listed
  exact normalizeHostname_text idempotent accepted

/-- **`parse_host_list` is all or nothing, without repetitions, and stable.** -/
theorem parseHostList_stable (idna : Idna) (raw : Text) :
    ((∃ hosts, parseHostList idna raw = .ok hosts) ↔
      ∀ part ∈ raw.splitOn ',', ∃ h, normalizeHostname idna part = .ok h) ∧
    ∀ hosts, parseHostList idna raw = .ok hosts →
      hosts ≠ [] ∧ (∃ parts, Parts idna raw parts ∧ FirstOccurrences parts hosts) ∧
        (idna.Idempotent →
          parseHostList idna ([','].intercalate (hosts.map NormalizedHostname.text)) =
            .ok hosts) := by
  constructor
  · rw [← exists_parts_iff]
    simp only [parseHostList_eq_ok]
    constructor
    · rintro ⟨hosts, parts, all, -⟩
      exact ⟨parts, all⟩
    · rintro ⟨parts, all⟩
      exact ⟨_, parts, all, rfl⟩
  · intro hosts read
    obtain ⟨parts, all, rfl⟩ := parseHostList_eq_ok.mp read
    have first := firstOccurrences_foldl_push parts
    have some := first.ne_nil all.ne_nil
    refine ⟨some, ⟨parts, all, first⟩, ?_⟩
    intro idempotent
    refine parseHostList_eq_ok.mpr ⟨_, parts_intercalate idempotent some ?_, ?_⟩
    · intro h listed
      exact all.exists_part ((first.mem h).mp listed)
    · exact foldl_push_of_nodup (by simpa using first.nodup)

/-- A list with a repetition, read and read back. -/
theorem parseHostList_stable_repeated :
    ∃ hosts, parseHostList asciiIdna "b.internal, A.internal ,b.internal".toList = .ok hosts ∧
      hosts.map NormalizedHostname.text = ["b.internal".toList, "a.internal".toList] ∧
        parseHostList asciiIdna ([','].intercalate (hosts.map NormalizedHostname.text)) =
          .ok hosts := by
  have read : (parseHostList asciiIdna "b.internal, A.internal ,b.internal".toList).map
      (List.map NormalizedHostname.text) =
        .ok ["b.internal".toList, "a.internal".toList] := by decide +kernel
  cases parsed : parseHostList asciiIdna "b.internal, A.internal ,b.internal".toList with
  | error e =>
      rw [parsed] at read
      cases read
  | ok hosts =>
      rw [parsed] at read
      exact ⟨hosts, rfl, Except.ok.inj read,
        ((parseHostList_stable asciiIdna _).2 hosts parsed).2.2 asciiIdna_idempotent⟩

end Tailroute.Common
