/-
# Controller.AllowedSuffixes — what a suffix of the policy admits

A suffix names a domain, with or without a leading dot: the domain itself and its
subdomains may be registered. `hostname_allowed` strips leading dots for the domain
itself, but tests subdomains with the suffix as it is written. With one leading dot
that is the same. Without one, a hostname that merely ends with the same letters is
admitted; with several, no subdomain is.

`hostnameAllowed_iff_under` says for which hostnames the answer is the intended one.
-/
import Tailroute.Controller.Config

namespace Tailroute.Controller

open Tailroute.Common

set_option autoImplicit false

/-! ## The domain of a suffix -/

/-- The domain a suffix stands for. -/
def suffixDomain (suffix : Text) : Text := trimStartMatches '.' (toAsciiLowercase suffix)

def Subdomain (host suffix : Text) : Prop :=
  ('.' :: suffixDomain suffix) <:+ toAsciiLowercase host

/-- The hostname is the suffix's domain or lies below it. -/
def Under (host suffix : Text) : Prop :=
  toAsciiLowercase host = suffixDomain suffix ∨ Subdomain host suffix

instance (host suffix : Text) : Decidable (Subdomain host suffix) :=
  inferInstanceAs (Decidable (_ <:+ _))

instance (host suffix : Text) : Decidable (Under host suffix) :=
  inferInstanceAs (Decidable (_ ∨ _))

/-- The test of the loop in `hostname_allowed`. -/
def Admits (suffix host : Text) : Prop :=
  toAsciiLowercase host = suffixDomain suffix ∨
    toAsciiLowercase suffix <:+ toAsciiLowercase host

/-- The suffix has no leading dot, and the hostname ends with it in the middle of a
label. -/
def CutsLabel (suffix host : Text) : Prop :=
  (toAsciiLowercase suffix).head? ≠ some '.' ∧
    ∃ before c, c ≠ '.' ∧ toAsciiLowercase host = before ++ c :: toAsciiLowercase suffix

/-- The suffix has more than one leading dot. -/
def Overdotted (suffix : Text) : Prop := ['.', '.'] <+: toAsciiLowercase suffix

def OnBlocklist (security : SecurityConfig) (host : Text) : Prop :=
  ∃ name ∈ security.blockedNames, toAsciiLowercase host = toAsciiLowercase name

instance (security : SecurityConfig) (host : Text) : Decidable (OnBlocklist security host) :=
  inferInstanceAs (Decidable (∃ _ ∈ _, _))

section Suffix

variable {suffix host : Text}

/-- However many dots a text starts with, one of them stands before the rest. -/
theorem dot_cons_trimStartMatches (t : Text) (dotted : t.head? = some '.') :
    ('.' :: trimStartMatches '.' t) <:+ t := by
  induction t with
  | nil => cases dotted
  | cons first rest ih =>
      cases dotted
      by_cases again : rest.head? = some '.'
      · have below := ih again
        have same : trimStartMatches '.' ('.' :: rest) = trimStartMatches '.' rest := by
          simp [trimStartMatches]
        rw [same]
        exact below.trans (List.suffix_cons '.' rest)
      · have whole : trimStartMatches '.' ('.' :: rest) = rest := by
          cases rest with
          | nil => rfl
          | cons second rest =>
              have other : second ≠ '.' := by simpa using again
              simp [trimStartMatches, other]
        rw [whole]

theorem suffixDomain_of_undotted (undotted : (toAsciiLowercase suffix).head? ≠ some '.') :
    suffixDomain suffix = toAsciiLowercase suffix := by
  unfold suffixDomain
  cases spelled : toAsciiLowercase suffix with
  | nil => rfl
  | cons first rest =>
      have other : first ≠ '.' := by simpa [spelled] using undotted
      simp [trimStartMatches, other]

/-- What is admitted lies under the suffix or is cut. -/
theorem under_or_cutsLabel (admitted : Admits suffix host) :
    Under host suffix ∨ CutsLabel suffix host := by
  rcases admitted with same | ends
  · exact Or.inl (Or.inl same)
  by_cases dotted : (toAsciiLowercase suffix).head? = some '.'
  · exact Or.inl (Or.inr ((dot_cons_trimStartMatches _ dotted).trans ends))
  · obtain ⟨before, spelled⟩ := ends
    rcases List.eq_nil_or_concat before with rfl | ⟨before, c, rfl⟩
    · refine Or.inl (Or.inl ?_)
      rw [suffixDomain_of_undotted dotted]
      exact spelled.symm
    · rw [List.concat_eq_append, List.append_assoc] at spelled
      by_cases boundary : c = '.'
      · refine Or.inl (Or.inr ⟨before, ?_⟩)
        rw [suffixDomain_of_undotted dotted, ← boundary]
        exact spelled
      · exact Or.inr ⟨dotted, before, c, boundary, spelled.symm⟩

theorem CutsLabel.admits (cut : CutsLabel suffix host) : Admits suffix host := by
  obtain ⟨-, before, c, -, spelled⟩ := cut
  refine Or.inr ⟨before ++ [c], ?_⟩
  rw [spelled, List.append_assoc]
  rfl

/-- What lies under the suffix is admitted, subdomains of one with several dots apart. -/
theorem admits_or_overdotted (under : Under host suffix) :
    Admits suffix host ∨ Overdotted suffix ∧ Subdomain host suffix := by
  rcases under with same | below
  · exact Or.inl (Or.inl same)
  by_cases dotted : (toAsciiLowercase suffix).head? = some '.'
  · by_cases again : ['.', '.'] <+: toAsciiLowercase suffix
    · exact Or.inr ⟨again, below⟩
    · -- one dot: the suffix as written is the dot and the domain
      refine Or.inl (Or.inr ?_)
      have spelled : toAsciiLowercase suffix = '.' :: suffixDomain suffix := by
        unfold suffixDomain
        clear below
        revert dotted again
        rcases toAsciiLowercase suffix with _ | ⟨first, _ | ⟨second, rest⟩⟩ <;> intro dotted again
        · cases dotted
        · cases dotted
          rfl
        · cases dotted
          have other : second ≠ '.' := by
            rintro rfl
            exact again ⟨rest, rfl⟩
          simp [trimStartMatches, other]
      rw [spelled]
      exact below
  · refine Or.inl (Or.inr ?_)
    rw [Subdomain, suffixDomain_of_undotted dotted] at below
    exact (List.suffix_cons _ _).trans below

end Suffix

/-! ## The policy -/

/-- The ways in which the answer to a hostname that is not blocked is wrong. -/
inductive Misjudged (suffixes : List Text) (host : Text) : Prop
  /-- It ends with a suffix in the middle of a label, and lies under none. -/
  | cut {suffix : Text} (listed : suffix ∈ suffixes) (cuts : CutsLabel suffix host)
      (outside : ∀ other ∈ suffixes, ¬Under host other)
  /-- It is a subdomain of a suffix with several dots, and ends with none as written. -/
  | overdotted {suffix : Text} (listed : suffix ∈ suffixes) (dots : Overdotted suffix)
      (below : Subdomain host suffix) (unmatched : ∀ other ∈ suffixes, ¬Admits other host)

theorem exists_admits_iff {suffixes : List Text} {host : Text} :
    ((∃ suffix ∈ suffixes, Admits suffix host) ↔ ∃ suffix ∈ suffixes, Under host suffix) ↔
      ¬Misjudged suffixes host := by
  constructor
  · intro agree misjudged
    cases misjudged with
    | cut listed cuts outside =>
        obtain ⟨other, listed', under⟩ := agree.mp ⟨_, listed, cuts.admits⟩
        exact outside other listed' under
    | overdotted listed dots below unmatched =>
        obtain ⟨other, listed', admitted⟩ := agree.mpr ⟨_, listed, Or.inr below⟩
        exact unmatched other listed' admitted
  · intro fair
    constructor
    · rintro ⟨suffix, listed, admitted⟩
      rcases under_or_cutsLabel admitted with under | cuts
      · exact ⟨suffix, listed, under⟩
      · by_contra outside
        push Not at outside
        exact fair (.cut listed cuts outside)
    · rintro ⟨suffix, listed, under⟩
      rcases admits_or_overdotted under with admitted | ⟨dots, below⟩
      · exact ⟨suffix, listed, admitted⟩
      · by_contra unmatched
        push Not at unmatched
        exact fair (.overdotted listed dots below unmatched)

theorem hostnameAllowed_eq_ok_iff {security : SecurityConfig} {host : Text}
    (some : security.allowedSuffixes ≠ []) :
    hostnameAllowed security host = .ok () ↔
      ¬OnBlocklist security host ∧ ∃ suffix ∈ security.allowedSuffixes, Admits suffix host := by
  unfold hostnameAllowed
  have blocked : (security.blockedNames.any fun b =>
      toAsciiLowercase host == toAsciiLowercase b) = true ↔ OnBlocklist security host := by
    simp [OnBlocklist]
  have admitted : (security.allowedSuffixes.any fun suf =>
      toAsciiLowercase host == trimStartMatches '.' (toAsciiLowercase suf) ||
        (toAsciiLowercase suf).isSuffixOf (toAsciiLowercase host)) = true ↔
      ∃ suffix ∈ security.allowedSuffixes, Admits suffix host := by
    simp [Admits, suffixDomain]
  simp only [blocked, List.isEmpty_iff, some, if_false]
  by_cases onList : OnBlocklist security host
  · rw [if_pos onList]
    refine iff_of_false ?_ fun both => both.1 onList
    intro refused
    cases refused
  · rw [if_neg onList]
    by_cases listed : ∃ suffix ∈ security.allowedSuffixes, Admits suffix host
    · rw [if_pos (admitted.mpr listed)]
      exact iff_of_true rfl ⟨onList, listed⟩
    · rw [if_neg (mt admitted.mp listed)]
      refine iff_of_false ?_ fun both => listed both.2
      intro refused
      cases refused

/-- **When the policy admits exactly the listed domains and their subdomains.** -/
theorem hostnameAllowed_iff_under (security : SecurityConfig)
    (some : security.allowedSuffixes ≠ []) (host : Text) :
    (hostnameAllowed security host = .ok () ↔
      ¬OnBlocklist security host ∧ ∃ suffix ∈ security.allowedSuffixes, Under host suffix) ↔
    (OnBlocklist security host ∨ ¬Misjudged security.allowedSuffixes host) := by
  rw [hostnameAllowed_eq_ok_iff some, ← exists_admits_iff]
  by_cases blocked : OnBlocklist security host
  · refine iff_of_true ?_ (Or.inl blocked)
    exact iff_of_false (fun allowed => allowed.1 blocked) fun under => under.1 blocked
  · rw [and_iff_right blocked, and_iff_right blocked, or_iff_right blocked]

/-- Subdomains of a suffix with one leading dot. -/
theorem hostnameAllowed_iff_under_internal :
    hostnameAllowed ⟨[".internal".toList], []⟩ "Grafana.Internal".toList = .ok () := by
  have under : Under "Grafana.Internal".toList ".internal".toList := by decide
  refine ((hostnameAllowed_iff_under ⟨[".internal".toList], []⟩ (by decide) _).mpr ?_).mpr
    ⟨by decide, _, List.mem_singleton_self _, under⟩
  refine Or.inr ?_
  rintro (⟨-, -, outside⟩ | ⟨listed, dots, -, -⟩)
  · exact outside _ (List.mem_singleton_self _) under
  · cases List.mem_singleton.mp listed
    exact absurd dots (by unfold Overdotted; decide)

/-- **`notexample.com` is admitted by `example.com`.** -/
theorem notexample_admitted :
    hostnameAllowed ⟨["example.com".toList], []⟩ "notexample.com".toList = .ok () ∧
      ¬(¬OnBlocklist ⟨["example.com".toList], []⟩ "notexample.com".toList ∧
        ∃ suffix ∈ ["example.com".toList], Under "notexample.com".toList suffix) := by
  decide

end Tailroute.Controller
