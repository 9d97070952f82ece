/-
# Common.Hostname — normalized hostnames

`normalize_hostname` is the only way to a `NormalizedHostname`, so the type
carries what that function checks: the text is lowercase and well formed. IDNA
mapping is a crate of its own and enters as the function `Idna`; nothing is
assumed of it, since every result is checked after the mapping.
-/
import Tailroute.Common.Text
import Tailroute.Theory.Split

namespace Tailroute.Common

set_option autoImplicit false

/-- The error type of `tailsvc-common`. -/
inductive Error where
  | invalidHostname (message : Text)
  | invalidBackend (message : Text)
  | labelParse (message : Text)
  | ambiguousBackend (message : Text)
  | auth
  | conflict (message : Text)
  | other (message : Text)
deriving DecidableEq

/-- The texts of its `Display`. -/
def Error.display : Error → Text
  | invalidHostname message => "invalid hostname: ".toList ++ message
  | invalidBackend message => "invalid backend URL: ".toList ++ message
  | labelParse message => "label parse error: ".toList ++ message
  | ambiguousBackend message => "ambiguous backend resolution: ".toList ++ message
  | auth => "authentication failed".toList
  | conflict message => "conflict: ".toList ++ message
  | other message => message

/-- `idna::domain_to_ascii`, with the text of its error. -/
abbrev Idna := Text → Except Text Text

/-- The checks on one label, in the order they are made. -/
def validateLabel (label : Text) : Except Error Unit :=
  if label = [] then .error (.invalidHostname "empty label".toList)
  else if 63 < utf8Len label then .error (.invalidHostname "label too long".toList)
  else if label.head? = some '-' ∨ label.getLast? = some '-' then
    .error (.invalidHostname "label hyphen placement".toList)
  else
    match label.find? fun c => !c.isAlphanum && c != '-' with
    | some c => .error (.invalidHostname ("invalid char: ".toList ++ [c]))
    | none => .ok ()

def validateHostnameSyntax (host : Text) : Except Error Unit :=
  if 253 < utf8Len host then .error (.invalidHostname "too long".toList)
  else if host.getLast? = some '.' then
    .error (.invalidHostname "trailing dot not allowed".toList)
  else forM (host.splitOn '.') validateLabel

/-- A hostname that went through `normalizeHostname`. -/
structure NormalizedHostname where
  text : Text
  lowercase : toAsciiLowercase text = text
  wellFormed : validateHostnameSyntax text = .ok ()
deriving DecidableEq

def normalizeHostname (idna : Idna) (input : Text) : Except Error NormalizedHostname :=
  let trimmed := trim input
  if trimmed = [] then .error (.invalidHostname "empty".toList)
  else if ':' ∈ trimmed then .error (.invalidHostname "port not allowed in hostname".toList)
  else if '/' ∈ trimmed then .error (.invalidHostname "path not allowed in hostname".toList)
  else if "://".toList <:+: trimmed then
    .error (.invalidHostname "scheme not allowed in hostname".toList)
  else
    match idna trimmed with
    | .error e => .error (.invalidHostname ("idna: ".toList ++ e))
    | .ok ascii =>
        match wellFormed : validateHostnameSyntax (toAsciiLowercase ascii) with
        | .error e => .error e
        | .ok () => .ok ⟨toAsciiLowercase ascii, toAsciiLowercase_idem ascii, wellFormed⟩

/-- A comma-separated list, without duplicates; one invalid entry refuses it. -/
def parseHostList (idna : Idna) (raw : Text) : Except Error (List NormalizedHostname) := do
  let out ← (raw.splitOn ',').foldlM
    (fun out part => do
      let h ← normalizeHostname idna part
      -- `seen` holds the texts of `out`
      pure (if h ∈ out then out else out ++ [h])) []
  if out = [] then .error (.invalidHostname "at least one hostname required".toList)
  else .ok out

/-- The text is the text of some normalized hostname. -/
def Normalized (hostname : Text) : Prop :=
  toAsciiLowercase hostname = hostname ∧ validateHostnameSyntax hostname = .ok ()

instance (hostname : Text) : Decidable (Normalized hostname) :=
  inferInstanceAs (Decidable (_ ∧ _))

theorem NormalizedHostname.normalized (host : NormalizedHostname) : Normalized host.text :=
  ⟨host.lowercase, host.wellFormed⟩

/-! ## The alphabet -/

theorem alphabet_of_validateLabel {label : Text} (valid : validateLabel label = .ok ()) {c : Char}
    (member : c ∈ label) : c.isAlphanum ∨ c = '-' := by
  unfold validateLabel at valid
  split at valid
  · cases valid
  split at valid
  · cases valid
  split at valid
  · cases valid
  split at valid
  · cases valid
  · rename_i clean
    have good := List.find?_eq_none.mp clean c member
    simpa [imp_iff_not_or] using good

theorem validateLabel_of_forM {labels : List Text} (valid : forM labels validateLabel = .ok ()) :
    ∀ label ∈ labels, validateLabel label = .ok () := by
  induction labels with
  | nil =>
      intro label member
      cases member
  | cons first rest ih =>
      rw [List.forM_cons] at valid
      cases checked : validateLabel first with
      | error e =>
          rw [checked] at valid
          cases valid
      | ok _ =>
          rw [checked] at valid
          intro label member
          rcases List.mem_cons.mp member with rfl | later
          · exact checked
          · exact ih valid label later

/-- **The alphabet of normalized hostnames**: letters, digits, hyphens and dots. -/
theorem Normalized.chars {hostname : Text} (normalized : Normalized hostname) {c : Char}
    (member : c ∈ hostname) : c.isAlphanum ∨ c = '-' ∨ c = '.' := by
  have valid := normalized.2
  unfold validateHostnameSyntax at valid
  split at valid
  · cases valid
  split at valid
  · cases valid
  rcases Theory.Split.mem_splitOn '.' member with dot | ⟨label, listed, inside⟩
  · exact Or.inr (Or.inr dot)
  · rcases alphabet_of_validateLabel (validateLabel_of_forM valid label listed) inside with alnum | hyphen
    · exact Or.inl alnum
    · exact Or.inr (Or.inl hyphen)

/-! ## Evaluation -/

/-- IDNA mapping of ASCII names without punycode labels. -/
def asciiIdna : Idna := fun s => .ok (toAsciiLowercase s)

example : (normalizeHostname asciiIdna "  Grafana.Internal  ".toList).map
    NormalizedHostname.text = .ok "grafana.internal".toList := by decide +kernel

example : (parseHostList asciiIdna "a.internal, b.internal ,a.internal".toList).map
    (List.map NormalizedHostname.text) =
      .ok ["a.internal".toList, "b.internal".toList] := by decide +kernel

end Tailroute.Common
