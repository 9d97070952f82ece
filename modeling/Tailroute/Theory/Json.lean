/-
# Theory.Json — JSON documents as they are spelled

A document is a syntax tree that remembers its spelling: the escapes in its string
literals, the digits of its numbers and the blanks between its tokens. `text` writes it
out, so a statement about the texts of all documents is a statement about every
well-formed JSON text.

A program that scans the text for quotes, without parsing it, sees an alternation of
string literals and what stands between them. `Woven quiet` says that a text alternates
in this way between given literals and stretches that are `quiet`. If the scalars are
quiet and quiet stretches may be joined by punctuation and blanks, the text of a document
is woven from its literals, in the order of the text (`Document.woven`).
-/
import Mathlib.Data.List.Basic
import Mathlib.Data.List.Count

namespace Tailroute.Theory.Json

set_option autoImplicit false

/-! ## String literals -/

inductive Escape where
  | quote
  | backslash
  | slash
  | b
  | f
  | n
  | r
  | t
deriving DecidableEq

/-- The character behind the backslash. -/
def Escape.char : Escape → Char
  | quote => '"'
  | backslash => '\\'
  | slash => '/'
  | b => 'b'
  | f => 'f'
  | n => 'n'
  | r => 'r'
  | t => 't'

/-- The code unit it stands for. -/
def Escape.unit : Escape → Nat
  | quote => 34
  | backslash => 92
  | slash => 47
  | b => 8
  | f => 12
  | n => 10
  | r => 13
  | t => 9

def isHexDigit (c : Char) : Bool :=
  c.isDigit || ('a' ≤ c && c ≤ 'f') || ('A' ≤ c && c ≤ 'F')

structure HexDigit where
  char : Char
  hex : isHexDigit char = true

def HexDigit.value (d : HexDigit) : Nat :=
  if d.char.isDigit then d.char.toNat - 48 else d.char.toLower.toNat - 87

/-- A character of a literal, as it is spelled. -/
inductive Piece where
  | plain (c : Char) (fits : c ≠ '"' ∧ c ≠ '\\' ∧ 32 ≤ c.toNat)
  | escape (e : Escape)
  | unicode (a b c d : HexDigit)

/-- The UTF-16 code units of a character. -/
def utf16 (c : Char) : List Nat :=
  if c.toNat < 65536 then [c.toNat]
  else [55296 + (c.toNat - 65536) / 1024, 56320 + (c.toNat - 65536) % 1024]

namespace Piece

def text : Piece → List Char
  | plain c _ => [c]
  | escape e => ['\\', e.char]
  | unicode a b c d => ['\\', 'u', a.char, b.char, c.char, d.char]

def units : Piece → List Nat
  | plain c _ => utf16 c
  | escape e => [e.unit]
  | unicode a b c d => [((a.value * 16 + b.value) * 16 + c.value) * 16 + d.value]

end Piece

abbrev Literal := List Piece

namespace Literal

/-- What stands between the quotes. -/
def text (l : Literal) : List Char := l.flatMap Piece.text

/-- What the literal means. -/
def units (l : Literal) : List Nat := l.flatMap Piece.units

/-- The literal means this text. -/
def Means (l : Literal) (s : List Char) : Prop := units l = s.flatMap utf16

def quoted (l : Literal) : List Char := '"' :: (text l ++ ['"'])

theorem head?_text (l : Literal) : (text l).head? ≠ some '"' := by
  cases l with
  | nil => nofun
  | cons p rest =>
      rw [text, List.flatMap_cons]
      cases p with
      | plain c fits =>
          intro first
          exact fits.1 (Option.some.inj first)
      | escape e => nofun
      | unicode a b c d => nofun

theorem hexDigit_ne_quote (d : HexDigit) : d.char ≠ '"' := by
  obtain ⟨c, hex⟩ := d
  rintro rfl
  exact absurd hex (by decide)

/-- Inside a literal every quote stands behind a backslash. -/
theorem quote_escaped (l : Literal) {before after : List Char} {c : Char}
    (spelled : text l = before ++ c :: '"' :: after) : c = '\\' := by
  induction l generalizing before with
  | nil =>
      rw [text, List.flatMap_nil] at spelled
      exact absurd spelled.symm (by simp)
  | cons p rest ih =>
      have head := head?_text rest
      have split : text (p :: rest) = p.text ++ text rest := List.flatMap_cons
      rw [split] at spelled
      -- a quote right behind the piece would be the first character of the rest
      have last : ∀ d, d :: text rest = c :: '"' :: after → c = '\\' := by
        intro d same
        rw [(List.cons.inj same).2] at head
        exact absurd rfl head
      cases p with
      | plain d fits =>
          rcases before with _ | ⟨_, before⟩
          · exact last d spelled
          · exact ih (List.cons.inj spelled).2
      | escape e =>
          rcases before with _ | ⟨_, _ | ⟨_, before⟩⟩
          · exact (List.cons.inj spelled).1.symm
          · exact last e.char (List.cons.inj spelled).2
          · exact ih (List.cons.inj (List.cons.inj spelled).2).2
      | unicode w x y z =>
          have hw := hexDigit_ne_quote w
          have hx := hexDigit_ne_quote x
          have hy := hexDigit_ne_quote y
          have hz := hexDigit_ne_quote z
          rcases before with _ | ⟨_, _ | ⟨_, _ | ⟨_, _ | ⟨_, _ | ⟨_, _ | ⟨_, before⟩⟩⟩⟩⟩⟩ <;>
            simp only [Piece.text, List.cons_append, List.nil_append, List.cons.injEq] at spelled
          · exact spelled.1.symm
          · exact absurd spelled.2.2.1 hw
          · exact absurd spelled.2.2.2.1 hx
          · exact absurd spelled.2.2.2.2.1 hy
          · exact absurd spelled.2.2.2.2.2.1 hz
          · rw [spelled.2.2.2.2.2.2] at head
            exact absurd rfl head
          · exact ih spelled.2.2.2.2.2.2

end Literal

/-! ## Scalars and blanks -/

structure Digits where
  chars : List Char
  nonempty : chars ≠ []
  digits : ∀ c ∈ chars, c.isDigit = true

structure Exponent where
  letter : Char
  sign : List Char
  digits : Digits
  isLetter : letter = 'e' ∨ letter = 'E'
  isSign : sign = [] ∨ sign = ['+'] ∨ sign = ['-']

/-- A number as it is spelled. -/
structure Number where
  negative : Bool
  integer : Digits
  fraction : Option Digits
  exponent : Option Exponent
  noLeadingZero : integer.chars.head? = some '0' → integer.chars.length = 1

namespace Number

def text (n : Number) : List Char :=
  (if n.negative then ['-'] else []) ++ (n.integer.chars ++
    (n.fraction.elim [] (fun digits => '.' :: digits.chars) ++
      n.exponent.elim [] fun e => e.letter :: (e.sign ++ e.digits.chars)))

theorem digits_count_dot (d : Digits) : d.chars.count '.' = 0 := by
  rw [List.count_eq_zero]
  intro member
  exact absurd (d.digits '.' member) (by decide)

theorem exponent_count_dot (e : Exponent) :
    (e.letter :: (e.sign ++ e.digits.chars)).count '.' = 0 := by
  have letter : e.letter ≠ '.' := by
    rcases e.isLetter with same | same <;> rw [same] <;> decide
  have sign : e.sign.count '.' = 0 := by
    rcases e.isSign with same | same | same <;> rw [same] <;> decide
  rw [List.count_cons_of_ne letter, List.count_append, sign, digits_count_dot]

/-- A number has at most one dot. -/
theorem count_dot_text (n : Number) : n.text.count '.' ≤ 1 := by
  have sign : (if n.negative then ['-'] else []).count '.' = 0 := by
    cases n.negative <;> decide
  have fraction : (n.fraction.elim [] fun digits => '.' :: digits.chars).count '.' ≤ 1 := by
    cases n.fraction with
    | none => decide
    | some digits =>
        have one : ('.' :: digits.chars).count '.' = 1 := by
          rw [List.count_cons_self, digits_count_dot]
        exact Nat.le_of_eq one
  have exponent : (n.exponent.elim [] fun e => e.letter :: (e.sign ++ e.digits.chars)).count '.' =
      0 := by
    cases n.exponent with
    | none => rfl
    | some e => exact exponent_count_dot e
  rw [text, List.count_append, List.count_append, List.count_append, sign, exponent,
    digits_count_dot]
  omega

/-- The characters of numbers. -/
theorem mem_text {n : Number} {c : Char} (member : c ∈ n.text) :
    c.isDigit = true ∨ c ∈ ['-', '+', '.', 'e', 'E'] := by
  rw [text, List.mem_append, List.mem_append, List.mem_append] at member
  rcases member with sign | integer | fraction | exponent
  · cases negative : n.negative <;> rw [negative] at sign
    · cases sign
    · exact Or.inr (by simp [List.mem_singleton.mp sign])
  · exact Or.inl (n.integer.digits c integer)
  · cases given : n.fraction with
    | none =>
        rw [given] at fraction
        cases fraction
    | some digits =>
        rw [given, Option.elim_some] at fraction
        rcases List.mem_cons.mp fraction with rfl | digit
        · exact Or.inr (by decide)
        · exact Or.inl (digits.digits c digit)
  · cases given : n.exponent with
    | none =>
        rw [given] at exponent
        cases exponent
    | some e =>
        rw [given, Option.elim_some] at exponent
        rcases List.mem_cons.mp exponent with rfl | rest
        · rcases e.isLetter with same | same <;> exact Or.inr (by simp [same])
        · rcases List.mem_append.mp rest with sign | digit
          · rcases e.isSign with same | same | same <;> rw [same] at sign
            · cases sign
            · exact Or.inr (by simp [List.mem_singleton.mp sign])
            · exact Or.inr (by simp [List.mem_singleton.mp sign])
          · exact Or.inl (e.digits.digits c digit)

end Number

inductive Scalar where
  | null
  | true
  | false
  | number (n : Number)

def Scalar.text : Scalar → List Char
  | null => ['n', 'u', 'l', 'l']
  | true => ['t', 'r', 'u', 'e']
  | false => ['f', 'a', 'l', 's', 'e']
  | number n => n.text

def blanks : List Char := [' ', '\t', '\n', '\r']

/-- Insignificant whitespace. -/
structure Gap where
  chars : List Char
  blank : ∀ c ∈ chars, c ∈ blanks

/-! ## Documents -/

mutual

/-- A value as it is spelled. -/
inductive Value where
  | scalar (s : Scalar)
  | string (l : Literal)
  | emptyArray (inside : Gap)
  | array (start : Gap) (items : Items)
  | emptyObject (inside : Gap)
  | object (start : Gap) (members : Members)

inductive Items where
  | last (v : Value) (after : Gap)
  | cons (v : Value) (after before : Gap) (rest : Items)

inductive Members where
  | last (key : Literal) (after before : Gap) (v : Value) (tail : Gap)
  | cons (key : Literal) (after before : Gap) (v : Value) (tail next : Gap) (rest : Members)

end

mutual

def Value.text : Value → List Char
  | .scalar s => s.text
  | .string l => Literal.quoted l
  | .emptyArray inside => '[' :: (inside.chars ++ [']'])
  | .array start items => '[' :: (start.chars ++ items.text ++ [']'])
  | .emptyObject inside => '\x7b' :: (inside.chars ++ ['\x7d'])
  | .object start members => '\x7b' :: (start.chars ++ members.text ++ ['\x7d'])

def Items.text : Items → List Char
  | .last v after => v.text ++ after.chars
  | .cons v after before rest => (v.text ++ after.chars) ++ ',' :: (before.chars ++ rest.text)

def Members.text : Members → List Char
  | .last key after before v tail =>
      (Literal.quoted key ++ after.chars) ++ ':' :: (before.chars ++ (v.text ++ tail.chars))
  | .cons key after before v tail next rest =>
      ((Literal.quoted key ++ after.chars) ++ ':' :: (before.chars ++ (v.text ++ tail.chars))) ++
        ',' :: (next.chars ++ rest.text)

end

mutual

/-- The string literals, keys included, in the order of the text. -/
def Value.literals : Value → List Literal
  | .scalar _ => []
  | .string l => [l]
  | .emptyArray _ => []
  | .array _ items => items.literals
  | .emptyObject _ => []
  | .object _ members => members.literals

def Items.literals : Items → List Literal
  | .last v _ => v.literals
  | .cons v _ _ rest => v.literals ++ rest.literals

def Members.literals : Members → List Literal
  | .last key _ _ v _ => key :: v.literals
  | .cons key _ _ v _ _ rest => (key :: v.literals) ++ rest.literals

end

/-- A text: a value between blanks. -/
structure Document where
  before : Gap
  value : Value
  after : Gap

def Document.text (d : Document) : List Char := d.before.chars ++ (d.value.text ++ d.after.chars)

def Document.literals (d : Document) : List Literal := d.value.literals

mutual

/-- The value of the first member, in the order of the text, whose key passes the test. -/
def Value.findMember (p : Literal → Bool) : Value → Option Value
  | .scalar _ => none
  | .string _ => none
  | .emptyArray _ => none
  | .array _ items => items.findMember p
  | .emptyObject _ => none
  | .object _ members => members.findMember p

def Items.findMember (p : Literal → Bool) : Items → Option Value
  | .last v _ => v.findMember p
  | .cons v _ _ rest => v.findMember p <|> rest.findMember p

def Members.findMember (p : Literal → Bool) : Members → Option Value
  | .last key _ _ v _ => if p key then some v else v.findMember p
  | .cons key _ _ v _ _ rest => if p key then some v else v.findMember p <|> rest.findMember p

end

def Items.toList : Items → List Value
  | .last v _ => [v]
  | .cons v _ _ rest => v :: rest.toList

/-- The elements of an array; other values have none. -/
def Value.elements : Value → List Value
  | .array _ items => items.toList
  | _ => []

/-! ## Weaving -/

/-- Quiet stretches and quoted literals in turn. -/
def Woven (quiet : List Char → Prop) : List Literal → List Char → Prop
  | [], t => quiet t
  | l :: ls, t => ∃ gap rest, t = gap ++ '"' :: (Literal.text l ++ '"' :: rest) ∧ quiet gap ∧
      Woven quiet ls rest

/-- The characters that separate tokens. -/
def separators : List Char := ['[', ']', '\x7b', '\x7d', ':', ','] ++ blanks

/-- Stretches that a scanner passes over: scalars, and what separators join. -/
structure PassesOver (quiet : List Char → Prop) : Prop where
  nil : quiet []
  scalar : ∀ s : Scalar, quiet s.text
  join : ∀ c ∈ separators, ∀ before after, quiet before → quiet after →
    quiet (before ++ c :: after)

namespace Woven

variable {quiet : List Char → Prop} (passes : PassesOver quiet) {ls ls' : List Literal}
  {t t' : List Char}

include passes

theorem join {c : Char} (separates : c ∈ separators) (first : Woven quiet ls t)
    (second : Woven quiet ls' t') : Woven quiet (ls ++ ls') (t ++ c :: t') := by
  induction ls generalizing t with
  | nil =>
      cases ls' with
      | nil => exact passes.join c separates t t' first second
      | cons l ls' =>
          obtain ⟨gap, rest, rfl, calm, woven⟩ := second
          refine ⟨t ++ c :: gap, rest, ?_, passes.join c separates t gap first calm, woven⟩
          rw [List.append_assoc, List.cons_append]
  | cons l ls ih =>
      obtain ⟨gap, rest, rfl, calm, woven⟩ := first
      refine ⟨gap, rest ++ c :: t', ?_, calm, ih woven⟩
      rw [List.append_assoc, List.cons_append, List.append_assoc, List.cons_append]

theorem cons {c : Char} (separates : c ∈ separators) (woven : Woven quiet ls t) :
    Woven quiet ls (c :: t) := by
  have joined : Woven quiet ([] ++ ls) ([] ++ c :: t) :=
    join passes separates passes.nil woven
  exact joined

theorem concat {c : Char} (separates : c ∈ separators) (woven : Woven quiet ls t) :
    Woven quiet ls (t ++ [c]) := by
  have joined : Woven quiet (ls ++ []) (t ++ c :: []) :=
    join passes separates woven passes.nil
  rwa [List.append_nil] at joined

theorem blanks_append {gap : List Char} (blank : ∀ c ∈ gap, c ∈ blanks) (woven : Woven quiet ls t) :
    Woven quiet ls (gap ++ t) := by
  induction gap with
  | nil => exact woven
  | cons c rest ih =>
      obtain ⟨first, others⟩ := List.forall_mem_cons.mp blank
      exact cons passes (List.mem_append_right _ first) (ih others)

theorem append_blanks {gap : List Char} (blank : ∀ c ∈ gap, c ∈ blanks) (woven : Woven quiet ls t) :
    Woven quiet ls (t ++ gap) := by
  induction gap generalizing t with
  | nil => rwa [List.append_nil]
  | cons c rest ih =>
      obtain ⟨first, others⟩ := List.forall_mem_cons.mp blank
      have next := ih others (concat passes (List.mem_append_right _ first) woven)
      rwa [List.append_assoc] at next

theorem quoted (l : Literal) : Woven quiet [l] (Literal.quoted l) :=
  ⟨[], [], rfl, passes.nil, passes.nil⟩

theorem gap (g : Gap) : Woven quiet [] g.chars := by
  have blank : Woven quiet [] (g.chars ++ []) := blanks_append passes g.blank passes.nil
  rwa [List.append_nil] at blank

end Woven

section Documents

variable {quiet : List Char → Prop}

theorem bracketed {c d : Char} (starts : c ∈ separators) (ends : d ∈ separators)
    (passes : PassesOver quiet) {ls : List Literal} {t : List Char} (woven : Woven quiet ls t) :
    Woven quiet ls (c :: (t ++ [d])) :=
  Woven.cons passes starts (Woven.concat passes ends woven)

theorem member {key : Literal} {after before tail : Gap} (passes : PassesOver quiet)
    {ls : List Literal} {t : List Char} (woven : Woven quiet ls t) :
    Woven quiet (key :: ls) ((Literal.quoted key ++ after.chars) ++ ':' ::
      (before.chars ++ (t ++ tail.chars))) := by
  have first := Woven.append_blanks passes after.blank (Woven.quoted passes key)
  have second := Woven.blanks_append passes before.blank
    (Woven.append_blanks passes tail.blank woven)
  exact Woven.join passes (by decide) first second

mutual

theorem Value.woven (passes : PassesOver quiet) : (v : Value) → Woven quiet v.literals v.text
  | .scalar s => passes.scalar s
  | .string l => Woven.quoted passes l
  | .emptyArray inside => bracketed (by decide) (by decide) passes (Woven.gap passes inside)
  | .array start items =>
      bracketed (by decide) (by decide) passes
        (Woven.blanks_append passes start.blank (items.woven passes))
  | .emptyObject inside => bracketed (by decide) (by decide) passes (Woven.gap passes inside)
  | .object start members =>
      bracketed (by decide) (by decide) passes
        (Woven.blanks_append passes start.blank (members.woven passes))

theorem Items.woven (passes : PassesOver quiet) : (items : Items) →
    Woven quiet items.literals items.text
  | .last v after => Woven.append_blanks passes after.blank (v.woven passes)
  | .cons v after before rest =>
      Woven.join passes (by decide) (Woven.append_blanks passes after.blank (v.woven passes))
        (Woven.blanks_append passes before.blank (rest.woven passes))

theorem Members.woven (passes : PassesOver quiet) : (members : Members) →
    Woven quiet members.literals members.text
  | .last _ _ _ v _ => member passes (v.woven passes)
  | .cons _ _ _ v _ next rest =>
      Woven.join passes (by decide) (member passes (v.woven passes))
        (Woven.blanks_append passes next.blank (rest.woven passes))

end

/-- **The text of a document is woven from its literals.** -/
theorem Document.woven (passes : PassesOver quiet) (d : Document) :
    Woven quiet d.literals d.text :=
  Woven.blanks_append passes d.before.blank
    (Woven.append_blanks passes d.after.blank (d.value.woven passes))

end Documents

end Tailroute.Theory.Json
