/-
# Controller.Probe — what the dashboard's probe makes of an answer

For each route the dashboard asks the agent's proxy for `/` under the route's hostname. The
probe reads once, at most 256 bytes, and looks at the first line of what it got: the part of
the line after `HTTP/1.x` decides, and of that only the first character. An answer that says
anything but 5xx is `ok`, so a 404 is.

One read may return any beginning of an answer (`judge_of_short`, `judge_of_status`): the
probe is `ok` exactly if the first digit of the status has arrived and is not a 5.
-/
import Tailroute.Agent.Tailscale
import Tailroute.Controller.AdminViews

namespace Tailroute.Controller

open Tailroute.Theory Tailroute.Common

set_option autoImplicit false

/-! ## The probe -/

/-- `String::from_utf8_lossy`: of its decoding only that an ASCII byte stands for itself. -/
structure LossyUtf8 where
  decode : List UInt8 → Text
  nil : decode [] = []
  ascii : ∀ b bytes, b < 128 → decode (b :: bytes) = Char.ofNat b.toNat :: decode bytes

/-- What an operation under the timeout comes to, and the milliseconds since the start. -/
inductive Timed (α : Type) where
  | done (value : α) (ms : Nat)
  | error (message : Text) (ms : Nat)
  | elapsed

/-- The network between the controller and the agents. -/
structure ProbeWire where
  connect : Text → Timed Unit
  /-- `write_all` to an address, which has no timeout: the error, or `none`. -/
  write : Text → Text → Option (Text × Nat)
  /-- One read from the connection over which this request was sent. -/
  read : Text → Text → Timed (List UInt8)

def probeAddr (agentIp : Text) : Text := agentIp ++ ":80".toList

def probeText (hostname : Text) : Text :=
  "GET / HTTP/1.1\r\nHost: ".toList ++ hostname ++
    "\r\nConnection: close\r\nUser-Agent: tailsvc-admin-probe\r\n\r\n".toList

/-- `str::split_whitespace`. -/
def splitWhitespace (s : Text) : List Text :=
  (s.splitOnP isWhitespace).filter fun part => !part.isEmpty

def versionStart : Text := "HTTP/1.".toList

/-- The end of `probe_via_agent`: what the text of the read says. -/
def judge (ms : Nat) (head : Text) : ProbeResult :=
  let line := trim ((Agent.lines head).head?.getD [])
  let bad : ProbeResult := ⟨.fail, some ms, some ("bad status line: ".toList ++ line)⟩
  if versionStart <+: line then
    let code := (splitWhitespace line)[1]?.getD []
    let ok := code.head? = some '2' ∨ code.head? = some '3' ∨ code.head? = some '4'
    if code.head? = some '5' then ⟨.fail, some ms, some line⟩
    else if ok ∨ code ≠ [] then ⟨.ok, some ms, some line⟩
    else bad
  else bad

def probeViaAgent (lossy : LossyUtf8) (wire : ProbeWire) (timeout : Nat) (agentIp hostname : Text) :
    ProbeResult :=
  let addr := probeAddr agentIp
  match wire.connect addr with
  | .error e ms => ⟨.fail, some ms, some ("connect: ".toList ++ e)⟩
  | .elapsed => ⟨.timeout, some timeout, some "connect timeout".toList⟩
  | .done _ _ =>
      match wire.write addr (probeText hostname) with
      | some (e, ms) => ⟨.fail, some ms, some ("write: ".toList ++ e)⟩
      | none =>
          match wire.read addr (probeText hostname) with
          | .error e ms => ⟨.fail, some ms, some ("read: ".toList ++ e)⟩
          | .elapsed => ⟨.timeout, some timeout, some "read timeout".toList⟩
          | .done bytes ms =>
              if bytes = [] then ⟨.fail, some ms, some "empty response".toList⟩
              else judge ms (lossy.decode bytes)

/-! ## The first line -/

section Line

/-- The first line of a text keeps its beginning up to a character that is no line ending. -/
theorem lines_head {before : Text} {d : Char} (whole : '\n' ∉ before) (solid : d ≠ '\n' ∧ d ≠ '\r')
    (tail : Text) :
    ∃ rest, (Agent.lines (before ++ d :: tail)).head? = some (before ++ d :: rest) := by
  obtain ⟨first, others, parts, -⟩ := Split.splitOnP_parts (fun c => c == '\n') tail
  have cut : (before ++ d :: tail).splitOn '\n' = (before ++ d :: first) :: others := by
    rw [List.splitOn_eq_splitOnP]
    induction before with
    | nil =>
        rw [List.nil_append, List.splitOnP_cons_eq_if_modifyHead, parts,
          if_neg (by simpa using solid.1)]
        rfl
    | cons c before ih =>
        rw [List.mem_cons, not_or] at whole
        obtain ⟨other, whole⟩ := whole
        rw [List.cons_append, List.splitOnP_cons_eq_if_modifyHead, ih whole,
          if_neg (by simpa using Ne.symm other)]
        rfl
  unfold Agent.lines
  rw [cut]
  cases others with
  | nil =>
      refine ⟨first, ?_⟩
      simp
  | cons next others =>
      change ∃ rest, some (if (before ++ d :: first).getLast? = some '\r' then
        (before ++ d :: first).dropLast else before ++ d :: first) = some (before ++ d :: rest)
      split
      · rename_i returns
        cases first with
        | nil =>
            rw [List.getLast?_concat] at returns
            exact absurd (Option.some.inj returns) solid.2
        | cons c first =>
            refine ⟨(c :: first).dropLast, ?_⟩
            rw [List.dropLast_append_of_ne_nil (List.cons_ne_nil _ _), List.dropLast_cons_cons]
      · exact ⟨first, rfl⟩

/-- Trimming keeps a text up to its last solid character. -/
theorem trim_append_cons {c d : Char} (before tail : Text) (solid : isWhitespace c = false)
    (last : isWhitespace d = false) :
    trim (c :: before ++ d :: tail) = c :: before ++ d :: tail.rdropWhile isWhitespace := by
  have front : (c :: before ++ d :: tail).dropWhile isWhitespace = c :: before ++ d :: tail := by
    rw [List.cons_append, List.dropWhile_cons, solid, if_neg Bool.false_ne_true]
  rw [trim, front]
  induction tail using List.reverseRecOn with
  | nil =>
      rw [List.rdropWhile_concat, last, if_neg Bool.false_ne_true]
      rfl
  | append_singleton tail e ih =>
      have shifted : c :: before ++ d :: (tail ++ [e]) = (c :: before ++ d :: tail) ++ [e] := by
        simp
      have front' : (c :: before ++ d :: tail).dropWhile isWhitespace =
          c :: before ++ d :: tail := by
        rw [List.cons_append, List.dropWhile_cons, solid, if_neg Bool.false_ne_true]
      rw [shifted, List.rdropWhile_concat, List.rdropWhile_concat]
      split
      · exact ih front'
      · rw [← shifted]

end Line

/-! ## Answers -/

/-- The status line up to the status. The probe wants `HTTP/1.` and takes any minor version. -/
def answerStart (minor : Char) : Text := versionStart ++ [minor, ' ']

section Answers

variable {minor : Char}

theorem head?_codeOf (shown : isWhitespace minor = false) {d : Char}
    (solid : isWhitespace d = false) (tail : Text) :
    ((splitWhitespace (answerStart minor ++ d :: tail))[1]?.getD []).head? = some d := by
  obtain ⟨first, others, parts, -⟩ := Split.splitOnP_parts isWhitespace tail
  have version : ∀ c ∈ versionStart ++ [minor], isWhitespace c = false := by
    intro c listed
    rcases List.mem_append.mp listed with fixed | last
    · have checked : (versionStart.all fun c => !isWhitespace c) = true := rfl
      simpa using List.all_eq_true.mp checked c fixed
    · cases List.mem_singleton.mp last
      exact shown
  have cut : (answerStart minor ++ d :: tail).splitOnP isWhitespace =
      (versionStart ++ [minor]) :: (d :: first) :: others := by
    have apart : answerStart minor ++ d :: tail = (versionStart ++ [minor]) ++ ' ' :: d :: tail := by
      simp [answerStart]
    rw [apart, List.splitOnP_append_cons _ _ (by decide : isWhitespace ' ' = true),
      List.splitOnP_cons_eq_if_modifyHead, parts, if_neg (by rw [solid]; exact Bool.false_ne_true),
      List.splitOnP_eq_singleton version]
    rfl
  rw [splitWhitespace, cut]
  rfl

/-- Once a solid character of the status has arrived, it decides. -/
theorem judge_of_status (shown : isWhitespace minor = false) {d : Char}
    (solid : isWhitespace d = false) (ms : Nat) (tail : Text) :
    (judge ms (answerStart minor ++ d :: tail)).status = if d = '5' then .fail else .ok := by
  have ends : d ≠ '\n' ∧ d ≠ '\r' := by
    constructor <;> rintro rfl <;> exact absurd solid (by decide)
  have whole : '\n' ∉ answerStart minor := by
    have other : minor ≠ '\n' := by
      rintro rfl
      exact absurd shown (by decide)
    simp [answerStart, versionStart, Ne.symm other]
  obtain ⟨rest, first⟩ := lines_head whole ends tail
  have line : trim ((Agent.lines (answerStart minor ++ d :: tail)).head?.getD []) =
      answerStart minor ++ d :: rest.rdropWhile isWhitespace := by
    rw [first]
    exact trim_append_cons ("TTP/1.".toList ++ [minor, ' ']) rest
      (by decide : isWhitespace 'H' = false) solid
  have version : versionStart <+: answerStart minor ++ d :: rest.rdropWhile isWhitespace := by
    rw [answerStart, List.append_assoc]
    exact List.prefix_append _ _
  have code := head?_codeOf shown solid (rest.rdropWhile isWhitespace)
  unfold judge
  rw [line]
  dsimp only
  rw [if_pos version, code]
  by_cases five : d = '5'
  · rw [if_pos (congrArg some five), if_pos five]
  · have present : (splitWhitespace (answerStart minor ++ d ::
        rest.rdropWhile isWhitespace))[1]?.getD [] ≠ [] := by
      intro empty
      rw [empty] at code
      cases code
    rw [if_neg fun same => five (Option.some.inj same), if_neg five, if_pos (Or.inr present)]

end Answers

/-- Before that the probe fails, whatever part of the version has arrived. -/
theorem judge_of_short (ms : Nat) {minor : Char} (known : minor = '0' ∨ minor = '1') {part : Text}
    (starts : part <+: answerStart minor) : (judge ms part).status = .fail := by
  have listed : part ∈ (answerStart minor).inits := (List.mem_inits part _).mpr starts
  have each : ((answerStart minor).inits.all fun part =>
      decide ((judge ms part).status = .fail)) = true := by
    rcases known with rfl | rfl
    · rfl
    · rfl
  exact of_decide_eq_true (List.all_eq_true.mp each part listed)

end Tailroute.Controller
