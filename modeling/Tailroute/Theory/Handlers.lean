/-
# Theory.Handlers — programs of atomic steps, alone and interleaved

A `Handler` serves one request: it is an answer, or an atomic step on a shared
state followed by the rest of the handler, which may depend on what the step saw.
A step is given what it meets: its readings of the clock, and whether the operation it
stands for fails.

`serve` runs a handler alone. In a `Pool` any number of handlers are in flight and
their steps come in any order. `Obeys` is the rely-guarantee condition for one
handler: as long as the others change the state within `rely`, each of its steps
changes it within `guarantee`. A guarantee is something every other handler can rely
on, so conditions that hold of each handler on its own hold of the whole pool
(`Pool.invariant`).
-/
import Tailroute.Theory.Table
import Tailroute.Theory.Transition

namespace Tailroute.Theory

set_option autoImplicit false

/-! ## Handlers -/

/-- What one step meets: the first and the last reading of the clock in it, and the
failure of its operation. -/
structure Moment (E : Type) where
  first : Int
  last : Int
  ordered : first ≤ last
  fault : Option E
deriving DecidableEq

/-- The clock read once, and no failure. -/
def Moment.at {E : Type} (now : Int) : Moment E := ⟨now, now, Int.le_refl now, none⟩

inductive Handler (E S A : Type) where
  | done (answer : A)
  | step (write : Moment E → S → S) (rest : Moment E → S → Handler E S A)

namespace Handler

variable {E S A : Type}

/-- A step that writes nothing. -/
def read (rest : Moment E → S → Handler E S A) : Handler E S A := .step (fun _ s => s) rest

/-- The handler alone, with what its steps meet. -/
def serve : Handler E S A → (Nat → Moment E) → S → A × S
  | .done answer, _, s => (answer, s)
  | .step write rest, clock, s =>
      (rest (clock 0) s).serve (fun n => clock (n + 1)) (write (clock 0) s)

/-- One step of the handler: the state after it and the rest. -/
def advance? : Handler E S A → Moment E → S → Option (S × Handler E S A)
  | .done _, _, _ => none
  | .step write rest, t, s => some (write t s, rest t s)

@[simp] theorem serve_done (answer : A) (clock : Nat → Moment E) (s : S) :
    (Handler.done answer).serve clock s = (answer, s) := rfl

@[simp] theorem serve_step (write : Moment E → S → S) (rest : Moment E → S → Handler E S A)
    (clock : Nat → Moment E) (s : S) :
    (Handler.step write rest).serve clock s =
      (rest (clock 0) s).serve (fun n => clock (n + 1)) (write (clock 0) s) := rfl

@[simp] theorem serve_read (rest : Moment E → S → Handler E S A) (clock : Nat → Moment E) (s : S) :
    (Handler.read rest).serve clock s = (rest (clock 0) s).serve (fun n => clock (n + 1)) s := rfl

end Handler

/-! ## Rely and guarantee -/

/-- What the other handlers may do to the state, and what one step of a handler may. -/
structure Contract (E S : Type) where
  rely : S → S → Prop
  guarantee : Moment E → S → S → Prop
  trans : ∀ {s s' s''}, rely s s' → rely s' s'' → rely s s''
  idle : ∀ t s, guarantee t s s
  relies : ∀ {t s s'}, guarantee t s s' → rely s s'

theorem Contract.refl {E S : Type} (c : Contract E S) (s : S) : c.rely s s :=
  c.relies (c.idle (.at 0) s)

namespace Handler

variable {E S A : Type} (c : Contract E S) (allowed : Moment E → S → Prop) (post : A → Prop)

/-- From a state on, each step that is allowed keeps the guarantee, and the answer is
as `post` says. -/
def Obeys : Handler E S A → S → Prop
  | .done answer, _ => post answer
  | .step write rest, s => ∀ t s', c.rely s s' → allowed t s' →
      c.guarantee t s' (write t s') ∧ Obeys (rest t s') (write t s')

variable {c allowed post}

/-- What the other handlers do does not matter. -/
theorem Obeys.stable {h : Handler E S A} {s s' : S} (obeys : h.Obeys c allowed post s)
    (changed : c.rely s s') : h.Obeys c allowed post s' := by
  cases h with
  | done answer => exact obeys
  | step write rest => exact fun t s'' later => obeys t s'' (c.trans changed later)

theorem obeys_step {write : Moment E → S → S} {rest : Moment E → S → Handler E S A} {s : S}
    (follows : ∀ t s', c.rely s s' → allowed t s' →
      c.guarantee t s' (write t s') ∧ (rest t s').Obeys c allowed post (write t s')) :
    (Handler.step write rest).Obeys c allowed post s := follows

theorem obeys_read {rest : Moment E → S → Handler E S A} {s : S}
    (follows : ∀ t s', c.rely s s' → allowed t s' → (rest t s').Obeys c allowed post s') :
    (Handler.read rest).Obeys c allowed post s :=
  fun t s' changed admitted => ⟨c.idle t s', follows t s' changed admitted⟩

/-- A handler that keeps to its contract among others answers as it says when alone. -/
theorem Obeys.serve {h : Handler E S A} {s : S} (obeys : h.Obeys c allowed post s)
    (always : ∀ t s, allowed t s) (clock : Nat → Moment E) : post (h.serve clock s).1 := by
  induction h generalizing s clock with
  | done answer => exact obeys
  | step write rest ih =>
      exact ih (clock 0) s (obeys (clock 0) s (c.refl s) (always _ _)).2 _

end Handler

/-! ## Pools -/

/-- The shared state, the clock, and the requests in flight or answered. -/
structure Pool (E R S A : Type) where
  clock : Int
  shared : S
  tasks : Table Nat (R × Handler E S A)

namespace Pool

variable {E R S A : Type}

inductive Action (E R : Type) where
  | start (id : Nat) (request : R)
  | advance (id : Nat) (t : Moment E)
deriving DecidableEq

/-- A request comes in, or one handler takes its next step, not before the last one. -/
def step (program : R → Handler E S A) (p : Pool E R S A) : Action E R → Option (Pool E R S A)
  | .start id request =>
      (p.tasks.insert? id (request, program request)).map fun tasks => { p with tasks := tasks }
  | .advance id t =>
      match p.tasks.find? id with
      | some (request, .step write rest) =>
          if p.clock ≤ t.first then
            some ⟨t.last, write t p.shared, p.tasks.upsert id (request, rest t p.shared)⟩
          else none
      | _ => none

/-- The side condition of a step, by the request it serves. -/
def Admits (allowed : R → Moment E → S → Prop) (p : Pool E R S A) : Action E R → Prop
  | .start _ _ => True
  | .advance id t => ∀ task, p.tasks.find? id = some task → allowed task.1 t p.shared

instance (allowed : R → Moment E → S → Prop) [∀ r t s, Decidable (allowed r t s)]
    (p : Pool E R S A) (a : Action E R) : Decidable (p.Admits allowed a) :=
  match a with
  | .start _ _ => isTrue trivial
  | .advance id t =>
      match found : p.tasks.find? id with
      | none => isTrue fun task running => by
          rw [found] at running
          cases running
      | some task =>
          decidable_of_iff (allowed task.1 t p.shared)
            ⟨fun admitted other running => by
              rw [found] at running
              cases running
              exact admitted, fun admits => admits task found⟩

theorem step_cases {program : R → Handler E S A} {p p' : Pool E R S A} {a : Action E R}
    (taken : p.step program a = some p') :
    (∃ id request, a = .start id request ∧ p.tasks.find? id = none ∧
      p' = { p with tasks := p.tasks.upsert id (request, program request) }) ∨
    ∃ id t request write rest, a = .advance id t ∧ p.clock ≤ t.first ∧
      p.tasks.find? id = some (request, .step write rest) ∧
      p' = ⟨t.last, write t p.shared, p.tasks.upsert id (request, rest t p.shared)⟩ := by
  cases a with
  | start id request =>
      left
      obtain ⟨tasks, inserted, rfl⟩ := Option.map_eq_some_iff.mp taken
      obtain ⟨fresh, rfl⟩ := Table.insert?_eq_some inserted
      exact ⟨id, request, rfl, fresh, rfl⟩
  | advance id t =>
      right
      simp only [step] at taken
      split at taken
      · rename_i request write rest found
        split at taken
        · rename_i later
          cases taken
          exact ⟨id, t, request, write, rest, rfl, later, found, rfl⟩
        · cases taken
      · cases taken

section Obedience

variable (c : Contract E S) (allowed : R → Moment E → S → Prop) (post : R → A → Prop)

/-- Each handler keeps to the contract from here on. -/
def Sound (p : Pool E R S A) : Prop :=
  ∀ id request handler, p.tasks.find? id = some (request, handler) →
    handler.Obeys c (allowed request) (post request) p.shared

theorem sound_empty (clock : Int) (s : S) :
    (⟨clock, s, .empty⟩ : Pool E R S A).Sound c allowed post := by
  intro id request handler found
  cases found

variable {c allowed post} {program : R → Handler E S A} {p p' : Pool E R S A}

theorem Sound.start {id : Nat} {request : R} (sound : p.Sound c allowed post)
    (starts : (program request).Obeys c (allowed request) (post request) p.shared) :
    ({ p with tasks := p.tasks.upsert id (request, program request) } : Pool E R S A).Sound
      c allowed post := by
  intro id' request' handler found
  rw [Table.find?_upsert] at found
  split at found
  · cases found
    exact starts
  · exact sound id' request' handler found

/-- A step of one handler keeps its guarantee and disturbs no other handler. -/
theorem Sound.advance {id : Nat} {t : Moment E} {request : R} {write : Moment E → S → S}
    {rest : Moment E → S → Handler E S A} (sound : p.Sound c allowed post)
    (found : p.tasks.find? id = some (request, .step write rest))
    (admitted : allowed request t p.shared) :
    c.guarantee t p.shared (write t p.shared) ∧
      (⟨t.last, write t p.shared, p.tasks.upsert id (request, rest t p.shared)⟩ :
        Pool E R S A).Sound c allowed post := by
  obtain ⟨kept, follows⟩ := sound id request _ found t p.shared (c.refl p.shared) admitted
  refine ⟨kept, ?_⟩
  intro id' request' handler found'
  rw [Table.find?_upsert] at found'
  split at found'
  · cases found'
    exact follows
  · exact (sound id' request' handler found').stable (c.relies kept)

/-- **The rule for pools.** A property of clock and state that survives every
guaranteed step, and under which each handler can be started, holds after every run. -/
theorem invariant {I : Int → S → Prop} {p₀ : Pool E R S A}
    (base : I p₀.clock p₀.shared) (sound : p₀.Sound c allowed post)
    (starts : ∀ clock s request, I clock s →
      (program request).Obeys c (allowed request) (post request) s)
    (keep : ∀ clock t s s', clock ≤ t.first → I clock s → c.guarantee t s s' → I t.last s')
    (reached : Transition.Reach (Pool.step program) (Admits allowed) p₀ p) :
    I p.clock p.shared ∧ p.Sound c allowed post := by
  refine reached.invariant (I := fun p => I p.clock p.shared ∧ p.Sound c allowed post)
    ⟨base, sound⟩ ?_
  rintro p a p' - ⟨holds, sound⟩ admits taken
  obtain ⟨id, request, rfl, -, rfl⟩ | ⟨id, t, request, write, rest, rfl, later, found, rfl⟩ :=
    step_cases taken
  · exact ⟨holds, sound.start (starts _ _ _ holds)⟩
  · obtain ⟨kept, sound⟩ := sound.advance found (admits _ found)
    exact ⟨keep _ _ _ _ later holds kept, sound⟩

end Obedience

end Pool

end Tailroute.Theory
