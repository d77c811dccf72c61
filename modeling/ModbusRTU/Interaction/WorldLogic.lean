import ModbusRTU.Interaction.CallProgram

/-!
# Programs in a world with rules

A *world* has a state, says which calls may be made in a state, and what a call may be answered and
lead to.  Nothing fixes the answer, so what else goes on around the program is part of a step.

* **`wp`** — what has to hold of the world for a program to make only calls that may be made and to
  return in `Q`, whatever the answers.  The rules are `wp_perform`, `wp_bind`, `wp_mono`.
* **`Reached`** — the points that `start; while (true) body` comes to, also inside a pass.
* **`wp_of_reached`** — the invariant rule: an assertion on the variable and the world that the start
  establishes and each pass preserves.
* **`may_of_reached`**, **`holds_of_reached`** — then each call on the way may be made, and what such
  calls preserve holds all the way.
* **`returns_of_reached`** — the same for an assertion that does not look at the world.
* **`reached_of_follow`** — a point is reached if some answers lead to it (`follow`).
* **`Reached.simulate`** — a more detailed world may be put in the place of one that allows all it does.
-/

namespace WorldLogic

open CallProgram

/-- A world for programs over the calls `Op`. -/
structure World (Op : Type) (Ans : Op → Type) (W : Type) where
  may : W → Op → Prop
  step : W → (op : Op) → Ans op → W → Prop

variable {Op : Type} {Ans : Op → Type} {W S α β : Type} (world : World Op Ans W)

/-- The weakest precondition of a program. -/
def wp : Prog Op Ans α → (α → W → Prop) → W → Prop
  | .ret a, Q, w => Q a w
  | .call op k, Q, w => world.may w op ∧ ∀ r u, world.step w op r u → wp (k r) Q u

variable {world} {Q R : α → W → Prop} {w : W}

theorem wp_perform (op : Op) {Q : Ans op → W → Prop} :
    wp world (Prog.perform op) Q w ↔ world.may w op ∧ ∀ r u, world.step w op r u → Q r u := Iff.rfl

/-- **Sequencing.** -/
theorem wp_bind (p : Prog Op Ans α) (f : α → Prog Op Ans β) {Q : β → W → Prop} :
    wp world (p >>= f) Q w ↔ wp world p (fun a u => wp world (f a) Q u) w := by
  induction p generalizing w with
  | ret a => exact Iff.rfl
  | call op k ih =>
      have hbind : (Prog.call op k >>= f) = Prog.call op fun r => k r >>= f := rfl
      rw [hbind, wp, wp]
      constructor
      · intro h
        exact ⟨h.1, fun r u hstep => (ih r).mp (h.2 r u hstep)⟩
      · intro h
        exact ⟨h.1, fun r u hstep => (ih r).mpr (h.2 r u hstep)⟩

theorem wp_mono {p : Prog Op Ans α} (h : wp world p Q w) (hQR : ∀ a u, Q a u → R a u) :
    wp world p R w := by
  induction p generalizing w with
  | ret a => exact hQR a w h
  | call op k ih => exact ⟨h.1, fun r u hstep => ih r (h.2 r u hstep)⟩

/-- A program and the rest of the work. -/
theorem wp_seq {p : Prog Op Ans α} {f : α → Prog Op Ans β} {Q : β → W → Prop}
    (h : wp world p R w) (hf : ∀ a u, R a u → wp world (f a) Q u) : wp world (p >>= f) Q w :=
  (wp_bind p f).mpr (wp_mono h hf)

/-- A call and the rest of the work. -/
theorem wp_call {op : Op} {f : Ans op → Prog Op Ans β} {Q : β → W → Prop} (hmay : world.may w op)
    (hf : ∀ r u, world.step w op r u → wp world (f r) Q u) :
    wp world (Prog.perform op >>= f) Q w :=
  (wp_bind _ f).mpr ((wp_perform op).mpr ⟨hmay, hf⟩)

/-! ### The endless loop -/

/-- The points of `start; while (true) body`: the program that is left and the world. -/
inductive Reached (world : World Op Ans W) (start : Prog Op Ans S) (body : S → Prog Op Ans S)
    (w₀ : W) : Prog Op Ans S → W → Prop where
  | start : Reached world start body w₀ start w₀
  | call {op k w r u} : Reached world start body w₀ (.call op k) w → world.step w op r u →
      Reached world start body w₀ (k r) u
  | again {s w} : Reached world start body w₀ (.ret s) w → Reached world start body w₀ (body s) w

section Loop

variable {start : Prog Op Ans S} {body : S → Prog Op Ans S} {w₀ : W} {Inv : S → W → Prop}
  (hstart : wp world start Inv w₀) (hbody : ∀ s w, Inv s w → wp world (body s) Inv w)
include hstart hbody

/-- **The invariant rule.**  At each point what is left of the pass leads to the invariant. -/
theorem wp_of_reached {p : Prog Op Ans S} (h : Reached world start body w₀ p w) :
    wp world p Inv w := by
  induction h with
  | start => exact hstart
  | call _ hstep ih => exact ih.2 _ _ hstep
  | again _ ih => exact hbody _ _ ih

/-- **Safety.**  Every call that is made may be made. -/
theorem may_of_reached {op : Op} {k : Ans op → Prog Op Ans S}
    (h : Reached world start body w₀ (.call op k) w) : world.may w op :=
  (wp_of_reached hstart hbody h).1

/-- **Invariants of the world.**  What the calls that may be made preserve holds at each point. -/
theorem holds_of_reached {J : W → Prop} (hfirst : J w₀)
    (hkeep : ∀ w op r u, J w → world.may w op → world.step w op r u → J u)
    {p : Prog Op Ans S} (h : Reached world start body w₀ p w) : J w := by
  induction h with
  | start => exact hfirst
  | call hreach hstep ih => exact hkeep _ _ _ _ ih (may_of_reached hstart hbody hreach) hstep
  | again _ ih => exact ih

end Loop

/-! ### Whatever the answers -/

/-- What a program returns is in `P`, in any world. -/
def Returns (P : α → Prop) : Prog Op Ans α → Prop
  | .ret a => P a
  | .call _ k => ∀ r, Returns P (k r)

section Returns

variable {P : α → Prop} {p : Prog Op Ans α} {f : α → Prog Op Ans β} {P' : β → Prop}

/-- A program and the rest of the work. -/
theorem returns_seq (h : Returns P p) (hf : ∀ a, P a → Returns P' (f a)) : Returns P' (p >>= f) := by
  induction p with
  | ret a => exact hf a h
  | call op k ih => exact fun r => ih r (h r)

theorem returns_mono {Q : α → Prop} (h : Returns P p) (hPQ : ∀ a, P a → Q a) : Returns Q p := by
  induction p with
  | ret a => exact hPQ a h
  | call op k ih => exact fun r => ih r (h r)

theorem returns_true (p : Prog Op Ans α) : Returns (fun _ => True) p := by
  induction p with
  | ret a => trivial
  | call op k ih => exact ih

/-- A program of which nothing need be known. -/
theorem returns_any (p : Prog Op Ans α) (hf : ∀ a, Returns P' (f a)) : Returns P' (p >>= f) :=
  returns_seq (returns_true p) fun a _ => hf a

theorem returns_of_reached {start : Prog Op Ans S} {body : S → Prog Op Ans S} {w₀ : W} {Inv : S → Prop}
    (hstart : Returns Inv start) (hbody : ∀ s, Inv s → Returns Inv (body s)) {p : Prog Op Ans S}
    (h : Reached world start body w₀ p w) : Returns Inv p := by
  induction h with
  | start => exact hstart
  | call _ _ ih => exact ih _
  | again _ ih => exact hbody _ ih

end Returns

/-! ### A run on given answers -/

/-- Nothing of the program is left. -/
def returned : Prog Op Ans α → Bool
  | .ret _ => true
  | .call .. => false

section Follow

variable (reply : ℕ → W → (op : Op) → Option (Ans op × W)) (start : Prog Op Ans S)
  (body : S → Prog Op Ans S) (w₀ : W)

/-- One step, where `reply` says what the call is answered and leads to. -/
def next (i : ℕ) : Prog Op Ans S × W → Option (Prog Op Ans S × W)
  | (.ret s, w) => some (body s, w)
  | (.call op k, w) => (reply i w op).map fun x => (k x.1, x.2)

/-- The point after so many steps. -/
def follow : ℕ → Option (Prog Op Ans S × W)
  | 0 => some (start, w₀)
  | i + 1 => (follow i).bind (next reply body i)

variable {reply start body w₀}

theorem reached_of_follow (hreply : ∀ i w op r u, reply i w op = some (r, u) → world.step w op r u)
    {n : ℕ} {p : Prog Op Ans S} (h : follow reply start body w₀ n = some (p, w)) :
    Reached world start body w₀ p w := by
  induction n generalizing p w with
  | zero =>
      obtain ⟨rfl, rfl⟩ := Prod.mk.inj (Option.some.inj h)
      exact .start
  | succ n ih =>
      obtain ⟨⟨q, v⟩, hq, hnext⟩ := Option.bind_eq_some_iff.mp h
      cases q with
      | ret s =>
          obtain ⟨rfl, rfl⟩ := Prod.mk.inj (Option.some.inj hnext)
          exact .again (ih hq)
      | call op k =>
          obtain ⟨⟨r, u⟩, hr, hpair⟩ := Option.map_eq_some_iff.mp hnext
          obtain ⟨rfl, rfl⟩ := Prod.mk.inj hpair
          exact .call (ih hq) (hreply _ _ _ _ _ hr)

/-- A point that passes a check is reached. -/
theorem exists_reached (hreply : ∀ i w op r u, reply i w op = some (r, u) → world.step w op r u)
    {n : ℕ} {check : Prog Op Ans S × W → Bool}
    (h : (follow reply start body w₀ n).any check = true) :
    ∃ p w, Reached world start body w₀ p w ∧ check (p, w) = true := by
  obtain ⟨⟨p, w⟩, hpoint, hcheck⟩ := (Option.any_eq_true _ _).mp h
  exact ⟨p, w, reached_of_follow hreply hpoint, hcheck⟩

end Follow

/-! ### A world in place of another -/

/-- **Simulation.**  A world whose steps from where the program comes to are steps of another one, as long
as `J` holds, comes with the same program only to points that the other one comes to. -/
theorem Reached.simulate {V : Type} {world : World Op Ans V} {world' : World Op Ans W}
    {start : Prog Op Ans S} {body : S → Prog Op Ans S} {f : V → W} {J : V → Prop} {v₀ : V}
    (hfirst : J v₀)
    (hstep : ∀ v op k r u, Reached world start body v₀ (.call op k) v → J v → world.step v op r u →
      J u ∧ world'.step (f v) op r (f u))
    {p : Prog Op Ans S} {v : V} (h : Reached world start body v₀ p v) :
    J v ∧ Reached world' start body (f v₀) p (f v) := by
  induction h with
  | start => exact ⟨hfirst, .start⟩
  | call hreach hnext ih =>
      obtain ⟨hJ, hstep'⟩ := hstep _ _ _ _ _ hreach ih.1 hnext
      exact ⟨hJ, .call ih.2 hstep'⟩
  | again _ ih => exact ⟨ih.1, .again ih.2⟩

end WorldLogic
