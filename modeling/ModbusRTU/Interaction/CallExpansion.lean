import ModbusRTU.Interaction.WorldLogic

/-!
# Calls that are programs themselves

A call of a program may stand for a program over calls of a lower level.  `expand` puts such programs in
their place.

* **`wp_expand`** — what a program does in a world, its expansion does in a world below it, if each program
  put in does there what its call does above.
* **`reached_expand`** — so does an endless loop: the invariant of the loop holds below, and each call that
  the expansion makes may be made.
* **`wp_beside`** — a program over one half of the calls, while the other half of the world drifts.
-/

namespace CallExpansion

open CallProgram WorldLogic

variable {Op Op' : Type} {Ans : Op → Type} {Ans' : Op' → Type} {W V S α : Type}

/-- Each call replaced by a program. -/
def expand (h : (op : Op) → Prog Op' Ans' (Ans op)) : Prog Op Ans α → Prog Op' Ans' α
  | .ret a => .ret a
  | .call op k => h op >>= fun r => expand h (k r)

section Refinement

variable {world : World Op Ans W} {world' : World Op' Ans' V}
  {h : (op : Op) → Prog Op' Ans' (Ans op)} {R : W → V → Prop}

/-- A program below does what the call above does, where the states are related. -/
def Implements (world : World Op Ans W) (world' : World Op' Ans' V) (R : W → V → Prop) (op : Op)
    (p : Prog Op' Ans' (Ans op)) : Prop :=
  ∀ w v, R w v → world.may w op → wp world' p (fun r v' => ∃ w', world.step w op r w' ∧ R w' v') v

variable (himpl : ∀ op, Implements world world' R op (h op))
include himpl

/-- **A program.** -/
theorem wp_expand {p : Prog Op Ans α} {Q : α → W → Prop} {w : W} {v : V} (hR : R w v)
    (hp : wp world p Q w) : wp world' (expand h p) (fun a v' => ∃ w', R w' v' ∧ Q a w') v := by
  induction p generalizing w v with
  | ret a => exact ⟨w, hR, hp⟩
  | call op k ih =>
      refine wp_seq (himpl op w v hR hp.1) fun r v' hr => ?_
      obtain ⟨w', hstep, hR'⟩ := hr
      exact ih r hR' (hp.2 r w' hstep)

/-- **An endless loop.** -/
theorem reached_expand {start : Prog Op Ans S} {body : S → Prog Op Ans S} {Inv : S → W → Prop} {w₀ : W}
    {v₀ : V} (hR : R w₀ v₀) (hstart : wp world start Inv w₀)
    (hbody : ∀ s w, Inv s w → wp world (body s) Inv w) {p : Prog Op' Ans' S} {v : V}
    (hreach : Reached world' (expand h start) (fun s => expand h (body s)) v₀ p v) :
    wp world' p (fun s v' => ∃ w, R w v' ∧ Inv s w) v := by
  refine wp_of_reached (wp_expand himpl hR hstart) (fun s v hs => ?_) hreach
  obtain ⟨w, hR', hinv⟩ := hs
  exact wp_expand himpl hR' (hbody s w hinv)

end Refinement

/-! ### Two worlds beside each other -/

section Beside

variable {world : World Op Ans W} {world' : World Op' Ans' V} {call : Op → Op'}
  {down : (op : Op) → Ans' (call op) → Ans op}

/-- The program with its calls as calls of the larger world. -/
def beside (call : Op → Op') (down : (op : Op) → Ans' (call op) → Ans op) :
    Prog Op Ans α → Prog Op' Ans' α :=
  expand fun op => Prog.perform (call op) >>= fun r => pure (down op r)

/-- **A program over one half of the calls**, while the rest of the world drifts. -/
theorem wp_beside (f : V → W) (Drift : V → V → Prop) (hrefl : ∀ v, Drift v v)
    (htrans : ∀ u v v', Drift u v → Drift v v' → Drift u v')
    (hmay : ∀ v op, world.may (f v) op → world'.may v (call op))
    (hstep : ∀ v op r v', world'.step v (call op) r v' →
      world.step (f v) op (down op r) (f v') ∧ Drift v v')
    {p : Prog Op Ans α} {Q : α → W → Prop} {v : V} (hp : wp world p Q (f v)) :
    wp world' (beside call down p) (fun a v' => Q a (f v') ∧ Drift v v') v := by
  induction p generalizing v with
  | ret a => exact ⟨hp, hrefl v⟩
  | call op k ih =>
      refine wp_seq (R := fun r v' => world.step (f v) op r (f v') ∧ Drift v v')
        ⟨hmay v op hp.1, fun r v' hr => hstep v op r v' hr⟩ fun r v' hr => ?_
      exact wp_mono (ih r (hp.2 r _ hr.1)) fun a v'' ha => ⟨ha.1, htrans _ _ _ hr.2 ha.2⟩

end Beside

end CallExpansion
