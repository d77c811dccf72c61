import Mathlib.Data.List.Basic
import Mathlib.Data.List.Infix

/-!
# Programs that call an outside library

A program is a tree: it returns, or it makes one call and goes on with the answer.  What the calls
do is not part of the program.  An *environment* answers each call from a state of its own, and
running a program under an environment gives its value, the environment's last state and the
*trace*: the calls it made, in order, each with its answer.

* **`run_bind`** — a sequence of two programs makes the calls of the first, then those of the
  second under the state the first left.
* **`loop_rule`** — the invariant rule of an endless loop: what holds at entry and is preserved by
  each pass holds after any number of passes, whatever the environment does in each of them.
* **`loop_cut`** — if every pass ends with a marked call and makes no other one, then a trace of
  the loop cut after a marked call is the trace of its first passes.

Runs are finite: an endless loop is known by its finite numbers of passes.
-/

namespace CallProgram

/-- A program over the calls `Op`, where the call `op` is answered by a value of `Ans op`. -/
inductive Prog (Op : Type) (Ans : Op → Type) (α : Type) where
  | ret (a : α)
  | call (op : Op) (k : Ans op → Prog Op Ans α)

/-- A call together with its answer. -/
abbrev Event (Op : Type) (Ans : Op → Type) := (op : Op) × Ans op

/-- An environment with state `σ`: it answers a call and moves on to its next state. -/
abbrev Env (Op : Type) (Ans : Op → Type) (σ : Type) := (op : Op) → σ → Ans op × σ

/-- A finished run: the value, the environment's last state and the calls made. -/
structure Exec (Op : Type) (Ans : Op → Type) (σ α : Type) where
  value : α
  state : σ
  trace : List (Event Op Ans)

variable {Op : Type} {Ans : Op → Type} {σ α β ι : Type}

namespace Prog

def bind : Prog Op Ans α → (α → Prog Op Ans β) → Prog Op Ans β
  | ret a, f => f a
  | call op k, f => call op fun r => (k r).bind f

instance : Monad (Prog Op Ans) where
  pure := ret
  bind := bind

/-- The program that makes one call and returns its answer. -/
def perform (op : Op) : Prog Op Ans (Ans op) := call op ret

/-- Run a program from state `s`. -/
def run (env : Env Op Ans σ) : Prog Op Ans α → σ → Exec Op Ans σ α
  | ret a, s => ⟨a, s, []⟩
  | call op k, s =>
      let rest := (k (env op s).1).run env (env op s).2
      ⟨rest.value, rest.state, ⟨op, (env op s).1⟩ :: rest.trace⟩

@[simp] theorem run_pure (env : Env Op Ans σ) (a : α) (s : σ) :
    (pure a : Prog Op Ans α).run env s = ⟨a, s, []⟩ := rfl

@[simp] theorem run_perform (env : Env Op Ans σ) (op : Op) (s : σ) :
    (perform op).run env s = ⟨(env op s).1, (env op s).2, [⟨op, (env op s).1⟩]⟩ := rfl

/-- **Sequencing.**  The trace of `p >>= f` is the trace of `p` followed by that of `f`. -/
@[simp] theorem run_bind (env : Env Op Ans σ) (p : Prog Op Ans α) (f : α → Prog Op Ans β) (s : σ) :
    (p >>= f).run env s =
      ⟨((f (p.run env s).value).run env (p.run env s).state).value,
        ((f (p.run env s).value).run env (p.run env s).state).state,
        (p.run env s).trace ++ ((f (p.run env s).value).run env (p.run env s).state).trace⟩ := by
  induction p generalizing s with
  | ret a => rfl
  | call op k ih =>
      show (call op fun r => (k r).bind f).run env s = _
      have h := ih (env op s).1 (env op s).2
      simp only [run, List.cons_append]
      rw [show (k (env op s).1).bind f = k (env op s).1 >>= f from rfl, h]

/-! ### The endless loop -/

/-- The passes of `while (true) body`, one for each input of the list.  Input `i` is what the
environment does in that pass. -/
def loop (env : ι → Env Op Ans σ) (body : Prog Op Ans Unit) :
    List ι → σ → Exec Op Ans σ Unit
  | [], s => ⟨(), s, []⟩
  | i :: is, s =>
      let pass := body.run (env i) s
      let rest := loop env body is pass.state
      ⟨(), rest.state, pass.trace ++ rest.trace⟩

theorem loop_snoc (env : ι → Env Op Ans σ) (body : Prog Op Ans Unit) (is : List ι) (i : ι) (s : σ) :
    loop env body (is ++ [i]) s =
      ⟨(), (body.run (env i) (loop env body is s).state).state,
        (loop env body is s).trace ++ (body.run (env i) (loop env body is s).state).trace⟩ := by
  induction is generalizing s with
  | nil => simp [loop]
  | cons j js ih => simp only [List.cons_append, loop, ih, List.append_assoc]

/-- **The loop rule.**  An assertion on the passes made, the trace and the state that holds at
entry and that every pass preserves holds after any passes. -/
theorem loop_rule (env : ι → Env Op Ans σ) (body : Prog Op Ans Unit) (s : σ)
    (Inv : List ι → List (Event Op Ans) → σ → Prop) (hentry : Inv [] [] s)
    (hpass : ∀ is t u i, Inv is t u →
      Inv (is ++ [i]) (t ++ (body.run (env i) u).trace) (body.run (env i) u).state)
    (is : List ι) : Inv is (loop env body is s).trace (loop env body is s).state := by
  induction is using List.reverseRecOn with
  | nil => exact hentry
  | append_singleton is i ih =>
      rw [loop_snoc]
      exact hpass is _ _ i ih

/-- Every pass of the body ends with a marked call and makes no other marked call. -/
def EndsWith (mark : Event Op Ans → Prop) (env : ι → Env Op Ans σ) (body : Prog Op Ans Unit) :
    Prop :=
  ∀ i s, ∃ w e, (body.run (env i) s).trace = w ++ [e] ∧ mark e ∧ ∀ x ∈ w, ¬ mark x

/-- **Cutting a loop.**  Where every pass ends with its only marked call, a trace of the loop cut
after a marked call is the trace of at least one of its passes, taken from the start. -/
theorem loop_cut {mark : Event Op Ans → Prop} {env : ι → Env Op Ans σ} {body : Prog Op Ans Unit}
    (hbody : EndsWith mark env body) {is : List ι} {s : σ} {pre post : List (Event Op Ans)}
    {e : Event Op Ans} (ht : (loop env body is s).trace = pre ++ e :: post) (he : mark e) :
    ∃ js, js <+: is ∧ js ≠ [] ∧ (loop env body js s).trace = pre ++ [e] := by
  induction is generalizing s pre with
  | nil => simp [loop] at ht
  | cons i is ih =>
      obtain ⟨w, m, hw, hm, hclean⟩ := hbody i s
      simp only [loop, hw, List.append_assoc, List.singleton_append] at ht
      rcases List.append_eq_append_iff.mp ht with ⟨a, hpre, hrest⟩ | ⟨a, hw', hrest⟩
      · cases a with
        | nil =>
            -- the cut is at the end of this pass
            simp only [List.nil_append, List.cons.injEq] at hrest
            refine ⟨[i], by simp, by simp, ?_⟩
            simp [loop, hw, hpre, hrest.1]
        | cons x a =>
            -- the cut is in a later pass
            simp only [List.cons_append, List.cons.injEq] at hrest
            obtain ⟨js, hjs, -, htr⟩ := ih hrest.2
            refine ⟨i :: js, by simpa using hjs, by simp, ?_⟩
            simp [loop, hw, htr, hpre, hrest.1]
      · cases a with
        | nil =>
            simp only [List.nil_append, List.cons.injEq] at hrest
            refine ⟨[i], by simp, by simp, ?_⟩
            simp only [List.append_nil] at hw'
            simp [loop, hw, hw', hrest.1]
        | cons x a =>
            -- the cut would be inside the pass, where no call is marked
            simp only [List.cons_append, List.cons.injEq] at hrest
            exact absurd (hrest.1 ▸ he) (hclean x (by simp [hw']))

/-- **Stopping a loop.**  A beginning of a loop's trace is the whole of it, or the trace of some
passes and a beginning of the next. -/
theorem loop_prefix {env : ι → Env Op Ans σ} {body : Prog Op Ans Unit} {is : List ι} {s : σ}
    {pre : List (Event Op Ans)} (h : pre <+: (loop env body is s).trace) :
    pre = (loop env body is s).trace ∨ ∃ js i rest w, is = js ++ i :: rest ∧
      w <+: (body.run (env i) (loop env body js s).state).trace ∧
      pre = (loop env body js s).trace ++ w := by
  induction is using List.reverseRecOn with
  | nil =>
      left
      exact List.prefix_nil.mp h
  | append_singleton is i ih =>
      obtain ⟨post, hpost⟩ := h
      rw [loop_snoc] at hpost
      rcases List.append_eq_append_iff.mp hpost with ⟨a, ha, -⟩ | ⟨w, hpre, hw⟩
      · rcases ih ⟨a, ha.symm⟩ with hall | ⟨js, j, rest, w, his, hw, hpre⟩
        · exact Or.inr ⟨is, i, [], [], rfl, List.nil_prefix, by rw [List.append_nil, hall]⟩
        · refine Or.inr ⟨js, j, rest ++ [i], w, ?_, hw, hpre⟩
          rw [his, List.append_assoc, List.cons_append]
      · exact Or.inr ⟨is, i, [], w, rfl, ⟨post, hw.symm⟩, hpre⟩

/-- **Reading off a loop.**  If what `f` picks out of a pass only depends on its input, then what it
picks out of the loop is that, pass by pass. -/
theorem loop_filterMap {γ : Type} {env : ι → Env Op Ans σ} {body : Prog Op Ans Unit}
    (f : Event Op Ans → Option γ) (g : ι → List γ)
    (hbody : ∀ i s, (body.run (env i) s).trace.filterMap f = g i) (is : List ι) (s : σ) :
    (loop env body is s).trace.filterMap f = is.flatMap g := by
  induction is generalizing s with
  | nil => rfl
  | cons i is ih => rw [loop, List.filterMap_append, hbody, ih, List.flatMap_cons]

end Prog

end CallProgram
