import Mathlib.Data.Finset.Card
import Mathlib.Data.List.Basic
import Mathlib.Data.List.Infix

/-!
# Laws on traces, one resource at a time

A trace is a list of events, some of which *name* a resource.  A `Law` says what the events after
each event must be like, and it only looks at events with the same name.  So events about other
resources can be taken out of a trace and judged on their own (`Law.holds_insert`,
`Law.holds_append`): what a loop does with fresh resources in each pass can be checked one pass at a
time.

A `Lease` says which events take a resource and which give it back.  Two things come with it:

* **`Lease.releasedOnce`** — the law that what is taken is given back exactly once.
* **`Lease.held`** — the ledger a reader of the trace would keep.  `mem_held_iff` reads an entry of
  the ledger back into the trace: a resource is held iff some event took it and none has given it
  back since.

Names may be drawn from a counter: `Within lo hi t` says that `t` only names resources drawn between
`lo` and `hi`.
-/

namespace TraceLaw

variable {E R Q : Type}

/-! ### What follows each event -/

/-- Each event of the trace is followed by events that are as it demands. -/
def Followed (demand : E → List E → Prop) : List E → Prop
  | [] => True
  | e :: rest => demand e rest ∧ Followed demand rest

@[simp] theorem followed_nil (demand : E → List E → Prop) : Followed demand [] := trivial

@[simp] theorem followed_cons (demand : E → List E → Prop) (e : E) (rest : List E) :
    Followed demand (e :: rest) ↔ demand e rest ∧ Followed demand rest := Iff.rfl

/-- `Followed` by cutting the trace at any event. -/
theorem followed_iff {demand : E → List E → Prop} {t : List E} :
    Followed demand t ↔ ∀ pre e rest, t = pre ++ e :: rest → demand e rest := by
  induction t with
  | nil => simp
  | cons x t ih =>
      rw [followed_cons, ih]
      constructor
      · rintro ⟨hx, ht⟩ pre e rest hsplit
        cases pre with
        | nil =>
            obtain ⟨rfl, rfl⟩ := List.cons.inj hsplit
            exact hx
        | cons y pre => exact ht pre e rest (List.cons.inj hsplit).2
      · intro h
        exact ⟨h [] x t rfl, fun pre e rest hsplit => h (x :: pre) e rest (by rw [hsplit]; rfl)⟩

/-! ### Laws that look at one name at a time -/

/-- No resource is named in both traces. -/
def Apart (name : E → Option R) (t₁ t₂ : List E) : Prop :=
  ∀ x ∈ t₁, ∀ y ∈ t₂, ∀ r, name x = some r → name y ≠ some r

theorem Apart.symm {name : E → Option R} {t₁ t₂ : List E} (h : Apart name t₁ t₂) :
    Apart name t₂ t₁ := by
  intro y hy x hx r hyr hxr
  exact h x hx y hy r hxr hyr

/-- A law on what follows an event.  Events that name nothing are free, and the others only look at
the events that share their name. -/
structure Law [DecidableEq R] (name : E → Option R) where
  demand : E → List E → Prop
  idle : ∀ e rest, name e = none → demand e rest
  blind : ∀ e rest, demand e rest ↔ demand e (rest.filter fun x => name x = name e)

namespace Law

variable [DecidableEq R] {name : E → Option R}

def Holds (L : Law name) (t : List E) : Prop := Followed L.demand t

@[simp] theorem holds_nil (L : Law name) : L.Holds [] := trivial

@[simp] theorem holds_cons (L : Law name) (e : E) (rest : List E) :
    L.Holds (e :: rest) ↔ L.demand e rest ∧ L.Holds rest := Iff.rfl

/-- After an event, a stretch of events with other names makes no difference. -/
theorem demand_insert (L : Law name) {e : E} (pre post : List E) {mid : List E}
    (h : ∀ x ∈ mid, ∀ r, name e = some r → name x ≠ some r) :
    L.demand e (pre ++ mid ++ post) ↔ L.demand e (pre ++ post) := by
  cases hn : name e with
  | none => exact ⟨fun _ => L.idle e _ hn, fun _ => L.idle e _ hn⟩
  | some r =>
      have hmid : mid.filter (fun x => name x = name e) = [] := by
        rw [List.filter_eq_nil_iff]
        intro x hx
        simpa [hn] using h x hx r hn
      rw [L.blind e (pre ++ mid ++ post), List.filter_append, List.filter_append, hmid,
        List.append_nil, ← List.filter_append, ← L.blind]

/-- **Laws split.**  A law holds of two traces with no name in common iff it holds of each. -/
theorem holds_append (L : Law name) {t₁ t₂ : List E} (h : Apart name t₁ t₂) :
    L.Holds (t₁ ++ t₂) ↔ L.Holds t₁ ∧ L.Holds t₂ := by
  induction t₁ with
  | nil => simp
  | cons e t ih =>
      have htail : Apart name t t₂ := fun x hx => h x (List.mem_cons_of_mem e hx)
      have hhead := L.demand_insert t [] fun y hy r => h e List.mem_cons_self y hy r
      rw [List.append_nil, List.append_nil] at hhead
      rw [List.cons_append, holds_cons, hhead, ih htail, holds_cons, and_assoc]

/-- **Laws split in the middle.**  A stretch that names nothing its surroundings name is judged on
its own. -/
theorem holds_insert (L : Law name) {pre mid post : List E} (h : Apart name (pre ++ post) mid) :
    L.Holds (pre ++ mid ++ post) ↔ L.Holds (pre ++ post) ∧ L.Holds mid := by
  induction pre with
  | nil =>
      rw [List.nil_append] at h
      rw [List.nil_append, List.nil_append, L.holds_append h.symm, and_comm]
  | cons e pre ih =>
      have htail : Apart name (pre ++ post) mid := fun x hx => h x (List.mem_cons_of_mem e hx)
      have hhead := L.demand_insert pre post fun y hy r => h e List.mem_cons_self y hy r
      rw [List.cons_append, List.cons_append, List.cons_append, holds_cons, hhead, ih htail,
        holds_cons, and_assoc]

/-- An event that names nothing may be added. -/
theorem Holds.snoc {L : Law name} {t : List E} (h : L.Holds t) {e : E} (he : name e = none) :
    L.Holds (t ++ [e]) := by
  have hapart : Apart name t [e] := by
    intro x _ y hy r _ hyr
    rw [List.mem_singleton.mp hy, he] at hyr
    cases hyr
  exact (L.holds_append hapart).mpr ⟨h, L.idle e [] he, trivial⟩

/-- After an event that stops a resource, nothing is done with it any more. -/
def neverAfter (stop act : E → Option Q) (key : Q → R)
    (stop_name : ∀ e q, stop e = some q → name e = some (key q))
    (act_name : ∀ e q, act e = some q → name e = some (key q)) : Law name where
  demand e rest := ∀ q, stop e = some q → ∀ x ∈ rest, act x ≠ some q
  idle e rest hn q hq := by simp [stop_name e q hq] at hn
  blind e rest := by
    refine forall_congr' fun q => imp_congr_right fun hq => ⟨fun h x hx => ?_, fun h x hx hact => ?_⟩
    · exact h x (List.mem_of_mem_filter hx)
    · refine h x (List.mem_filter.mpr ⟨hx, ?_⟩) hact
      rw [act_name x q hact, stop_name e q hq]
      simp

end Law

/-! ### Leases: what a trace takes and gives back -/

/-- Which events take a resource and which give it back.  Both name it, and no event does both. -/
structure Lease (name : E → Option R) (Q : Type) where
  takes : E → Option Q
  gives : E → Option Q
  key : Q → R
  takes_name : ∀ e q, takes e = some q → name e = some (key q)
  gives_name : ∀ e q, gives e = some q → name e = some (key q)
  exclusive : ∀ e q, takes e = some q → gives e = none

namespace Lease

variable [DecidableEq Q] {name : E → Option R}

/-- The law that what is taken is given back exactly once. -/
def releasedOnce [DecidableEq R] (L : Lease name Q) : Law name where
  demand e rest := ∀ q, L.takes e = some q → rest.countP (fun x => L.gives x = some q) = 1
  idle e rest hn q hq := by simp [L.takes_name e q hq] at hn
  blind e rest := by
    refine forall_congr' fun q => imp_congr_right fun hq => ?_
    rw [List.countP_filter]
    refine Eq.congr_left (List.countP_congr fun x _ => ?_)
    by_cases hx : L.gives x = some q
    · simp [hx, L.gives_name x q hx, L.takes_name e q hq]
    · simp [hx]

@[simp] theorem releasedOnce_demand [DecidableEq R] (L : Lease name Q) (e : E) (rest : List E) :
    L.releasedOnce.demand e rest ↔
      ∀ q, L.takes e = some q → rest.countP (fun x => L.gives x = some q) = 1 := Iff.rfl

/-- The ledger after one more event. -/
def after (L : Lease name Q) (ledger : Finset Q) (e : E) : Finset Q :=
  match L.takes e with
  | some q => insert q ledger
  | none =>
      match L.gives e with
      | some q => ledger.erase q
      | none => ledger

/-- What a trace has taken and not given back. -/
def held (L : Lease name Q) (t : List E) : Finset Q := t.foldl L.after ∅

@[simp] theorem held_nil (L : Lease name Q) : L.held [] = ∅ := rfl

theorem held_snoc (L : Lease name Q) (t : List E) (e : E) :
    L.held (t ++ [e]) = L.after (L.held t) e := by
  simp [held]

theorem after_takes (L : Lease name Q) (ledger : Finset Q) {e : E} {q : Q}
    (h : L.takes e = some q) : L.after ledger e = insert q ledger := by
  simp [after, h]

theorem after_gives (L : Lease name Q) (ledger : Finset Q) {e : E} {q : Q}
    (h : L.gives e = some q) : L.after ledger e = ledger.erase q := by
  cases ht : L.takes e with
  | none => simp [after, ht, h]
  | some p => simp [L.exclusive e p ht] at h

theorem after_other (L : Lease name Q) (ledger : Finset Q) {e : E} (ht : L.takes e = none)
    (hg : L.gives e = none) : L.after ledger e = ledger := by
  simp [after, ht, hg]

/-- **Reading the ledger.**  A resource is held iff some event took it and no later one gave it
back. -/
theorem mem_held_iff (L : Lease name Q) (t : List E) (q : Q) :
    q ∈ L.held t ↔ ∃ pre e rest, t = pre ++ e :: rest ∧ L.takes e = some q ∧
      ∀ x ∈ rest, L.gives x ≠ some q := by
  induction t using List.reverseRecOn with
  | nil => simp
  | append_singleton t e ih =>
      -- taken before the last event and still there after it, or taken by the last event
      have hsplit : (∃ pre x rest, t ++ [e] = pre ++ x :: rest ∧ L.takes x = some q ∧
            ∀ y ∈ rest, L.gives y ≠ some q) ↔
          L.takes e = some q ∨ (q ∈ L.held t ∧ L.gives e ≠ some q) := by
        rw [ih]
        constructor
        · rintro ⟨pre, x, rest, heq, hx, hrest⟩
          rcases List.eq_nil_or_concat rest with rfl | ⟨rest', y, rfl⟩
          · left
            obtain ⟨-, hxe⟩ := List.append_inj' heq rfl
            rw [List.cons.inj hxe |>.1, hx]
          · right
            rw [List.concat_eq_append, ← List.cons_append, ← List.append_assoc] at heq
            obtain ⟨ht, hey⟩ := List.append_inj' heq rfl
            have hy : e = y := (List.cons.inj hey).1
            refine ⟨⟨pre, x, rest', ht, hx, fun z hz => hrest z (by simp [hz])⟩, ?_⟩
            exact hy ▸ hrest y (by simp)
        · rintro (he | ⟨⟨pre, x, rest, rfl, hx, hrest⟩, he⟩)
          · exact ⟨t, e, [], rfl, he, by simp⟩
          · refine ⟨pre, x, rest ++ [e], by simp, hx, ?_⟩
            intro y hy
            rcases List.mem_append.mp hy with hy | hy
            · exact hrest y hy
            · rw [List.mem_singleton.mp hy]
              exact he
      rw [hsplit, held_snoc]
      cases ht : L.takes e with
      | some p =>
          have hg := L.exclusive e p ht
          rw [L.after_takes _ ht]
          simp [hg, eq_comm]
      | none =>
          cases hg : L.gives e with
          | some p =>
              rw [L.after_gives _ hg]
              simp [eq_comm, and_comm]
          | none => simp [L.after_other _ ht hg]

/-- What is held was named. -/
theorem exists_name_of_mem_held (L : Lease name Q) {t : List E} {q : Q} (h : q ∈ L.held t) :
    ∃ e ∈ t, name e = some (L.key q) := by
  obtain ⟨pre, e, rest, rfl, he, -⟩ := (L.mem_held_iff t q).mp h
  exact ⟨e, by simp, L.takes_name e q he⟩

/-- **Nothing is left.**  Where all that is taken is given back once, nothing is held. -/
theorem held_eq_empty [DecidableEq R] (L : Lease name Q) {t : List E} (h : L.releasedOnce.Holds t) :
    L.held t = ∅ := by
  rw [Finset.eq_empty_iff_forall_notMem]
  intro q hq
  obtain ⟨pre, e, rest, hsplit, he, hrest⟩ := (L.mem_held_iff t q).mp hq
  have honce : rest.countP (fun x => L.gives x = some q) = 1 :=
    followed_iff.mp h pre e rest hsplit q he
  have hpos : 0 < rest.countP (fun x => L.gives x = some q) := by omega
  obtain ⟨x, hx, hgives⟩ := List.countP_pos_iff.mp hpos
  exact hrest x hx (by simpa using hgives)

/-- **Ledgers add up.**  What is held after two traces with no name in common is what each of them
holds. -/
theorem held_append (L : Lease name Q) {t₁ t₂ : List E} (h : Apart name t₁ t₂) :
    L.held (t₁ ++ t₂) = L.held t₁ ∪ L.held t₂ := by
  induction t₂ using List.reverseRecOn with
  | nil => simp
  | append_singleton t e ih =>
      have hinit := ih fun x hx y hy => h x hx y (by simp [hy])
      rw [← List.append_assoc, held_snoc, hinit, held_snoc]
      cases ht : L.takes e with
      | some q => rw [L.after_takes _ ht, L.after_takes _ ht, Finset.union_insert]
      | none =>
          cases hg : L.gives e with
          | some q =>
              have hq : q ∉ L.held t₁ := by
                intro hmem
                obtain ⟨x, hx, hxq⟩ := L.exists_name_of_mem_held hmem
                exact h x hx e (by simp) _ hxq (L.gives_name e q hg)
              rw [L.after_gives _ hg, L.after_gives _ hg, Finset.erase_union_distrib,
                Finset.erase_eq_of_notMem hq]
          | none => rw [L.after_other _ ht hg, L.after_other _ ht hg]

theorem card_held_append (L : Lease name Q) {t₁ t₂ : List E} (h : Apart name t₁ t₂) :
    (L.held (t₁ ++ t₂)).card = (L.held t₁).card + (L.held t₂).card := by
  rw [L.held_append h, Finset.card_union_of_disjoint]
  rw [Finset.disjoint_left]
  intro q h₁ h₂
  obtain ⟨x, hx, hxq⟩ := L.exists_name_of_mem_held h₁
  obtain ⟨y, hy, hyq⟩ := L.exists_name_of_mem_held h₂
  exact h x hx y hy _ hxq hyq

/-- No more is held than was taken. -/
theorem card_held_le (L : Lease name Q) (t : List E) :
    (L.held t).card ≤ t.countP fun e => (L.takes e).isSome := by
  induction t using List.reverseRecOn with
  | nil => simp
  | append_singleton t e ih =>
      rw [held_snoc, List.countP_append, List.countP_singleton]
      cases ht : L.takes e with
      | some q =>
          rw [L.after_takes _ ht]
          have := Finset.card_insert_le q (L.held t)
          simp only [Option.isSome_some, if_true]
          omega
      | none =>
          have hle : (L.after (L.held t) e).card ≤ (L.held t).card := by
            cases hg : L.gives e with
            | some q =>
                rw [L.after_gives _ hg]
                exact Finset.card_erase_le
            | none => rw [L.after_other _ ht hg]
          simp only [Option.isSome_none, Bool.false_eq_true, if_false]
          omega

end Lease

/-! ### Names drawn from a counter -/

/-- The trace only names resources drawn from the counter between `lo` and `hi`. -/
def Within (name : E → Option ℕ) (lo hi : ℕ) (t : List E) : Prop :=
  ∀ e ∈ t, ∀ r, name e = some r → lo ≤ r ∧ r < hi

namespace Within

variable {name : E → Option ℕ} {lo mid hi : ℕ} {t₁ t₂ : List E}

@[simp] theorem nil : Within name lo hi [] := by
  intro e he
  cases he

@[simp] theorem cons_iff {e : E} {t : List E} :
    Within name lo hi (e :: t) ↔ (∀ r, name e = some r → lo ≤ r ∧ r < hi) ∧ Within name lo hi t :=
  List.forall_mem_cons

theorem append (h₁ : Within name lo mid t₁) (h₂ : Within name mid hi t₂) (hlo : lo ≤ mid)
    (hhi : mid ≤ hi) : Within name lo hi (t₁ ++ t₂) := by
  intro e he r hr
  rcases List.mem_append.mp he with he | he
  · have := h₁ e he r hr
    omega
  · have := h₂ e he r hr
    omega

/-- A later draw may stand in the middle of an earlier one. -/
theorem insert {pre post : List E} (h₁ : Within name lo mid (pre ++ post))
    (h₂ : Within name mid hi t₂) (hlo : lo ≤ mid) (hhi : mid ≤ hi) :
    Within name lo hi (pre ++ t₂ ++ post) := by
  have hall := h₁.append h₂ hlo hhi
  intro e he
  exact hall e (by simp only [List.mem_append] at he ⊢; tauto)

/-- Successive draws are apart. -/
theorem apart (h₁ : Within name lo mid t₁) (h₂ : Within name mid hi t₂) : Apart name t₁ t₂ := by
  intro x hx y hy r hxr hyr
  have := h₁ x hx r hxr
  have := h₂ y hy r hyr
  omega

end Within

end TraceLaw
