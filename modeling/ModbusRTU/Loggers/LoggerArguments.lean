import ModbusRTU.Loggers.RowStatements

/-!
# Which arguments start a logger

`cool` and `press1` want a device, `temp` a device and the number of its instrument, 1 or 2, read by
`s2i>>mod` into a variable without an initial value.

* **`tempMain_number`** — a number printed in decimal is read back, and `temp` polls iff it is 1 or 2.
* **`readMod_indep_iff`** — what is read does not depend on the old value of `mod` iff the argument is
  not blank; for a blank one, `temp` may start or not (`tempMain_blank`).
* **`temp_values_of_polls`** — once `temp` polls, each of its rows starts with 1 or 2.
-/

namespace ModbusRTU.LoggerArguments

open Numerals PollingLoggers LoggerRuns RowStatements

/-! ### `s2i>>mod` -/

/-- Nothing but spaces. -/
def Blank (cs : List Char) : Prop := ∀ c ∈ cs, isSpace c = true

theorem readMod_blank {cs : List Char} (h : Blank cs) (mod : ℤ) : readMod mod cs = mod :=
  if_pos (List.dropWhile_eq_nil_iff.mpr h)

theorem readMod_of_not_blank {cs : List Char} (h : ¬ Blank cs) (mod : ℤ) :
    readMod mod cs = max (-2 ^ 31) (min (2 ^ 31 - 1) (signed cs)) :=
  if_neg fun hdrop => h (List.dropWhile_eq_nil_iff.mp hdrop)

/-- **The old value of `mod`** matters for blank arguments only. -/
theorem readMod_indep_iff (cs : List Char) :
    (∀ mod mod', readMod mod cs = readMod mod' cs) ↔ ¬ Blank cs := by
  constructor
  · intro h hblank
    have h01 := h 0 1
    rw [readMod_blank hblank, readMod_blank hblank] at h01
    omega
  · intro h mod mod'
    rw [readMod_of_not_blank h, readMod_of_not_blank h]

/-- **Print, then read.**  A printed number is read back, after any spaces. -/
theorem readMod_number (mod : ℤ) (n : ℕ) (spaces rest : List Char) (hspaces : Blank spaces)
    (hrest : ∀ c ∈ rest.head?, c.isDigit = false) :
    readMod mod (spaces ++ (n.repr.toList ++ rest)) = min (2 ^ 31 - 1) (n : ℤ) := by
  rw [Nat.toList_repr]
  have hnotBlank : ¬ Blank (spaces ++ (Nat.toDigits 10 n ++ rest)) := by
    intro hblank
    obtain ⟨c, cs, hcs⟩ := List.exists_cons_of_ne_nil (Nat.toDigits_ne_nil (n := n) (b := 10))
    have hmem : c ∈ Nat.toDigits 10 n := by
      rw [hcs]
      exact List.mem_cons_self
    have hspace := hblank c (List.mem_append_right _ (List.mem_append_left _ hmem))
    rw [isSpace_of_isDigit (isDigit_of_mem_toDigits n c hmem)] at hspace
    exact Bool.false_ne_true hspace
  rw [readMod_of_not_blank hnotBlank, signed_toDigits n hrest hspaces]
  omega

/-! ### The argument checks -/

theorem coolMain_polls_iff (argv : List String) (l : Logger) :
    coolMain argv = .polls l ↔ ∃ prog device, argv = [prog, device] ∧ l = .cool device := by
  by_cases h : argv.length = 2
  · obtain ⟨prog, device, rfl⟩ := List.length_eq_two.mp h
    simp [coolMain, eq_comm]
  · have hargv : ¬ ∃ prog device, argv = [prog, device] ∧ l = .cool device := by
      rintro ⟨prog, device, rfl, -⟩
      exact h rfl
    simp [coolMain, h, hargv]

theorem press1Main_polls_iff (argv : List String) (l : Logger) :
    press1Main argv = .polls l ↔ ∃ prog device, argv = [prog, device] ∧ l = .press1 device := by
  by_cases h : argv.length = 2
  · obtain ⟨prog, device, rfl⟩ := List.length_eq_two.mp h
    simp [press1Main, eq_comm]
  · have hargv : ¬ ∃ prog device, argv = [prog, device] ∧ l = .press1 device := by
      rintro ⟨prog, device, rfl, -⟩
      exact h rfl
    simp [press1Main, h, hargv]

/-- **`temp` polls** with a device and with 1 or 2. -/
theorem tempMain_polls_iff (mod₀ : ℤ) (argv : List String) (l : Logger) :
    tempMain mod₀ argv = .polls l ↔ ∃ prog device arg, argv = [prog, device, arg] ∧
      (readMod mod₀ arg.toList = 1 ∨ readMod mod₀ arg.toList = 2) ∧
      l = .temp device (readMod mod₀ arg.toList) := by
  by_cases h : argv.length = 3
  · obtain ⟨prog, device, arg, rfl⟩ := List.length_eq_three.mp h
    by_cases hmod : readMod mod₀ arg.toList = 1 ∨ readMod mod₀ arg.toList = 2
    · have hpolls : tempMain mod₀ [prog, device, arg] =
          .polls (.temp device (readMod mod₀ arg.toList)) := by
        show (if _ ∧ _ then _ else _) = _
        exact if_neg (by tauto)
      rw [hpolls, Main.polls.injEq]
      constructor
      · intro hl
        exact ⟨prog, device, arg, rfl, hmod, hl.symm⟩
      · rintro ⟨p, d, a, hargv, -, rfl⟩
        simp only [List.cons.injEq, and_true] at hargv
        obtain ⟨-, rfl, rfl⟩ := hargv
        rfl
    · have hpos : readMod mod₀ arg.toList ≠ 1 ∧ readMod mod₀ arg.toList ≠ 2 := by tauto
      simp [tempMain, hpos.1, hpos.2]
  · have hargv : ¬ ∃ prog device arg, argv = [prog, device, arg] ∧
        (readMod mod₀ arg.toList = 1 ∨ readMod mod₀ arg.toList = 2) ∧
        l = .temp device (readMod mod₀ arg.toList) := by
      rintro ⟨prog, device, arg, rfl, -⟩
      exact h rfl
    simp [tempMain, h, hargv]

/-- Given a number, `temp` polls iff it is 1 or 2, whatever `mod` was. -/
theorem tempMain_number (mod₀ : ℤ) (prog device : String) (n : ℕ) (l : Logger) :
    tempMain mod₀ [prog, device, n.repr] = .polls l ↔ (n = 1 ∨ n = 2) ∧ l = .temp device n := by
  have hread : readMod mod₀ n.repr.toList = min (2 ^ 31 - 1) (n : ℤ) := by
    have h := readMod_number mod₀ n [] [] (by simp [Blank]) (by simp)
    rwa [List.nil_append, List.append_nil] at h
  rw [tempMain_polls_iff]
  constructor
  · rintro ⟨p, d, a, hargv, hmod, rfl⟩
    simp only [List.cons.injEq, and_true] at hargv
    obtain ⟨-, rfl, rfl⟩ := hargv
    rw [hread] at hmod ⊢
    have hn : (n : ℤ) = 1 ∨ (n : ℤ) = 2 := by omega
    refine ⟨by omega, ?_⟩
    congr 1
    omega
  · rintro ⟨hn, rfl⟩
    have hmin : min (2 ^ 31 - 1) (n : ℤ) = n := by omega
    refine ⟨prog, device, n.repr, rfl, ?_, ?_⟩
    · rw [hread, hmin]
      omega
    · rw [hread, hmin]

/-- A blank argument leaves the choice to the old value of `mod`. -/
theorem tempMain_blank (mod₀ : ℤ) (prog device arg : String) (h : Blank arg.toList) (l : Logger) :
    tempMain mod₀ [prog, device, arg] = .polls l ↔
      (mod₀ = 1 ∨ mod₀ = 2) ∧ l = .temp device mod₀ := by
  rw [tempMain_polls_iff]
  constructor
  · rintro ⟨p, d, a, hargv, hmod, rfl⟩
    simp only [List.cons.injEq, and_true] at hargv
    obtain ⟨-, rfl, rfl⟩ := hargv
    rw [readMod_blank h] at hmod ⊢
    exact ⟨hmod, rfl⟩
  · rintro ⟨hmod, rfl⟩
    refine ⟨prog, device, arg, rfl, ?_, ?_⟩ <;> rw [readMod_blank h]
    exact hmod

/-- Once `temp` polls, each of its rows starts with 1 or 2. -/
theorem temp_values_of_polls (mod₀ : ℤ) (argv : List String) (device : String) (mod : ℤ)
    (h : tempMain mod₀ argv = .polls (.temp device mod)) (o : Outcomes) :
    (values (.temp device mod) o).head? = some 1 ∨ (values (.temp device mod) o).head? = some 2 := by
  obtain ⟨prog, dev, arg, -, hmod, hl⟩ := (tempMain_polls_iff mod₀ argv _).mp h
  have hmod' : mod = readMod mod₀ arg.toList := by
    injection hl
  rw [← hmod'] at hmod
  rcases hmod with rfl | rfl
  · left
    rfl
  · right
    rfl

end ModbusRTU.LoggerArguments
