import Mathlib.Data.List.TakeWhile

/-!
# Lines and words

A text is cut into lines, which end with a newline or when a buffer is full, and a line into words, the
runs of characters that are no separators.  Nothing is assumed of characters.

* **`lines_flatMap`** — lines that fit the buffer are found again.
* **`scanWords_spell`** — words that were written one after the other are found again, as many of them as
  are looked for.
-/

namespace LineWords

variable {α : Type}

/-! ### Words -/

section Words

variable (isSep : α → Bool)

/-- The first word, after any separators, and what stands behind it. -/
def scanWord (s : List α) : Option (List α × List α) :=
  match s.dropWhile isSep with
  | [] => none
  | c :: rest =>
      some ((c :: rest).takeWhile (fun c => !isSep c), (c :: rest).dropWhile fun c => !isSep c)

/-- No more than so many words. -/
def scanWords : ℕ → List α → List (List α)
  | 0, _ => []
  | k + 1, s =>
      match scanWord isSep s with
      | none => []
      | some (w, rest) => w :: scanWords k rest

structure IsWord (w : List α) : Prop where
  ne_nil : w ≠ []
  no_sep : ∀ c ∈ w, isSep c = false

/-- The words, each with a separator behind it. -/
def spell (sep : α) (ws : List (List α)) : List α := ws.flatMap fun w => w ++ [sep]

variable {isSep} {w s rest : List α}

/-- What is found is a word. -/
theorem isWord_of_scanWord (h : scanWord isSep s = some (w, rest)) : IsWord isSep w := by
  unfold scanWord at h
  split at h
  · exact absurd h (by simp)
  · next c tail hdrop =>
      obtain ⟨rfl, rfl⟩ := Prod.mk.inj (Option.some.inj h)
      have hc : isSep c = false := by
        have hne : s.dropWhile isSep ≠ [] := by simp [hdrop]
        have hhead := List.head_dropWhile_not isSep hne
        simpa [hdrop] using hhead
      constructor
      · rw [List.takeWhile_cons_of_pos (by rw [hc]; rfl)]
        simp
      · intro x hx
        have hx' := List.mem_takeWhile_imp hx
        simpa using hx'

theorem mem_of_scanWord (h : scanWord isSep s = some (w, rest)) :
    (∀ c ∈ w, c ∈ s) ∧ ∀ c ∈ rest, c ∈ s := by
  unfold scanWord at h
  split at h
  · exact absurd h (by simp)
  · next c tail hdrop =>
      obtain ⟨rfl, rfl⟩ := Prod.mk.inj (Option.some.inj h)
      have hsuffix : ∀ x ∈ c :: tail, x ∈ s := fun x hx => by
        rw [← hdrop] at hx
        exact (List.dropWhile_suffix isSep).subset hx
      exact ⟨fun x hx => hsuffix x ((List.takeWhile_prefix _).subset hx),
        fun x hx => hsuffix x ((List.dropWhile_suffix _).subset hx)⟩

theorem isWord_of_mem_scanWords {k : ℕ} (h : w ∈ scanWords isSep k s) :
    IsWord isSep w ∧ ∀ c ∈ w, c ∈ s := by
  induction k generalizing s with
  | zero => exact absurd h List.not_mem_nil
  | succ k ih =>
      unfold scanWords at h
      split at h
      · exact absurd h List.not_mem_nil
      · next word rest hscan =>
          have hmem := mem_of_scanWord hscan
          rcases List.mem_cons.mp h with rfl | hrest
          · exact ⟨isWord_of_scanWord hscan, hmem.1⟩
          · obtain ⟨hword, hchars⟩ := ih hrest
            exact ⟨hword, fun c hc => hmem.2 c (hchars c hc)⟩

theorem length_scanWords_le (k : ℕ) (s : List α) : (scanWords isSep k s).length ≤ k := by
  induction k generalizing s with
  | zero => exact Nat.le_refl _
  | succ k ih =>
      unfold scanWords
      split
      · exact Nat.zero_le _
      · exact Nat.succ_le_succ (ih _)

/-- A word and a separator behind it. -/
theorem scanWord_word {sep : α} (hw : IsWord isSep w) (hsep : isSep sep = true) (rest : List α) :
    scanWord isSep (w ++ sep :: rest) = some (w, sep :: rest) := by
  obtain ⟨c, tail, rfl⟩ := List.exists_cons_of_ne_nil hw.ne_nil
  have hc : isSep c = false := hw.no_sep c List.mem_cons_self
  have hall : ∀ x ∈ c :: tail, (!isSep x) = true := fun x hx => by
    rw [hw.no_sep x hx]
    rfl
  have hstop : (!isSep sep) = false := by
    rw [hsep]
    rfl
  unfold scanWord
  rw [List.cons_append, List.dropWhile_cons_of_neg (by rw [hc]; exact Bool.false_ne_true)]
  show some (List.takeWhile _ ((c :: tail) ++ sep :: rest),
    List.dropWhile _ ((c :: tail) ++ sep :: rest)) = _
  rw [List.takeWhile_append_of_pos hall, List.dropWhile_append_of_pos hall,
    List.takeWhile_cons_of_neg (by rw [hstop]; exact Bool.false_ne_true),
    List.dropWhile_cons_of_neg (by rw [hstop]; exact Bool.false_ne_true), List.append_nil]

theorem scanWords_sep {sep : α} (hsep : isSep sep = true) (k : ℕ) (s : List α) :
    scanWords isSep k (sep :: s) = scanWords isSep k s := by
  cases k with
  | zero => rfl
  | succ k =>
      have hscan : scanWord isSep (sep :: s) = scanWord isSep s := by
        unfold scanWord
        rw [List.dropWhile_cons_of_pos hsep]
      unfold scanWords
      rw [hscan]

theorem scanWords_blank {gap : List α} (hgap : ∀ c ∈ gap, isSep c = true) (k : ℕ) :
    scanWords isSep k gap = [] := by
  cases k with
  | zero => rfl
  | succ k =>
      have hscan : scanWord isSep gap = none := by
        unfold scanWord
        rw [List.dropWhile_eq_nil_iff.mpr hgap]
      unfold scanWords
      rw [hscan]

/-- **Words are found again.** -/
theorem scanWords_spell {sep : α} (hsep : isSep sep = true) {ws : List (List α)}
    (hws : ∀ w ∈ ws, IsWord isSep w) {gap : List α} (hgap : ∀ c ∈ gap, isSep c = true) (k : ℕ) :
    scanWords isSep k (spell sep ws ++ gap) = ws.take k := by
  induction ws generalizing k with
  | nil =>
      rw [List.take_nil]
      exact scanWords_blank hgap k
  | cons w ws ih =>
      cases k with
      | zero => rfl
      | succ k =>
          have hline : spell sep (w :: ws) ++ gap = w ++ sep :: (spell sep ws ++ gap) := by
            simp only [spell, List.flatMap_cons, List.append_assoc, List.cons_append, List.nil_append]
          have hscan := scanWord_word (hws w List.mem_cons_self) hsep (spell sep ws ++ gap)
          unfold scanWords
          rw [hline, hscan]
          show w :: scanWords isSep k (sep :: (spell sep ws ++ gap)) = _
          rw [scanWords_sep hsep, ih fun x hx => hws x (List.mem_cons_of_mem w hx), List.take_succ_cons]

end Words

/-! ### Lines -/

section Lines

variable [DecidableEq α] (newline : α)

/-- No more than so many characters, up to a newline, and what stands behind them. -/
def readLine : ℕ → List α → List α × List α
  | 0, s => ([], s)
  | _ + 1, [] => ([], [])
  | n + 1, c :: s =>
      if c = newline then ([c], s)
      else
        let r := readLine n s
        (c :: r.1, r.2)

/-- The lines of a text, in at most so many reads. -/
def linesFrom (n : ℕ) : ℕ → List α → List (List α)
  | 0, _ => []
  | reads + 1, s =>
      if s = [] then []
      else (readLine newline n s).1 :: linesFrom n reads (readLine newline n s).2

/-- The lines that a buffer of `n` characters takes. -/
def lines (n : ℕ) (s : List α) : List (List α) := linesFrom newline n s.length s

theorem readLine_append (n : ℕ) (s : List α) :
    (readLine newline n s).1 ++ (readLine newline n s).2 = s := by
  induction n generalizing s with
  | zero => rfl
  | succ n ih =>
      cases s with
      | nil => rfl
      | cons c s =>
          unfold readLine
          split
          · rfl
          · show c :: ((readLine newline n s).1 ++ (readLine newline n s).2) = c :: s
            rw [ih]

/-- Each read takes a character at least. -/
theorem length_readLine_lt {n : ℕ} {s : List α} (hn : 0 < n) (hs : s ≠ []) :
    (readLine newline n s).2.length < s.length := by
  obtain ⟨n, rfl⟩ := Nat.exists_eq_add_one.mpr hn
  obtain ⟨c, s, rfl⟩ := List.exists_cons_of_ne_nil hs
  have hparts := congrArg List.length (readLine_append newline (n + 1) (c :: s))
  have hfirst : 0 < (readLine newline (n + 1) (c :: s)).1.length := by
    unfold readLine
    split
    · exact Nat.zero_lt_one
    · exact Nat.succ_pos _
  rw [List.length_append] at hparts
  omega

variable {newline}

/-- A line that fits the buffer. -/
theorem readLine_line {n : ℕ} {line : List α} (hline : newline ∉ line) (hn : line.length < n)
    (rest : List α) : readLine newline n (line ++ newline :: rest) = (line ++ [newline], rest) := by
  induction line generalizing n with
  | nil =>
      obtain ⟨n, rfl⟩ := Nat.exists_eq_add_one.mpr hn
      show readLine newline (n + 1) (newline :: rest) = _
      rw [readLine, if_pos rfl]
      rfl
  | cons c line ih =>
      obtain ⟨n, rfl⟩ := Nat.exists_eq_add_one.mpr (Nat.zero_lt_of_lt hn)
      obtain ⟨hc, hrest⟩ := not_or.mp (mt List.mem_cons.mpr hline)
      rw [List.cons_append, readLine, if_neg (Ne.symm hc), ih hrest (by simpa using hn)]
      rfl

section Reads

variable {n : ℕ} (hn : 0 < n)
include hn

/-- More reads than there are characters change nothing. -/
theorem linesFrom_congr {reads reads' : ℕ} {s : List α} (h : s.length ≤ reads)
    (h' : s.length ≤ reads') : linesFrom newline n reads s = linesFrom newline n reads' s := by
  induction reads generalizing reads' s with
  | zero =>
      obtain rfl := List.eq_nil_of_length_eq_zero (Nat.le_zero.mp h)
      cases reads' with
      | zero => rfl
      | succ reads' => rfl
  | succ reads ih =>
      by_cases hs : s = []
      · subst hs
        cases reads' with
        | zero => rfl
        | succ reads' => rfl
      · have hlt := length_readLine_lt newline hn hs
        obtain ⟨reads', rfl⟩ := Nat.exists_eq_add_one.mpr
          (Nat.lt_of_lt_of_le (List.length_pos_iff.mpr hs) h')
        rw [linesFrom, linesFrom, if_neg hs, if_neg hs]
        congr 1
        exact ih (by omega) (by omega)

theorem lines_of_ne_nil {s : List α} (hs : s ≠ []) :
    lines newline n s = (readLine newline n s).1 :: lines newline n (readLine newline n s).2 := by
  have hlt := length_readLine_lt newline hn hs
  obtain ⟨m, hm⟩ := Nat.exists_eq_add_one.mpr (List.length_pos_iff.mpr hs)
  rw [lines, hm, linesFrom, if_neg hs, lines]
  congr 1
  exact linesFrom_congr hn (by omega) (Nat.le_refl _)

/-- **Lines that fit the buffer are found again.** -/
theorem lines_flatMap {β : Type} {print : β → List α} {bs : List β}
    (hprint : ∀ b ∈ bs, ∃ line, print b = line ++ [newline] ∧ newline ∉ line ∧ line.length < n) :
    lines newline n (bs.flatMap print) = bs.map print := by
  induction bs with
  | nil => rfl
  | cons b bs ih =>
      obtain ⟨line, hline, hnewline, hlength⟩ := hprint b List.mem_cons_self
      have hrest := ih fun x hx => hprint x (List.mem_cons_of_mem b hx)
      have hread := readLine_line hnewline hlength (bs.flatMap print)
      rw [List.flatMap_cons, List.map_cons, hline, List.append_assoc, List.singleton_append,
        lines_of_ne_nil hn (by simp), hread, hrest]

end Reads

end Lines

end LineWords
