import Mathlib.Data.List.Basic

/-!
# Words on the wire

Words of two and four bytes, in network order and in little endian order, as lists of bytes to send
and as reads from a buffer.  A buffer is a function from positions to bytes; `Holds buf pos bytes`
says that it holds the bytes from the position on, and each kind of word is read back from where its
bytes are held (`be32At_eq`, `be16At_eq`, `le32At_eq`).
-/

namespace WireWords

def be32 (x : UInt32) : List UInt8 :=
  [(x >>> 24).toUInt8, (x >>> 16).toUInt8, (x >>> 8).toUInt8, x.toUInt8]

def le32 (x : UInt32) : List UInt8 :=
  [x.toUInt8, (x >>> 8).toUInt8, (x >>> 16).toUInt8, (x >>> 24).toUInt8]

def be16 (x : UInt16) : List UInt8 := [(x >>> 8).toUInt8, x.toUInt8]

@[simp] theorem length_be32 (x : UInt32) : (be32 x).length = 4 := rfl

@[simp] theorem length_le32 (x : UInt32) : (le32 x).length = 4 := rfl

@[simp] theorem length_be16 (x : UInt16) : (be16 x).length = 2 := rfl

/-- Four bytes as a word, the first the most significant. -/
def word32 (b₃ b₂ b₁ b₀ : UInt8) : UInt32 :=
  (b₃.toUInt32 <<< 24) + (b₂.toUInt32 <<< 16) + (b₁.toUInt32 <<< 8) + b₀.toUInt32

def word16 (b₁ b₀ : UInt8) : UInt16 := (b₁.toUInt16 <<< 8) + b₀.toUInt16

theorem word32_bytes (x : UInt32) :
    word32 (x >>> 24).toUInt8 (x >>> 16).toUInt8 (x >>> 8).toUInt8 x.toUInt8 = x := by
  apply UInt32.toNat_inj.mp
  have hx := x.toNat_lt
  simp [word32, Nat.shiftLeft_eq, Nat.shiftRight_eq_div_pow]
  omega

theorem be32_injective : Function.Injective be32 := by
  intro x y h
  simp only [be32, List.cons.injEq, and_true] at h
  obtain ⟨h₃, h₂, h₁, h₀⟩ := h
  rw [← word32_bytes x, h₃, h₂, h₁, h₀, word32_bytes]

theorem word16_bytes (x : UInt16) : word16 (x >>> 8).toUInt8 x.toUInt8 = x := by
  apply UInt16.toNat_inj.mp
  have hx := x.toNat_lt
  simp [word16, Nat.shiftLeft_eq, Nat.shiftRight_eq_div_pow]
  omega

/-! ### Reading a buffer -/

def be32At (buf : ℕ → UInt8) (pos : ℕ) : UInt32 :=
  word32 (buf pos) (buf (pos + 1)) (buf (pos + 2)) (buf (pos + 3))

def le32At (buf : ℕ → UInt8) (pos : ℕ) : UInt32 :=
  word32 (buf (pos + 3)) (buf (pos + 2)) (buf (pos + 1)) (buf pos)

def be16At (buf : ℕ → UInt8) (pos : ℕ) : UInt16 := word16 (buf pos) (buf (pos + 1))

/-- The buffer holds the bytes from the position on. -/
def Holds (buf : ℕ → UInt8) : ℕ → List UInt8 → Prop
  | _, [] => True
  | pos, b :: bytes => buf pos = b ∧ Holds buf (pos + 1) bytes

@[simp] theorem holds_nil (buf : ℕ → UInt8) (pos : ℕ) : Holds buf pos [] := trivial

@[simp] theorem holds_cons (buf : ℕ → UInt8) (pos : ℕ) (b : UInt8) (bytes : List UInt8) :
    Holds buf pos (b :: bytes) ↔ buf pos = b ∧ Holds buf (pos + 1) bytes := Iff.rfl

theorem holds_append (buf : ℕ → UInt8) (pos : ℕ) (as bs : List UInt8) :
    Holds buf pos (as ++ bs) ↔ Holds buf pos as ∧ Holds buf (pos + as.length) bs := by
  induction as generalizing pos with
  | nil => simp
  | cons a as ih =>
      rw [List.cons_append, holds_cons, holds_cons, ih, List.length_cons, and_assoc,
        show pos + 1 + as.length = pos + (as.length + 1) by omega]

/-- A list of bytes as a buffer, with zeros behind it. -/
def bufferOf (bytes : List UInt8) : ℕ → UInt8 := fun i => bytes.getD i 0

theorem holds_bufferOf (pre bytes post : List UInt8) :
    Holds (bufferOf (pre ++ (bytes ++ post))) pre.length bytes := by
  induction bytes generalizing pre with
  | nil => trivial
  | cons b bytes ih =>
      constructor
      · simp [bufferOf]
      · have h := ih (pre ++ [b])
        rw [List.length_append, List.length_singleton, List.append_assoc] at h
        exact h

theorem be32At_eq {buf : ℕ → UInt8} {pos : ℕ} {x : UInt32} (h : Holds buf pos (be32 x)) :
    be32At buf pos = x := by
  obtain ⟨h₀, h₁, h₂, h₃, -⟩ := h
  rw [be32At, h₀, h₁, h₂, h₃, word32_bytes]

theorem le32At_eq {buf : ℕ → UInt8} {pos : ℕ} {x : UInt32} (h : Holds buf pos (le32 x)) :
    le32At buf pos = x := by
  obtain ⟨h₀, h₁, h₂, h₃, -⟩ := h
  rw [le32At, h₀, h₁, h₂, h₃, word32_bytes]

theorem be16At_eq {buf : ℕ → UInt8} {pos : ℕ} {x : UInt16} (h : Holds buf pos (be16 x)) :
    be16At buf pos = x := by
  obtain ⟨h₀, h₁, -⟩ := h
  rw [be16At, h₀, h₁, word16_bytes]

end WireWords
