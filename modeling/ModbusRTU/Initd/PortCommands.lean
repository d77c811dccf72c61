import Mathlib.Data.List.Basic
import ModbusRTU.Initd.TtyConfig

/-!
# The commands that start the daemons

For a port of the configuration `advttyd` runs `vcomd` with an option for each word of the line, and
`startup` in `vcom_client.c` reads the options again.  The two read numbers differently: `advttyd` with
`atoi` and `hexstr`, `vcomd` with `%d` and with `%hx`, which keeps sixteen bits.

* **`startup_portOptions`** — of the ports that `advttyd` accepts, `vcomd` starts those whose minor
  number is there and not negative and whose type is not 0 in its last sixteen bits.
* **`startup_eq_some_iff`** — the number of the port is not checked by `vcomd`: it is compared with 0 as an
  unsigned number.
* **`argv_syscmd`** — the words of a command are found again by the shell.
* **`syscmd_inj`** — two ports with the same command are the same, so comparing commands compares ports.
* **`length_syscmd_lt`** — the buffer of the command is large enough, unless the path is very long.
-/

namespace ModbusRTU.PortCommands

open LineWords Numerals TtyConfig

/-- An option and its argument. -/
abbrev PortOption := Char × List Char

/-- The options for a port, with the file for its monitor. -/
def portOptions (mon : List Char) (info : TtyInfo) : List PortOption :=
  [('l', mon), ('t', info.mptNameidxStr), ('d', info.devTypeStr), ('a', info.devIpaddrStr),
    ('p', info.devPortidxStr)] ++ info.devRedundantIpaddrStr.toList.map fun ip => ('r', ip)

def word (option : PortOption) : List Char := '-' :: option.1 :: option.2

/-- `"/tmp/advmon/advtty%s"`. -/
def monOf (info : TtyInfo) : List Char := "/tmp/advmon/advtty".toList ++ info.mptNameidxStr

/-- The words of the command. -/
def argv (cmd : List Char) (info : TtyInfo) : List (List Char) :=
  cmd :: (portOptions (monOf info) info).map word

/-- `"%s -l%s -t%s -d%s -a%s -p%s "`, with `"-r%s "` for a second address. -/
def syscmd (cmd : List Char) (info : TtyInfo) : List Char := spell ' ' (argv cmd info)

/-! ### `startup` -/

/-- What `startup` sets.  `port` is unsigned. -/
structure VcomPort where
  ttyid : ℤ
  devid : UInt16
  port : UInt32
  ipPtr : Option (List Char)
  ipRed : Option (List Char)
  deriving DecidableEq, Repr

/-- `sscanf` with `%d`, for a number that fits `int`.  Without a digit nothing is stored. -/
def scanInt (cs : List Char) : Option ℤ :=
  if (signOf cs).2.takeWhile Char.isDigit = [] then none else some (signed cs)

def isHexDigit (ch : Char) : Bool := ch.isDigit || ('a' ≤ ch && ch ≤ 'f') || ('A' ≤ ch && ch ≤ 'F')

def hexValue (ch : Char) : ℕ :=
  if ch.isDigit then ch.toNat - '0'.toNat else ch.toUpper.toNat - 'A'.toNat + 10

/-- The digits of a hexadecimal number, behind `0x` if it has this. -/
def hexDigits (cs : List Char) : List Char :=
  match cs with
  | '0' :: x :: rest =>
      if x = 'x' ∨ x = 'X' then rest.takeWhile isHexDigit else cs.takeWhile isHexDigit
  | _ => cs.takeWhile isHexDigit

/-- `sscanf` with `%hx`, for a number that fits `unsigned long`.  Without a digit nothing is stored. -/
def scanShort (cs : List Char) : Option UInt16 :=
  let digits := hexDigits (signOf cs).2
  let value := UInt16.ofNat (digits.foldl (fun val ch => 16 * val + hexValue ch) 0)
  if digits = [] then none else some (if (signOf cs).1 < 0 then -value else value)

def readOption (p : VcomPort) (option : PortOption) : Option VcomPort :=
  match option.1 with
  | 'l' => some p
  | 't' => some { p with ttyid := (scanInt option.2).getD p.ttyid }
  | 'd' => some { p with devid := (scanShort option.2).getD p.devid }
  | 'a' => some { p with ipPtr := some option.2 }
  | 'p' => some { p with port := ((scanInt option.2).map UInt32.ofInt).getD p.port }
  | 'r' => some { p with ipRed := some option.2 }
  | _ => none

/-- `startup`, on the options that `getopt` finds.  The port is compared as the unsigned number it is, so
this test never fails. -/
def startup (options : List PortOption) : Option VcomPort := do
  let p ← options.foldlM readOption ⟨-1, 0, UInt32.ofInt (-1), none, none⟩
  if (p.ipPtr = none ∧ p.ipRed = none) ∨ p.port < 0 ∨ p.devid = 0 ∨ p.ttyid < 0 then none else some p

/-- **Any port will do**, also none at all. -/
theorem startup_eq_some_iff {options : List PortOption} {p : VcomPort} :
    startup options = some p ↔
      options.foldlM readOption ⟨-1, 0, UInt32.ofInt (-1), none, none⟩ = some p ∧
        (p.ipPtr.isSome ∨ p.ipRed.isSome) ∧ p.devid ≠ 0 ∧ 0 ≤ p.ttyid := by
  unfold startup
  constructor
  · intro h
    obtain ⟨q, hq, h⟩ := Option.bind_eq_some_iff.mp h
    split at h
    · exact nomatch h
    · next hgoes =>
        obtain rfl := Option.some.inj h
        rw [not_or, not_or, not_or, not_and_or] at hgoes
        obtain ⟨hip, -, hdev, htty⟩ := hgoes
        exact ⟨hq, hip.imp Option.isSome_iff_ne_none.mpr Option.isSome_iff_ne_none.mpr, hdev, by omega⟩
  · rintro ⟨hread, hip, hdev, htty⟩
    rw [hread]
    refine if_neg ?_
    rintro (⟨hptr, hred⟩ | hneg | hzero | hneg')
    · rw [hptr, hred] at hip
      exact absurd hip (by decide)
    · exact absurd hneg UInt32.not_lt_zero
    · exact hdev hzero
    · omega

example : startup [('t', ['0']), ('d', "0x1322".toList), ('a', "10.0.0.1".toList)] =
    some ⟨0, 0x1322, 0xffffffff, some "10.0.0.1".toList, none⟩ := by
  decide

/-! ### The same numbers, read twice -/

/-- What `atoi` reads, `%d` reads, if there is a digit. -/
theorem scanInt_of_atoi {cs : List Char} {value : ℤ} (h : atoi cs = some value) :
    scanInt cs = some value ∨ (scanInt cs = none ∧ value = 0) := by
  have hvalue : value = signed cs := by
    unfold atoi at h
    split at h
    · exact (Option.some.inj h).symm
    · exact absurd h (by simp)
  unfold scanInt
  split
  · next hnone =>
      right
      refine ⟨rfl, ?_⟩
      rw [hvalue, signed, decimal, hnone, Nat.ofDigitChars_nil, Nat.cast_zero, mul_zero]
  · exact Or.inl (congrArg some hvalue.symm)

theorem le_toUpper {ch : Char} (h : ('a' ≤ ch ∧ ch ≤ 'f') ∨ ('A' ≤ ch ∧ ch ≤ 'F')) :
    'A'.toNat ≤ ch.toUpper.toNat := by
  have hcode : ∀ n < 103, (97 ≤ n ∧ n ≤ 102) ∨ (65 ≤ n ∧ n ≤ 70) →
      'A'.toNat ≤ (Char.ofNat n).toUpper.toNat := by decide
  have hrange : (97 ≤ ch.toNat ∧ ch.toNat ≤ 102) ∨ (65 ≤ ch.toNat ∧ ch.toNat ≤ 70) := h
  have hupper := hcode ch.toNat (by omega) hrange
  rwa [Char.ofNat_toNat] at hupper

/-- If `hexstr` does not read 0, all characters are digits. -/
theorem hexstrFrom_eq_some {cs : List Char} {val type : ℕ} (h : hexstrFrom val cs = some type)
    (htype : type ≠ 0) : cs.takeWhile isHexDigit = cs ∧
      cs.foldl (fun val ch => 16 * val + hexValue ch) val = type := by
  induction cs generalizing val with
  | nil => exact ⟨rfl, Option.some.inj h⟩
  | cons ch cs ih =>
      have hcons : ∀ val', isHexDigit ch = true → 16 * val + hexValue ch = val' →
          hexstrFrom val' cs = some type → (ch :: cs).takeWhile isHexDigit = ch :: cs ∧
            (ch :: cs).foldl (fun val ch => 16 * val + hexValue ch) val = type := by
        rintro val' hdigit rfl hrest
        obtain ⟨htake, hfold⟩ := ih hrest
        rw [List.takeWhile_cons_of_pos hdigit, htake, List.foldl_cons]
        exact ⟨rfl, hfold⟩
      unfold hexstrFrom at h
      split at h
      · next hdigit =>
          split at h
          · refine hcons _ (by simp [isHexDigit, hdigit]) ?_ h
            have hlo : 48 ≤ ch.toNat := (Char.isDigit_iff_toNat.mp hdigit).1
            have hzero : '0'.toNat = 48 := rfl
            rw [hexValue, if_pos hdigit]
            omega
          · exact absurd h (by simp)
      · next hdigit =>
          split at h
          · next hletter =>
              split at h
              · refine hcons _ (by simpa [isHexDigit, hdigit] using hletter) ?_ h
                have hupper := le_toUpper hletter
                rw [hexValue, if_neg hdigit]
                omega
              · exact absurd h (by simp)
          · exact absurd (Option.some.inj h).symm htype

/-- A hexadecimal digit is not read as anything else. -/
theorem class_of_isHexDigit {ch : Char} (h : isHexDigit ch = true) :
    (isSpace ch = false ∧ ch ≠ '-' ∧ ch ≠ '+') ∧ ch ≠ 'x' ∧ ch ≠ 'X' := by
  have hcode : ∀ n < 103, isHexDigit (Char.ofNat n) = true →
      (isSpace (Char.ofNat n) = false ∧ Char.ofNat n ≠ '-' ∧ Char.ofNat n ≠ '+') ∧
        Char.ofNat n ≠ 'x' ∧ Char.ofNat n ≠ 'X' := by decide
  have hlt : ch.toNat < 103 := by
    have hrange := h
    unfold isHexDigit at hrange
    simp only [Bool.or_eq_true, Bool.and_eq_true, decide_eq_true_eq] at hrange
    rcases hrange with (hdigit | ⟨-, hle⟩) | ⟨-, hle⟩
    · exact Nat.lt_of_le_of_lt (Char.isDigit_iff_toNat.mp hdigit).2 (by decide)
    · exact Nat.lt_succ_of_le hle
    · exact Nat.lt_of_le_of_lt hle (by decide)
  have hclass := hcode ch.toNat hlt
  rw [Char.ofNat_toNat] at hclass
  exact hclass h

/-- **Hexadecimal digits only** are read in full, up to sixteen bits. -/
theorem scanShort_of_hexstr {cs : List Char} {type : ℕ} (h : hexstr cs = some type) (htype : type ≠ 0) :
    scanShort cs = some (UInt16.ofNat type) := by
  obtain ⟨htake, hfold⟩ := hexstrFrom_eq_some h htype
  have hall := List.takeWhile_eq_self_iff.mp htake
  cases cs with
  | nil => exact absurd hfold.symm htype
  | cons ch cs =>
      obtain ⟨⟨hspace, hminus, hplus⟩, -⟩ := class_of_isHexDigit (hall ch List.mem_cons_self)
      have hdigits : hexDigits (ch :: cs) = ch :: cs := by
        unfold hexDigits
        split
        · next x rest heq =>
            have hx : x ∈ ch :: cs := by
              rw [heq]
              exact List.mem_cons_of_mem _ List.mem_cons_self
            obtain ⟨-, hlower, hupper⟩ := class_of_isHexDigit (hall x hx)
            rw [if_neg (by tauto)]
            exact htake
        · exact htake
      unfold scanShort
      rw [signOf_of_unsigned hspace hminus hplus]
      dsimp only
      rw [hdigits, if_neg (List.cons_ne_nil _ _), if_neg (by decide), hfold]

/-! ### Which ports are started -/

section Port

variable {info : TtyInfo} (h : WellFormed info)
include h

/-- **What `vcomd` makes of the options**: it starts unless it finds no minor number, or a negative one, or
nothing in the last sixteen bits of the type. -/
theorem startup_portOptions (mon : List Char) {type : ℕ} (htype : hexstr info.devTypeStr = some type) :
    ∃ portidx, atoi info.devPortidxStr = some portidx ∧
      startup (portOptions mon info) =
        if (scanInt info.mptNameidxStr).getD (-1) < 0 ∨ type % 65536 = 0 then none
        else some ⟨(scanInt info.mptNameidxStr).getD (-1), UInt16.ofNat type, UInt32.ofInt portidx,
          some info.devIpaddrStr, info.devRedundantIpaddrStr⟩ := by
  obtain ⟨portidx, hportidx, hpos, -⟩ := h.portidx
  obtain ⟨type', htype', hmin⟩ := h.type
  obtain rfl : type' = type := Option.some.inj (htype'.symm.trans htype)
  have hport : scanInt info.devPortidxStr = some portidx :=
    (scanInt_of_atoi hportidx).resolve_right fun hzero => by omega
  have hshort := scanShort_of_hexstr htype (by omega)
  have hdevid : UInt16.ofNat type' = 0 ↔ type' % 65536 = 0 := by
    rw [← UInt16.toNat_inj, UInt16.toNat_ofNat']
    exact Iff.rfl
  refine ⟨portidx, hportidx, ?_⟩
  have hread : (portOptions mon info).foldlM readOption ⟨-1, 0, UInt32.ofInt (-1), none, none⟩ =
      some ⟨(scanInt info.mptNameidxStr).getD (-1), UInt16.ofNat type', UInt32.ofInt portidx,
        some info.devIpaddrStr, info.devRedundantIpaddrStr⟩ := by
    have hport' : ∀ old, ((scanInt info.devPortidxStr).map UInt32.ofInt).getD old =
        UInt32.ofInt portidx := fun old => by rw [hport, Option.map_some, Option.getD_some]
    have hshort' : ∀ old, (scanShort info.devTypeStr).getD old = UInt16.ofNat type' := fun old => by
      rw [hshort, Option.getD_some]
    rw [← hport' (UInt32.ofInt (-1)), ← hshort' 0]
    unfold portOptions
    cases info.devRedundantIpaddrStr with
    | none => rfl
    | some ip => rfl
  rw [startup, hread]
  show (if _ ∨ UInt32.ofInt portidx < 0 ∨ UInt16.ofNat type' = 0 ∨ _ then _ else _) = _
  by_cases hnone : (scanInt info.mptNameidxStr).getD (-1) < 0 ∨ type' % 65536 = 0
  · rw [if_pos hnone, if_pos]
    rcases hnone with htty | hdev
    · exact Or.inr (Or.inr (Or.inr htty))
    · exact Or.inr (Or.inr (Or.inl (hdevid.mpr hdev)))
  · rw [if_neg hnone, if_neg]
    rintro (⟨hip, -⟩ | hneg | hdev | htty)
    · exact absurd hip (by simp)
    · exact absurd hneg UInt32.not_lt_zero
    · exact hnone (Or.inr (hdevid.mp hdev))
    · exact hnone (Or.inl htty)

/-- The words of the command. -/
theorem isWord_argv {cmd : List Char} (hcmd : IsWord isSpace cmd) :
    ∀ w ∈ argv cmd info, IsWord isSpace w := by
  have hname := h.mptNameidx.word
  have hoption : ∀ c w, isSpace c = false → (∀ x ∈ w, isSpace x = false) →
      IsWord isSpace (word (c, w)) := by
    intro c w hc hw
    refine ⟨List.cons_ne_nil _ _, fun x hx => ?_⟩
    rcases List.mem_cons.mp hx with rfl | hx
    · rfl
    · rcases List.mem_cons.mp hx with rfl | hx
      · exact hc
      · exact hw x hx
  have hmon : ∀ x ∈ monOf info, isSpace x = false := by
    have hpath : ("/tmp/advmon/advtty".toList.all fun x => !isSpace x) = true := by decide
    intro x hx
    rcases List.mem_append.mp hx with hx | hx
    · have hx' := List.all_eq_true.mp hpath x hx
      simpa using hx'
    · exact hname.no_sep x hx
  intro w hw
  rcases List.mem_cons.mp hw with rfl | hw
  · exact hcmd
  · obtain ⟨⟨c, value⟩, hmem, rfl⟩ := List.mem_map.mp hw
    rcases List.mem_append.mp hmem with hfirst | hred
    · simp only [List.mem_cons, List.not_mem_nil, or_false, Prod.mk.injEq] at hfirst
      rcases hfirst with ⟨rfl, rfl⟩ | ⟨rfl, rfl⟩ | ⟨rfl, rfl⟩ | ⟨rfl, rfl⟩ | ⟨rfl, rfl⟩
      · exact hoption 'l' _ rfl hmon
      · exact hoption 't' _ rfl hname.no_sep
      · exact hoption 'd' _ rfl h.devType.word.no_sep
      · exact hoption 'a' _ rfl h.devIpaddr.word.no_sep
      · exact hoption 'p' _ rfl h.devPortidx.word.no_sep
    · obtain ⟨ip, hip, heq⟩ := List.mem_map.mp hred
      obtain ⟨rfl, rfl⟩ := Prod.mk.inj heq
      exact hoption 'r' _ rfl (h.redundant ip (Option.mem_toList.mp hip)).word.no_sep

/-- **The words of a command** are found again. -/
theorem argv_syscmd {cmd : List Char} (hcmd : IsWord isSpace cmd) {k : ℕ} (hk : 7 ≤ k) :
    scanWords isSpace k (syscmd cmd info) = argv cmd info := by
  have hlength : (argv cmd info).length ≤ 7 := by
    unfold argv portOptions
    cases info.devRedundantIpaddrStr with
    | none => exact Nat.le_succ 6
    | some ip => exact Nat.le_refl 7
  have hspell : scanWords isSpace k (spell ' ' (argv cmd info) ++ []) = (argv cmd info).take k :=
    scanWords_spell rfl (isWord_argv h hcmd) (fun c hc => absurd hc List.not_mem_nil) k
  rw [List.append_nil, List.take_of_length_le (hlength.trans hk)] at hspell
  exact hspell

/-- A short path leaves room for the options in the buffer of 1024 characters. -/
theorem length_syscmd_lt {cmd : List Char} (hcmd : cmd.length < 700) :
    (syscmd cmd info).length < 1024 := by
  have hname := h.mptNameidx.length_lt
  have htype := h.devType.length_lt
  have hip := h.devIpaddr.length_lt
  have hport := h.devPortidx.length_lt
  have hpath : "/tmp/advmon/advtty".toList.length = 18 := by decide
  unfold cfMaxstrlen at hname htype hport
  unfold inet6Addrstrlen at hip
  unfold syscmd spell argv portOptions monOf word
  cases hred : info.devRedundantIpaddrStr with
  | none =>
      simp
      omega
  | some ip =>
      have hredundant := (h.redundant ip (Option.mem_def.mpr hred)).length_lt
      unfold inet6Addrstrlen at hredundant
      simp
      omega

end Port

theorem word_injective : Function.Injective word := by
  rintro ⟨c, w⟩ ⟨c', w'⟩ h
  obtain ⟨-, h⟩ := List.cons.inj h
  obtain ⟨rfl, rfl⟩ := List.cons.inj h
  rfl

/-- **Ports with the same command** are the same. -/
theorem syscmd_inj {cmd : List Char} (hcmd : IsWord isSpace cmd) {info info' : TtyInfo}
    (h : WellFormed info) (h' : WellFormed info') :
    syscmd cmd info = syscmd cmd info' ↔ info = info' := by
  refine ⟨fun heq => ?_, congrArg (syscmd cmd)⟩
  have hargv : argv cmd info = argv cmd info' := by
    rw [← argv_syscmd h hcmd (Nat.le_refl 7), ← argv_syscmd h' hcmd (Nat.le_refl 7), heq]
  have hoptions := List.map_injective_iff.mpr word_injective (List.cons.inj hargv).2
  obtain ⟨name, type, ip, port, red⟩ := info
  obtain ⟨name', type', ip', port', red'⟩ := info'
  unfold portOptions at hoptions
  simp only [List.cons_append, List.nil_append, List.cons.injEq, Prod.mk.injEq, true_and] at hoptions
  obtain ⟨-, rfl, rfl, rfl, rfl, hred⟩ := hoptions
  cases red with
  | none =>
      cases red' with
      | none => rfl
      | some ip' => exact absurd hred (by simp)
  | some ip =>
      cases red' with
      | none => exact absurd hred (by simp)
      | some ip' =>
          simp only [Option.toList_some, List.map_cons, List.map_nil, List.cons.injEq, Prod.mk.injEq,
            true_and, and_true] at hred
          rw [hred]

/-- A path of `vcomd`. -/
def optVcomd : List Char := "/opt/vcomd".toList

theorem isWord_optVcomd : IsWord isSpace optVcomd := by
  have hchars : (optVcomd.all fun ch => !isSpace ch) = true := by decide
  exact ⟨by decide, fun ch hch => (Bool.not_eq_true' _).mp (List.all_eq_true.mp hchars ch hch)⟩

/-- The two ports of a device have different commands. -/
theorem syscmd_inj_twoPorts : syscmd optVcomd onePort ≠ syscmd optVcomd nextPort := by
  intro heq
  have hports := wellFormed_twoPorts
  rw [syscmd_inj isWord_optVcomd (hports _ (by simp)) (hports _ (by simp))] at heq
  exact absurd heq (by decide)

end ModbusRTU.PortCommands
