import ModbusRTU.Text.LineWords
import ModbusRTU.Text.Numerals

/-!
# The configuration of the virtual terminals

`advttyd` reads `advttyd.conf`: a line names a minor number, a device type in hexadecimal digits, an
address, a port of the device, and a second address if there is one.  Lines that name no port are passed
over.  The words of a line are copied to buffers of 32 and 46 characters before anything is checked, and
numbers are computed in `int`, so there are lines for which the program has no meaning: `parseLine` is
`none` for these.

* **`wellFormed_of_paserConfig`** — what is accepted is well formed.
* **`paserConfig_printEntry`** — what is printed is read back, up to the number of ports.
* **`exists_paserConfig_iff`** — so the lists that some file names are the lists of well-formed ports.
* **`parseLine_eq_none_of_long`** — a word that is too long is written over the end of its buffer.
* **`hexstr_toDigits`**, **`atoi_toDigits`** — numbers are read as they are printed.
-/

namespace ModbusRTU.TtyConfig

open LineWords Numerals

def cfMaxstrlen : ℕ := 32
def inet6Addrstrlen : ℕ := 46
/-- `VCOM_PORTS`. -/
def cfMaxports : ℕ := 256

/-- `TTYINFO`.  The second address is there if `has_redundant_ip` is set. -/
structure TtyInfo where
  mptNameidxStr : List Char
  devTypeStr : List Char
  devIpaddrStr : List Char
  devPortidxStr : List Char
  devRedundantIpaddrStr : Option (List Char)
  deriving DecidableEq, Repr

/-! ### Numbers -/

/-- `atoi`, where it is defined. -/
def atoi (cs : List Char) : Option ℤ :=
  if -2 ^ 31 ≤ signed cs ∧ signed cs < 2 ^ 31 then some (signed cs) else none

/-- The loop of `hexstr` from `val` on.  `16 * val + ch` is computed first, in `int`. -/
def hexstrFrom (val : ℕ) : List Char → Option ℕ
  | [] => some val
  | ch :: cs =>
      if ch.isDigit then
        if 16 * val + ch.toNat < 2 ^ 31 then hexstrFrom (16 * val + ch.toNat - '0'.toNat) cs else none
      else if ('a' ≤ ch ∧ ch ≤ 'f') ∨ ('A' ≤ ch ∧ ch ≤ 'F') then
        if 16 * val + ch.toUpper.toNat < 2 ^ 31 then
          hexstrFrom (16 * val + ch.toUpper.toNat - 'A'.toNat + 10) cs
        else none
      else some 0

def hexstr (strp : List Char) : Option ℕ := hexstrFrom 0 strp

/-! ### Lines -/

/-- The sizes of the buffers of `sscanf`. -/
def bufferSizes : List ℕ :=
  [cfMaxstrlen, cfMaxstrlen, inet6Addrstrlen, cfMaxstrlen, inet6Addrstrlen]

/-- `sscanf` with five `%s`. -/
def sscanfWords (conf : List Char) : List (List Char) :=
  scanWords isSpace 5 (conf.takeWhile (· ≠ '\x00'))

/-- Each word has room in its buffer, with the character that ends it. -/
def fits (words : List (List Char)) : Bool := (words.zip bufferSizes).all fun w => w.1.length < w.2

/-- What is done with the words of a line. -/
def checkWords : List (List Char) → Option (Option TtyInfo)
  | mptNameidx :: devType :: devIpaddr :: devPortidx :: redundant => do
      let minor ← atoi mptNameidx
      if minor > cfMaxports then pure none
      else do
        let type ← hexstr devType
        if type ≤ 0x1000 then pure none
        else do
          let portidx ← atoi devPortidx
          if portidx ≤ 0 ∨ portidx > 16 then pure none
          else pure (some ⟨mptNameidx, devType, devIpaddr, devPortidx, redundant.head?⟩)
  | _ => pure none

/-- A line of the file: the port it names, if it names one. -/
def parseLine (conf : List Char) : Option (Option TtyInfo) :=
  if fits (sscanfWords conf) then checkWords (sscanfWords conf) else none

/-- The loop, as long as there is room for another port. -/
def paserLines : ℕ → List (List Char) → Option (List TtyInfo)
  | 0, _ => some []
  | _, [] => some []
  | room + 1, conf :: rest => do
      match ← parseLine conf with
      | none => paserLines (room + 1) rest
      | some info => do
          let infos ← paserLines room rest
          pure (info :: infos)

/-- `fgets` reads into a buffer of 256 characters. -/
def paserConfig (file : List Char) : Option (List TtyInfo) :=
  paserLines cfMaxports (lines '\n' 255 file)

/-! ### What is accepted -/

/-- A word that fits its buffer. -/
structure Fits (size : ℕ) (w : List Char) : Prop where
  word : IsWord isSpace w
  no_nul : '\x00' ∉ w
  length_lt : w.length < size

/-- The numbers are those of a port. -/
structure Checked (info : TtyInfo) : Prop where
  minor : ∃ minor, atoi info.mptNameidxStr = some minor ∧ minor ≤ cfMaxports
  type : ∃ type, hexstr info.devTypeStr = some type ∧ 0x1000 < type
  portidx : ∃ portidx, atoi info.devPortidxStr = some portidx ∧ 0 < portidx ∧ portidx ≤ 16

structure WellFormed (info : TtyInfo) : Prop extends Checked info where
  mptNameidx : Fits cfMaxstrlen info.mptNameidxStr
  devType : Fits cfMaxstrlen info.devTypeStr
  devIpaddr : Fits inet6Addrstrlen info.devIpaddrStr
  devPortidx : Fits cfMaxstrlen info.devPortidxStr
  redundant : ∀ ip ∈ info.devRedundantIpaddrStr, Fits inet6Addrstrlen ip

/-- The words of a port. -/
def TtyInfo.words (info : TtyInfo) : List (List Char) :=
  [info.mptNameidxStr, info.devTypeStr, info.devIpaddrStr, info.devPortidxStr] ++
    info.devRedundantIpaddrStr.toList

theorem fits_of_mem {conf w : List Char} {size : ℕ} (h : fits (sscanfWords conf) = true)
    (hw : (w, size) ∈ (sscanfWords conf).zip bufferSizes) : Fits size w := by
  have hmem := (List.of_mem_zip hw).1
  obtain ⟨hword, hchars⟩ := isWord_of_mem_scanWords hmem
  refine ⟨hword, fun hnul => ?_, ?_⟩
  · have hkept := List.mem_takeWhile_imp (hchars _ hnul)
    simp at hkept
  · have hall := List.all_eq_true.mp h (w, size) hw
    simpa using hall

/-- The checks, and what is accepted. -/
theorem checkWords_eq_some {words : List (List Char)} (hlength : words.length ≤ 5) {info : TtyInfo}
    (h : checkWords words = some (some info)) : words = info.words ∧ Checked info := by
  unfold checkWords at h
  split at h
  · next mptNameidx devType devIpaddr devPortidx redundant =>
      obtain ⟨minor, hminor, h⟩ := Option.bind_eq_some_iff.mp h
      split at h
      · exact absurd h (by simp)
      · next hmax =>
          obtain ⟨type, htype, h⟩ := Option.bind_eq_some_iff.mp h
          split at h
          · exact absurd h (by simp)
          · next hmin =>
              obtain ⟨portidx, hportidx, h⟩ := Option.bind_eq_some_iff.mp h
              split at h
              · exact absurd h (by simp)
              · next hrange =>
                  obtain rfl := Option.some.inj (Option.some.inj h)
                  refine ⟨?_, ⟨minor, hminor, by omega⟩, ⟨type, htype, by omega⟩,
                    ⟨portidx, hportidx, by omega, by omega⟩⟩
                  cases redundant with
                  | nil => rfl
                  | cons ip rest =>
                      have hrest : rest = [] := by
                        apply List.eq_nil_of_length_eq_zero
                        simp only [List.length_cons] at hlength
                        omega
                      rw [hrest]
                      rfl
  · exact absurd h (by simp)

/-- **A line that is accepted** names a well formed port. -/
theorem wellFormed_of_parseLine {conf : List Char} {info : TtyInfo}
    (h : parseLine conf = some (some info)) : WellFormed info := by
  unfold parseLine at h
  split at h
  · next hfits =>
      obtain ⟨hwords, hchecked⟩ := checkWords_eq_some (length_scanWords_le 5 _) h
      have hmem : ∀ w size, (w, size) ∈ info.words.zip bufferSizes → Fits size w := by
        intro w size hw
        rw [← hwords] at hw
        exact fits_of_mem hfits hw
      refine ⟨hchecked, hmem _ _ ?_, hmem _ _ ?_, hmem _ _ ?_, hmem _ _ ?_, fun ip hip => hmem _ _ ?_⟩
      · simp [TtyInfo.words, bufferSizes]
      · simp [TtyInfo.words, bufferSizes]
      · simp [TtyInfo.words, bufferSizes]
      · simp [TtyInfo.words, bufferSizes]
      · rw [TtyInfo.words, Option.mem_def.mp hip]
        simp [bufferSizes]
  · exact absurd h (by simp)

theorem paserLines_spec {room : ℕ} {confs : List (List Char)} {infos : List TtyInfo}
    (h : paserLines room confs = some infos) :
    infos.length ≤ room ∧ ∀ info ∈ infos, WellFormed info := by
  induction confs generalizing room infos with
  | nil =>
      cases room with
      | zero =>
          obtain rfl := Option.some.inj h
          exact ⟨Nat.le_refl _, fun info hinfo => absurd hinfo List.not_mem_nil⟩
      | succ room =>
          obtain rfl := Option.some.inj h
          exact ⟨Nat.zero_le _, fun info hinfo => absurd hinfo List.not_mem_nil⟩
  | cons conf confs ih =>
      cases room with
      | zero =>
          obtain rfl := Option.some.inj h
          exact ⟨Nat.le_refl _, fun info hinfo => absurd hinfo List.not_mem_nil⟩
      | succ room =>
          unfold paserLines at h
          obtain ⟨found, hfound, h⟩ := Option.bind_eq_some_iff.mp h
          cases found with
          | none => exact ih h
          | some info =>
              obtain ⟨rest, hrest, h⟩ := Option.bind_eq_some_iff.mp h
              obtain rfl := Option.some.inj h
              obtain ⟨hlength, hall⟩ := ih hrest
              refine ⟨Nat.succ_le_succ hlength, fun other hother => ?_⟩
              rcases List.mem_cons.mp hother with rfl | hlater
              · exact wellFormed_of_parseLine hfound
              · exact hall other hlater

/-- **What is accepted** is well formed, and no more than the ports there are. -/
theorem wellFormed_of_paserConfig {file : List Char} {infos : List TtyInfo}
    (h : paserConfig file = some infos) :
    infos.length ≤ cfMaxports ∧ ∀ info ∈ infos, WellFormed info := paserLines_spec h

/-! ### Print, then read -/

/-- A line of the file for a port. -/
def printEntry (info : TtyInfo) : List Char := spell ' ' info.words ++ ['\n']

theorem Fits.not_mem {size : ℕ} {w : List Char} (h : Fits size w) {c : Char} (hc : isSpace c = true) :
    c ∉ w := by
  intro hmem
  rw [h.word.no_sep c hmem] at hc
  exact Bool.false_ne_true hc

theorem length_words_le (info : TtyInfo) : info.words.length ≤ 5 := by
  unfold TtyInfo.words
  cases info.devRedundantIpaddrStr with
  | none => exact Nat.le_succ 4
  | some ip => exact Nat.le_refl 5

section Entry

variable {info : TtyInfo} (h : WellFormed info)
include h

theorem fits_of_mem_words {w : List Char} (hw : w ∈ info.words) : ∃ size, Fits size w := by
  rcases List.mem_append.mp hw with hfirst | hredundant
  · simp only [List.mem_cons, List.not_mem_nil, or_false] at hfirst
    rcases hfirst with rfl | rfl | rfl | rfl
    · exact ⟨_, h.mptNameidx⟩
    · exact ⟨_, h.devType⟩
    · exact ⟨_, h.devIpaddr⟩
    · exact ⟨_, h.devPortidx⟩
  · exact ⟨_, h.redundant w (Option.mem_toList.mp hredundant)⟩

theorem sscanfWords_printEntry : sscanfWords (printEntry info) = info.words := by
  have hkeep : (printEntry info).takeWhile (· ≠ '\x00') = printEntry info := by
    refine List.takeWhile_eq_self_iff.mpr fun c hc => ?_
    rcases List.mem_append.mp hc with hword | hnewline
    · obtain ⟨w, hw, hcw⟩ := List.mem_flatMap.mp hword
      obtain ⟨size, hfits⟩ := fits_of_mem_words h hw
      rcases List.mem_append.mp hcw with hin | hspace
      · have hne : c ≠ '\x00' := fun heq => hfits.no_nul (heq ▸ hin)
        simpa using hne
      · obtain rfl := List.mem_singleton.mp hspace
        rfl
    · obtain rfl := List.mem_singleton.mp hnewline
      rfl
  have hwords : ∀ w ∈ info.words, IsWord isSpace w := fun w hw => by
    obtain ⟨size, hfits⟩ := fits_of_mem_words h hw
    exact hfits.word
  have hnewline : ∀ c ∈ ['\n'], isSpace c = true := fun c hc => by
    obtain rfl := List.mem_singleton.mp hc
    rfl
  rw [sscanfWords, hkeep, printEntry, scanWords_spell rfl hwords hnewline,
    List.take_of_length_le (length_words_le info)]

theorem fits_words : fits info.words = true := by
  have hsizes : info.words.zip bufferSizes =
      [(info.mptNameidxStr, cfMaxstrlen), (info.devTypeStr, cfMaxstrlen),
        (info.devIpaddrStr, inet6Addrstrlen), (info.devPortidxStr, cfMaxstrlen)] ++
        info.devRedundantIpaddrStr.toList.zip [inet6Addrstrlen] := by
    unfold TtyInfo.words bufferSizes
    cases info.devRedundantIpaddrStr with
    | none => rfl
    | some ip => rfl
  unfold fits
  rw [hsizes, List.all_append]
  simp only [List.all_cons, List.all_nil, Bool.and_true, Bool.and_eq_true, decide_eq_true_eq]
  refine ⟨⟨h.mptNameidx.length_lt, h.devType.length_lt, h.devIpaddr.length_lt,
    h.devPortidx.length_lt⟩, ?_⟩
  cases hred : info.devRedundantIpaddrStr with
  | none => rfl
  | some ip =>
      have hlength := (h.redundant ip (Option.mem_def.mpr hred)).length_lt
      simpa using hlength

theorem checkWords_words : checkWords info.words = some (some info) := by
  obtain ⟨minor, hminor, hmax⟩ := h.minor
  obtain ⟨type, htype, hmin⟩ := h.type
  obtain ⟨portidx, hportidx, hpos, hle⟩ := h.portidx
  have hhead : info.devRedundantIpaddrStr.toList.head? = info.devRedundantIpaddrStr := by
    cases info.devRedundantIpaddrStr with
    | none => rfl
    | some ip => rfl
  show checkWords (info.mptNameidxStr :: info.devTypeStr :: info.devIpaddrStr ::
    info.devPortidxStr :: info.devRedundantIpaddrStr.toList) = _
  have hminor' : ¬ minor > cfMaxports := by omega
  have htype' : ¬ type ≤ 0x1000 := by omega
  have hportidx' : ¬ (portidx ≤ 0 ∨ portidx > 16) := by omega
  simp only [checkWords, hminor, htype, hportidx, hhead, Option.bind_eq_bind, Option.bind_some,
    if_neg hminor', if_neg htype', if_neg hportidx']
  rfl

/-- **A printed line** is read back. -/
theorem parseLine_printEntry : parseLine (printEntry info) = some (some info) := by
  rw [parseLine, sscanfWords_printEntry h, fits_words h, if_pos rfl, checkWords_words h]

/-- A printed line fits the buffer of `fgets`. -/
theorem length_spell_words_lt : (spell ' ' info.words).length < 255 := by
  have hname := h.mptNameidx.length_lt
  have htype := h.devType.length_lt
  have hip := h.devIpaddr.length_lt
  have hport := h.devPortidx.length_lt
  unfold cfMaxstrlen at hname htype hport
  unfold inet6Addrstrlen at hip
  unfold TtyInfo.words spell
  cases hred : info.devRedundantIpaddrStr with
  | none =>
      simp
      omega
  | some ip =>
      have hredundant := (h.redundant ip (Option.mem_def.mpr hred)).length_lt
      unfold inet6Addrstrlen at hredundant
      simp
      omega

theorem newline_not_mem_spell : '\n' ∉ spell ' ' info.words := by
  intro hmem
  obtain ⟨w, hw, hc⟩ := List.mem_flatMap.mp hmem
  obtain ⟨size, hfits⟩ := fits_of_mem_words h hw
  rcases List.mem_append.mp hc with hin | hspace
  · exact hfits.not_mem rfl hin
  · exact absurd (List.mem_singleton.mp hspace) (by decide)

end Entry

theorem paserLines_map {room : ℕ} {infos : List TtyInfo} (hroom : infos.length ≤ room)
    (hinfos : ∀ info ∈ infos, WellFormed info) :
    paserLines room (infos.map printEntry) = some infos := by
  induction infos generalizing room with
  | nil =>
      cases room with
      | zero => rfl
      | succ room => rfl
  | cons info infos ih =>
      obtain ⟨room, rfl⟩ := Nat.exists_eq_add_one.mpr (Nat.lt_of_lt_of_le (Nat.succ_pos _) hroom)
      have hrest := ih (Nat.le_of_succ_le_succ hroom) fun x hx => hinfos x (List.mem_cons_of_mem info hx)
      rw [List.map_cons, paserLines, parseLine_printEntry (hinfos info List.mem_cons_self)]
      show (do let rest ← paserLines room (infos.map printEntry); pure (info :: rest)) = _
      rw [hrest]
      rfl

/-- **A printed file** is read back, if it names no more ports than there are. -/
theorem paserConfig_printEntry {infos : List TtyInfo} (hlength : infos.length ≤ cfMaxports)
    (hinfos : ∀ info ∈ infos, WellFormed info) :
    paserConfig (infos.flatMap printEntry) = some infos := by
  have hlines : ∀ info ∈ infos, ∃ line, printEntry info = line ++ ['\n'] ∧ '\n' ∉ line ∧
      line.length < 255 := fun info hinfo =>
    ⟨_, rfl, newline_not_mem_spell (hinfos info hinfo), length_spell_words_lt (hinfos info hinfo)⟩
  rw [paserConfig, lines_flatMap (by decide) hlines, paserLines_map hlength hinfos]

/-- **What may be configured** is what is well formed. -/
theorem exists_paserConfig_iff {infos : List TtyInfo} :
    (∃ file, paserConfig file = some infos) ↔
      infos.length ≤ cfMaxports ∧ ∀ info ∈ infos, WellFormed info := by
  constructor
  · rintro ⟨file, h⟩
    exact wellFormed_of_paserConfig h
  · rintro ⟨hlength, hinfos⟩
    exact ⟨_, paserConfig_printEntry hlength hinfos⟩

/-- Two ports of a device. -/
def onePort : TtyInfo := ⟨['0'], "1322".toList, "10.0.0.1".toList, ['1'], none⟩

def nextPort : TtyInfo := ⟨['1'], "1322".toList, "10.0.0.1".toList, ['2'], none⟩

def twoLines : List Char := "0 1322 10.0.0.1 1\n1 1322 10.0.0.1 2\n".toList

theorem wellFormed_twoPorts : ∀ info ∈ [onePort, nextPort], WellFormed info := by
  have hread : paserConfig twoLines = some [onePort, nextPort] := by decide +kernel
  exact (wellFormed_of_paserConfig hread).2

/-! ### Numbers that were printed -/

theorem digitChar_cases {d : ℕ} (hd : d < 16) :
    isSpace d.digitChar = false ∧ d.digitChar ≠ '\x00' ∧
      ((d.digitChar.isDigit = true ∧ d.digitChar.toNat = '0'.toNat + d) ∨
        (10 ≤ d ∧ d.digitChar.isDigit = false ∧ 'a' ≤ d.digitChar ∧ d.digitChar ≤ 'f' ∧
          d.digitChar.toUpper.toNat + 10 = 'A'.toNat + d)) := by
  revert d
  decide

/-- One digit more. -/
theorem hexstrFrom_digit {val d : ℕ} (hd : d < 16) (hint : 16 * val + d + 55 < 2 ^ 31)
    (cs : List Char) : hexstrFrom val (d.digitChar :: cs) = hexstrFrom (16 * val + d) cs := by
  have hzero : '0'.toNat = 48 := rfl
  have hletter : 'A'.toNat = 65 := rfl
  obtain ⟨-, -, ⟨hdigit, hcode⟩ | ⟨hten, hdigit, hlo, hhi, hcode⟩⟩ := digitChar_cases hd
  · rw [hexstrFrom, if_pos hdigit, if_pos (by omega)]
    congr 1
    omega
  · rw [hexstrFrom, if_neg (by rw [hdigit]; exact Bool.false_ne_true), if_pos (Or.inl ⟨hlo, hhi⟩),
      if_pos (by omega)]
    congr 1
    omega

/-- **Hexadecimal digits** are read as they are printed, as far as `int` goes. -/
theorem hexstr_toDigits {n : ℕ} (hn : n + 55 < 2 ^ 31) : hexstr (Nat.toDigits 16 n) = some n := by
  have hall : ∀ n, n + 55 < 2 ^ 31 →
      ∀ cs, hexstrFrom 0 (Nat.toDigits 16 n ++ cs) = hexstrFrom n cs := by
    intro n
    induction n using Nat.strong_induction_on with
    | _ n ih =>
        intro hn cs
        by_cases hlt : n < 16
        · rw [Nat.toDigits_of_lt_base hlt, List.singleton_append, hexstrFrom_digit hlt (by omega)]
          congr 1
          omega
        · have hsplit := Nat.div_add_mod n 16
          rw [Nat.toDigits_of_base_le (by decide) (by omega), List.append_assoc,
            ih (n / 16) (by omega) (by omega), List.singleton_append,
            hexstrFrom_digit (Nat.mod_lt n (by decide)) (by omega), hsplit]
  have hread := hall n hn []
  rw [List.append_nil] at hread
  exact hread

/-- **Decimal digits** are read as they are printed. -/
theorem atoi_toDigits {n : ℕ} (hn : n < 2 ^ 31) : atoi (Nat.toDigits 10 n) = some (n : ℤ) := by
  rw [atoi, signed_number]
  exact if_pos ⟨by omega, by omega⟩

/-! ### Lines that are accepted, and lines without a meaning -/

theorem fits_toDigits {b n : ℕ} (hb : 1 < b) (hb' : b ≤ 16) (hn : n < 2 ^ 31) :
    Fits cfMaxstrlen (Nat.toDigits b n) := by
  have hchars : ∀ n, ∀ c ∈ Nat.toDigits b n, ∃ d < 16, c = Nat.digitChar d := by
    intro n
    induction n using Nat.strong_induction_on with
    | _ n ih =>
        intro c hc
        by_cases hlt : n < b
        · rw [Nat.toDigits_of_lt_base hlt] at hc
          exact ⟨n, by omega, List.mem_singleton.mp hc⟩
        · rw [Nat.toDigits_of_base_le hb (by omega)] at hc
          rcases List.mem_append.mp hc with hfirst | hlast
          · exact ih (n / b) (Nat.div_lt_self (by omega) hb) c hfirst
          · exact ⟨n % b, Nat.lt_of_lt_of_le (Nat.mod_lt n (by omega)) hb', List.mem_singleton.mp hlast⟩
  have hclass : ∀ c ∈ Nat.toDigits b n, isSpace c = false ∧ c ≠ '\x00' := by
    intro c hc
    obtain ⟨d, hd, rfl⟩ := hchars n c hc
    exact ⟨(digitChar_cases hd).1, (digitChar_cases hd).2.1⟩
  refine ⟨⟨Nat.toDigits_ne_nil, fun c hc => (hclass c hc).1⟩, fun hnul => (hclass _ hnul).2 rfl, ?_⟩
  have hlength := (Nat.length_toDigits_le_iff (n := n) (k := 31) hb (by decide)).mpr
    (Nat.lt_of_lt_of_le hn (Nat.pow_le_pow_left hb 31))
  exact Nat.lt_succ_of_le hlength

/-- **Every port of the driver** can be configured, and a port more. -/
theorem wellFormed_of_numbers {minor type portidx : ℕ} {ip : List Char} (hminor : minor ≤ cfMaxports)
    (htype : 0x1000 < type) (hint : type + 55 < 2 ^ 31) (hpos : 0 < portidx) (hle : portidx ≤ 16)
    (hip : Fits inet6Addrstrlen ip) :
    WellFormed ⟨Nat.toDigits 10 minor, Nat.toDigits 16 type, ip, Nat.toDigits 10 portidx, none⟩ := by
  have hmax : minor ≤ 256 := hminor
  have hnumbers : Checked ⟨Nat.toDigits 10 minor, Nat.toDigits 16 type, ip, Nat.toDigits 10 portidx,
      none⟩ :=
    ⟨⟨minor, atoi_toDigits (by omega), by exact_mod_cast hminor⟩, ⟨type, hexstr_toDigits hint, htype⟩,
      ⟨portidx, atoi_toDigits (by omega), by omega, by omega⟩⟩
  have hten : ∀ n < 2 ^ 31, Fits cfMaxstrlen (Nat.toDigits 10 n) := fun n hn =>
    fits_toDigits (by decide) (by decide) hn
  have hsixteen : Fits cfMaxstrlen (Nat.toDigits 16 type) :=
    fits_toDigits (by decide) (by decide) (by omega)
  refine ⟨hnumbers, hten minor (by omega), hsixteen, hip, hten portidx (by omega), fun ip hnone => ?_⟩
  exact absurd hnone (by simp)

/-- **A line that is commented out** by a character in front of its number still names a port. -/
theorem wellFormed_commented {info : TtyInfo} (h : WellFormed info)
    (hlength : info.mptNameidxStr.length + 1 < cfMaxstrlen) :
    WellFormed { info with mptNameidxStr := '#' :: info.mptNameidxStr } := by
  have hfits : Fits cfMaxstrlen ('#' :: info.mptNameidxStr) := by
    refine ⟨⟨List.cons_ne_nil _ _, fun c hc => ?_⟩, fun hnul => ?_, hlength⟩
    · rcases List.mem_cons.mp hc with rfl | hrest
      · rfl
      · exact h.mptNameidx.word.no_sep c hrest
    · rcases List.mem_cons.mp hnul with heq | hrest
      · exact absurd heq (by decide)
      · exact h.mptNameidx.no_nul hrest
  have hminor : atoi ('#' :: info.mptNameidxStr) = some 0 := by
    rw [atoi, signed_of_not_number (by decide) (by decide) (by decide) (by decide)]
    exact if_pos ⟨by decide, by decide⟩
  exact ⟨⟨⟨0, hminor, by decide⟩, h.type, h.portidx⟩, hfits, h.devType, h.devIpaddr, h.devPortidx,
    h.redundant⟩

/-- **A word that is too long** is written over the end of its buffer, whatever stands behind it. -/
theorem parseLine_eq_none_of_long {w rest : List Char} (hword : IsWord isSpace w) (hnul : '\x00' ∉ w)
    (hlong : cfMaxstrlen ≤ w.length) : parseLine (w ++ ' ' :: rest) = none := by
  have hkeep : ∀ c ∈ w, decide (c ≠ '\x00') = true := by
    intro c hc
    have hne : c ≠ '\x00' := fun heq => hnul (heq ▸ hc)
    simpa using hne
  have hscan : sscanfWords (w ++ ' ' :: rest) =
      w :: scanWords isSpace 4 (' ' :: rest.takeWhile (· ≠ '\x00')) := by
    rw [sscanfWords, List.takeWhile_append_of_pos hkeep, List.takeWhile_cons_of_pos (by decide),
      scanWords, scanWord_word hword rfl]
  have hover : fits (sscanfWords (w ++ ' ' :: rest)) = false := by
    rw [hscan, fits, bufferSizes, List.zip_cons_cons, List.all_cons]
    have hsize : decide (w.length < cfMaxstrlen) = false := decide_eq_false (by omega)
    rw [hsize, Bool.false_and]
  rw [parseLine, hover]
  rfl

theorem parseLine_eq_none_of_long_ones :
    parseLine (List.replicate 32 '1' ++ ' ' :: "1322 10.0.0.1 1".toList) = none := by
  have hword : IsWord isSpace (List.replicate 32 '1') := by
    refine ⟨by decide, fun c hc => ?_⟩
    rw [List.eq_of_mem_replicate hc]
    rfl
  refine parseLine_eq_none_of_long hword (fun hnul => ?_) (by decide)
  exact absurd (List.eq_of_mem_replicate hnul) (by decide)

end ModbusRTU.TtyConfig
