import MsxWorkbench.Disk.Volume
import MsxWorkbench.Suite.DiskSample
/-
# Entries of the allocation table

Two neighbouring entries share a byte, but never half a byte: counted in halves, low half first, the entry of cluster `c`
is the halves `3 * c`, `3 * c + 1` and `3 * c + 2` (`entry?_eq_halves`), for clusters of both parities. Writing an entry
sets these three (`half_setEntry_inside`) and no other one (`half_setEntry_outside`), so entries are written and read
back independently of each other (`fatEntry_setEntries`).
-/
namespace MsxWorkbench.Disk

theorem place_of_le {size i : Nat} (h : i ≤ size) : place size i = i := by
  unfold place
  rw [if_neg (by omega)]
  omega

namespace Fat

/-- Both bytes of the entry of a cluster lie in the table. -/
def Holds (fat : Fat) (cluster : Nat) : Prop := cluster * 3 / 2 + 1 < fat.size

/-- The number of a byte of the table. -/
def byte (fat : Fat) (i : Nat) : Nat := (fat.getD i 0).toNat

/-- Half a byte of the table, the low half of each byte before the high one. -/
def half (fat : Fat) (n : Nat) : Nat := if n % 2 = 0 then fat.byte (n / 2) % 16 else fat.byte (n / 2) / 16

variable {fat : Fat} {c d : Nat}

theorem byte_lt (fat : Fat) (i : Nat) : fat.byte i < 256 := UInt8.toNat_lt _

theorem lowBits_lt (value : Int) : lowBits value < 4096 := by
  unfold lowBits
  omega

/-- The halves of an even cluster: the first byte of its word and the low half of the second one. -/
theorem halves_even (fat : Fat) (k : Nat) :
    fat.half (3 * (2 * k)) = fat.byte (3 * k) % 16 ∧ fat.half (3 * (2 * k) + 1) = fat.byte (3 * k) / 16 ∧
      fat.half (3 * (2 * k) + 2) = fat.byte (3 * k + 1) % 16 := by
  unfold half
  rw [if_pos (by omega), if_neg (by omega), if_pos (by omega), show 3 * (2 * k) / 2 = 3 * k by omega,
    show (3 * (2 * k) + 1) / 2 = 3 * k by omega, show (3 * (2 * k) + 2) / 2 = 3 * k + 1 by omega]
  exact ⟨rfl, rfl, rfl⟩

/-- The halves of an odd cluster: the high half of the first byte of its word and the second one. -/
theorem halves_odd (fat : Fat) (k : Nat) :
    fat.half (3 * (2 * k + 1)) = fat.byte (3 * k + 1) / 16 ∧ fat.half (3 * (2 * k + 1) + 1) = fat.byte (3 * k + 2) % 16 ∧
      fat.half (3 * (2 * k + 1) + 2) = fat.byte (3 * k + 2) / 16 := by
  unfold half
  rw [if_neg (by omega), if_pos (by omega), if_neg (by omega), show 3 * (2 * k + 1) / 2 = 3 * k + 1 by omega,
    show (3 * (2 * k + 1) + 1) / 2 = 3 * k + 2 by omega, show (3 * (2 * k + 1) + 2) / 2 = 3 * k + 2 by omega]
  exact ⟨rfl, rfl, rfl⟩

/-! ## Reading -/

theorem extract_pair {i : Nat} (h : i + 1 < fat.size) :
    (fat.extract i (i + 2)).toList = [fat.getD i 0, fat.getD (i + 1) 0] := by
  have hfirst : fat.getD i 0 = fat[i] := Array.getElem_eq_getD 0 |>.symm
  have hsecond : fat.getD (i + 1) 0 = fat[i + 1] := Array.getElem_eq_getD 0 |>.symm
  rw [hfirst, hsecond]
  apply List.ext_getElem
  · simp
    omega
  · intro n hn hn'
    obtain rfl | rfl : n = 0 ∨ n = 1 := by simp at hn'; omega
    · simp
    · simp

theorem word?_wordBytes (h : fat.Holds c) :
    word? (fat.wordBytes c) = some (fat.byte (c * 3 / 2) + 256 * fat.byte (c * 3 / 2 + 1)) := by
  have hindex : wordIndex c = ((c * 3 / 2 : Nat) : Int) := by
    unfold wordIndex
    rw [Int.fdiv_eq_ediv_of_nonneg _ (by omega)]
    omega
  unfold Holds at h
  generalize c * 3 / 2 = i at h hindex
  have hfirst : place fat.size (wordIndex c) = i := by
    rw [hindex]
    exact place_of_le (by omega)
  have hsecond : place fat.size (wordIndex c + 2) = i + 2 := by
    rw [hindex]
    exact place_of_le (i := i + 2) (by omega)
  unfold wordBytes
  rw [hfirst, hsecond, extract_pair h]
  rfl

/-- An entry is made of three halves of bytes, wherever the cluster lies. -/
theorem entry?_eq_halves (h : fat.Holds c) :
    fat.entry? c = some (fat.half (3 * c) + 16 * fat.half (3 * c + 1) + 256 * fat.half (3 * c + 2)) := by
  have hparity : Int.fmod c 2 = ((c % 2 : Nat) : Int) := by
    rw [Int.fmod_eq_emod_of_nonneg _ (by omega)]
    omega
  unfold entry?
  rw [word?_wordBytes h, hparity, Option.map_some, Option.some_inj]
  obtain ⟨k, rfl | rfl⟩ : ∃ k, c = 2 * k ∨ c = 2 * k + 1 := ⟨c / 2, by omega⟩
  · obtain ⟨h0, h1, h2⟩ := fat.halves_even k
    have hfirst := fat.byte_lt (3 * k)
    rw [h0, h1, h2, show 2 * k * 3 / 2 = 3 * k by omega, if_neg (by omega)]
    omega
  · obtain ⟨h0, h1, h2⟩ := fat.halves_odd k
    have hfirst := fat.byte_lt (3 * k + 1)
    rw [h0, h1, h2, show (2 * k + 1) * 3 / 2 = 3 * k + 1 by omega, show 3 * k + 1 + 1 = 3 * k + 2 from rfl,
      if_pos (by omega)]
    omega

/-! ## Writing -/

@[simp] theorem size_setEntry (fat : Fat) (c : Nat) (value : Int) : (fat.setEntry c value).size = fat.size := by
  unfold setEntry
  dsimp only
  split <;> simp

theorem holds_setEntry (value : Int) : (fat.setEntry c value).Holds d ↔ fat.Holds d := by
  simp [Holds]

theorem byte_setIfInBounds {i n : Nat} (hi : i < fat.size) (hn : n < 256) (j : Nat) :
    byte (fat.setIfInBounds i (UInt8.ofNat n)) j = if i = j then n else fat.byte j := by
  unfold byte
  rw [Array.getD_eq_getD_getElem?, Array.getElem?_setIfInBounds, Array.getD_eq_getD_getElem?]
  by_cases hij : i = j
  · rw [if_pos hij, if_pos hi, if_pos hij, Option.getD_some]
    exact UInt8.toNat_ofNat_of_lt hn
  · rw [if_neg hij, if_neg hij]

/-- The bytes of a table after an entry has been written: of the two that hold it, the one that is shared with a
neighbour keeps the neighbour's half. -/
theorem byte_setEntry (h : fat.Holds c) (value : Int) (j : Nat) :
    (fat.setEntry c value).byte j =
      if c * 3 / 2 + 1 = j then
        if c % 2 = 1 then lowBits value / 16 else fat.byte j / 16 * 16 + lowBits value / 256
      else if c * 3 / 2 = j then
        if c % 2 = 1 then fat.byte j % 16 + 16 * (lowBits value % 16) else lowBits value % 256
      else fat.byte j := by
  have hv := lowBits_lt value
  have hsecond := fat.byte_lt (c * 3 / 2 + 1)
  have hinside : c * 3 / 2 < fat.size := Nat.lt_of_succ_lt h
  unfold setEntry
  dsimp only
  by_cases hc : c % 2 = 1
  · rw [if_pos hc, byte_setIfInBounds (by rw [Array.size_setIfInBounds]; exact h) (by omega), byte_setIfInBounds hinside (by omega)]
    by_cases h1 : c * 3 / 2 + 1 = j
    · rw [if_pos h1, if_pos h1, if_pos hc]
    · rw [if_neg h1, if_neg h1]
      by_cases h0 : c * 3 / 2 = j
      · rw [if_pos h0, if_pos h0, if_pos hc, ← h0]
        rfl
      · rw [if_neg h0, if_neg h0]
  · rw [if_neg hc, byte_setIfInBounds (by rw [Array.size_setIfInBounds]; exact h) ?_, byte_setIfInBounds hinside (by omega)]
    · by_cases h1 : c * 3 / 2 + 1 = j
      · rw [if_pos h1, if_pos h1, if_neg hc, ← h1]
        rfl
      · rw [if_neg h1, if_neg h1]
        by_cases h0 : c * 3 / 2 = j
        · rw [if_pos h0, if_pos h0, if_neg hc]
        · rw [if_neg h0, if_neg h0]
    · unfold byte at hsecond
      omega

/-- Writing an entry sets its three halves. -/
theorem half_setEntry_inside (h : fat.Holds c) (value : Int) :
    (fat.setEntry c value).half (3 * c) = lowBits value % 16 ∧
      (fat.setEntry c value).half (3 * c + 1) = lowBits value / 16 % 16 ∧
      (fat.setEntry c value).half (3 * c + 2) = lowBits value / 256 := by
  have hv := lowBits_lt value
  obtain ⟨k, rfl | rfl⟩ : ∃ k, c = 2 * k ∨ c = 2 * k + 1 := ⟨c / 2, by omega⟩
  · have hfirst : (fat.setEntry (2 * k) value).byte (3 * k) = lowBits value % 256 := by
      rw [byte_setEntry h, if_neg (by omega), if_pos (by omega), if_neg (by omega)]
    have hsecond : (fat.setEntry (2 * k) value).byte (3 * k + 1) =
        fat.byte (3 * k + 1) / 16 * 16 + lowBits value / 256 := by
      rw [byte_setEntry h, if_pos (by omega), if_neg (by omega)]
    obtain ⟨h0, h1, h2⟩ := (fat.setEntry (2 * k) value).halves_even k
    rw [h0, h1, h2, hfirst, hsecond]
    omega
  · have hfirst : (fat.setEntry (2 * k + 1) value).byte (3 * k + 1) =
        fat.byte (3 * k + 1) % 16 + 16 * (lowBits value % 16) := by
      rw [byte_setEntry h, if_neg (by omega), if_pos (by omega), if_pos (by omega)]
    have hsecond : (fat.setEntry (2 * k + 1) value).byte (3 * k + 2) = lowBits value / 16 := by
      rw [byte_setEntry h, if_pos (by omega), if_pos (by omega)]
    obtain ⟨h0, h1, h2⟩ := (fat.setEntry (2 * k + 1) value).halves_odd k
    rw [h0, h1, h2, hfirst, hsecond]
    omega

/-- Writing an entry leaves all other halves as they are, also the one in a byte that it shares. -/
theorem half_setEntry_outside (h : fat.Holds c) (value : Int) {n : Nat} (hn : n / 3 ≠ c) :
    (fat.setEntry c value).half n = fat.half n := by
  have hv := lowBits_lt value
  unfold half
  rw [byte_setEntry h]
  by_cases hsecond : c * 3 / 2 + 1 = n / 2
  · -- only a word of an even cluster has a foreign half here, the high one
    rw [if_pos hsecond, if_neg (show ¬ c % 2 = 1 by omega), if_neg (show ¬ n % 2 = 0 by omega),
      if_neg (show ¬ n % 2 = 0 by omega)]
    omega
  · rw [if_neg hsecond]
    by_cases hfirst : c * 3 / 2 = n / 2
    · -- only a word of an odd cluster has a foreign half here, the low one
      rw [if_pos hfirst, if_pos (show c % 2 = 1 by omega), if_pos (show n % 2 = 0 by omega),
        if_pos (show n % 2 = 0 by omega)]
      omega
    · rw [if_neg hfirst]

/-- An entry that has been written is read back. -/
theorem entry?_setEntry_self (h : fat.Holds c) (value : Int) : Fat.entry? (fat.setEntry c value) c = some (lowBits value) := by
  obtain ⟨h0, h1, h2⟩ := half_setEntry_inside h value
  rw [entry?_eq_halves ((holds_setEntry value).2 h), h0, h1, h2, Option.some_inj]
  omega

/-- Writing an entry leaves every other one as it is. -/
theorem entry?_setEntry_of_ne (hc : fat.Holds c) (hd : fat.Holds d) (hne : d ≠ c) (value : Int) :
    Fat.entry? (fat.setEntry c value) d = fat.entry? d := by
  rw [entry?_eq_halves ((holds_setEntry value).2 hd), entry?_eq_halves hd,
    half_setEntry_outside hc value (n := 3 * d) (by omega), half_setEntry_outside hc value (n := 3 * d + 1) (by omega),
    half_setEntry_outside hc value (n := 3 * d + 2) (by omega)]

/-- After any number of writes an entry is the last value written to it, or what it was. -/
theorem entry?_setEntries (hd : fat.Holds d) {writes : List (Nat × Int)} (hwrites : ∀ w ∈ writes, fat.Holds w.1) :
    Fat.entry? (Suite.setEntries fat writes) d = ((writes.reverse.lookup d).map lowBits).or ( fat.entry? d) := by
  induction writes generalizing fat with
  | nil => rfl
  | cons w writes ih =>
    obtain ⟨target, value⟩ := w
    obtain ⟨hw, hrest⟩ := List.forall_mem_cons.1 hwrites
    have hstep := @ih (fat.setEntry target value) ((holds_setEntry _).2 hd) fun u hu => (holds_setEntry _).2 (hrest u hu)
    have hfold : Suite.setEntries fat ((target, value) :: writes) =
        Suite.setEntries (fat.setEntry target value) writes := rfl
    rw [hfold, hstep, List.reverse_cons, List.lookup_append]
    cases writes.reverse.lookup d with
    | some later => rfl
    | none =>
      rw [List.lookup_cons]
      by_cases hdw : d = target
      · subst hdw
        rw [entry?_setEntry_self hw, beq_self_eq_true]
        rfl
      · rw [entry?_setEntry_of_ne hw hd hdw, beq_eq_false_iff_ne.2 hdw]
        rfl

end Fat

/-- **Entries are written and read back independently.** After any sequence of writes to clusters whose entries lie in
the table, reading a cluster gives the low twelve bits of the last value written to it, or, if none was, what reading it
gave before. -/
theorem Volume.fatEntry_setEntries (v : Volume) (fat : Fat) (writes : List (Nat × Int))
    (hwrites : ∀ w ∈ writes, fat.Holds w.1) (c : Nat) (hc : fat.Holds c) :
    ∃ before, { v with fat := some fat }.fatEntry c = .ok before ∧
      { v with fat := some (Suite.setEntries fat writes) }.fatEntry c =
        .ok (((writes.reverse.lookup c).map fun value => (value % 4096).toNat).getD before) := by
  have hbefore := Fat.entry?_eq_halves hc
  have hafter := Fat.entry?_setEntries hc hwrites
  generalize fat.half (3 * c) + 16 * fat.half (3 * c + 1) + 256 * fat.half (3 * c + 2) = before at hbefore
  refine ⟨before, ?_, ?_⟩
  · simp only [fatEntry, hbefore]
  · rw [hbefore] at hafter
    cases hlast : writes.reverse.lookup c with
    | none =>
      rw [hlast] at hafter
      simp only [fatEntry, hafter]
      rfl
    | some value =>
      rw [hlast] at hafter
      simp only [fatEntry, hafter]
      rfl

/-- An odd cluster is written twice, with both of its neighbours in between; the cluster behind them is not written. -/
theorem Volume.fatEntry_setEntries_neighbours :
    let fat : Fat := #[0xF9, 0xFF, 0xFF, 0x21, 0x43, 0x65]
    let writes : List (Nat × Int) := [(1, 0xABC), (0, -2), (2, 0x7FF), (1, 0x1456)]
    let before : Volume := { image := #[], fat := some fat }
    let after : Volume := { image := #[], fat := some (Suite.setEntries fat writes) }
    (∀ w ∈ writes, fat.Holds w.1) ∧ fat.Holds 3 ∧ after.fatEntry 0 = .ok 0xFFE ∧ after.fatEntry 1 = .ok 0x456 ∧
      after.fatEntry 2 = .ok 0x7FF ∧ after.fatEntry 3 = before.fatEntry 3 := by
  intro fat writes before after
  have hwrites : ∀ w ∈ writes, fat.Holds w.1 := by simp [writes, Fat.Holds, fat]
  have hread := fatEntry_setEntries { image := #[] } fat writes hwrites
  obtain ⟨_, -, h0⟩ := hread 0 (by simp [Fat.Holds, fat])
  obtain ⟨_, -, h1⟩ := hread 1 (by simp [Fat.Holds, fat])
  obtain ⟨_, -, h2⟩ := hread 2 (by simp [Fat.Holds, fat])
  obtain ⟨_, hbefore, h3⟩ := hread 3 (by simp [Fat.Holds, fat])
  exact ⟨hwrites, by simp [Fat.Holds, fat], h0, h1, h2, h3.trans hbefore.symm⟩

end MsxWorkbench.Disk
