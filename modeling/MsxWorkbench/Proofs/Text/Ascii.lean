import MsxWorkbench.Text.Case
import MsxWorkbench.Proofs.Text.Rows
/-
# Plain texts

In a text of ASCII characters the capitals are made letter by letter (`upper_eq_map`), so a word is found without
regard to case where the capitals of the text start with it (`startsUpper_iff`). The rest of the module is about
texts without their blanks, which trimming does not change.
-/
namespace MsxWorkbench.Text

/-! ## Capitals -/

/-- All characters are ASCII. -/
def IsAscii (s : List Char) : Prop := ∀ c ∈ s, c.toNat < 0x80

theorem forall_ascii {p : Char → Prop} (h : ∀ n < 0x80, p (Char.ofNat n)) {c : Char} (hc : c.toNat < 0x80) : p c := by
  have hp := h c.toNat hc
  rwa [Char.ofNat_toNat] at hp

theorem IsAscii.left {s t : List Char} (h : IsAscii (s ++ t)) : IsAscii s :=
  fun c hc => h c (List.mem_append_left t hc)

theorem IsAscii.right {s t : List Char} (h : IsAscii (s ++ t)) : IsAscii t :=
  fun c hc => h c (List.mem_append_right s hc)

theorem IsAscii.append {s t : List Char} (hs : IsAscii s) (ht : IsAscii t) : IsAscii (s ++ t) :=
  fun c hc => (List.mem_append.1 hc).elim (hs c) (ht c)

theorem IsAscii.take {s : List Char} (h : IsAscii s) (n : Nat) : IsAscii (s.take n) :=
  fun c hc => h c (List.mem_of_mem_take hc)

theorem IsAscii.drop {s : List Char} (h : IsAscii s) (n : Nat) : IsAscii (s.drop n) :=
  fun c hc => h c (List.mem_of_mem_drop hc)

theorem IsAscii.trimRight {s : List Char} (h : IsAscii s) : IsAscii (Text.trimRight s) :=
  fun c hc => h c (mem_of_mem_trimRight hc)

/-- The capital of a character, walked through once for all that is known of it. -/
theorem capital_ascii {c : Char} (hc : c.toNat < 0x80) : upperChar c = [capital c] ∧ capital (capital c) = capital c ∧
    isBlank (capital c) = isBlank c ∧ isDigit (capital c) = isDigit c ∧ (capital c).toNat < 0x80 :=
  forall_ascii (p := fun c => upperChar c = [capital c] ∧ capital (capital c) = capital c ∧
    isBlank (capital c) = isBlank c ∧ isDigit (capital c) = isDigit c ∧ (capital c).toNat < 0x80) (by decide) hc

theorem upperChar_ascii {c : Char} (hc : c.toNat < 0x80) : upperChar c = [capital c] := (capital_ascii hc).1

theorem capital_capital {c : Char} (hc : c.toNat < 0x80) : capital (capital c) = capital c := (capital_ascii hc).2.1

theorem isBlank_capital {c : Char} (hc : c.toNat < 0x80) : isBlank (capital c) = isBlank c := (capital_ascii hc).2.2.1

theorem isDigit_capital {c : Char} (hc : c.toNat < 0x80) : isDigit (capital c) = isDigit c :=
  (capital_ascii hc).2.2.2.1

theorem capital_lt {c : Char} (hc : c.toNat < 0x80) : (capital c).toNat < 0x80 := (capital_ascii hc).2.2.2.2

theorem upper_append (s t : List Char) : upper (s ++ t) = upper s ++ upper t := List.flatMap_append

theorem upper_eq_map {s : List Char} (h : IsAscii s) : upper s = s.map capital := by
  induction s with
  | nil => rfl
  | cons c s ih =>
    have ih := ih fun d hd => h d (List.mem_cons_of_mem _ hd)
    rw [upper] at ih
    rw [upper, List.flatMap_cons, upperChar_ascii (h c List.mem_cons_self), ih]
    rfl

theorem isAscii_upper {s : List Char} (h : IsAscii s) : IsAscii (upper s) := by
  rw [upper_eq_map h]
  intro c hc
  obtain ⟨d, hd, rfl⟩ := List.mem_map.1 hc
  exact capital_lt (h d hd)

theorem startsUpper_iff {word s : List Char} (h : IsAscii s) :
    startsUpper word s = true ↔ word <+: s.map capital := by
  rw [startsUpper, List.isPrefixOf_iff_prefix, upper_eq_map (h.take _), List.map_take, List.prefix_take_iff]
  exact and_iff_left (Nat.le_refl _)

/-- A word that is found is the capitals of the characters it stands for. -/
theorem eq_of_startsUpper {word s : List Char} (h : IsAscii s) (hword : startsUpper word s = true) :
    word.length ≤ s.length ∧ word = (s.take word.length).map capital := by
  have hprefix := (startsUpper_iff h).1 hword
  refine ⟨by simpa using hprefix.length_le, ?_⟩
  rw [List.map_take]
  exact List.prefix_iff_eq_take.1 hprefix

/-! ## Texts without blanks -/

/-- The text without its blanks. -/
def unspaced (s : List Char) : List Char := s.filter fun c => !isBlank c

@[simp] theorem unspaced_nil : unspaced [] = [] := rfl

@[simp] theorem unspaced_append (s t : List Char) : unspaced (s ++ t) = unspaced s ++ unspaced t :=
  List.filter_append ..

theorem unspaced_of_allBlank {s : List Char} (h : ∀ c ∈ s, isBlank c = true) : unspaced s = [] := by
  rw [unspaced, List.filter_eq_nil_iff]
  intro c hc
  simp [h c hc]

theorem blind_unspaced : Blind unspaced where
  cons b s hb := by simp [unspaced, hb]
  concat b s hb := by simp [unspaced, hb]

end MsxWorkbench.Text
