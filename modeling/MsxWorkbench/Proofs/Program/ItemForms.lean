import MsxWorkbench.Proofs.Program.TokenFormat
import MsxWorkbench.Proofs.Text.Classes
/-
# What an item can be

Reading an item of a body gives one of a few forms (`ItemForm`): a piece without control characters, nothing, a
string, or the sign of a remark. Everything about the pieces of a body is derived from that (`readItem_form`).
Nothing can be read only where the file ends inside an operand, and then at most three bytes are left behind the
code (`length_of_readItem_none`).
-/
namespace MsxWorkbench.Program

/-! ## Text without control characters -/

/-- No control character is in a text. -/
def Printed (text : List Char) : Prop := ∀ c ∈ text, ' ' ≤ c

theorem Printed.append {a b : List Char} (ha : Printed a) (hb : Printed b) : Printed (a ++ b) := by
  intro c hc
  rcases List.mem_append.1 hc with hc | hc
  · exact ha c hc
  · exact hb c hc

theorem Printed.of_subset {a b : List Char} (hb : Printed b) (h : ∀ c ∈ a, c ∈ b) : Printed a :=
  fun c hc => hb c (h c hc)

theorem printed_of_all {text : List Char} (h : text.all (' ' ≤ ·) = true) : Printed text := by
  intro c hc
  simpa using List.all_eq_true.1 h c hc

theorem exists_of_mem_toDigits {b : Nat} (hb : 1 < b) (n : Nat) {c : Char} (hc : c ∈ Nat.toDigits b n) :
    ∃ d < b, c = Nat.digitChar d := by
  induction n using Nat.strongRecOn with
  | ind n ih =>
    by_cases hn : n < b
    · rw [Nat.toDigits_of_lt_base hn, List.mem_singleton] at hc
      exact ⟨n, hn, hc⟩
    · rw [Nat.toDigits_of_base_le hb (Nat.le_of_not_lt hn)] at hc
      rcases List.mem_append.1 hc with hc | hc
      · exact ih (n / b) (Nat.div_lt_self (by omega) hb) hc
      · exact ⟨n % b, Nat.mod_lt _ (by omega), List.mem_singleton.1 hc⟩

theorem printed_toDigits {b : Nat} (hb : 1 < b) (hle : b ≤ 16) (n : Nat) : Printed (Nat.toDigits b n) := by
  intro c hc
  obtain ⟨d, hd, rfl⟩ := exists_of_mem_toDigits hb n hc
  exact (by decide : ∀ d < 16, ' ' ≤ Nat.digitChar d) d (by omega)

theorem printed_upperDigits (n : Nat) : Printed (upperDigits 16 n) := by
  intro c hc
  obtain ⟨digit, hdigit, rfl⟩ := List.mem_map.1 hc
  obtain ⟨d, hd, rfl⟩ := exists_of_mem_toDigits (by decide) n hdigit
  exact (by decide : ∀ d < 16, ' ' ≤ (Nat.digitChar d).toUpper) d hd

theorem printed_decimal (n : Nat) : Printed (decimal n) := printed_toDigits (by decide) (by decide) n

theorem mem_of_mem_dropRightWhile {p : Char → Bool} {s : List Char} {c : Char} (h : c ∈ Text.dropRightWhile p s) :
    c ∈ s :=
  List.mem_reverse.1 ((List.dropWhile_suffix p).subset (List.mem_reverse.1 h))

theorem Printed.trimZeros {numeral : List Char} (h : Printed numeral) : Printed (trimZeros numeral) :=
  h.of_subset fun _ hc => mem_of_mem_dropRightWhile (mem_of_mem_dropRightWhile hc)

theorem Printed.insertPoint {mantissa : List Char} (h : Printed mantissa) (position : Int) :
    Printed (insertPoint mantissa position) := by
  have hpoint : Printed ['.'] := printed_of_all (by decide)
  have htake := h.of_subset fun _ hc => List.mem_of_mem_take (i := placeOf mantissa.length position) hc
  have hdrop := h.of_subset fun _ hc => List.mem_of_mem_drop (i := placeOf mantissa.length position) hc
  exact htake.append (hpoint.append hdrop)

theorem Printed.shiftPointRight {mantissa : List Char} (h : Printed mantissa) (shift : Int) :
    Printed (shiftPointRight mantissa shift) := by
  unfold Program.shiftPointRight
  split
  · have hzeros : ∀ n, Printed (List.replicate n '0') := by
      intro n c hc
      rw [List.eq_of_mem_replicate hc]
      decide
    exact (h.append (hzeros _)).append (printed_of_all (by decide))
  · exact h.insertPoint shift

theorem printed_twoDigits (n : Nat) : Printed (twoDigits n) := by
  unfold twoDigits
  split
  · exact Printed.append (a := ['0']) (printed_of_all (by decide)) (printed_decimal n)
  · exact printed_decimal n

theorem printed_digits (k : Constant) : Printed k.digits := by
  have hbyte : ∀ b, Printed (hexByte b) := fun b => (printed_upperDigits _).append (printed_upperDigits _)
  exact ((hbyte _).append (hbyte _)).append (hbyte _)

theorem printed_render (k : Constant) : Printed k.render := by
  have hsign : Printed (if k.negative then ['-'] else []) := by
    split
    · exact printed_of_all (by decide)
    · exact printed_of_all (by decide)
  have hscientific : Printed k.scientific := ((printed_digits k).insertPoint 1).trimZeros
  unfold Constant.render
  dsimp only
  split
  · exact printed_of_all (by decide)
  · split
    · exact ((hsign.append hscientific).append (printed_of_all (by decide))).append (printed_twoDigits _)
    · split
      · have hdigits : Printed (['.', '0'] ++ k.digits) := (printed_of_all (by decide)).append (printed_digits k)
        exact hsign.append hdigits.trimZeros
      · split
        · exact hsign.append ((printed_digits k).shiftPointRight _).trimZeros
        · exact ((hsign.append hscientific).append (printed_of_all (by decide))).append (printed_twoDigits _)

theorem printed_unknownByte (b : UInt8) : Printed (unknownByte b) := by
  have hdash : Printed ['-'] := printed_of_all (by decide)
  exact (hdash.append (printed_decimal _)).append hdash

theorem exists_of_wordAt? {words : List String} {code : UInt8} {w : String} (h : wordAt? words code = some w) :
    ∃ i : Fin words.length, code = wordCode i ∧ w = words.get i := by
  unfold wordAt? at h
  split at h
  · rename_i hcode
    obtain ⟨hlt, hget⟩ := List.getElem?_eq_some_iff.1 h
    refine ⟨⟨code.toNat - 0x81, hlt⟩, ?_, hget.symm⟩
    have hle : 0x81 ≤ code.toNat := UInt8.le_iff_toNat_le.1 hcode
    rw [wordCode, Nat.add_sub_cancel' hle, UInt8.ofNat_toNat]
  · cases h

theorem printed_word {w : String} (h : w ∈ reservedWords) : Printed w.toList := by
  have hall : reservedWords.all (fun w => w.toList.all (' ' ≤ ·)) = true := by decide +kernel
  exact printed_of_all (List.all_eq_true.1 hall w h)

/-! ## Strings -/

/-- Whether a body ends here: at a zero byte or at the end of the file. -/
def AtBodyEnd (bytes : List UInt8) : Prop := bytes = [] ∨ bytes.head? = some 0

theorem readString_suffix (bytes : List UInt8) : (readString bytes).2 <:+ bytes := by
  induction bytes with
  | nil => exact List.suffix_refl _
  | cons b rest ih =>
    unfold readString
    split
    · exact List.suffix_cons b rest
    · split
      · exact List.suffix_cons b rest
      · exact ih.trans (List.suffix_cons b rest)

/-- A string ends with a quote, unless the body ends behind it. -/
theorem readString_last (bytes : List UInt8) :
    AtBodyEnd (readString bytes).2 ∨ (readString bytes).1.getLast? = some '"' := by
  induction bytes with
  | nil => exact .inl (.inl rfl)
  | cons b rest ih =>
    unfold readString
    split
    · rename_i hquote
      right
      rw [hquote]
      rfl
    · split
      · rename_i hzero
        exact .inl (.inr hzero)
      · refine ih.imp_right fun h => ?_
        rw [List.getLast?_cons, h]
        rfl

/-! ## The forms of an item -/

/-- What an item that starts with the byte `b` can be. -/
inductive ItemForm (b : UInt8) (rest : List UInt8) : Item → Prop where
  | piece {kind : Kind} {text : List Char} {after : List UInt8}
      (hkind : kind = .plain ∨ kind = .number ∨ kind = .function ∨ kind = .command ∧ 0x80 ≤ b)
      (htext : Printed text) (hafter : after <:+ rest) : ItemForm b rest (.piece kind text after)
  | silent {after : List UInt8} (hafter : after <:+ rest) : ItemForm b rest ⟨[], false, after⟩
  | string : ItemForm b rest (.piece .string ('"' :: (readString rest).1) (readString rest).2)
  | rem (hb : b = 0x8F) : ItemForm b rest ⟨[⟨.command, "REM".toList⟩], true, rest⟩
  | apostrophe (hb : b = 0xE6) : ItemForm b rest ⟨[⟨.comment, "'".toList⟩], true, rest⟩

theorem readWord_form {show' : Nat → List Char} {b : UInt8} {rest : List UInt8} {i : Item}
    (hshow : ∀ n, Printed (show' n)) (h : readWord show' rest = some i) : ItemForm b rest i := by
  rcases rest with _ | ⟨low, _ | ⟨high, rest⟩⟩
  · cases h
  · cases h
  · cases h
    exact .piece (.inr (.inl rfl)) (hshow _) ⟨[low, high], rfl⟩

theorem readColon_form (b : UInt8) (rest : List UInt8) : ItemForm b rest (readColon rest) := by
  have hcolon : Printed [':'] := printed_of_all (by decide)
  cases rest with
  | nil => exact .piece (.inl rfl) hcolon (List.suffix_refl _)
  | cons next rest =>
    rw [readColon]
    split
    · exact .silent (List.suffix_cons next rest)
    · split
      · exact .silent (List.suffix_refl _)
      · exact .piece (.inl rfl) hcolon (List.suffix_refl _)

theorem readFunction_form (b : UInt8) (rest : List UInt8) : ItemForm b rest (readFunction rest) := by
  cases rest with
  | nil => exact .silent (List.suffix_refl _)
  | cons code rest =>
    cases hword : functionWord? code with
    | none =>
      simp only [readFunction, hword]
      exact .piece (.inl rfl) (printed_unknownByte _) (List.suffix_cons code rest)
    | some w =>
      obtain ⟨i, -, rfl⟩ := exists_of_wordAt? hword
      simp only [readFunction, hword]
      exact .piece (.inr (.inr (.inl rfl))) (printed_word (List.mem_append_right _ (List.get_mem _ i)))
        (List.suffix_cons code rest)

theorem readReserved_form {b : UInt8} (hb : 0x80 ≤ b) (rest : List UInt8) : ItemForm b rest (readReserved b rest) := by
  unfold readReserved
  cases hword : statementWord? b with
  | none => exact .piece (.inl rfl) (printed_unknownByte _) (List.suffix_refl _)
  | some w =>
    obtain ⟨i, rfl, rfl⟩ := exists_of_wordAt? hword
    dsimp only
    split
    · rename_i hrem
      rw [hrem]
      exact .rem ((code_of_remark i).1 hrem)
    · split
      · rename_i hquote
        rw [hquote]
        exact .apostrophe ((code_of_remark i).2 hquote)
      · exact .piece (.inr (.inr (.inr ⟨rfl, hb⟩))) (printed_word (List.mem_append_left _ (List.get_mem _ i)))
          (List.suffix_refl _)

/-- The bytes that introduce reserved words, characters and constants with a point. -/
theorem lead_byte (b : UInt8) : (Lead.of b = .reserved → 0x80 ≤ b) ∧ (Lead.of b = .character → 0x20 ≤ b) ∧
    (Lead.of b = .single → b = 0x1D) := by
  have hall : ∀ n < 256, (Lead.of (UInt8.ofNat n) = .reserved → 0x80 ≤ UInt8.ofNat n) ∧
      (Lead.of (UInt8.ofNat n) = .character → 0x20 ≤ UInt8.ofNat n) ∧
      (Lead.of (UInt8.ofNat n) = .single → UInt8.ofNat n = 0x1D) := by
    decide +kernel
  have hbyte := hall b.toNat b.toNat_lt
  rwa [UInt8.ofNat_toNat] at hbyte

theorem printed_charOf {b : UInt8} (h : 0x20 ≤ b) : Printed [charOf b] := by
  intro c hc
  obtain rfl := List.mem_singleton.1 hc
  have hlt := b.toNat_lt
  have hcode : (charOf b).toNat = b.toNat := Text.toNat_ofNat_of_lt (by omega)
  have hle : ' '.toNat ≤ (charOf b).toNat := hcode ▸ UInt8.le_iff_toNat_le.1 h
  exact UInt32.le_iff_toNat_le.2 hle

/-- An item that is read has one of the forms. -/
theorem readItem_form {b : UInt8} {rest : List UInt8} {i : Item} (h : readItem b rest = some i) :
    ItemForm b rest i := by
  unfold readItem at h
  cases hlead : Lead.of b with
  | octal =>
    simp only [hlead] at h
    refine readWord_form (fun n => ?_) h
    exact Printed.append (a := ['&', 'O']) (printed_of_all (by decide)) (printed_toDigits (by decide) (by decide) n)
  | hexadecimal =>
    simp only [hlead] at h
    refine readWord_form (fun n => ?_) h
    exact Printed.append (a := ['&', 'H']) (printed_of_all (by decide)) (printed_upperDigits n)
  | wordNumber =>
    simp only [hlead] at h
    exact readWord_form printed_decimal h
  | byteNumber =>
    simp only [hlead] at h
    split at h
    · rename_i n after
      cases h
      exact .piece (.inr (.inl rfl)) (printed_decimal _) (List.suffix_cons n after)
    · cases h
  | single =>
    simp only [hlead] at h
    split at h
    · rename_i head high mid low after
      cases h
      exact .piece (.inr (.inl rfl)) (printed_render _) ⟨[head, high, mid, low], rfl⟩
    · cases h
  | colon =>
    simp only [hlead, Option.some.injEq] at h
    exact h ▸ readColon_form b rest
  | function =>
    simp only [hlead, Option.some.injEq] at h
    exact h ▸ readFunction_form b rest
  | reserved =>
    simp only [hlead, Option.some.injEq] at h
    exact h ▸ readReserved_form ((lead_byte b).1 hlead) rest
  | quote =>
    simp only [hlead, Option.some.injEq] at h
    exact h ▸ .string
  | character =>
    simp only [hlead, Option.some.injEq] at h
    exact h ▸ .piece (.inl rfl) (printed_charOf ((lead_byte b).2.1 hlead)) (List.suffix_refl _)
  | digit =>
    simp only [hlead, Option.some.injEq] at h
    exact h ▸ .piece (.inr (.inl rfl)) (printed_decimal _) (List.suffix_refl _)
  | ignored =>
    simp only [hlead, Option.some.injEq] at h
    exact h ▸ .silent (List.suffix_refl _)

theorem kind_of_readItem {b : UInt8} {rest : List UInt8} {i : Item} (hi : readItem b rest = some i) :
    ∀ s ∈ i.pieces, s.kind ≠ .lineNumber := by
  cases readItem_form hi with
  | piece hkind htext hafter =>
    refine List.forall_mem_singleton.2 ?_
    rcases hkind with rfl | rfl | rfl | ⟨rfl, -⟩ <;> simp
  | silent hafter => exact fun s hs => absurd hs List.not_mem_nil
  | string => exact List.forall_mem_singleton.2 (by simp)
  | rem hb => exact List.forall_mem_singleton.2 (by decide)
  | apostrophe hb => exact List.forall_mem_singleton.2 (by decide)

/-- Where no item can be read, the file ends inside an operand. Only a constant with a point can have as many as
three bytes of it. -/
theorem length_of_readItem_none {b : UInt8} {rest : List UInt8} (h : readItem b rest = none) :
    rest.length < 3 ∨ rest.length = 3 ∧ b = 0x1D := by
  have hword : ∀ {show' : Nat → List Char}, readWord show' rest = none → rest.length < 3 := by
    intro show' h
    rcases rest with _ | ⟨low, _ | ⟨high, rest⟩⟩
    · decide
    · simp
    · cases h
  unfold readItem at h
  cases hlead : Lead.of b with
  | octal => simp only [hlead] at h; exact .inl (hword h)
  | hexadecimal => simp only [hlead] at h; exact .inl (hword h)
  | wordNumber => simp only [hlead] at h; exact .inl (hword h)
  | byteNumber =>
    simp only [hlead] at h
    cases rest with
    | nil => exact .inl (by decide)
    | cons n rest => cases h
  | single =>
    simp only [hlead] at h
    rcases rest with _ | ⟨a, _ | ⟨b, _ | ⟨c, _ | ⟨d, rest⟩⟩⟩⟩
    · exact .inl (by decide)
    · exact .inl (by simp)
    · exact .inl (by simp)
    · exact .inr ⟨rfl, (lead_byte _).2.2 hlead⟩
    · cases h
  | _ => simp [hlead] at h

/-! ## The end of a body -/

theorem rest_suffix {b : UInt8} {rest : List UInt8} {i : Item} (h : readItem b rest = some i) : i.rest <:+ rest := by
  cases readItem_form h with
  | piece hkind htext hafter => exact hafter
  | silent hafter => exact hafter
  | string => exact readString_suffix rest
  | rem hb => exact List.suffix_refl _
  | apostrophe hb => exact List.suffix_refl _

/-- A body is read up to its end or to an item inside which the file ends. -/
theorem readBody_rest (bytes : List UInt8) : (readBody bytes).2 <:+ bytes ∧
    (AtBodyEnd (readBody bytes).2 ∨ ∃ b rest, (readBody bytes).2 = b :: rest ∧ b ≠ 0 ∧ readItem b rest = none) := by
  fun_induction readBody bytes with
  | case1 => exact ⟨List.suffix_refl _, .inl (.inl rfl)⟩
  | case2 rest => exact ⟨List.suffix_refl _, .inl (.inr rfl)⟩
  | case3 b rest hb hi => exact ⟨List.suffix_refl _, .inr ⟨b, rest, rfl, hb, hi⟩⟩
  | case4 b rest hb i hi hremark =>
    refine ⟨(List.dropWhile_suffix _).trans ((rest_suffix hi).trans (List.suffix_cons b rest)), .inl ?_⟩
    dsimp only
    cases hdrop : i.rest.dropWhile (· != 0) with
    | nil => exact .inl rfl
    | cons c after =>
      have hhead := List.head?_dropWhile_not (· != 0) i.rest
      rw [hdrop] at hhead
      exact .inr (by simpa using hhead)
  | case5 b rest hb i hi hremark line ih =>
    exact ⟨ih.1.trans ((rest_suffix hi).trans (List.suffix_cons b rest)), ih.2⟩

end MsxWorkbench.Program
