import MsxWorkbench.Proofs.Picture.Packing
/-
# The announced bytes of a layout file

A header announces how many packed bytes follow it, and unpacking takes as many tokens. A token is one byte or, for a
counted byte, two, so up to twice the announced bytes are read. `decodeLayout_announced_iff` says for which files the
patterns depend on the announced bytes alone: these fill all patterns, or they are one token each
(`Uncounted`).
-/
namespace MsxWorkbench.Picture

/-! ## Tokens -/

section
variable {counter room : Nat} {raw : UInt8} {data : List UInt8}

@[simp] theorem unpack_zero (room : Nat) (data : List UInt8) : unpack 0 room data = [] := by rw [unpack]

@[simp] theorem unpack_no_room (counter : Nat) (data : List UInt8) : unpack counter 0 data = [] := by
  cases counter <;> rw [unpack]
  simp

@[simp] theorem unpack_nil (counter room : Nat) : unpack counter room [] = [] := by
  cases counter <;> cases room <;> simp [unpack]

theorem unpack_plain (h : isCounted (unpackByte raw) = false) (data : List UInt8) :
    unpack (counter + 1) (room + 1) (raw :: data) = unpackByte raw :: unpack counter room data := by
  simp only [unpack, h, Bool.false_eq_true, if_false]

theorem unpack_uncounted (h : isCounted (unpackByte raw) = true) : unpack counter room [raw] = [] := by
  cases counter <;> cases room <;> simp [unpack, h]

theorem unpack_run (h : isCounted (unpackByte raw) = true) (count : UInt8) (data : List UInt8) :
    unpack (counter + 1) (room + 1) (raw :: count :: data) =
      List.replicate (min count.toNat (room + 1)) (unpackByte raw) ++
        unpack counter (room + 1 - min count.toNat (room + 1)) data := by
  simp only [unpack, h, if_true]

end

/-- Cuts packed bytes at their tokens, while there are tokens to take and room for them. -/
theorem induction_tokens {P : Nat → Nat → List UInt8 → Prop} (zero : ∀ room data, P 0 room data)
    (full : ∀ counter data, P counter 0 data) (nil : ∀ counter room, P (counter + 1) (room + 1) [])
    (plain : ∀ counter room raw data, isCounted (unpackByte raw) = false → P counter room data →
      P (counter + 1) (room + 1) (raw :: data))
    (last : ∀ counter room raw, isCounted (unpackByte raw) = true → P (counter + 1) (room + 1) [raw])
    (run : ∀ counter room raw count data, isCounted (unpackByte raw) = true →
      P counter (room + 1 - min count.toNat (room + 1)) data → P (counter + 1) (room + 1) (raw :: count :: data))
    (counter room : Nat) (data : List UInt8) : P counter room data := by
  induction counter generalizing room data with
  | zero => exact zero room data
  | succ counter ih =>
    cases room with
    | zero => exact full _ data
    | succ room =>
      cases data with
      | nil => exact nil counter room
      | cons raw data =>
        cases hraw : isCounted (unpackByte raw) with
        | false => exact plain counter room raw data hraw (ih room data)
        | true =>
          cases data with
          | nil => exact last counter room raw hraw
          | cons count data => exact run counter room raw count data hraw (ih _ data)

/-! ## Bytes that do not matter -/

/-- Behind two bytes for each token nothing is read. -/
theorem unpack_append_of_le {counter : Nat} {data : List UInt8} (h : 2 * counter ≤ data.length) (room : Nat)
    (more : List UInt8) : unpack counter room (data ++ more) = unpack counter room data := by
  induction counter, room, data using induction_tokens with
  | zero => simp
  | full => simp
  | nil =>
    rw [List.length_nil] at h
    omega
  | plain counter room raw data hraw ih =>
    rw [List.length_cons] at h
    rw [List.cons_append, unpack_plain hraw, unpack_plain hraw, ih (by omega)]
  | last counter room raw =>
    rw [List.length_singleton] at h
    omega
  | run counter room raw count data hraw ih =>
    simp only [List.length_cons] at h
    rw [List.cons_append, List.cons_append, unpack_run hraw, unpack_run hraw, ih (by omega)]

/-- Behind bytes that fill all room nothing is read. -/
theorem unpack_append_of_full {counter room : Nat} {data : List UInt8} (h : (unpack counter room data).length = room)
    (more : List UInt8) : unpack counter room (data ++ more) = unpack counter room data := by
  induction counter, room, data using induction_tokens with
  | zero => simp
  | full => simp
  | nil => simp at h
  | plain counter room raw data hraw ih =>
    rw [unpack_plain hraw, List.length_cons] at h
    rw [List.cons_append, unpack_plain hraw, unpack_plain hraw, ih (by omega)]
  | last counter room raw hraw => simp [unpack_uncounted hraw] at h
  | run counter room raw count data hraw ih =>
    rw [unpack_run hraw, List.length_append, List.length_replicate] at h
    rw [List.cons_append, List.cons_append, unpack_run hraw, unpack_run hraw, ih (by omega)]

/-- The bytes unpacked, filled up with zeros. -/
def filled (room : Nat) (out : List UInt8) : List UInt8 := out ++ List.replicate (room - out.length) 0

theorem filled_nil (room : Nat) : filled room [] = List.replicate room 0 := rfl

theorem filled_cons (room : Nat) (v : UInt8) (out : List UInt8) :
    filled (room + 1) (v :: out) = v :: filled room out := by
  rw [filled, filled, List.length_cons, Nat.add_sub_add_right, List.cons_append]

theorem filled_run (room m : Nat) (v : UInt8) (out : List UInt8) :
    filled room (List.replicate m v ++ out) = List.replicate m v ++ filled (room - m) out := by
  rw [filled, filled, List.length_append, List.length_replicate, List.append_assoc, Nat.sub_sub]

/-- Packed bytes that are one token each, as none but the last is a counted one; the count behind the last does not matter
if that byte stands for zero. -/
def Uncounted (data : List UInt8) : Prop :=
  (∀ b ∈ data.dropLast, isCounted (unpackByte b) = false) ∧ ∀ b ∈ data.getLast?, unpackByte b ≠ 0xFF

theorem uncounted_cons {raw : UInt8} {data : List UInt8} (hraw : isCounted (unpackByte raw) = false) :
    Uncounted (raw :: data) ↔ Uncounted data := by
  cases data with
  | nil =>
    have hne : unpackByte raw ≠ 0xFF := by
      intro heq
      rw [heq] at hraw
      cases hraw
    simp [Uncounted, hne]
  | cons b data => simp [Uncounted, hraw]

/-- Of packed bytes that are one token each, the patterns do not depend on what is behind them. -/
theorem Uncounted.filled_unpack {data : List UInt8} (h : Uncounted data) (room : Nat) (more : List UInt8) :
    filled room (unpack data.length room (data ++ more)) = filled room (unpack data.length room data) := by
  induction data generalizing room with
  | nil => simp
  | cons raw data ih =>
    cases room with
    | zero => simp
    | succ room =>
      rw [List.cons_append, List.length_cons]
      cases hraw : isCounted (unpackByte raw) with
      | false => rw [unpack_plain hraw, unpack_plain hraw, filled_cons, filled_cons, ih ((uncounted_cons hraw).1 h)]
      | true =>
        -- a counted byte is the last one and stands for zero, which is what the patterns are filled up with
        have hdata : data = [] := by
          cases data with
          | nil => rfl
          | cons b data =>
            have hplain := h.1 raw (by simp)
            rw [hraw] at hplain
            cases hplain
        subst hdata
        have hzero : unpackByte raw = 0 := by
          have hne := h.2 raw (by simp)
          simpa [isCounted, hne] using hraw
        rw [unpack_uncounted hraw, filled_nil]
        cases more with
        | nil => rw [List.nil_append, unpack_uncounted hraw, filled_nil]
        | cons count more =>
          rw [List.nil_append, List.length_nil, unpack_run hraw, unpack_zero, filled_run, filled_nil, hzero,
            List.replicate_append_replicate]
          congr 1
          omega

/-! ## Bytes that matter -/

/-- If a token is left to be taken and there is room, the byte behind matters. -/
theorem filled_unpack_ne {counter room : Nat} :
    filled (room + 1) (unpack (counter + 1) (room + 1) [0x9A]) ≠ filled (room + 1) [] := by
  rw [unpack_plain (by decide), filled_cons, filled_nil, List.replicate_succ]
  intro h
  exact absurd (List.cons.inj h).1 (by decide)

/-- Otherwise there are bytes behind them that matter. -/
theorem exists_filled_unpack_ne {counter room : Nat} {data : List UInt8} (hcounter : data.length ≤ counter)
    (hroom : (unpack counter room data).length < room) (hdata : counter = data.length → ¬ Uncounted data) :
    ∃ more, filled room (unpack counter room (data ++ more)) ≠ filled room (unpack counter room data) := by
  induction counter, room, data using induction_tokens with
  | zero room data =>
    obtain rfl := List.eq_nil_of_length_eq_zero (Nat.le_zero.1 hcounter)
    exact absurd (by simp [Uncounted]) (hdata rfl)
  | full => simp at hroom
  | nil counter room =>
    refine ⟨[0x9A], ?_⟩
    rw [List.nil_append, unpack_nil]
    exact filled_unpack_ne
  | plain counter room raw data hraw ih =>
    rw [List.length_cons] at hcounter
    rw [unpack_plain hraw, List.length_cons] at hroom
    obtain ⟨more, hne⟩ := ih (by omega) (by omega) fun heq => by
      rw [← uncounted_cons hraw]
      exact hdata (by rw [heq, List.length_cons])
    refine ⟨more, ?_⟩
    rw [List.cons_append, unpack_plain hraw, unpack_plain hraw, filled_cons, filled_cons]
    exact fun h => hne (List.cons.inj h).2
  | last counter room raw hraw =>
    rw [unpack_uncounted hraw]
    by_cases hzero : unpackByte raw = 0
    · -- behind a count of zero the next token counts, and there is one
      cases counter with
      | zero => exact absurd (by simp [Uncounted, hzero]) (hdata rfl)
      | succ counter =>
        refine ⟨[0, 0x9A], ?_⟩
        rw [List.singleton_append, unpack_run hraw]
        simpa using filled_unpack_ne
    · refine ⟨[1], ?_⟩
      rw [List.singleton_append, unpack_run hraw, unpack_nil, filled_run, filled_nil, filled_nil,
        show min (1 : UInt8).toNat (room + 1) = 1 from Nat.min_eq_left (Nat.succ_pos room), List.replicate_succ (n := room)]
      exact fun h => hzero (List.cons.inj h).1
  | run counter room raw count data hraw ih =>
    simp only [List.length_cons] at hcounter
    rw [unpack_run hraw, List.length_append, List.length_replicate] at hroom
    obtain ⟨more, hne⟩ := ih (by omega) (by omega) fun heq => by omega
    refine ⟨more, ?_⟩
    rw [List.cons_append, List.cons_append, unpack_run hraw, unpack_run hraw, filled_run, filled_run]
    exact fun h => hne (List.append_cancel_left h)

/-- What is behind packed bytes, as many as there are tokens to take, does not matter exactly if they fill all room or are
one token each. -/
theorem forall_filled_unpack_iff (room : Nat) (data : List UInt8) :
    (∀ more, filled room (unpack data.length room (data ++ more)) = filled room (unpack data.length room data)) ↔
      (unpack data.length room data).length = room ∨ Uncounted data := by
  constructor
  · intro h
    refine Decidable.or_iff_not_imp_left.2 fun hfull => Classical.byContradiction fun hdata => ?_
    have hroom := Nat.lt_of_le_of_ne (length_unpack_le data.length room data) hfull
    obtain ⟨more, hne⟩ := exists_filled_unpack_ne (Nat.le_refl _) hroom fun _ => hdata
    exact hne (h more)
  · rintro (hfull | hdata) more
    · rw [unpack_append_of_full hfull]
    · exact hdata.filled_unpack room more

/-! ## Layout files -/

theorem decodeLayout_append {header : List UInt8} (h : header.length = 7) (data : List UInt8) :
    decodeLayout (header ++ data) =
      .ok (filled patternBytes (unpack (packedCount (header.getD 3 0) (header.getD 4 0)) patternBytes data)) := by
  rcases header with _ | ⟨a, _ | ⟨b, _ | ⟨c, _ | ⟨low, _ | ⟨high, _ | ⟨d, _ | ⟨e, _ | ⟨f, header⟩⟩⟩⟩⟩⟩⟩⟩
  all_goals first
    | (simp at h; done)
    | rfl

section
variable {file other : List UInt8} {n m : Nat}

theorem decodeLayout_take_append (hlength : 7 ≤ file.length)
    (hn : 256 * (file.getD 4 0).toNat + (file.getD 3 0).toNat + 1 = 0x9200 + n) (data : List UInt8) :
    decodeLayout (file.take 7 ++ data) = .ok (filled patternBytes (unpack n patternBytes data)) := by
  have hheader : (file.take 7).length = 7 := by rw [List.length_take, Nat.min_eq_left hlength]
  have hget : ∀ i < 7, (file.take 7).getD i 0 = file.getD i 0 := by
    intro i hi
    rw [List.getD_eq_getElem?_getD, List.getD_eq_getElem?_getD, List.getElem?_take_of_lt hi]
  have hcount : packedCount ((file.take 7).getD 3 0) ((file.take 7).getD 4 0) = n := by
    rw [hget 3 (by decide), hget 4 (by decide)]
    unfold packedCount
    omega
  rw [decodeLayout_append hheader, hcount]

/-- A file that agrees with another up to a place behind its end is that file. -/
theorem eq_of_take_eq (hshort : file.length < m) (h : other.take m = file.take m) : other = file := by
  have hsize := congrArg List.length h
  rw [List.length_take, List.length_take] at hsize
  rwa [List.take_of_length_le (by omega), List.take_of_length_le (by omega)] at h

/-- Files that agree up to a place behind which nothing matters are unpacked to the same patterns. -/
theorem decodeLayout_of_take_eq (hlength : 7 ≤ file.length)
    (hn : 256 * (file.getD 4 0).toNat + (file.getD 3 0).toNat + 1 = 0x9200 + n)
    (h : ∀ more, filled patternBytes (unpack n patternBytes ((file.drop 7).take m ++ more)) =
      filled patternBytes (unpack n patternBytes ((file.drop 7).take m)))
    (hother : other.take (7 + m) = file.take (7 + m)) : decodeLayout other = decodeLayout file := by
  have hdecode : ∀ f : List UInt8, f.take (7 + m) = file.take (7 + m) →
      decodeLayout f = .ok (filled patternBytes (unpack n patternBytes ((file.drop 7).take m))) := by
    intro f hf
    have hparts : f = file.take 7 ++ ((file.drop 7).take m ++ f.drop (7 + m)) := by
      rw [← List.append_assoc, ← List.take_add, ← hf, List.take_append_drop]
    rw [hparts, decodeLayout_take_append hlength hn, h]
  rw [hdecode other hother, hdecode file rfl]

end

/-- **What a layout file is unpacked from.** Bytes behind twice the announced ones never matter. Those behind the announced
ones do not exactly if there are none, if the announced bytes fill all patterns, or if they are one token each. -/
theorem decodeLayout_announced_iff (file : List UInt8) (n : Nat) (hlength : 7 ≤ file.length)
    (hn : 256 * (file.getD 4 0).toNat + (file.getD 3 0).toNat + 1 = 0x9200 + n) :
    (∀ other, other.take (7 + 2 * n) = file.take (7 + 2 * n) → decodeLayout other = decodeLayout file) ∧
      ((∀ other, other.take (7 + n) = file.take (7 + n) → decodeLayout other = decodeLayout file) ↔
        file.length < 7 + n ∨ (unpack n patternBytes ((file.drop 7).take n)).length = patternBytes ∨
          Uncounted ((file.drop 7).take n)) := by
  have hdata : ∀ m, ¬ file.length < 7 + m → ((file.drop 7).take m).length = m := by
    intro m hlong
    rw [List.length_take, List.length_drop]
    omega
  constructor
  · intro other hother
    by_cases hshort : file.length < 7 + 2 * n
    · rw [eq_of_take_eq hshort hother]
    · refine decodeLayout_of_take_eq hlength hn (fun more => ?_) hother
      rw [unpack_append_of_le (Nat.le_of_eq (hdata _ hshort).symm)]
  · by_cases hshort : file.length < 7 + n
    · exact iff_of_true (fun other hother => by rw [eq_of_take_eq hshort hother]) (.inl hshort)
    · have hiff := forall_filled_unpack_iff patternBytes ((file.drop 7).take n)
      rw [hdata n hshort] at hiff
      rw [or_iff_right hshort, ← hiff]
      constructor
      · -- all files that go on in some way behind the announced bytes are unpacked to the same patterns
        intro hsame more
        have hagree : ∀ x, decodeLayout (file.take 7 ++ ((file.drop 7).take n ++ x)) = decodeLayout file := by
          intro x
          refine hsame _ ?_
          rw [← List.append_assoc, ← List.take_add, List.take_left' (by rw [List.length_take]; omega)]
        have hboth := (hagree more).trans (hagree []).symm
        rw [decodeLayout_take_append hlength hn, decodeLayout_take_append hlength hn, List.append_nil] at hboth
        exact Except.ok.inj hboth
      · intro hfilled other hother
        exact decodeLayout_of_take_eq hlength hn hfilled hother

/-- A file with three announced bytes, the last of which stands for zero. -/
def zeroFile (rest : List UInt8) : List UInt8 := [0, 0, 0, 2, 0x92, 0, 0, 0x9A, 0x9B, 0x99] ++ rest

theorem decodeLayout_announced_zero :
    (zeroFile [5]).take (7 + 3) = (zeroFile [7, 7]).take (7 + 3) ∧
      decodeLayout (zeroFile [5]) = decodeLayout (zeroFile [7, 7]) := by
  have hlast : Uncounted [0x99] := ⟨by simp, fun b hb => by rw [← Option.some.inj hb]; decide⟩
  have huncounted : Uncounted [0x9A, 0x9B, 0x99] :=
    (uncounted_cons (by decide)).2 ((uncounted_cons (by decide)).2 hlast)
  have hiff := (decodeLayout_announced_iff (zeroFile [7, 7]) 3 (by decide) (by decide)).2
  exact ⟨rfl, hiff.2 (.inr (.inr huncounted)) _ rfl⟩

/-- A file with one announced byte, which stands for 0xFF, and a count behind it. -/
def countedFile (count : UInt8) : List UInt8 := [0, 0, 0, 0, 0x92, 0, 0, 0x98, count]

/-- The count is behind the announced byte and matters. -/
theorem decodeLayout_countedFile :
    256 * ((countedFile 5).getD 4 0).toNat + ((countedFile 5).getD 3 0).toNat + 1 = 0x9200 + 1 ∧
      (countedFile 3).take (7 + 1) = (countedFile 5).take (7 + 1) ∧
        decodeLayout (countedFile 3) ≠ decodeLayout (countedFile 5) := by
  refine ⟨by decide, rfl, fun h => ?_⟩
  have hpatterns := congrArg (fun out => out.getD 3 0) (Except.ok.inj h)
  revert hpatterns
  decide

end MsxWorkbench.Picture
