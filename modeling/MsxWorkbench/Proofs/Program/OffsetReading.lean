import MsxWorkbench.Proofs.Program.TokenFormat
/-
# Reading a program by offsets

The reading of a tokenised program as a walk over the file: a state is an offset and what has been found so far,
and a step is one round of the loop over lines, over the items of a body or over the characters of a string. A
step asks for bytes by their offset, and asking for one outside the file is an error (`OutsideFile`).

A step never asks outside the file, it brings the walk closer to its end, and it keeps what the whole reading will
have found (`step_follows`). So the walk ends, and it ends with the listing (`exists_run`), whatever the bytes are.
-/
namespace MsxWorkbench.Program

/-! ## The walk -/

/-- A byte was asked for at an offset outside the file. -/
structure OutsideFile where
  offset : Nat
deriving DecidableEq, Repr

/-- The byte at an offset. -/
def byteAt (file : List UInt8) (offset : Nat) : Except OutsideFile UInt8 :=
  match file[offset]? with
  | some b => .ok b
  | none => .error ⟨offset⟩

/-- Which loop the walk is in. -/
inductive Phase where
  /-- The loop over lines. -/
  | line
  /-- The loop over a body, in a remark or not. -/
  | body (remark : Bool)
  /-- The loop over a string, which has some text already. -/
  | string (text : List Char)
  /-- Behind a body. -/
  | lineEnd
  | done
deriving DecidableEq, Repr

/-- How many steps a walk may take, the last one included, before it moves on or ends. -/
def Phase.rank : Phase → Nat
  | .done => 0
  | .line => 1
  | .lineEnd => 2
  | .body _ => 3
  | .string _ => 4

/-- A state of the walk. -/
structure Walk where
  phase : Phase
  offset : Nat
  /-- The pieces found so far. -/
  found : List Segment
deriving DecidableEq, Repr

namespace Walk

/-- The walk some bytes further, with more pieces. -/
def go (w : Walk) (phase : Phase) (size : Nat) (pieces : List Segment) : Walk :=
  ⟨phase, w.offset + size, w.found ++ pieces⟩

/-- A line starts with a link word and a line number, or there is none. -/
def stepLine (file : List UInt8) (w : Walk) : Except OutsideFile Walk :=
  if file.length < w.offset + 4 then .ok (w.go .done 0 [])
  else do
    let low ← byteAt file (w.offset + 2)
    let high ← byteAt file (w.offset + 3)
    return w.go (.body false) 4 [⟨.lineNumber, decimal (word low high)⟩, ⟨.plain, [' ']⟩]

/-- A constant whose operand is a word. -/
def stepWord (show' : Nat → List Char) (file : List UInt8) (w : Walk) : Except OutsideFile Walk :=
  if file.length ≤ w.offset + 2 then .ok (w.go .lineEnd 0 [])
  else do
    let low ← byteAt file (w.offset + 1)
    let high ← byteAt file (w.offset + 2)
    return w.go (.body false) 3 [⟨.number, show' (word low high)⟩]

/-- A constant whose operand is a byte. -/
def stepByte (file : List UInt8) (w : Walk) : Except OutsideFile Walk :=
  if file.length ≤ w.offset + 1 then .ok (w.go .lineEnd 0 [])
  else do
    let n ← byteAt file (w.offset + 1)
    return w.go (.body false) 2 [⟨.number, decimal n.toNat⟩]

/-- A constant with a point. -/
def stepSingle (file : List UInt8) (w : Walk) : Except OutsideFile Walk :=
  if file.length ≤ w.offset + 4 then .ok (w.go .lineEnd 0 [])
  else .ok (w.go (.body false) 5 [⟨.number, renderConstant ((file.drop (w.offset + 1)).take 4)⟩])

/-- A colon, which is not shown before ELSE and which hides REM. -/
def stepColon (file : List UInt8) (w : Walk) : Except OutsideFile Walk :=
  if w.offset + 1 < file.length then do
    let next ← byteAt file (w.offset + 1)
    if next = 0x8F then return w.go (.body false) 2 []
    else if next = 0xA1 then return w.go (.body false) 1 []
    else return w.go (.body false) 1 [⟨.plain, [':']⟩]
  else .ok (w.go (.body false) 1 [⟨.plain, [':']⟩])

/-- A built-in function. At the end of the file the walk leaves the file by one. -/
def stepFunction (file : List UInt8) (w : Walk) : Except OutsideFile Walk :=
  if w.offset + 1 < file.length then do
    let code ← byteAt file (w.offset + 1)
    match functionWord? code with
    | some name => return w.go (.body false) 2 [⟨.function, name.toList⟩]
    | none => return w.go (.body false) 2 [⟨.plain, unknownByte code⟩]
  else .ok (w.go (.body false) 2 [])

/-- A reserved word; two of them start a remark. -/
def stepReserved (token : UInt8) (w : Walk) : Walk :=
  match statementWord? token with
  | none => w.go (.body false) 1 [⟨.plain, unknownByte token⟩]
  | some name =>
    if name = "REM" then w.go (.body true) 1 [⟨.command, name.toList⟩]
    else if name = "'" then w.go (.body true) 1 [⟨.comment, name.toList⟩]
    else w.go (.body false) 1 [⟨.command, name.toList⟩]

/-- An item of a body that starts with the byte `token`. -/
def stepItem (file : List UInt8) (token : UInt8) (w : Walk) : Except OutsideFile Walk :=
  match Lead.of token with
  | .octal => stepWord (fun n => '&' :: 'O' :: Nat.toDigits 8 n) file w
  | .hexadecimal => stepWord (fun n => '&' :: 'H' :: upperDigits 16 n) file w
  | .wordNumber => stepWord decimal file w
  | .byteNumber => stepByte file w
  | .single => stepSingle file w
  | .colon => stepColon file w
  | .function => stepFunction file w
  | .reserved => .ok (stepReserved token w)
  | .quote => .ok (w.go (.string ['"']) 1 [])
  | .character => .ok (w.go (.body false) 1 [⟨.plain, [charOf token]⟩])
  | .digit => .ok (w.go (.body false) 1 [⟨.number, decimal (token.toNat - 17)⟩])
  | .ignored => .ok (w.go (.body false) 1 [])

/-- One round of the loop over a body. -/
def stepBody (remark : Bool) (file : List UInt8) (w : Walk) : Except OutsideFile Walk :=
  if w.offset < file.length then do
    let token ← byteAt file w.offset
    if token = 0 then return w.go .lineEnd 0 []
    else if remark then return w.go (.body true) 1 [⟨.comment, remarkText token⟩]
    else stepItem file token w
  else .ok (w.go .lineEnd 0 [])

/-- Whether the byte at an offset is there and is zero. -/
def zeroAt (file : List UInt8) (offset : Nat) : Except OutsideFile Bool :=
  if offset < file.length then do
    let b ← byteAt file offset
    return b == 0
  else .ok false

/-- One round of the loop over a string. It ends behind the closing quote or before a zero byte; at the end of the
file the walk leaves the file by one. -/
def stepString (text : List Char) (file : List UInt8) (w : Walk) : Except OutsideFile Walk :=
  if w.offset < file.length then do
    let token ← byteAt file w.offset
    let text := text ++ [charOf token]
    if token = 34 then return w.go (.body false) 1 [⟨.string, text⟩]
    else if ← zeroAt file (w.offset + 1) then return w.go (.body false) 1 [⟨.string, text⟩]
    else return w.go (.string text) 1 []
  else .ok (w.go (.body false) 1 [⟨.string, text⟩])

/-- A zero byte at the end of a line is a line break. -/
def endLine (file : List UInt8) (w : Walk) : Except OutsideFile Walk := do
  if ← zeroAt file w.offset then return w.go .lineEnd 1 [⟨.plain, ['\n']⟩]
  else return w

/-- Behind a line two zero bytes end the program. -/
def stepLineEnd (file : List UInt8) (w : Walk) : Except OutsideFile Walk := do
  let w ← w.endLine file
  if w.offset + 1 < file.length then
    let first ← byteAt file w.offset
    let second ← byteAt file (w.offset + 1)
    if first = 0 ∧ second = 0 then return w.go .done 0 []
    else return w.go .line 0 []
  else return w.go .line 0 []

/-- One step of the walk. -/
def step (file : List UInt8) (w : Walk) : Except OutsideFile Walk :=
  match w.phase with
  | .line => w.stepLine file
  | .body remark => w.stepBody remark file
  | .string text => w.stepString text file
  | .lineEnd => w.stepLineEnd file
  | .done => .ok w

/-- Some steps of the walk, up to the first that asks for a byte outside the file. -/
def run (file : List UInt8) : Nat → Walk → Except OutsideFile Walk
  | 0, w => .ok w
  | n + 1, w => w.step file >>= run file n

/-- The walk starts behind the byte 0xFF. -/
def start : Walk := ⟨.line, 1, []⟩

/-! ## What the walk will find -/

/-- The pieces from the end of a body on. -/
def fromEnd (bytes : List UInt8) : List Segment :=
  (Program.endLine bytes).1 ++
    if atEndMark (Program.endLine bytes).2 then [] else readLines (Program.endLine bytes).2

/-- The pieces from a place in a body on. -/
def fromBody (bytes : List UInt8) : List Segment := (readBody bytes).1 ++ fromEnd (readBody bytes).2

/-- The pieces that are still to be found. -/
def toCome (file : List UInt8) (w : Walk) : List Segment :=
  let bytes := file.drop w.offset
  match w.phase with
  | .line => readLines bytes
  | .body false => fromBody bytes
  | .body true =>
    ⟨.comment, (bytes.takeWhile (· != 0)).flatMap remarkText⟩ :: fromEnd (bytes.dropWhile (· != 0))
  | .string text => ⟨.string, text ++ (readString bytes).1⟩ :: fromBody (readString bytes).2
  | .lineEnd => fromEnd bytes
  | .done => []

/-- The listing that the walk leads to. -/
def listing (file : List UInt8) (w : Walk) : List Segment := Segment.join (w.found ++ w.toCome file)

/-- How many steps the walk may still take. -/
def left (file : List UInt8) (w : Walk) : Nat := 4 * (file.length - w.offset) + w.phase.rank

/-- What a step does: it comes closer to the end and keeps the listing. -/
structure Follows (file : List UInt8) (w v : Walk) : Prop where
  left_lt : v.left file < w.left file
  listing_eq : v.listing file = w.listing file

theorem byteAt_of_lt {file : List UInt8} {offset : Nat} (h : offset < file.length) :
    ∃ b, byteAt file offset = .ok b ∧ file.drop offset = b :: file.drop (offset + 1) := by
  refine ⟨file[offset], ?_, List.drop_eq_getElem_cons h⟩
  simp [byteAt, h]

/-- Two neighbours of one kind are as good as one piece. -/
theorem join_cons_cons (kind : Kind) (a b : List Char) (pieces : List Segment) :
    Segment.join (⟨kind, a⟩ :: ⟨kind, b⟩ :: pieces) = Segment.join (⟨kind, a ++ b⟩ :: pieces) :=
  Segment.join_eq_join_iff.2 (by simp)

theorem join_append_congr (front : List Segment) {a b : List Segment} (h : Segment.join a = Segment.join b) :
    Segment.join (front ++ a) = Segment.join (front ++ b) := by
  rw [Segment.join_eq_join_iff] at h ⊢
  rw [Segment.coloured_append, Segment.coloured_append, h]

section
variable {file : List UInt8} {w : Walk} {token : UInt8} {i : Item}

/-- A step that goes on with `go` follows if the pieces it adds are the first of those to come. -/
theorem Follows.of_go {phase : Phase} {size : Nat} {pieces : List Segment}
    (hleft : (w.go phase size pieces).left file < w.left file)
    (hcome : Segment.join (w.toCome file) = Segment.join (pieces ++ (w.go phase size pieces).toCome file)) :
    Follows file w (w.go phase size pieces) := by
  refine ⟨hleft, ?_⟩
  unfold listing
  rw [join_append_congr w.found hcome, ← List.append_assoc]
  rfl

/-! ## Steps in a body -/

/-- The walk is in a body, outside a remark, before an item that starts with the byte `token`. -/
structure AtItem (file : List UInt8) (w : Walk) (token : UInt8) : Prop where
  phase : w.phase = .body false
  lt : w.offset < file.length
  drop : file.drop w.offset = token :: file.drop (w.offset + 1)
  ne_zero : token ≠ 0

/-- An item that was read is passed. -/
theorem AtItem.item {size : Nat} (h : AtItem file w token)
    (hi : readItem token (file.drop (w.offset + 1)) = some i) (hrest : i.rest = file.drop (w.offset + size))
    (hpos : 0 < size) :
    Follows file w (w.go (.body i.remark) size i.pieces) := by
  have hlt := h.lt
  refine .of_go ?_ ?_
  · simp only [left, go, h.phase, Phase.rank]
    omega
  · simp only [toCome, go, h.phase, h.drop, fromBody, readBody_item h.ne_zero hi, hrest]
    cases i.remark <;> simp

/-- A file that ends inside an item ends the body. -/
theorem AtItem.cut (h : AtItem file w token)
    (hi : readItem token (file.drop (w.offset + 1)) = none) : Follows file w (w.go .lineEnd 0 []) := by
  have hlt := h.lt
  refine .of_go ?_ ?_
  · simp only [left, go, h.phase, Phase.rank]
    omega
  · simp only [toCome, go, h.phase, h.drop, fromBody, readBody_none h.ne_zero hi, Nat.add_zero,
      List.nil_append]

/-- The opening quote starts the loop over the string. -/
theorem AtItem.quote (h : AtItem file w token)
    (hlead : Lead.of token = .quote) : Follows file w (w.go (.string ['"']) 1 []) := by
  have hlt := h.lt
  have hitem : readItem token (file.drop (w.offset + 1)) =
      some (.piece .string ('"' :: (readString (file.drop (w.offset + 1))).1)
        (readString (file.drop (w.offset + 1))).2) := by
    simp [readItem, hlead]
  refine .of_go ?_ ?_
  · simp only [left, go, h.phase, Phase.rank]
    omega
  · simp only [toCome, go, h.phase, h.drop, fromBody, readBody_item h.ne_zero hitem]
    simp [Item.piece]

/-- What a step does at an item: it passes the item, or the file ends inside the item, or a string starts. -/
inductive ItemStep (file : List UInt8) (w : Walk) (token : UInt8) : Walk → Prop where
  | item {i : Item} {size : Nat} (hi : readItem token (file.drop (w.offset + 1)) = some i)
      (hrest : i.rest = file.drop (w.offset + size)) (hpos : 0 < size) :
      ItemStep file w token (w.go (.body i.remark) size i.pieces)
  | cut (hi : readItem token (file.drop (w.offset + 1)) = none) : ItemStep file w token (w.go .lineEnd 0 [])
  | quote (hlead : Lead.of token = .quote) : ItemStep file w token (w.go (.string ['"']) 1 [])

theorem AtItem.follows {v : Walk} (h : AtItem file w token) (hv : ItemStep file w token v) : Follows file w v := by
  cases hv with
  | item hi hrest hpos => exact h.item hi hrest hpos
  | cut hi => exact h.cut hi
  | quote hlead => exact h.quote hlead

theorem stepWord_itemStep {show' : Nat → List Char} (hi : ∀ rest, readItem token rest = readWord show' rest) :
    ∃ v, w.stepWord show' file = .ok v ∧ ItemStep file w token v := by
  unfold stepWord
  split
  · rename_i hcut
    refine ⟨_, rfl, .cut ?_⟩
    have hlength : (file.drop (w.offset + 1)).length ≤ 1 := by
      simp only [List.length_drop]
      omega
    rw [hi]
    generalize file.drop (w.offset + 1) = bytes at hlength ⊢
    rcases bytes with _ | ⟨a, _ | ⟨b, rest⟩⟩
    · rfl
    · rfl
    · simp only [List.length_cons] at hlength
      omega
  · rename_i hin
    obtain ⟨low, hlow, hdrop1⟩ := byteAt_of_lt (show w.offset + 1 < file.length by omega)
    obtain ⟨high, hhigh, hdrop2⟩ := byteAt_of_lt (show w.offset + 2 < file.length by omega)
    simp only [hlow, hhigh, bind, Except.bind, pure, Except.pure]
    have hitem : readItem token (file.drop (w.offset + 1)) =
        some (.piece .number (show' (word low high)) (file.drop (w.offset + 3))) := by
      rw [hi, hdrop1, hdrop2]
      rfl
    exact ⟨_, rfl, .item hitem rfl (by omega)⟩

theorem stepByte_itemStep (hlead : Lead.of token = .byteNumber) :
    ∃ v, w.stepByte file = .ok v ∧ ItemStep file w token v := by
  unfold stepByte
  split
  · rename_i hcut
    refine ⟨_, rfl, .cut ?_⟩
    have hnil : file.drop (w.offset + 1) = [] := List.drop_eq_nil_of_le hcut
    simp [readItem, hlead, hnil]
  · rename_i hin
    obtain ⟨n, hn, hdrop1⟩ := byteAt_of_lt (show w.offset + 1 < file.length by omega)
    simp only [hn, bind, Except.bind, pure, Except.pure]
    have hitem : readItem token (file.drop (w.offset + 1)) =
        some (.piece .number (decimal n.toNat) (file.drop (w.offset + 2))) := by
      simp [readItem, hlead, hdrop1]
    exact ⟨_, rfl, .item hitem rfl (by omega)⟩

theorem stepSingle_itemStep (hlead : Lead.of token = .single) :
    ∃ v, w.stepSingle file = .ok v ∧ ItemStep file w token v := by
  unfold stepSingle
  split
  · rename_i hcut
    refine ⟨_, rfl, .cut ?_⟩
    have hlength : (file.drop (w.offset + 1)).length ≤ 3 := by
      simp only [List.length_drop]
      omega
    simp only [readItem, hlead]
    generalize file.drop (w.offset + 1) = bytes at hlength ⊢
    rcases bytes with _ | ⟨a, _ | ⟨b, _ | ⟨c, _ | ⟨d, rest⟩⟩⟩⟩
    · rfl
    · rfl
    · rfl
    · rfl
    · simp only [List.length_cons] at hlength
      omega
  · rename_i hin
    obtain ⟨a, -, hdrop1⟩ := byteAt_of_lt (show w.offset + 1 < file.length by omega)
    obtain ⟨b, -, hdrop2⟩ := byteAt_of_lt (show w.offset + 2 < file.length by omega)
    obtain ⟨c, -, hdrop3⟩ := byteAt_of_lt (show w.offset + 3 < file.length by omega)
    obtain ⟨d, -, hdrop4⟩ := byteAt_of_lt (show w.offset + 4 < file.length by omega)
    have hbytes : file.drop (w.offset + 1) = a :: b :: c :: d :: file.drop (w.offset + 5) := by
      rw [hdrop1, hdrop2, hdrop3, hdrop4]
    have hitem : readItem token (file.drop (w.offset + 1)) =
        some (.piece .number (Constant.mk a b c d).render (file.drop (w.offset + 5))) := by
      simp [readItem, hlead, hbytes]
    rw [hbytes]
    exact ⟨_, rfl, .item hitem rfl (by omega)⟩

theorem stepColon_itemStep (hlead : Lead.of token = .colon) :
    ∃ v, w.stepColon file = .ok v ∧ ItemStep file w token v := by
  have hi : ∀ rest, readItem token rest = some (readColon rest) := by
    intro rest
    simp [readItem, hlead]
  unfold stepColon
  split
  · rename_i hin
    obtain ⟨next, hnext, hdrop1⟩ := byteAt_of_lt hin
    simp only [hnext, bind, Except.bind, pure, Except.pure]
    have hitem := hi (file.drop (w.offset + 1))
    rw [hdrop1, readColon] at hitem
    split
    · rename_i hrem
      rw [if_pos hrem, ← hdrop1] at hitem
      exact ⟨_, rfl, .item hitem rfl (by omega)⟩
    · rename_i hrem
      rw [if_neg hrem] at hitem
      split
      · rename_i helse
        rw [if_pos helse, ← hdrop1] at hitem
        exact ⟨_, rfl, .item hitem rfl (by omega)⟩
      · rename_i helse
        rw [if_neg helse, ← hdrop1] at hitem
        exact ⟨_, rfl, .item hitem rfl (by omega)⟩
  · rename_i hend
    have hnil : file.drop (w.offset + 1) = [] := List.drop_eq_nil_of_le (by omega)
    have hitem := hi (file.drop (w.offset + 1))
    rw [hnil, readColon, ← hnil] at hitem
    exact ⟨_, rfl, .item hitem rfl (by omega)⟩

theorem stepFunction_itemStep (hlead : Lead.of token = .function) :
    ∃ v, w.stepFunction file = .ok v ∧ ItemStep file w token v := by
  have hi : ∀ rest, readItem token rest = some (readFunction rest) := by
    intro rest
    simp [readItem, hlead]
  unfold stepFunction
  split
  · rename_i hin
    obtain ⟨code, hcode, hdrop1⟩ := byteAt_of_lt hin
    simp only [hcode, bind, Except.bind, pure, Except.pure]
    have hitem := hi (file.drop (w.offset + 1))
    rw [hdrop1, readFunction, ← hdrop1] at hitem
    cases hword : functionWord? code with
    | some name =>
      simp only [hword] at hitem
      exact ⟨_, rfl, .item hitem rfl (by omega)⟩
    | none =>
      simp only [hword] at hitem
      exact ⟨_, rfl, .item hitem rfl (by omega)⟩
  · rename_i hend
    -- The walk leaves the file by one, where nothing is left either.
    have hnil : file.drop (w.offset + 1) = [] := List.drop_eq_nil_of_le (by omega)
    have hnil' : [] = file.drop (w.offset + 2) := (List.drop_eq_nil_of_le (by omega)).symm
    have hitem := hi (file.drop (w.offset + 1))
    rw [hnil, readFunction, ← hnil] at hitem
    exact ⟨_, rfl, .item hitem (hnil.trans hnil') (by omega)⟩

theorem stepReserved_itemStep (hlead : Lead.of token = .reserved) : ItemStep file w token (w.stepReserved token) := by
  have hitem : readItem token (file.drop (w.offset + 1)) = some (readReserved token (file.drop (w.offset + 1))) := by
    simp [readItem, hlead]
  have hgo : w.stepReserved token = w.go (.body (readReserved token (file.drop (w.offset + 1))).remark) 1
      (readReserved token (file.drop (w.offset + 1))).pieces := by
    unfold stepReserved readReserved
    cases statementWord? token with
    | none => rfl
    | some name =>
      dsimp only
      split
      · rfl
      · split <;> rfl
  rw [hgo]
  exact .item hitem (readReserved_rest _ _) (by omega)

theorem stepItem_itemStep (file : List UInt8) (w : Walk) (token : UInt8) :
    ∃ v, w.stepItem file token = .ok v ∧ ItemStep file w token v := by
  unfold stepItem
  cases hlead : Lead.of token with
  | octal => exact stepWord_itemStep fun rest => by simp [readItem, hlead]
  | hexadecimal => exact stepWord_itemStep fun rest => by simp [readItem, hlead]
  | wordNumber => exact stepWord_itemStep fun rest => by simp [readItem, hlead]
  | byteNumber => exact stepByte_itemStep hlead
  | single => exact stepSingle_itemStep hlead
  | colon => exact stepColon_itemStep hlead
  | function => exact stepFunction_itemStep hlead
  | reserved => exact ⟨_, rfl, stepReserved_itemStep hlead⟩
  | quote => exact ⟨_, rfl, .quote hlead⟩
  | character =>
    have hitem : readItem token (file.drop (w.offset + 1)) =
        some (.piece .plain [charOf token] (file.drop (w.offset + 1))) := by simp [readItem, hlead]
    exact ⟨_, rfl, .item hitem rfl (by omega)⟩
  | digit =>
    have hitem : readItem token (file.drop (w.offset + 1)) =
        some (.piece .number (decimal (token.toNat - 17)) (file.drop (w.offset + 1))) := by simp [readItem, hlead]
    exact ⟨_, rfl, .item hitem rfl (by omega)⟩
  | ignored =>
    have hitem : readItem token (file.drop (w.offset + 1)) = some ⟨[], false, file.drop (w.offset + 1)⟩ := by
      simp [readItem, hlead]
    exact ⟨_, rfl, .item hitem rfl (by omega)⟩

theorem join_empty (kind : Kind) (pieces : List Segment) : Segment.join (⟨kind, []⟩ :: pieces) = Segment.join pieces :=
  Segment.join_eq_join_iff.2 rfl

/-- A body, in a remark or not, has nothing more where a zero byte stands or the file ends. -/
theorem body_over {remark : Bool} (hphase : w.phase = .body remark)
    (hover : (file.drop w.offset).head? = some 0 ∨ file.drop w.offset = []) : Follows file w (w.go .lineEnd 0 []) := by
  refine .of_go ?_ ?_
  · simp only [left, go, hphase, Phase.rank]
    omega
  · simp only [toCome, go, hphase, Nat.add_zero, List.nil_append]
    generalize file.drop w.offset = bytes at hover ⊢
    cases bytes with
    | nil => cases remark <;> simp [fromBody, readBody, join_empty]
    | cons b bytes =>
      obtain rfl : b = 0 := by simpa using hover
      cases remark <;> simp [fromBody, readBody, join_empty]

theorem stepBody_follows {remark : Bool} (hphase : w.phase = .body remark) :
    ∃ v, w.stepBody remark file = .ok v ∧ Follows file w v := by
  unfold stepBody
  split
  · rename_i hlt
    obtain ⟨token, htoken, hdrop⟩ := byteAt_of_lt hlt
    simp only [htoken, bind, Except.bind, pure, Except.pure]
    by_cases hzero : token = 0
    · rw [if_pos hzero]
      exact ⟨_, rfl, body_over hphase (.inl (by simp [hdrop, hzero]))⟩
    · rw [if_neg hzero]
      cases remark with
      | false =>
        have hitem : AtItem file w token := ⟨hphase, hlt, hdrop, hzero⟩
        obtain ⟨v, hv, hstep⟩ := stepItem_itemStep file w token
        exact ⟨v, hv, hitem.follows hstep⟩
      | true =>
        refine ⟨_, rfl, .of_go ?_ ?_⟩
        · simp only [left, go, hphase, Phase.rank]
          omega
        · -- The remark grows by one piece for each byte.
          simp only [toCome, go, hphase, hdrop, List.takeWhile_cons, List.dropWhile_cons, bne_iff_ne, ne_eq, hzero,
            not_false_eq_true, if_true, List.flatMap_cons, List.cons_append, List.nil_append]
          exact (join_cons_cons ..).symm
  · rename_i hend
    exact ⟨_, rfl, body_over hphase (.inr (List.drop_eq_nil_of_le (by omega)))⟩

/-! ## Steps in a string -/

theorem zeroAt_eq (file : List UInt8) (offset : Nat) :
    zeroAt file offset = .ok ((file.drop offset).head? == some 0) := by
  unfold zeroAt
  split
  · rename_i hlt
    obtain ⟨b, hb, hdrop⟩ := byteAt_of_lt hlt
    simp only [hb, hdrop, bind, Except.bind, pure, Except.pure]
    simp
  · rename_i hend
    have hnil : file.drop offset = [] := List.drop_eq_nil_of_le (by omega)
    simp [hnil]

theorem stepString_follows {text : List Char} (hphase : w.phase = .string text) :
    ∃ v, w.stepString text file = .ok v ∧ Follows file w v := by
  unfold stepString
  split
  · rename_i hlt
    obtain ⟨token, htoken, hdrop⟩ := byteAt_of_lt hlt
    simp only [htoken, zeroAt_eq, bind, Except.bind, pure, Except.pure]
    have hleft : ∀ {phase : Phase} {pieces : List Segment}, phase = .body false ∨ phase = .string (text ++ [charOf token]) →
        (w.go phase 1 pieces).left file < w.left file := by
      rintro phase pieces (rfl | rfl)
      all_goals
        simp only [left, go, hphase, Phase.rank]
        omega
    by_cases hquote : token = 34
    · have hread : readString (file.drop w.offset) = ([charOf token], file.drop (w.offset + 1)) := by
        rw [hdrop, readString, if_pos hquote]
      rw [if_pos hquote]
      refine ⟨_, rfl, .of_go (hleft (.inl rfl)) ?_⟩
      simp only [toCome, go, hphase, hread, List.cons_append, List.nil_append]
    · rw [if_neg hquote]
      by_cases hnext : (file.drop (w.offset + 1)).head? = some 0
      · have hread : readString (file.drop w.offset) = ([charOf token], file.drop (w.offset + 1)) := by
          rw [hdrop, readString, if_neg hquote, if_pos hnext]
        rw [if_pos (beq_iff_eq.2 hnext)]
        refine ⟨_, rfl, .of_go (hleft (.inl rfl)) ?_⟩
        simp only [toCome, go, hphase, hread, List.cons_append, List.nil_append]
      · have hread : readString (file.drop w.offset) =
            (charOf token :: (readString (file.drop (w.offset + 1))).1, (readString (file.drop (w.offset + 1))).2) := by
          rw [hdrop, readString, if_neg hquote, if_neg hnext]
        rw [if_neg fun h => hnext (beq_iff_eq.1 h)]
        refine ⟨_, rfl, .of_go (hleft (.inr rfl)) ?_⟩
        simp only [toCome, go, hphase, hread, List.append_assoc, List.cons_append, List.nil_append]
  · rename_i hend
    have hread : readString (file.drop w.offset) = ([], file.drop (w.offset + 1)) := by
      rw [List.drop_eq_nil_of_le (by omega), List.drop_eq_nil_of_le (by omega), readString]
    refine ⟨_, rfl, .of_go ?_ ?_⟩
    · simp only [left, go, hphase, Phase.rank]
      omega
    · simp only [toCome, go, hphase, hread, List.append_nil, List.cons_append, List.nil_append]

/-! ## Steps between lines -/

/-- The end of a line is passed. -/
theorem endLine_eq (file : List UInt8) (hphase : w.phase = .lineEnd) :
    ∃ size, w.endLine file = .ok (w.go .lineEnd size (Program.endLine (file.drop w.offset)).1) ∧
      file.drop (w.offset + size) = (Program.endLine (file.drop w.offset)).2 := by
  simp only [endLine, zeroAt_eq, bind, Except.bind, pure, Except.pure]
  by_cases hzero : (file.drop w.offset).head? = some 0
  · obtain ⟨rest, hdrop⟩ := List.head?_eq_some_iff.1 hzero
    refine ⟨1, by rw [if_pos (beq_iff_eq.2 hzero), hdrop]; rfl, ?_⟩
    rw [← List.drop_drop, hdrop]
    rfl
  · have hend : Program.endLine (file.drop w.offset) = ([], file.drop w.offset) := by
      cases hdrop : file.drop w.offset with
      | nil => rfl
      | cons b rest =>
        have hb : b ≠ 0 := by
          rintro rfl
          exact hzero (by rw [hdrop, List.head?_cons])
        rw [Program.endLine, if_neg hb]
    refine ⟨0, ?_, by rw [hend, Nat.add_zero]⟩
    rw [if_neg fun h => hzero (beq_iff_eq.1 h), hend, go, ← hphase, Nat.add_zero, List.append_nil]

theorem stepLineEnd_follows (hphase : w.phase = .lineEnd) : ∃ v, w.stepLineEnd file = .ok v ∧ Follows file w v := by
  obtain ⟨size, hend, hdrop⟩ := endLine_eq file hphase
  -- The step goes on behind the end of the line, either to the next line or nowhere.
  have hfollows : ∀ {phase : Phase}, phase.rank < 2 →
      toCome file ((w.go .lineEnd size (Program.endLine (file.drop w.offset)).1).go phase 0 []) =
        (if atEndMark (file.drop (w.offset + size)) then [] else readLines (file.drop (w.offset + size))) →
      Follows file w ((w.go .lineEnd size (Program.endLine (file.drop w.offset)).1).go phase 0 []) := by
    intro phase hrank hcome
    have hgo : (w.go .lineEnd size (Program.endLine (file.drop w.offset)).1).go phase 0 [] =
        w.go phase size (Program.endLine (file.drop w.offset)).1 := by
      simp only [go, Nat.add_zero, List.append_nil]
    rw [hgo] at hcome ⊢
    refine .of_go ?_ ?_
    · have hlineEnd : Phase.lineEnd.rank = 2 := rfl
      simp only [left, go, hphase]
      omega
    · rw [hcome, hdrop]
      simp only [toCome, hphase, fromEnd]
  simp only [stepLineEnd, hend, bind, Except.bind, pure, Except.pure]
  split
  · rename_i hin
    obtain ⟨first, hfirst, hdrop1⟩ := byteAt_of_lt (Nat.lt_of_succ_lt hin)
    obtain ⟨second, hsecond, hdrop2⟩ := byteAt_of_lt hin
    simp only [hfirst, hsecond]
    simp only [go] at hdrop1 hdrop2
    split
    · rename_i hmark
      refine ⟨_, rfl, hfollows (by decide) ?_⟩
      simp [toCome, go, hdrop1, hdrop2, atEndMark, hmark.1, hmark.2]
    · rename_i hmark
      refine ⟨_, rfl, hfollows (by decide) ?_⟩
      have hfalse : atEndMark (file.drop (w.offset + size)) = false := by
        rw [hdrop1, hdrop2, atEndMark]
        simpa using hmark
      simp [toCome, go, hfalse]
  · rename_i hout
    refine ⟨_, rfl, hfollows (by decide) ?_⟩
    have hfalse : atEndMark (file.drop (w.offset + size)) = false := by
      have hlength : (file.drop (w.offset + size)).length ≤ 1 := by
        simp only [go] at hout
        simp only [List.length_drop]
        omega
      generalize file.drop (w.offset + size) = bytes at hlength ⊢
      rcases bytes with _ | ⟨a, _ | ⟨b, rest⟩⟩
      · rfl
      · rfl
      · simp only [List.length_cons] at hlength
        omega
    simp [toCome, go, hfalse]

theorem stepLine_follows (hphase : w.phase = .line) : ∃ v, w.stepLine file = .ok v ∧ Follows file w v := by
  unfold stepLine
  split
  · rename_i hshort
    have hnone : readLines (file.drop w.offset) = [] := by
      have hlength : (file.drop w.offset).length < 4 := by
        simp only [List.length_drop]
        omega
      generalize file.drop w.offset = bytes at hlength ⊢
      rcases bytes with _ | ⟨a, _ | ⟨b, _ | ⟨c, _ | ⟨d, rest⟩⟩⟩⟩
      · simp [readLines]
      · simp [readLines]
      · simp [readLines]
      · simp [readLines]
      · simp only [List.length_cons] at hlength
        omega
    refine ⟨_, rfl, .of_go ?_ ?_⟩
    · simp only [left, go, hphase, Phase.rank]
      omega
    · simp only [toCome, go, hphase, hnone, List.append_nil]
  · rename_i hlong
    obtain ⟨link, -, hdrop⟩ := byteAt_of_lt (show w.offset < file.length by omega)
    obtain ⟨link', -, hdrop1⟩ := byteAt_of_lt (show w.offset + 1 < file.length by omega)
    obtain ⟨low, hlow, hdrop2⟩ := byteAt_of_lt (show w.offset + 2 < file.length by omega)
    obtain ⟨high, hhigh, hdrop3⟩ := byteAt_of_lt (show w.offset + 3 < file.length by omega)
    simp only [hlow, hhigh, bind, Except.bind, pure, Except.pure]
    refine ⟨_, rfl, .of_go ?_ ?_⟩
    · simp only [left, go, hphase, Phase.rank]
      omega
    · simp only [toCome, go, hphase]
      rw [hdrop, hdrop1, hdrop2, hdrop3, readLines]
      simp [fromBody, fromEnd]

/-! ## The whole walk -/

/-- **A step never asks for a byte outside the file**, whatever the offset, and it leads to the same listing. -/
theorem step_follows (file : List UInt8) (w : Walk) (hphase : w.phase ≠ .done) :
    ∃ v, w.step file = .ok v ∧ Follows file w v := by
  unfold step
  cases h : w.phase with
  | line => exact stepLine_follows h
  | body remark => exact stepBody_follows h
  | string text => exact stepString_follows h
  | lineEnd => exact stepLineEnd_follows h
  | done => exact absurd h hphase

/-- **The walk ends**, with the listing that it leads to. -/
theorem exists_run (file : List UInt8) (w : Walk) : ∃ n ≤ w.left file, ∃ v, w.run file n = .ok v ∧ v.phase = .done ∧
    Segment.join v.found = w.listing file := by
  induction hleft : w.left file using Nat.strongRecOn generalizing w with
  | ind left ih =>
    by_cases hphase : w.phase = .done
    · refine ⟨0, Nat.zero_le _, w, rfl, hphase, ?_⟩
      simp only [listing, toCome, hphase, List.append_nil]
    · obtain ⟨v, hstep, hfollows⟩ := step_follows file w hphase
      obtain ⟨n, hn, u, hrun, hdone, hfound⟩ := ih _ (hleft ▸ hfollows.left_lt) v rfl
      refine ⟨n + 1, ?_, u, ?_, hdone, hfound.trans hfollows.listing_eq⟩
      · have := hfollows.left_lt
        omega
      · rw [run, hstep]
        exact hrun

end

end Walk

/-- **The decoder survives every input.** An empty file and one that starts with another byte than 0xFF are refused.
Every other file has a listing, and the walk that finds it ends after at most four steps for each byte of the file,
without asking for a byte outside it. -/
theorem segments_total (file : List UInt8) :
    (file = [] ∧ segments file = .error .empty) ∨
    (∃ b rest, file = b :: rest ∧ b ≠ 0xFF ∧ segments file = .error (.signature b)) ∨
    (∃ rest, file = 0xFF :: rest ∧ ∃ n ≤ 4 * file.length, ∃ w, Walk.start.run file n = .ok w ∧ w.phase = .done ∧
      segments file = .ok (Segment.join w.found)) := by
  cases file with
  | nil => exact .inl ⟨rfl, rfl⟩
  | cons b rest =>
    by_cases hb : b = 0xFF
    · obtain ⟨n, hn, w, hrun, hdone, hfound⟩ := Walk.exists_run (b :: rest) .start
      refine .inr (.inr ⟨rest, by rw [hb], n, ?_, w, hrun, hdone, ?_⟩)
      · have hleft : Walk.start.left (b :: rest) = 4 * rest.length + 1 := rfl
        rw [List.length_cons]
        omega
      · rw [hfound, segments, pieces, if_pos hb]
        rfl
    · refine .inr (.inl ⟨b, rest, rfl, hb, ?_⟩)
      rw [segments, pieces, if_neg hb]
      rfl

end MsxWorkbench.Program
