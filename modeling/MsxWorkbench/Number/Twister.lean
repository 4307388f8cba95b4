/-
# The Mersenne twister

A generator of pseudo-random words of 32 bits with a state of 624 words. The same seed always gives
the same numbers, so that data made with it can be made again.
-/
namespace MsxWorkbench

/-- The state: 624 words, and how many of them were used since they were last renewed. -/
structure Twister where
  words : Array UInt32
  used : Nat

namespace Twister

/-- The number of words in the state. -/
def size : Nat := 624

/-- A word and the one `397` places on are mixed when the state is renewed. -/
def distance : Nat := 397

/-- The bits of a word that depend on the word before it. -/
def stirred (w : UInt32) : UInt32 := w ^^^ (w >>> 30)

/-- The words that every state starts from. -/
def startWords : Array UInt32 :=
  (List.range (size - 1)).foldl (fun ws i =>
    ws.push (1812433253 * stirred (ws.getD i 0) + UInt32.ofNat (i + 1))) #[19650218]

/-- One step of seeding at place `i`, which is never zero: the word there is changed with the help of
the one before it, and the last word is copied to the first place. -/
def seedStep (change : UInt32 → UInt32 → UInt32) (ws : Array UInt32) (i : Nat) : Array UInt32 :=
  let ws := ws.setIfInBounds i (change (ws.getD i 0) (stirred (ws.getD (i - 1) 0)))
  if i + 1 = size then ws.setIfInBounds 0 (ws.getD (size - 1) 0) else ws

/-- The place of the step with a number: the places from one on, again and again. -/
def placeOf (step : Nat) : Nat := step % (size - 1) + 1

/-- The state for a seed. -/
def ofSeed (seed : UInt32) : Twister :=
  let ws := (List.range size).foldl (fun ws n =>
    seedStep (fun w before => (w ^^^ (before * 1664525)) + seed) ws (placeOf n)) startWords
  let ws := (List.range (size - 1)).foldl (fun ws n =>
    let i := placeOf (n + size)
    seedStep (fun w before => (w ^^^ (before * 1566083941)) - UInt32.ofNat i) ws i) ws
  ⟨ws.setIfInBounds 0 0x80000000, size⟩

/-- Renews every word of the state, from the first to the last. -/
def renew (ws : Array UInt32) : Array UInt32 :=
  (List.range size).foldl (fun ws i =>
    let joined := (ws.getD i 0 &&& 0x80000000) ||| (ws.getD ((i + 1) % size) 0 &&& 0x7FFFFFFF)
    let folded := (joined >>> 1) ^^^ (if joined &&& 1 = 1 then 0x9908B0DF else 0)
    ws.setIfInBounds i (ws.getD ((i + distance) % size) 0 ^^^ folded)) ws

/-- Spreads the bits of a word. -/
def tempered (w : UInt32) : UInt32 :=
  let w := w ^^^ (w >>> 11)
  let w := w ^^^ ((w <<< 7) &&& 0x9D2C5680)
  let w := w ^^^ ((w <<< 15) &&& 0xEFC60000)
  w ^^^ (w >>> 18)

/-- The next word. -/
def draw (t : Twister) : UInt32 × Twister :=
  let t := if t.used < size then t else ⟨renew t.words, 0⟩
  (tempered (t.words.getD t.used 0), { t with used := t.used + 1 })

/-- Draws the leading bits of words until their value is less than `n`; `tries` bounds the draws. -/
def drawBelow (n bits : Nat) : Nat → Twister → Nat × Twister
  | 0, t => (0, t)
  | tries + 1, t =>
    let (w, t) := t.draw
    let v := w.toNat >>> (32 - bits)
    if v < n then (v, t) else drawBelow n bits tries t

/-- A number less than `n`. Each draw fits with a chance of at least one half, so that a thousand draws
are enough. -/
def below (t : Twister) (n : Nat) : Nat × Twister := t.drawBelow n (n.log2 + 1) 1000

/-- A number from `low` to `high`. -/
def between (t : Twister) (low high : Nat) : Nat × Twister :=
  let (v, t) := t.below (high - low + 1)
  (low + v, t)

/-- Some bytes. -/
def bytes (t : Twister) : Nat → Array UInt8 → Array UInt8 × Twister
  | 0, drawn => (drawn, t)
  | count + 1, drawn =>
    let (v, t) := t.below 256
    t.bytes count (drawn.push (UInt8.ofNat v))

end Twister

end MsxWorkbench
