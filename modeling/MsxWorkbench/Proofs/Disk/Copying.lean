import Mathlib.Data.Fintype.Pigeonhole
import Mathlib.Data.Set.Basic
import Mathlib.Tactic.TFAE
import MsxWorkbench.Proofs.Disk.Selection
/-
# The copying loop

An extraction goes from cluster to cluster. What one round does depends on the bytes that are left and on the
current cluster only, and `going_iff` says all that it can do. With clusters of some length each round leaves
fewer bytes (`left_rounds`). With empty clusters the bytes left never change, so the loop goes on for ever
exactly when the table leads in a circle. The bound on the rounds in `extract` is reached by such a loop only
(`extract_ends_iff`).
-/
namespace MsxWorkbench.Disk

/-- Where a cluster starts in the image. -/
def Geometry.clusterStart (g : Geometry) (cluster : Nat) : Nat := g.dataOffset + (cluster - 2) * g.clusterBytes

namespace Volume

section
variable {v : Volume} {g : Geometry} {c d : Copying}

/-! ## One round -/

/-- The bytes that a round copies. -/
def part (v : Volume) (g : Geometry) (c : Copying) : List UInt8 :=
  readAt v.image (g.clusterStart c.cluster) (min c.left g.clusterBytes)

/-- The state once the part has been copied and the next cluster is known. -/
def copied (v : Volume) (g : Geometry) (c : Copying) (next : Nat) : Copying where
  left := c.left - min c.left g.clusterBytes
  cluster := next
  written := c.written ++ (v.part g c).toArray

theorem copyStep_of_over (h : c.left = 0 ∨ isDataCluster c.cluster = false) : v.copyStep g c = .finished := by
  unfold copyStep
  rw [if_pos (by simpa using h)]

theorem copyStep_of_ok {next : Nat} (hleft : c.left ≠ 0) (hdata : isDataCluster c.cluster = true)
    (hnext : v.fatEntry c.cluster = .ok next) : v.copyStep g c = .going (v.copied g c next) := by
  unfold copyStep
  rw [if_neg (by simp [hleft, hdata])]
  simp only [hnext]
  rfl

theorem copyStep_of_error {x : DiskError} (hleft : c.left ≠ 0) (hdata : isDataCluster c.cluster = true)
    (hnext : v.fatEntry c.cluster = .error x) : v.copyStep g c = .failed (v.copied g c c.cluster) x := by
  unfold copyStep
  rw [if_neg (by simp [hleft, hdata])]
  simp only [hnext]
  rfl

/-- All that a round can do. -/
theorem copyStep_cases (v : Volume) (g : Geometry) (c : Copying) :
    ((c.left = 0 ∨ isDataCluster c.cluster = false) ∧ v.copyStep g c = .finished) ∨
    (c.left ≠ 0 ∧ isDataCluster c.cluster = true ∧
      ((∃ x, v.fatEntry c.cluster = .error x ∧ v.copyStep g c = .failed (v.copied g c c.cluster) x) ∨
        ∃ next, v.fatEntry c.cluster = .ok next ∧ v.copyStep g c = .going (v.copied g c next))) := by
  by_cases hover : c.left = 0 ∨ isDataCluster c.cluster = false
  · exact .inl ⟨hover, copyStep_of_over hover⟩
  · rw [not_or, Bool.not_eq_false] at hover
    obtain ⟨hleft, hdata⟩ := hover
    refine .inr ⟨hleft, hdata, ?_⟩
    cases hnext : v.fatEntry c.cluster with
    | error x => exact .inl ⟨x, rfl, copyStep_of_error hleft hdata hnext⟩
    | ok next => exact .inr ⟨next, rfl, copyStep_of_ok hleft hdata hnext⟩

theorem going_iff : v.copyStep g c = .going d ↔ c.left ≠ 0 ∧ isDataCluster c.cluster = true ∧
    ∃ next, v.fatEntry c.cluster = .ok next ∧ d = v.copied g c next := by
  constructor
  · intro h
    rcases copyStep_cases v g c with ⟨-, hstep⟩ | ⟨hleft, hdata, ⟨x, -, hstep⟩ | ⟨next, hnext, hstep⟩⟩
    · rw [hstep] at h; cases h
    · rw [hstep] at h; cases h
    · rw [hstep] at h
      cases h
      exact ⟨hleft, hdata, next, hnext, rfl⟩
  · rintro ⟨hleft, hdata, next, hnext, rfl⟩
    exact copyStep_of_ok hleft hdata hnext

/-! ## Many rounds -/

/-- The state after a number of rounds; `none` if the loop stops before. -/
def rounds (v : Volume) (g : Geometry) : Nat → Copying → Option Copying
  | 0, c => some c
  | n + 1, c =>
    match v.copyStep g c with
    | .going d => rounds v g n d
    | _ => none

theorem rounds_add (m n : Nat) (c : Copying) : v.rounds g (m + n) c = (v.rounds g m c).bind (v.rounds g n) := by
  induction m generalizing c with
  | zero => simp [rounds]
  | succ m ih =>
    rw [Nat.add_right_comm, rounds, rounds]
    cases v.copyStep g c <;> simp [ih]

/-- The last one of a number of rounds. -/
theorem rounds_concat {n : Nat} : v.rounds g (n + 1) c = some d ↔
    ∃ b, v.rounds g n c = some b ∧ v.copyStep g b = .going d := by
  rw [rounds_add, Option.bind_eq_some_iff]
  refine exists_congr fun b => and_congr_right fun _ => ?_
  cases hstep : v.copyStep g b <;> simp [rounds, hstep]

/-- The bound on the rounds is reached by a loop that is still going. -/
theorem copy_eq_endless_iff {fuel : Nat} : v.copy g fuel c = .endless ↔ v.rounds g fuel c ≠ none := by
  induction fuel generalizing c with
  | zero => simp [copy, rounds]
  | succ fuel ih =>
    rw [copy, rounds]
    cases v.copyStep g c <;> simp [ih]

/-- How many bytes are left after a number of rounds. -/
theorem left_rounds {n : Nat} (h : v.rounds g n c = some d) : d.left = c.left - n * g.clusterBytes := by
  induction n generalizing d with
  | zero =>
    cases h
    simp
  | succ n ih =>
    obtain ⟨b, hb, hstep⟩ := rounds_concat.1 h
    obtain ⟨-, -, next, -, rfl⟩ := going_iff.1 hstep
    have hleft := ih hb
    simp only [copied, Nat.succ_mul]
    omega

/-- A round is made only while bytes are left. -/
theorem lt_left_of_rounds {n : Nat} (h : v.rounds g (n + 1) c = some d) : n * g.clusterBytes < c.left := by
  obtain ⟨b, hb, hstep⟩ := rounds_concat.1 h
  have hleft := left_rounds hb
  have hne := (going_iff.1 hstep).1
  omega

/-- With clusters of some length there are no more rounds than bytes. -/
theorem rounds_eq_none (hlength : 0 < g.clusterBytes) {n : Nat} (hn : c.left < n) : v.rounds g n c = none := by
  cases n with
  | zero => omega
  | succ n =>
    by_contra hne
    obtain ⟨d, hd⟩ := Option.ne_none_iff_exists'.1 hne
    have hlt := lt_left_of_rounds hd
    have hle : n * 1 ≤ n * g.clusterBytes := Nat.mul_le_mul_left n hlength
    omega

/-! ## Loops without end -/

/-- Two states at the same place of the loop: what has been written does not matter for the way. -/
def SamePlace (c d : Copying) : Prop := (c.left, c.cluster) = (d.left, d.cluster)

theorem SamePlace.rounds {n : Nat} (h : SamePlace c d) : v.rounds g n c = none ↔ v.rounds g n d = none := by
  obtain ⟨hleft, hcluster⟩ := Prod.mk.inj h
  induction n generalizing c d with
  | zero => simp [Volume.rounds]
  | succ n ih =>
    rw [Volume.rounds, Volume.rounds]
    rcases copyStep_cases v g c with ⟨hover, hc⟩ | ⟨hne, hdata, ⟨x, hx, hc⟩ | ⟨next, hnext, hc⟩⟩
    · rw [hc, copyStep_of_over (hleft ▸ hcluster ▸ hover)]
    · rw [hc, copyStep_of_error (hleft ▸ hne) (hcluster ▸ hdata) (hcluster ▸ hx)]
    · rw [hc, copyStep_of_ok (hleft ▸ hne) (hcluster ▸ hdata) (hcluster ▸ hnext)]
      have hleft' : (v.copied g c next).left = (v.copied g d next).left := by simp [copied, hleft]
      exact ih (Prod.ext hleft' rfl) hleft' rfl

/-- The loop comes back to a place where it was. -/
def Returns (v : Volume) (g : Geometry) (start : Copying) : Prop :=
  ∃ m n c d, m < n ∧ v.rounds g m start = some c ∧ v.rounds g n start = some d ∧ SamePlace c d

/-- A loop that has come back never stops. -/
theorem Returns.rounds_ne_none (h : v.Returns g c) (k : Nat) : v.rounds g k c ≠ none := by
  obtain ⟨m, n, a, b, hmn, ha, hb, hsame⟩ := h
  induction k using Nat.strongRecOn with
  | ind k ih =>
    by_cases hk : k ≤ n
    · -- the rounds before the return
      intro hnone
      rw [← Nat.add_sub_cancel' hk, rounds_add, hnone] at hb
      cases hb
    · -- later rounds are those of an earlier time again
      have hprev := ih (m + (k - n)) (by omega)
      rw [rounds_add, ha, Option.bind_some] at hprev
      rw [← Nat.add_sub_cancel' (Nat.le_of_not_le hk), rounds_add, hb, Option.bind_some]
      exact fun hnone => hprev (hsame.rounds.2 hnone)

/-- Following the table from a cluster never leaves the clusters of files. -/
def Circles (v : Volume) (first : Nat) : Prop :=
  ∃ s : Set Nat, first ∈ s ∧ ∀ c ∈ s, isDataCluster c = true ∧ ∃ next ∈ s, v.fatEntry c = .ok next

/-- With empty clusters and bytes left, the loop goes round with the table. -/
theorem Circles.rounds_ne_none (h : v.Circles c.cluster) (hlength : g.clusterBytes = 0) (hleft : c.left ≠ 0)
    (n : Nat) : v.rounds g n c ≠ none := by
  obtain ⟨s, hc, hs⟩ := h
  induction n generalizing c with
  | zero => simp [rounds]
  | succ n ih =>
    obtain ⟨hdata, next, hmem, hnext⟩ := hs _ hc
    rw [rounds, copyStep_of_ok hleft hdata hnext]
    exact ih (by simpa [copied, hlength] using hleft) hmem

/-- A loop that never stops follows the table in data clusters only. -/
theorem circles_of_rounds (h : ∀ n, v.rounds g n c ≠ none) : v.Circles c.cluster := by
  refine ⟨{x | ∃ n d, v.rounds g n c = some d ∧ d.cluster = x}, ⟨0, c, rfl, rfl⟩, ?_⟩
  rintro x ⟨n, d, hd, rfl⟩
  obtain ⟨b, hb⟩ := Option.ne_none_iff_exists'.1 (h (n + 1))
  obtain ⟨d', hd', hstep⟩ := rounds_concat.1 hb
  obtain rfl : d = d' := Option.some.inj (hd.symm.trans hd')
  obtain ⟨-, hdata, next, hnext, rfl⟩ := going_iff.1 hstep
  exact ⟨hdata, next, ⟨n + 1, _, hb, rfl⟩, hnext⟩

theorem cluster_lt_of_going (h : v.copyStep g c = .going d) : c.cluster < 4096 := by
  have hdata := (going_iff.1 h).2.1
  simp only [isDataCluster, Bool.and_eq_true, decide_eq_true_eq] at hdata
  omega

/-- A loop that goes on for longer than there are bytes and clusters has come back to a place. -/
theorem returns_of_rounds (h : v.rounds g (c.left + 4097) c ≠ none) : v.Returns g c := by
  have hlength : g.clusterBytes = 0 := by
    by_contra hne
    exact h (rounds_eq_none (Nat.pos_of_ne_zero hne) (by omega))
  -- the state before each of the first 4097 rounds
  have hstate : ∀ i : Fin 4097, ∃ b, v.rounds g i c = some b ∧ b.cluster < 4096 := by
    intro i
    have hsome : v.rounds g (i + 1) c ≠ none := by
      intro hnone
      have hsplit : c.left + 4097 = i + 1 + (c.left + 4096 - i) := by omega
      rw [hsplit, rounds_add, hnone] at h
      exact h rfl
    obtain ⟨d, hd⟩ := Option.ne_none_iff_exists'.1 hsome
    obtain ⟨b, hb, hstep⟩ := rounds_concat.1 hd
    exact ⟨b, hb, cluster_lt_of_going hstep⟩
  choose state hrounds hlt using hstate
  obtain ⟨i, j, hij, heq⟩ := Fintype.exists_ne_map_eq_of_card_lt
    (fun i => (⟨(state i).cluster, hlt i⟩ : Fin 4096)) (by simp)
  have hplace : ∀ i j, (state i).cluster = (state j).cluster → SamePlace (state i) (state j) := by
    intro i j hcluster
    have hi := left_rounds (hrounds i)
    have hj := left_rounds (hrounds j)
    rw [hlength] at hi hj
    exact Prod.ext (hi.trans hj.symm) hcluster
  have hcluster : (state i).cluster = (state j).cluster := Fin.mk.inj heq
  rcases Nat.lt_or_gt_of_ne (Fin.val_ne_of_ne hij) with hlt | hgt
  · exact ⟨i, j, _, _, hlt, hrounds i, hrounds j, hplace i j hcluster⟩
  · exact ⟨j, i, _, _, hgt, hrounds j, hrounds i, hplace j i hcluster.symm⟩

end

/-! ## Extractions that end -/

/-- The extraction by a name enters the loop in a state. -/
structure Starts (v : Volume) (name : List Char) (start : Copying) : Prop where
  entry : ∃ e, v.find? name = some e ∧ e.word 26 = .ok start.cluster ∧ e.longWord 28 = .ok start.left
  written : start.written = #[]

variable {v : Volume} {g : Geometry} {name : List Char} {start : Copying}

theorem Starts.extract_eq (h : v.Starts name start) (hg : v.geometry? = some g) :
    v.extract name = v.copy g (start.left + 4097) start := by
  obtain ⟨⟨e, hfind, hfirst, hsize⟩, hwritten⟩ := h
  rw [extract, hfind, hg]
  simp only [hfirst, hsize, ← hwritten]

/-- An extraction that finds an entry with its words enters the loop. -/
theorem extract_cases (v : Volume) (name : List Char) : v.extract name = .missing ∨
    (∃ x, v.extract name = .unreadable x) ∨ ∃ start, v.Starts name start := by
  unfold extract
  split
  · rename_i e g hfind hg
    split
    · exact .inr (.inl ⟨_, rfl⟩)
    · exact .inr (.inl ⟨_, rfl⟩)
    · rename_i first size hfirst hsize
      exact .inr (.inr ⟨⟨size, first, #[]⟩, ⟨e, hfind, hfirst, hsize⟩, rfl⟩)
  · exact .inl rfl

end Volume

/-- On a disk that was opened, an extraction that does not enter the loop ends. One that enters it ends if
and only if the clusters have some length, there is nothing to copy or the table does not lead in a circle,
and this is so if and only if the loop stops, and if and only if it never comes back to the same number of
bytes left and the same cluster. -/
theorem extract_ends_iff {disk v : Volume} (hopen : disk.openDisk = (v, none)) :
    ∃ g, v.geometry? = some g ∧ ∀ name,
      ((∀ start, ¬v.Starts name start) → v.extract name ≠ .endless) ∧
      ∀ start, v.Starts name start →
        [0 < g.clusterBytes ∨ start.left = 0 ∨ ¬v.Circles start.cluster,
          ∃ n, v.rounds g n start = none,
          ¬v.Returns g start,
          v.extract name ≠ .endless].TFAE := by
  obtain ⟨⟨g, hg, -⟩, -⟩ := Volume.of_openDisk hopen
  refine ⟨g, hg, fun name => ⟨fun hnone hendless => ?_, fun start hstart => ?_⟩⟩
  · rcases v.extract_cases name with hmissing | ⟨x, hunreadable⟩ | ⟨start, hstart⟩
    · rw [hmissing] at hendless; cases hendless
    · rw [hunreadable] at hendless; cases hendless
    · exact hnone start hstart
  · rw [hstart.extract_eq hg, Ne, Volume.copy_eq_endless_iff, not_not]
    tfae_have 1 → 2 := by
      rintro (hlength | hleft | hcircles)
      · exact ⟨start.left + 1, Volume.rounds_eq_none hlength (Nat.lt_succ_self _)⟩
      · exact ⟨1, by rw [Volume.rounds, Volume.copyStep_of_over (.inl hleft)]⟩
      · by_contra hgoing
        exact hcircles (Volume.circles_of_rounds fun n hn => hgoing ⟨n, hn⟩)
    tfae_have 2 → 3 := fun ⟨n, hn⟩ hreturns => hreturns.rounds_ne_none n hn
    tfae_have 3 → 4 := fun hreturns => by
      by_contra hgoing
      exact hreturns (Volume.returns_of_rounds hgoing)
    tfae_have 4 → 2 := fun hstop => ⟨_, hstop⟩
    tfae_have 2 → 1 := by
      rintro ⟨n, hn⟩
      by_contra hnot
      simp only [not_or, not_not, Nat.pos_iff_ne_zero] at hnot
      exact hnot.2.2.rounds_ne_none hnot.1 hnot.2.1 n hn
    tfae_finish

/-- A disk with one file of four bytes. The table leads from its first cluster to one that leads to itself. -/
def circularDisk (sectorsPerCluster : UInt8) : Volume where
  image := #[65, 66, 32, 32, 32, 32, 32, 32, 32, 32, 32, 0, 0, sectorsPerCluster, 0, 0, 0, 1, 0, 0, 0, 0, 1, 0, 0, 0,
    2, 0, 4, 0, 0, 0, 0, 0, 0, 0, 0, 0, 0, 0, 0, 0, 0, 0, 0, 0, 0, 0, 32, 0]

/-- With clusters of one sector the extraction ends and the loop never comes back, although the table leads
in a circle. -/
theorem extract_ends_iff_circular :
    let v := (circularDisk 1).openDisk.1
    v.Starts "AB".toList ⟨4, 2, #[]⟩ ∧ v.extract "AB".toList ≠ .endless ∧
      ∃ g, v.geometry? = some g ∧ ¬v.Returns g ⟨4, 2, #[]⟩ := by
  intro v
  have hopen : (circularDisk 1).openDisk = (v, none) := Prod.ext rfl rfl
  have hstart : v.Starts "AB".toList ⟨4, 2, #[]⟩ := ⟨⟨_, rfl, rfl, rfl⟩, rfl⟩
  obtain ⟨g, hg, hends⟩ := extract_ends_iff hopen
  have hlength : 0 < g.clusterBytes := by
    cases hg
    decide
  have htfae := (hends _).2 _ hstart
  exact ⟨hstart, (htfae.out 0 3).1 (Or.inl hlength), g, hg, (htfae.out 0 2).1 (Or.inl hlength)⟩

/-- With clusters of no sector the extraction from the same disk does not end: the loop is in the same place
after one round and after two, and never stops. -/
theorem extract_circular_endless :
    let v := (circularDisk 0).openDisk.1
    (circularDisk 0).openDisk.2 = none ∧ v.extract "AB".toList = .endless ∧ ∃ g, v.geometry? = some g ∧
      v.Starts "AB".toList ⟨4, 2, #[]⟩ ∧ v.rounds g 1 ⟨4, 2, #[]⟩ = some ⟨4, 32, #[]⟩ ∧
      v.rounds g 2 ⟨4, 2, #[]⟩ = some ⟨4, 32, #[]⟩ ∧ ∀ n, v.rounds g n ⟨4, 2, #[]⟩ ≠ none := by
  intro v
  have hstart : v.Starts "AB".toList ⟨4, 2, #[]⟩ := ⟨⟨_, rfl, rfl, rfl⟩, rfl⟩
  have hg : v.geometry? = some ⟨0, 0, 0, 1, 0, 1⟩ := rfl
  have hcircles : v.Circles 2 := by
    refine ⟨{2, 32}, by simp, ?_⟩
    rintro c (rfl | rfl)
    · exact ⟨rfl, 32, by simp, rfl⟩
    · exact ⟨rfl, 32, by simp, rfl⟩
  have hgoing : ∀ n, v.rounds ⟨0, 0, 0, 1, 0, 1⟩ n ⟨4, 2, #[]⟩ ≠ none := fun n =>
    hcircles.rounds_ne_none (c := ⟨4, 2, #[]⟩) rfl (by decide) n
  refine ⟨rfl, ?_, _, hg, hstart, by decide +kernel, by decide +kernel, hgoing⟩
  rw [hstart.extract_eq hg, Volume.copy_eq_endless_iff]
  exact hgoing _

end MsxWorkbench.Disk
