import MsxWorkbench.Proofs.Editor.Renumber
import MsxWorkbench.Proofs.Text.Bytes
/-
# Saving and opening

A program is saved in Latin-1, and a file is opened as UTF-8 if it can be, and only else as Latin-1. So a saved program
comes back as it was, up to line feeds at its end, unless its bytes are also the UTF-8 bytes of a text with
characters beyond ASCII; then that text comes back (`open_saved`).
-/
namespace MsxWorkbench.Editor

open Text

/-! ## Line feeds at the end -/

/-- The text without line feeds at its end. -/
def withoutFeeds (s : List Char) : List Char := dropRightWhile (· == '\n') s

theorem withoutFeeds_concat (s : List Char) : withoutFeeds (s ++ ['\n']) = withoutFeeds s := by
  simp [withoutFeeds, dropRightWhile]

theorem countP_isAccented_withoutFeeds (s : List Char) :
    (withoutFeeds s).countP isAccented = s.countP isAccented := by
  have hfeeds : (s.reverse.takeWhile (· == '\n')).countP isAccented = 0 := by
    rw [List.countP_eq_zero]
    intro c hc
    have hfeed : (c == '\n') = true := List.all_eq_true.1 List.all_takeWhile c hc
    rw [beq_iff_eq.1 hfeed]
    decide
  rw [withoutFeeds, dropRightWhile, List.countP_reverse, ← Nat.zero_add (List.countP _ _), ← hfeeds,
    ← List.countP_append, List.takeWhile_append_dropWhile, List.countP_reverse]

/-! ## Saving -/

theorem savedBytes_eq {s : List Char} (h : IsLatin1 s) : savedBytes s = latin1Bytes s := by
  refine List.map_congr_left fun c hc => ?_
  rw [latin1Byte?, if_pos (h c hc)]
  rfl

/-- A program that was saved has been written as a whole. -/
theorem of_saveFile {place : Option (Except FileError Unit)} {s s' : State} {bytes : List UInt8}
    (h : (saveFile place).runOn s = (.ok (some bytes), s')) : bytes = savedBytes s.buffer.content := by
  rw [saveFile, runOn_bind, runOn_get] at h
  dsimp only at h
  cases hrefusal : s.saveRefusal? with
  | some n =>
    rw [hrefusal] at h
    cases h
  | none =>
    rw [hrefusal] at h
    match place, h with
    | none, h => cases h
    | some (.error e), h => cases h
    | some (.ok ()), h =>
      cases h
      rfl

/-- A program whose lines have numbers can be saved in every dialect. -/
theorem exists_saveFile {s : State} (h : unnumberedLine? s.program = none) :
    ∃ s', (saveFile (some (.ok ()))).runOn s = (.ok (some (savedBytes s.buffer.content)), s') := by
  have hrefusal : s.saveRefusal? = none := by
    rw [State.saveRefusal?, h]
    split <;> rfl
  rw [saveFile, runOn_bind, runOn_get]
  simp only [hrefusal]
  exact ⟨_, rfl⟩

/-! ## Opening -/

theorem runOn_tryCatch {α : Type} (x : Edit α) (f : EditorError → Edit α) (s : State) :
    (tryCatch x f).runOn s = match x.runOn s with
      | (.ok a, s') => (.ok a, s')
      | (.error e, s') => (f e).runOn s' := by
  rw [Edit.runOn, ExceptT.run_tryCatch, StateT.run_bind, Edit.runOn]
  obtain ⟨result, s'⟩ := (ExceptT.run x).run s
  cases result <;> rfl

/-- The text of a file that can be read replaces the program, even if a part of the window fails. -/
theorem text_openFile {bytes : List UInt8} {text : List Char} (h : fileText bytes = .ok text) (s : State) :
    ((openFile (.ok bytes)).runOn s).2.buffer.text = text := by
  have hreplaced : ((do edit (·.replace text); highlight : Edit Unit).runOn s).2.buffer = s.buffer.replace text := by
    rw [runOn_bind, edit, runOn_modify]
    exact keepsBuffer_highlight _
  simp only [openFile, h]
  rw [runOn_tryCatch]
  cases hrun : (do edit (·.replace text); highlight : Edit Unit).runOn s with
  | mk result s' =>
    rw [hrun] at hreplaced
    cases result with
    | ok a => rw [hreplaced, replace_text]
    | error e =>
      have hkept : (((tell (.box .error "Erro" ("Nao foi possivel abrir o arquivo:\n" ++ e.message)) : Edit Unit)).runOn s').2.buffer =
        s'.buffer := rfl
      rw [hkept, hreplaced, replace_text]

/-- A file that does not start with the byte 0xFF is UTF-8 or else Latin-1. -/
theorem fileText_eq {bytes : List UInt8} (h : bytes.head? ≠ some 0xFF) :
    fileText bytes = .ok ((decodeUtf8? bytes).getD (decodeLatin1 bytes)) := by
  rw [fileText, Program.isTokenised, if_neg fun hfirst => h (beq_iff_eq.1 hfirst)]

/-! ## Saving and opening -/

theorem head?_latin1Bytes {s : List Char} (h : IsLatin1 s) (hfirst : s.head? ≠ some (Char.ofNat 0xFF)) :
    (latin1Bytes s).head? ≠ some 0xFF := by
  cases s with
  | nil => simp [latin1Bytes]
  | cons c s =>
    intro hbyte
    have hc : UInt8.ofNat c.toNat = 0xFF := Option.some.inj hbyte
    have hcode : c.toNat = 0xFF := by
      rw [← toNat_byte (h c List.mem_cons_self), hc]
      rfl
    exact hfirst (by rw [List.head?_cons, ← hcode, Char.ofNat_toNat])

/-- **A saved program comes back** when it is opened, in whatever state the editor is then. The text is the same up to
line feeds at the end exactly if the file is not the UTF-8 form of a text with characters beyond ASCII. Otherwise
that text is opened. -/
theorem open_saved {place : Option (Except FileError Unit)} {s s' : State} {bytes : List UInt8}
    (hchars : ∀ c ∈ s.buffer.text, c.toNat ≤ 0xFF) (hfirst : s.buffer.text.head? ≠ some (Char.ofNat 0xFF))
    (hsaved : (saveFile place).runOn s = (.ok (some bytes), s')) (t : State) :
    let opened := ((openFile (.ok bytes)).runOn t).2.buffer.text
    (withoutFeeds opened = withoutFeeds s.buffer.text ↔ ∀ v, encodeUtf8 v = bytes → IsAscii v) ∧
      ∀ v, encodeUtf8 v = bytes → opened = v := by
  intro opened
  have hlatin1 : IsLatin1 s.buffer.content := by
    intro c hc
    rcases List.mem_append.1 hc with hc | hc
    · exact Nat.lt_succ_of_le (hchars c hc)
    · rw [List.mem_singleton.1 hc]
      decide
  have hbytes : bytes = latin1Bytes s.buffer.content := by rw [of_saveFile hsaved, savedBytes_eq hlatin1]
  have hhead : bytes.head? ≠ some 0xFF := by
    rw [hbytes]
    refine head?_latin1Bytes hlatin1 ?_
    rw [Buffer.content, Buffer.full]
    cases htext : s.buffer.text with
    | nil => decide
    | cons c text => rwa [htext] at hfirst
  have hopened : opened = (decodeUtf8? bytes).getD (decodeLatin1 bytes) := text_openFile (fileText_eq hhead) t
  have hutf8 : ∀ v, encodeUtf8 v = bytes → opened = v := by
    intro v hv
    rw [hopened, decodeUtf8?_eq_some_iff.2 hv, Option.getD_some]
  have hcontent : withoutFeeds s.buffer.content = withoutFeeds s.buffer.text := withoutFeeds_concat _
  refine ⟨⟨?_, ?_⟩, hutf8⟩
  · intro hsame v hv
    rw [hutf8 v hv, ← hcontent] at hsame
    have hcount : v.countP isAccented = s.buffer.content.countP isAccented := by
      rw [← countP_isAccented_withoutFeeds v, hsame, countP_isAccented_withoutFeeds]
    exact isAscii_of_encodeUtf8 hlatin1 (hv.trans hbytes) hcount
  · intro hplain
    cases hdecoded : decodeUtf8? bytes with
    | none =>
      rw [hopened, hdecoded, Option.getD_none, hbytes, decodeLatin1_latin1Bytes hlatin1, hcontent]
    | some v =>
      have hv := decodeUtf8?_eq_some_iff.1 hdecoded
      rw [hutf8 v hv, eq_of_encodeUtf8 hlatin1 (hv.trans hbytes) (hplain v hv), hcontent]

/-- A line with an accented letter before a quote, which is no UTF-8. -/
def accentedFile : List UInt8 := [0x31, 0x30, 0x20, 0x50, 0x52, 0x49, 0x4E, 0x54, 0x20, 0x22, 0xE9, 0x22, 0x0A]

theorem open_saved_accented :
    ∃ s', (saveFile (some (.ok ()))).runOn (editorOn "10 PRINT \"é\"".toList true) = (.ok (some accentedFile), s') ∧
      withoutFeeds ((openFile (.ok accentedFile)).runOn s').2.buffer.text = "10 PRINT \"é\"".toList := by
  obtain ⟨s', hsaved⟩ := exists_saveFile (s := editorOn "10 PRINT \"é\"".toList true) (by decide +kernel)
  have hbytes : savedBytes (editorOn "10 PRINT \"é\"".toList true).buffer.content = accentedFile := by decide
  rw [hbytes] at hsaved
  have hchars : ∀ c ∈ "10 PRINT \"é\"".toList, c.toNat ≤ 0xFF := by simp
  have hplain : ∀ v, encodeUtf8 v = accentedFile → IsAscii v := by
    intro v hv
    have hnone : decodeUtf8? accentedFile = none := by decide +kernel
    rw [decodeUtf8?_eq_some_iff.2 hv] at hnone
    cases hnone
  exact ⟨s', hsaved, ((open_saved hchars (by decide) hsaved s').1.2 hplain).trans (by decide)⟩

/-- Two characters whose bytes are the UTF-8 form of another one come back as that one. -/
theorem open_saved_misread :
    ∃ bytes s', (saveFile (some (.ok ()))).runOn (editorOn "10 REM Ã©".toList true) = (.ok (some bytes), s') ∧
      ((openFile (.ok bytes)).runOn s').2.buffer.text = "10 REM é\n".toList ∧
      withoutFeeds "10 REM é\n".toList ≠ withoutFeeds "10 REM Ã©".toList := by
  obtain ⟨s', hsaved⟩ := exists_saveFile (s := editorOn "10 REM Ã©".toList true) (by decide +kernel)
  have hutf8 : encodeUtf8 "10 REM é\n".toList = savedBytes (editorOn "10 REM Ã©".toList true).buffer.content := by decide
  refine ⟨_, s', hsaved, text_openFile ?_ s', by decide⟩
  rw [fileText_eq (by decide), decodeUtf8?_eq_some_iff.2 hutf8, Option.getD_some]

end MsxWorkbench.Editor
