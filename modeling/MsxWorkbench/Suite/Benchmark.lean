import MsxWorkbench.Suite.ViewerRuns
/-
# The benchmarks

Every benchmark has a name, a size and a run. A benchmark is made ready once, which may print
something, and is then run any number of times with the same outcome.
-/
namespace MsxWorkbench.Suite

/-- A benchmark. -/
structure Benchmark where
  name : String
  /-- The name of its size. -/
  size : String
  /-- The run of a size; it may need the store's table of line numbers. -/
  run : Bool → Nat → Outcome
  /-- What is printed while it is made ready. -/
  printed : String := ""

/-- All benchmarks. -/
def benchmarks : List Benchmark := [
  { name := "decode_msx_basic", size := "n_lines", run := fun _ => decodeRun },
  { name := "basic_analyzer", size := "n_lines", run := fun _ => analyzeRun },
  { name := "disk_reader", size := "n_files", run := fun _ => diskRun },
  { name := "app_db_and_themes", size := "n_src_lines", run := fun _ => settingsRun },
  { name := "extract_charsets", size := "n_items", run := fun _ => characterRun },
  { name := "chm_parser", size := "n_render", run := fun _ => contentsRun },
  { name := "editor_beautify", size := "n_lines", run := fun _ => respaceRun },
  { name := "editor_renum_highlight", size := "n_lines", run := fun _ => renumberRun },
  { name := "editor_full_ui", size := "n_lines", run := editorRun },
  { name := "screen2_render", size := "n_frames", run := fun _ => screenRun },
  { name := "shape_viewer", size := "n_shapes", run := fun _ => shapeRun },
  { name := "layout_decode", size := "n_runs", run := fun _ => layoutRun },
  { name := "alphabet_viewer", size := "n_chars", run := fun _ => alphabetRun },
  { name := "encoding_viewer", size := "n_loads", run := fun _ => encodingRun },
  { name := "main_viewer", size := "n_files", run := fun _ => viewerRun },
  { name := "help_and_chm_viewer", size := "n_items", run := fun _ => helpRun, printed := helpPrinted },
  { name := "viewer_frames_init", size := "n_reps", run := fun _ => framesRun }]

/-- The benchmark with a name. -/
def benchmark? (name : String) : Option Benchmark := benchmarks.find? fun b => b.name == name

end MsxWorkbench.Suite
