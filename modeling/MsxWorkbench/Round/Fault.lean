import MsxWorkbench.Json.Demand
import MsxWorkbench.Json.Reader
/-
# Faults in what was measured

Why a tool could not be run, or what it wrote could not be used. A fault of one of the smaller tools
only costs its section of the report; one in the record of coverage ends the round.
-/
namespace MsxWorkbench.Round

/-- What can be wrong with a tool or its record. -/
inductive Fault where
  | notStarted (message : String)
  | notJson (error : Json.ReadError) (text : List Char)
  | mismatch (cause : Json.Mismatch)

namespace Fault

/-- The message for a fault. -/
def message : Fault → String
  | .notStarted message => message
  | .notJson e text => e.message text
  | .mismatch m => m.message

/-- The word that a complaint puts before the message. -/
def word : Fault → String
  | .notStarted _ => "RuntimeError"
  | .notJson e _ =>
    match e.fault with
    | .number _ => "ValueError"
    | .deepObject | .deepArray => "RecursionError"
    | _ => "JSONDecodeError"
  | .mismatch m => m.word

/-- The line that names a tool and its fault. -/
def complaint (tool : String) (f : Fault) : String :=
  "[" ++ tool ++ " runner: " ++ f.word ++ ": " ++ f.message ++ "]\n"

end Fault

/-- The JSON value that a text holds. -/
def readRecord (text : List Char) : Except Fault Json :=
  (Json.read text).mapError fun e => .notJson e text

end MsxWorkbench.Round
