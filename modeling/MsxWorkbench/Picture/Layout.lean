import MsxWorkbench.Picture.Screen
/-
# Layout files

A layout file holds the patterns of a screen, packed: every byte is shifted by 0x99, and after a byte
that stands for 0x00 or 0xFF comes a count of how often it is repeated. The header tells the address
of the last packed byte, the first one being at 0x9200.
-/
namespace MsxWorkbench.Picture

/-- Bytes of the patterns of a screen. -/
def patternBytes : Nat := 0x1800

/-- The byte that a packed byte stands for. -/
def unpackByte (b : UInt8) : UInt8 := b - 0x99

/-- The packed form of a byte. -/
def packByte (b : UInt8) : UInt8 := b + 0x99

/-- Whether a byte is followed by a count. -/
def isCounted (b : UInt8) : Bool := b = 0x00 || b = 0xFF

/-- Unpacks at most `counter` bytes into at most `room`; counts are not among the counted bytes. -/
def unpack : Nat → Nat → List UInt8 → List UInt8
  | 0, _, _ => []
  | _, 0, _ => []
  | _, _, [] => []
  | counter + 1, room + 1, raw :: rest =>
    let value := unpackByte raw
    if isCounted value then
      match rest with
      | [] => []
      | count :: rest =>
        let n := min count.toNat (room + 1)
        List.replicate n value ++ unpack counter (room + 1 - n) rest
    else value :: unpack counter room rest

/-- Why a layout file could not be read. -/
inductive LayoutError where
  | shortHeader
deriving DecidableEq, Repr

/-- The message for a layout file that could not be read. -/
def LayoutError.message : LayoutError → String
  | .shortHeader => "Arquivo muito curto ou cabecalho invalido."

/-- How many packed bytes a header announces; none when the address lies before the first. -/
def packedCount (low high : UInt8) : Nat := high.toNat * 256 + low.toNat + 1 - 0x9200

/-- The patterns of a layout file, filled up with zeros (`_decode_graphos_lay`). -/
def decodeLayout : List UInt8 → Except LayoutError (List UInt8)
  | _ :: _ :: _ :: low :: high :: rest =>
    let out := unpack (packedCount low high) patternBytes (rest.drop 2)
    .ok (out ++ List.replicate (patternBytes - out.length) 0)
  | _ => .error .shortHeader

end MsxWorkbench.Picture
