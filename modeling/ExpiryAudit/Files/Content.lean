import ExpiryAudit.Fault
import ExpiryAudit.Text.Line

/-!
# Contents of files

A file holds a text, or bytes that are no text.
-/
namespace ExpiryAudit

inductive FileContent where
  | text (content : String)
  | bytes (content : List UInt8)
  deriving DecidableEq

namespace FileContent

/-- Bytes that are a text are kept as that text. -/
def ofBytes (bytes : List UInt8) : FileContent :=
  match Text.Utf8.decode bytes with
  | ⟨chars, none⟩ => .text (String.ofList chars)
  | _ => .bytes bytes

/-- The whole text, with line ends unified. -/
def read : FileContent → Except Fault (List Char)
  | text s => .ok (Text.unifyLineEnds s.toList)
  | bytes b =>
    match Text.Utf8.decode b with
    | ⟨chars, none⟩ => .ok (Text.unifyLineEnds chars)
    | ⟨_, some broken⟩ => .error (.undecodable broken)

/-! ## Line by line -/

/-- The number of bytes that are read at a time. -/
def blockSize : Nat := 8192

/-- Decodes the blocks of a file. The bytes at the end of a block that start a
character belong to the next one. The positions of faults are counted from the start
of a block with such bytes in front; no character of a faulty block is decoded. -/
def decodeBlocks (done : List Char) (unfinished : List UInt8) :
    List UInt8 → List Char × Option Text.Utf8.Broken
  | [] => (done, (Text.Utf8.decode unfinished).broken)
  | b :: rest =>
    let block := unfinished ++ b :: rest.take (blockSize - 1)
    match Text.Utf8.decode block with
    | ⟨chars, none⟩ => decodeBlocks (done ++ chars) [] (rest.drop (blockSize - 1))
    | ⟨chars, some broken⟩ =>
      if broken.isUnfinished block then
        decodeBlocks (done ++ chars) (block.drop broken.position) (rest.drop (blockSize - 1))
      else (done, some broken)
termination_by bytes => bytes.length

/-- The part of a text up to its last line end. A final carriage return may be
half of one and does not count. -/
def completeLines (s : List Char) : List Char :=
  let s := if s.getLast? = some '\r' then s.dropLast else s
  (s.reverse.dropWhile fun c => c != '\n' && c != '\r').reverse

/-- The lines that can be read one by one, and the fault after them. Only complete
lines are read before a fault. -/
def lines : FileContent → List (List Char) × Option Fault
  | text s => (Text.lines s.toList, none)
  | bytes b =>
    match decodeBlocks [] [] b with
    | (chars, none) => (Text.lines chars, none)
    | (chars, some broken) => (Text.lines (completeLines chars), some (.undecodable broken))

end FileContent

end ExpiryAudit
