import Deliberation.Http.Header
import Deliberation.Numeric.Hexadecimal
/-! Bodies that come in chunks. Before each chunk stands a line with its size, the last one is empty,
and lines of more headers may follow it. These bodies are read byte by byte. -/

namespace Deliberation.Http

inductive Place where
  /-- Before the line of a size. -/
  | start
  /-- Behind digits of a size. -/
  | size (n : Nat)
  /-- Behind blanks that follow a size. -/
  | blank (n : Nat)
  /-- In what a line says besides its size. -/
  | extension (n : Nat)
  /-- Before the line feed behind a size. -/
  | sizeFeed (n : Nat)
  /-- Before the last bytes of a chunk. -/
  | data (left : Nat)
  | dataReturn
  | dataFeed
  /-- In a line behind the last chunk. -/
  | trailer
  | trailerFeed
  /-- Before another line behind the last chunk, or the end. -/
  | endReturn
  | endFeed
  | finished
deriving DecidableEq, Repr

/-- A reader of a body in chunks. The bytes that it keeps stand in reversed order. -/
structure ChunkReader where
  place : Place := .start
  body : List UInt8 := []
  /-- The number of bytes in lines of sizes that are no sizes. -/
  extensions : Nat := 0
  /-- The lines behind the last chunk. -/
  trailers : List UInt8 := []
  trailerLines : Nat := 0

namespace ChunkReader

/-- The number of bytes that extensions, and lines behind the last chunk, stay below. -/
def limit : Nat :=
  16384

/-- The number of headers that lines behind the last chunk stay below. -/
def headerLimit : Nat :=
  100

/-- The size with another digit, where there is room for it in 64 bits. -/
def digit? (n : Nat) (b : UInt8) : Option Nat := do
  let size := 16 * n + (← Hexadecimal.digit? (Char.ofNat b.toNat))
  if size < UInt64.size then some size else none

def afterSize (r : ChunkReader) (n : Nat) (b : UInt8) : Option ChunkReader :=
  if b = 9 ∨ b = 32 then some { r with place := .blank n }
  else if b = 59 then some { r with place := .extension n }
  else if b = 13 then some { r with place := .sizeFeed n }
  else none

def keep (r : ChunkReader) (b : UInt8) (place : Place) : Option ChunkReader :=
  if r.trailers.length + 1 < limit then some { r with place, trailers := b :: r.trailers } else none

/-- The reader behind another byte, where the byte may stand there. -/
def step (r : ChunkReader) (b : UInt8) : Option ChunkReader :=
  match r.place with
  | .start => (digit? 0 b).map fun n => { r with place := .size n }
  | .size n =>
    match Hexadecimal.digit? (Char.ofNat b.toNat) with
    | some _ => (digit? n b).map fun n => { r with place := .size n }
    | none => r.afterSize n b
  | .blank n => r.afterSize n b
  | .extension n =>
    if b = 13 then some { r with place := .sizeFeed n }
    else if b = 10 ∨ limit ≤ r.extensions + 1 then none
    else some { r with extensions := r.extensions + 1 }
  | .sizeFeed n =>
    if b ≠ 10 then none else some { r with place := if n = 0 then .endReturn else .data n }
  | .data left =>
    some { r with place := if left ≤ 1 then .dataReturn else .data (left - 1), body := b :: r.body }
  | .dataReturn => if b = 13 then some { r with place := .dataFeed } else none
  | .dataFeed => if b = 10 then some { r with place := .start } else none
  | .trailer => r.keep b (if b = 13 then .trailerFeed else .trailer)
  | .trailerFeed =>
    if b ≠ 10 ∨ headerLimit ≤ r.trailerLines then none
    else { r with trailerLines := r.trailerLines + 1 }.keep b .endReturn
  | .endReturn =>
    if r.trailers = [] then
      if b = 13 then some { r with place := .endFeed }
      else some { r with place := .trailer, trailers := [b] }
    else r.keep b (if b = 13 then .endFeed else .trailer)
  | .endFeed =>
    if b ≠ 10 then none
    else if r.trailers = [] then some { r with place := .finished }
    else r.keep b .finished
  | .finished => some r

def run (r : ChunkReader) : List UInt8 → Option ChunkReader
  | [] => some r
  | b :: rest =>
    match r.step b with
    | some next => next.run rest
    | none => none

def areTrailersReadable (r : ChunkReader) : Bool :=
  r.trailers = [] || (r.trailerLines < headerLimit &&
    ((lines? r.trailers.reverse).bind fun parts => headers? r.trailerLines parts.1).isSome)

end ChunkReader

end Deliberation.Http
