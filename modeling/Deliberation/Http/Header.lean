import Deliberation.Text.Lines
/-! Lines of messages of HTTP, and the headers in them. A line ends with a line feed, before which a
carriage return may stand. The characters of a line are its bytes. -/

namespace Deliberation.Http

def cutFeed? : List UInt8 → Option (List UInt8 × List UInt8)
  | [] => none
  | b :: rest =>
    if b = 10 then some ([], rest)
    else (cutFeed? rest).map fun parts => (b :: parts.1, parts.2)

theorem cutFeed?_length_lt {bytes line rest : List UInt8} (h : cutFeed? bytes = some (line, rest)) :
    rest.length < bytes.length := by
  induction bytes generalizing line rest with
  | nil => simp [cutFeed?] at h
  | cons b bytes ih =>
    simp only [cutFeed?] at h
    split at h
    · simp only [Option.some.injEq, Prod.mk.injEq] at h
      simp [h.2]
    · obtain ⟨parts, hparts, heq⟩ := Option.map_eq_some_iff.1 h
      simp only [Prod.mk.injEq] at heq
      have := ih hparts
      rw [heq.2] at this
      rw [List.length_cons]
      omega

/-- The characters of bytes that are taken for themselves. -/
def chars (bytes : List UInt8) : List Char :=
  bytes.map fun b => Char.ofNat b.toNat

/-- The first line, whose ending may have a carriage return, and the bytes behind it. -/
def line? (bytes : List UInt8) : Option (List Char × List UInt8) :=
  (cutFeed? bytes).map fun parts => ((Text.dropReturn (chars parts.1).reverse).reverse, parts.2)

theorem line?_length_lt {bytes rest : List UInt8} {line : List Char}
    (h : line? bytes = some (line, rest)) : rest.length < bytes.length := by
  obtain ⟨parts, hparts, heq⟩ := Option.map_eq_some_iff.1 h
  simp only [Prod.mk.injEq] at heq
  rw [← heq.2]
  exact cutFeed?_length_lt hparts

/-- The lines up to an empty one, and the bytes behind it. -/
def lines? (bytes : List UInt8) : Option (List (List Char) × List UInt8) :=
  match _h : line? bytes with
  | none => none
  | some ([], rest) => some ([], rest)
  | some (line, rest) => (lines? rest).map fun parts => (line :: parts.1, parts.2)
termination_by bytes.length
decreasing_by exact line?_length_lt _h

theorem lines?_length_lt {bytes rest : List UInt8} {lines : List (List Char)}
    (h : lines? bytes = some (lines, rest)) : rest.length < bytes.length := by
  fun_induction lines? bytes generalizing lines rest with
  | case1 => simp at h
  | case2 bytes rest' hline =>
    simp only [Option.some.injEq, Prod.mk.injEq] at h
    exact h.2 ▸ line?_length_lt hline
  | case3 bytes line rest' _ hline ih =>
    obtain ⟨parts, hparts, heq⟩ := Option.map_eq_some_iff.1 h
    simp only [Prod.mk.injEq] at heq
    have := ih hparts
    have := line?_length_lt hline
    rw [heq.2] at *
    omega

def isToken (c : Char) : Bool :=
  c.isAlphanum || "!#$%&\x27*+-.^_\x60|~".toList.contains c

def isHeadText (c : Char) : Bool :=
  c = '\t' || (0x20 ≤ c.toNat && c.toNat ≠ 0x7F)

def isPrintable (c : Char) : Bool :=
  isHeadText c && c.toNat < 0x80

def isBlank (c : Char) : Bool :=
  c = ' ' || c = '\t'

/-- A header, whose name is in lowercase. -/
structure Header where
  name : List Char
  value : List Char
deriving DecidableEq, Repr

def longestName : Nat :=
  65535

def Header.ofLine? (line : List Char) : Option Header := do
  let (name, value) ← Text.cut? ':' line
  if name ≠ [] ∧ name.length ≤ longestName ∧ name.all isToken ∧ value.all isHeadText then
    some ⟨name.map Char.toLower, Text.dropEndWhile isBlank (value.dropWhile isBlank)⟩
  else none

/-- The headers in lines, where there are not too many. -/
def headers? (most : Nat) (lines : List (List Char)) : Option (List Header) :=
  if lines.length ≤ most then lines.mapM Header.ofLine? else none

def values (headers : List Header) (name : String) : List (List Char) :=
  (headers.filter fun header => header.name = name.toList).map Header.value

/-- The parts of a value between commas, without blanks around them. -/
def listed (value : List Char) : List (List Char) :=
  (Text.parts (· = ',') value).map Text.trim

end Deliberation.Http
