/-! Blank characters, trimming, and cutting a text at a marker. Texts are lists of characters here,
so that every operation is a recursion on the text; `trimmed` is the version on strings. -/

namespace Deliberation.Text

/-- The characters with the Unicode property `White_Space`. -/
def isBlank (c : Char) : Bool :=
  let code := c.toNat
  (9 ≤ code && code ≤ 13) || code == 0x20 || code == 0x85 || code == 0xA0 || code == 0x1680 ||
    (0x2000 ≤ code && code ≤ 0x200A) || code == 0x2028 || code == 0x2029 || code == 0x202F ||
    code == 0x205F || code == 0x3000

def dropEndWhile (p : Char → Bool) (text : List Char) : List Char :=
  (text.reverse.dropWhile p).reverse

def trimStart (text : List Char) : List Char :=
  text.dropWhile isBlank

def trimEnd (text : List Char) : List Char :=
  dropEndWhile isBlank text

def trim (text : List Char) : List Char :=
  trimEnd (trimStart text)

def trimmed (text : String) : String :=
  String.ofList (trim text.toList)

/-- The first maximal run of characters that are not blank. -/
def firstWord? (text : List Char) : Option (List Char) :=
  match trimStart text with
  | [] => none
  | rest => some (rest.takeWhile fun c => !isBlank c)

/-- What follows the marker, where the text starts with it. -/
def after? : List Char → List Char → Option (List Char)
  | [], text => some text
  | _ :: _, [] => none
  | m :: marker, c :: text => if m = c then after? marker text else none

/-- The parts before and after the first separator. -/
def cut? (separator : Char) : List Char → Option (List Char × List Char)
  | [] => none
  | c :: rest =>
    if c = separator then some ([], rest)
    else (cut? separator rest).map fun parts => (c :: parts.1, parts.2)

/-- The parts of a text between separators. There is always one more than separators. -/
def parts (isSeparator : Char → Bool) : List Char → List (List Char)
  | [] => [[]]
  | c :: rest =>
    if isSeparator c then [] :: parts isSeparator rest
    else match parts isSeparator rest with
      | [] => [[c]]
      | first :: others => (c :: first) :: others

theorem after?_eq_some {marker text rest : List Char} :
    after? marker text = some rest ↔ text = marker ++ rest := by
  induction marker generalizing text with
  | nil => simp [after?, eq_comm]
  | cons m marker ih =>
    cases text with
    | nil => simp [after?]
    | cons c text => by_cases h : m = c <;> simp_all [after?, eq_comm]

theorem after?_length_le {marker text rest : List Char} (h : after? marker text = some rest) :
    rest.length ≤ text.length := by
  rw [after?_eq_some] at h
  simp [h]

end Deliberation.Text
