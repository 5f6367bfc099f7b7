import Deliberation.Encoding.Index.Big5
import Deliberation.Encoding.Index.Gb18030
import Deliberation.Encoding.Index.Hangul
import Deliberation.Encoding.Index.Jis0208
import Deliberation.Encoding.Index.Jis0212
/-! The encodings of Chinese, Japanese and Korean. All but one read each character on its own; the one
of seven bits switches between sets of characters. -/

namespace Deliberation.Encoding

/-- Whether a byte is in a range, ends included. -/
def isBetween (least greatest b : UInt8) : Bool :=
  least ≤ b && b ≤ greatest

def halfwidth (n : Nat) : Char :=
  Char.ofNat (0xFF61 + n)

def offset (b least : UInt8) : Nat :=
  b.toNat - least.toNat

def eucKrPiece (b : UInt8) (rest : List UInt8) : Piece :=
  if b < 0x80 then .char (ascii b) 0
  else match rest with
    | second :: _ =>
      if b = 0x80 || b = 0xFF then .unreadable 0
      else
        let found := if isBetween 0x41 0xFE second then
            hangul.char? (190 * offset b 0x81 + offset second 0x41)
          else none
        .pair found second
    | [] => .unreadable 0

/-- The number of a second byte, which is none of those between two ranges. -/
def secondOffset? (greatest least second : UInt8) : Option Nat :=
  if isBetween 0x40 0x7E second then some (offset second 0x40)
  else if isBetween least greatest second then some (0x3F + offset second least)
  else none

/-- The characters of a number in Big5. Four numbers stand for a letter with a mark. -/
def big5Characters? : Nat → Option (List Char)
  | 1133 => some ['Ê', '\u0304']
  | 1135 => some ['Ê', '\u030c']
  | 1164 => some ['ê', '\u0304']
  | 1166 => some ['ê', '\u030c']
  | n => (big5Characters.char? n).map ([·])

def big5Piece (b : UInt8) (rest : List UInt8) : Piece :=
  if b < 0x80 then .char (ascii b) 0
  else match rest with
    | second :: _ =>
      if b = 0x80 || b = 0xFF then .unreadable 0
      else
        let found := (secondOffset? 0xFE 0xA1 second).bind fun n =>
          big5Characters? (157 * offset b 0x81 + n)
        match found with
        | some chars => ⟨chars, 1⟩
        | none => .pair none second
    | [] => .unreadable 0

def gbPair? (n : Nat) : Option Char :=
  match gbPrivateRuns.find? fun run => run.1 ≤ n && n < run.1 + run.2.1 with
  | some (first, _, c) => some (Char.ofNat (c + (n - first)))
  | none => gbCharacters.char? n

def gbFour? (n : Nat) : Option Char :=
  if (39419 < n && n < 189000) || 1237575 < n then none
  else if n = 7457 then some '\ue7c7'
  else (gbRanges.takeWhile fun range => range.1 ≤ n).getLast?.map fun range =>
    Char.ofNat (range.2 + (n - range.1))

def gb18030Piece (b : UInt8) (rest : List UInt8) : Piece :=
  if b < 0x80 then .char (ascii b) 0
  else if b = 0x80 then .char '€' 0
  else if b = 0xFF then .unreadable 0
  else match rest with
    | [] => .unreadable 0
    | second :: rest =>
      if isBetween 0x30 0x39 second then
        match rest with
        | [] => .unreadable 1
        | [third] => .unreadable (if isBetween 0x81 0xFE third then 2 else 0)
        | third :: fourth :: _ =>
          if isBetween 0x81 0xFE third && isBetween 0x30 0x39 fourth then
            let n := 12600 * offset b 0x81 + 1260 * offset second 0x30 + 10 * offset third 0x81 +
              offset fourth 0x30
            .char ((gbFour? n).getD replacement) 3
          else .unreadable 0
      else
        let found := (secondOffset? 0xFE 0x80 second).bind fun n => gbPair? (190 * offset b 0x81 + n)
        .pair found second

/-- The character of two bytes in Shift JIS, by its number. Some numbers are left to users. -/
def shiftJisPair? (n : Nat) : Option Char :=
  if 8836 ≤ n && n ≤ 10715 then some (Char.ofNat (0xE000 + (n - 8836))) else jis0208.char? n

def shiftJisPiece (b : UInt8) (rest : List UInt8) : Piece :=
  if b ≤ 0x80 then .char (ascii b) 0
  else if isBetween 0xA1 0xDF b then .char (halfwidth (offset b 0xA1)) 0
  else if b = 0xA0 || 0xFC < b then .unreadable 0
  else match rest with
    | second :: _ =>
      let row := offset b (if b < 0xA0 then 0x81 else 0xC1)
      .pair ((secondOffset? 0xFC 0x80 second).bind fun n => shiftJisPair? (188 * row + n)) second
    | [] => .unreadable 0

/-- The number of a pair of bytes in rows of 94 cells. -/
def cell? (least first second : UInt8) : Option Nat :=
  if isBetween least (least + 93) first && isBetween least (least + 93) second then
    some (94 * offset first least + offset second least)
  else none

def eucJpPiece (b : UInt8) (rest : List UInt8) : Piece :=
  if b < 0x80 then .char (ascii b) 0
  else if b ≠ 0x8E ∧ b ≠ 0x8F ∧ !isBetween 0xA1 0xFE b then .unreadable 0
  else match rest with
    | [] => .unreadable 0
    | second :: rest =>
      if b = 0x8E ∧ isBetween 0xA1 0xDF second then .char (halfwidth (offset second 0xA1)) 1
      else if b = 0x8F ∧ isBetween 0xA1 0xFE second then
        match rest with
        | [] => .unreadable 1
        | third :: _ =>
          let p := Piece.pair ((cell? 0xA1 second third).bind jis0212.char?) third
          ⟨p.chars, p.further + 1⟩
      else .pair ((cell? 0xA1 b second).bind jis0208.char?) second

/-- A set of characters that bytes of seven bits stand for. -/
inductive JapaneseSet where
  | ascii
  | roman
  | katakana
  | kanji
deriving DecidableEq, Repr

def JapaneseSet.ofEscape? : List UInt8 → Option JapaneseSet
  | 0x28 :: 0x42 :: _ => some .ascii
  | 0x28 :: 0x4A :: _ => some .roman
  | 0x28 :: 0x49 :: _ => some .katakana
  | 0x24 :: 0x40 :: _ => some .kanji
  | 0x24 :: 0x42 :: _ => some .kanji
  | _ => none

def JapaneseSet.char? (set : JapaneseSet) (b : UInt8) : Option Char :=
  match set with
  | .katakana => if isBetween 0x21 0x5F b then some (halfwidth (offset b 0x21)) else none
  | .roman =>
    if b = 0x5C then some '¥'
    else if b = 0x7E then some '‾'
    else if b < 0x80 && b ≠ 0x0E && b ≠ 0x0F then some (Encoding.ascii b) else none
  | _ => if b < 0x80 && b ≠ 0x0E && b ≠ 0x0F then some (Encoding.ascii b) else none

/-- The characters of some bytes in ISO-2022-JP behind others, whose characters stand in reversed
order. The flag says that they stand right behind a switch. Two switches in a row are an error. -/
def iso2022JpFrom (set : JapaneseSet) (switched : Bool) (before : List Char) :
    List UInt8 → List Char
  | [] => before.reverse
  | b :: rest =>
    if b = 0x1B then
      match JapaneseSet.ofEscape? rest with
      | some next =>
        iso2022JpFrom next true (if switched then replacement :: before else before) (rest.drop 2)
      | none => iso2022JpFrom set false (replacement :: before) rest
    else match set with
      | .kanji =>
        match _h : rest with
        | [] => (replacement :: before).reverse
        | second :: behind =>
          if !isBetween 0x21 0x7E b || second = 0x1B then
            iso2022JpFrom set false (replacement :: before) (second :: behind)
          else
            let found := (cell? 0x21 b second).bind jis0208.char?
            iso2022JpFrom set false (found.getD replacement :: before) behind
      | set => iso2022JpFrom set false ((set.char? b).getD replacement :: before) rest
termination_by bytes => bytes.length
decreasing_by
  all_goals simp_all only [List.length_cons, List.length_drop]
  all_goals omega

end Deliberation.Encoding
