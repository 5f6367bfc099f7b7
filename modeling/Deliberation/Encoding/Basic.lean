import Deliberation.Encoding.EastAsian
import Deliberation.Encoding.Index.SingleByte
import Deliberation.Encoding.Unicode
import Deliberation.Text.Blank
/-! Encodings of texts by bytes, and the labels that name them. Every byte sequence has a text in every
encoding: what cannot be read stands for the replacement character. -/

namespace Deliberation

inductive Encoding where
  | utf8
  /-- Units of 16 bits, of which the flag says whether the high byte comes first. -/
  | utf16 (big : Bool)
  /-- ASCII, and a table of the bytes from 128 on. -/
  | singleByte (high : Encoding.Table)
  /-- ASCII, and private characters for the bytes from 128 on. -/
  | userDefined
  | eucKr
  | big5
  | gb18030
  | shiftJis
  | eucJp
  | iso2022Jp
  /-- A text that is not read, whatever its bytes. -/
  | withheld

namespace Encoding

def singlePiece (high : Nat → Option Char) (b : UInt8) (_ : List UInt8) : Piece :=
  .char (if b < 0x80 then ascii b else (high (offset b 0x80)).getD replacement) 0

def decode (encoding : Encoding) (bytes : List UInt8) : List Char :=
  match encoding with
  | .utf8 => read utf8Piece bytes
  | .utf16 big => read (utf16Piece big) bytes
  | .singleByte high => read (singlePiece high.char?) bytes
  | .userDefined => read (singlePiece fun n => some (Char.ofNat (0xF780 + n))) bytes
  | .eucKr => read eucKrPiece bytes
  | .big5 => read big5Piece bytes
  | .gb18030 => read gb18030Piece bytes
  | .shiftJis => read shiftJisPiece bytes
  | .eucJp => read eucJpPiece bytes
  | .iso2022Jp => iso2022JpFrom .ascii false [] bytes
  | .withheld => if bytes = [] then [] else [replacement]

/-- The encoding that a mark at the front of some bytes tells, and the bytes behind it. -/
def ofMark? : List UInt8 → Option (Encoding × List UInt8)
  | 0xEF :: 0xBB :: 0xBF :: rest => some (.utf8, rest)
  | 0xFE :: 0xFF :: rest => some (.utf16 true, rest)
  | 0xFF :: 0xFE :: rest => some (.utf16 false, rest)
  | _ => none

/-- The text of some bytes, of which a mark at the front knows better than anybody else how they are
to be read. -/
def text (encoding : Encoding) (bytes : List UInt8) : String :=
  let (encoding, bytes) := (ofMark? bytes).getD (encoding, bytes)
  String.ofList (encoding.decode bytes)

def labelled : List (Encoding × String) := [
  (.utf8, "unicode-1-1-utf-8 unicode11utf8 unicode20utf8 utf-8 utf8 x-unicode20utf8"),
  (.singleByte ibm866, "866 cp866 csibm866 ibm866"),
  (.singleByte latin2,
    "csisolatin2 iso-8859-2 iso-ir-101 iso8859-2 iso88592 iso_8859-2 iso_8859-2:1987 l2 latin2"),
  (.singleByte latin3,
    "csisolatin3 iso-8859-3 iso-ir-109 iso8859-3 iso88593 iso_8859-3 iso_8859-3:1988 l3 latin3"),
  (.singleByte latin4,
    "csisolatin4 iso-8859-4 iso-ir-110 iso8859-4 iso88594 iso_8859-4 iso_8859-4:1988 l4 latin4"),
  (.singleByte latinCyrillic,
    "csisolatincyrillic cyrillic iso-8859-5 iso-ir-144 iso8859-5 iso88595 iso_8859-5 " ++
    "iso_8859-5:1988"),
  (.singleByte latinArabic,
    "arabic asmo-708 csiso88596e csiso88596i csisolatinarabic ecma-114 iso-8859-6 iso-8859-6-e " ++
    "iso-8859-6-i iso-ir-127 iso8859-6 iso88596 iso_8859-6 iso_8859-6:1987"),
  (.singleByte latinGreek,
    "csisolatingreek ecma-118 elot_928 greek greek8 iso-8859-7 iso-ir-126 iso8859-7 iso88597 " ++
    "iso_8859-7 iso_8859-7:1987 sun_eu_greek"),
  (.singleByte latinHebrew,
    "csiso88598e csisolatinhebrew hebrew iso-8859-8 iso-8859-8-e iso-ir-138 iso8859-8 iso88598 " ++
    "iso_8859-8 iso_8859-8:1988 visual csiso88598i iso-8859-8-i logical"),
  (.singleByte latin6, "csisolatin6 iso-8859-10 iso-ir-157 iso8859-10 iso885910 l6 latin6"),
  (.singleByte latin7, "iso-8859-13 iso8859-13 iso885913"),
  (.singleByte latin8, "iso-8859-14 iso8859-14 iso885914"),
  (.singleByte latin9, "csisolatin9 iso-8859-15 iso8859-15 iso885915 iso_8859-15 l9"),
  (.singleByte latin10, "iso-8859-16"),
  (.singleByte koi8r, "cskoi8r koi koi8 koi8-r koi8_r"),
  (.singleByte koi8u, "koi8-ru koi8-u"),
  (.singleByte macintosh, "csmacintosh mac macintosh x-mac-roman"),
  (.singleByte windows874, "dos-874 iso-8859-11 iso8859-11 iso885911 tis-620 windows-874"),
  (.singleByte windows1250, "cp1250 windows-1250 x-cp1250"),
  (.singleByte windows1251, "cp1251 windows-1251 x-cp1251"),
  (.singleByte windows1252,
    "ansi_x3.4-1968 ascii cp1252 cp819 csisolatin1 ibm819 iso-8859-1 iso-ir-100 iso8859-1 " ++
    "iso88591 iso_8859-1 iso_8859-1:1987 l1 latin1 us-ascii windows-1252 x-cp1252"),
  (.singleByte windows1253, "cp1253 windows-1253 x-cp1253"),
  (.singleByte windows1254,
    "cp1254 csisolatin5 iso-8859-9 iso-ir-148 iso8859-9 iso88599 iso_8859-9 iso_8859-9:1989 l5 " ++
    "latin5 windows-1254 x-cp1254"),
  (.singleByte windows1255, "cp1255 windows-1255 x-cp1255"),
  (.singleByte windows1256, "cp1256 windows-1256 x-cp1256"),
  (.singleByte windows1257, "cp1257 windows-1257 x-cp1257"),
  (.singleByte windows1258, "cp1258 windows-1258 x-cp1258"),
  (.singleByte macCyrillic, "x-mac-cyrillic x-mac-ukrainian"),
  (.gb18030,
    "chinese csgb2312 csiso58gb231280 gb2312 gb_2312 gb_2312-80 gbk iso-ir-58 x-gbk gb18030"),
  (.big5, "big5 big5-hkscs cn-big5 csbig5 x-x-big5"),
  (.eucJp, "cseucpkdfmtjapanese euc-jp x-euc-jp"),
  (.iso2022Jp, "csiso2022jp iso-2022-jp"),
  (.shiftJis, "csshiftjis ms932 ms_kanji shift-jis shift_jis sjis windows-31j x-sjis"),
  (.eucKr,
    "cseuckr csksc56011987 euc-kr iso-ir-149 korean ks_c_5601-1987 ks_c_5601-1989 ksc5601 " ++
    "ksc_5601 windows-949"),
  (.withheld, "csiso2022kr hz-gb-2312 iso-2022-cn iso-2022-cn-ext iso-2022-kr replacement"),
  (.utf16 true, "unicodefffe utf-16be"),
  (.utf16 false, "csunicode iso-10646-ucs-2 ucs-2 unicode unicodefeff utf-16 utf-16le"),
  (.userDefined, "x-user-defined")]

/-- Whether a character stands for nothing at the ends of a label. -/
def isLabelBlank (c : Char) : Bool :=
  c = ' ' || c = '\t' || c = '\n' || c = '\x0c' || c = '\r'

/-- The encoding of a label, in which blanks at the ends and capitals do not count. -/
def ofLabel? (label : List Char) : Option Encoding :=
  let name := (Text.dropEndWhile isLabelBlank (label.dropWhile isLabelBlank)).map Char.toLower
  (labelled.find? fun entry => (Text.parts (· = ' ') entry.2.toList).contains name).map Prod.fst

end Encoding

end Deliberation
