import Deliberation.Encoding.Table
/-! The characters of the bytes from 128 on in the encodings of one byte. Each row has 16 of them. -/

namespace Deliberation.Encoding

/-- The control characters from 128 on, which stand for themselves. -/
def controls : List String := [
  "\u0080\u0081\u0082\u0083\u0084\u0085\u0086\u0087\u0088\u0089\u008a\u008b\u008c\u008d\u008e\u008f",
  "\u0090\u0091\u0092\u0093\u0094\u0095\u0096\u0097\u0098\u0099\u009a\u009b\u009c\u009d\u009e\u009f"]

def ibm866 : Table := .ofRows 16 [
  "АБВГДЕЖЗИЙКЛМНОП", "РСТУФХЦЧШЩЪЫЬЭЮЯ", "абвгдежзийклмноп", "░▒▓│┤╡╢╖╕╣║╗╝╜╛┐",
  "└┴┬├─┼╞╟╚╔╩╦╠═╬╧", "╨╤╥╙╘╒╓╫╪┘┌█▄▌▐▀", "рстуфхцчшщъыьэюя", "ЁёЄєЇїЎў°∙·√№¤■\u00a0"]

def latin2 : Table := .ofRows 16 (controls ++ [
  "\u00a0Ą˘Ł¤ĽŚ§¨ŠŞŤŹ\u00adŽŻ", "°ą˛ł´ľśˇ¸šşťź˝žż", "ŔÁÂĂÄĹĆÇČÉĘËĚÍÎĎ", "ĐŃŇÓÔŐÖ×ŘŮÚŰÜÝŢß",
  "ŕáâăäĺćçčéęëěíîď", "đńňóôőö÷řůúűüýţ˙"])

def latin3 : Table := .ofRows 16 (controls ++ [
  "\u00a0Ħ˘£¤ Ĥ§¨İŞĞĴ\u00ad Ż", "°ħ²³´µĥ·¸ışğĵ½ ż", "ÀÁÂ ÄĊĈÇÈÉÊËÌÍÎÏ", " ÑÒÓÔĠÖ×ĜÙÚÛÜŬŜß",
  "àáâ äċĉçèéêëìíîï", " ñòóôġö÷ĝùúûüŭŝ˙"])

def latin4 : Table := .ofRows 16 (controls ++ [
  "\u00a0ĄĸŖ¤ĨĻ§¨ŠĒĢŦ\u00adŽ¯", "°ą˛ŗ´ĩļˇ¸šēģŧŊžŋ", "ĀÁÂÃÄÅÆĮČÉĘËĖÍÎĪ", "ĐŅŌĶÔÕÖ×ØŲÚÛÜŨŪß",
  "āáâãäåæįčéęëėíîī", "đņōķôõö÷øųúûüũū˙"])

def latinCyrillic : Table := .ofRows 16 (controls ++ [
  "\u00a0ЁЂЃЄЅІЇЈЉЊЋЌ\u00adЎЏ", "АБВГДЕЖЗИЙКЛМНОП", "РСТУФХЦЧШЩЪЫЬЭЮЯ", "абвгдежзийклмноп",
  "рстуфхцчшщъыьэюя", "№ёђѓєѕіїјљњћќ§ўџ"])

def latinArabic : Table := .ofRows 16 (controls ++ [
  "\u00a0   ¤       ،\u00ad", "           ؛   ؟", " ءآأؤإئابةتثجحخد", "ذرزسشصضطظعغ",
  "ـفقكلمنهوىي\u064b\u064c\u064d\u064e\u064f", "\u0650\u0651\u0652"])

def latinGreek : Table := .ofRows 16 (controls ++ [
  "\u00a0‘’£€₯¦§¨©ͺ«¬\u00ad ―", "°±²³΄΅Ά·ΈΉΊ»Ό½ΎΏ", "ΐΑΒΓΔΕΖΗΘΙΚΛΜΝΞΟ", "ΠΡ ΣΤΥΦΧΨΩΪΫάέήί",
  "ΰαβγδεζηθικλμνξο", "πρςστυφχψωϊϋόύώ"])

def latinHebrew : Table := .ofRows 16 (controls ++ [
  "\u00a0 ¢£¤¥¦§¨©×«¬\u00ad®¯", "°±²³´µ¶·¸¹÷»¼½¾", "", "               ‗", "אבגדהוזחטיךכלםמן",
  "נסעףפץצקרשת  \u200e\u200f"])

def latin6 : Table := .ofRows 16 (controls ++ [
  "\u00a0ĄĒĢĪĨĶ§ĻĐŠŦŽ\u00adŪŊ", "°ąēģīĩķ·ļđšŧž―ūŋ", "ĀÁÂÃÄÅÆĮČÉĘËĖÍÎÏ", "ÐŅŌÓÔÕÖŨØŲÚÛÜÝÞß",
  "āáâãäåæįčéęëėíîï", "ðņōóôõöũøųúûüýþĸ"])

def latin7 : Table := .ofRows 16 (controls ++ [
  "\u00a0”¢£¤„¦§Ø©Ŗ«¬\u00ad®Æ", "°±²³“µ¶·ø¹ŗ»¼½¾æ", "ĄĮĀĆÄÅĘĒČÉŹĖĢĶĪĻ", "ŠŃŅÓŌÕÖ×ŲŁŚŪÜŻŽß",
  "ąįāćäåęēčéźėģķīļ", "šńņóōõö÷ųłśūüżž’"])

def latin8 : Table := .ofRows 16 (controls ++ [
  "\u00a0Ḃḃ£ĊċḊ§Ẁ©ẂḋỲ\u00ad®Ÿ", "ḞḟĠġṀṁ¶ṖẁṗẃṠỳẄẅṡ", "ÀÁÂÃÄÅÆÇÈÉÊËÌÍÎÏ", "ŴÑÒÓÔÕÖṪØÙÚÛÜÝŶß",
  "àáâãäåæçèéêëìíîï", "ŵñòóôõöṫøùúûüýŷÿ"])

def latin9 : Table := .ofRows 16 (controls ++ [
  "\u00a0¡¢£€¥Š§š©ª«¬\u00ad®¯", "°±²³Žµ¶·ž¹º»ŒœŸ¿", "ÀÁÂÃÄÅÆÇÈÉÊËÌÍÎÏ", "ÐÑÒÓÔÕÖ×ØÙÚÛÜÝÞß",
  "àáâãäåæçèéêëìíîï", "ðñòóôõö÷øùúûüýþÿ"])

def latin10 : Table := .ofRows 16 (controls ++ [
  "\u00a0ĄąŁ€„Š§š©Ș«Ź\u00adźŻ", "°±ČłŽ”¶·žčș»ŒœŸż", "ÀÁÂĂÄĆÆÇÈÉÊËÌÍÎÏ", "ĐŃÒÓÔŐÖŚŰÙÚÛÜĘȚß",
  "àáâăäćæçèéêëìíîï", "đńòóôőöśűùúûüęțÿ"])

def koi8r : Table := .ofRows 16 [
  "─│┌┐└┘├┤┬┴┼▀▄█▌▐", "░▒▓⌠■∙√≈≤≥\u00a0⌡°²·÷", "═║╒ё╓╔╕╖╗╘╙╚╛╜╝╞", "╟╠╡Ё╢╣╤╥╦╧╨╩╪╫╬©",
  "юабцдефгхийклмно", "пярстужвьызшэщчъ", "ЮАБЦДЕФГХИЙКЛМНО", "ПЯРСТУЖВЬЫЗШЭЩЧЪ"]

def koi8u : Table := .ofRows 16 [
  "─│┌┐└┘├┤┬┴┼▀▄█▌▐", "░▒▓⌠■∙√≈≤≥\u00a0⌡°²·÷", "═║╒ёє╔ії╗╘╙╚╛ґў╞", "╟╠╡ЁЄ╣ІЇ╦╧╨╩╪ҐЎ©",
  "юабцдефгхийклмно", "пярстужвьызшэщчъ", "ЮАБЦДЕФГХИЙКЛМНО", "ПЯРСТУЖВЬЫЗШЭЩЧЪ"]

def macintosh : Table := .ofRows 16 [
  "ÄÅÇÉÑÖÜáàâäãåçéè", "êëíìîïñóòôöõúùûü", "†°¢£§•¶ß®©™´¨≠ÆØ", "∞±≤≥¥µ∂∑∏π∫ªºΩæø",
  "¿¡¬√ƒ≈∆«»…\u00a0ÀÃÕŒœ", "–—“”‘’÷◊ÿŸ⁄€‹›ﬁﬂ", "‡·‚„‰ÂÊÁËÈÍÎÏÌÓÔ", "\uf8ffÒÚÛÙıˆ˜¯˘˙˚¸˝˛ˇ"]

def windows874 : Table := .ofRows 16 [
  "€\u0081\u0082\u0083\u0084…\u0086\u0087\u0088\u0089\u008a\u008b\u008c\u008d\u008e\u008f",
  "\u0090‘’“”•–—\u0098\u0099\u009a\u009b\u009c\u009d\u009e\u009f", "\u00a0กขฃคฅฆงจฉชซฌญฎฏ",
  "ฐฑฒณดตถทธนบปผฝพฟ", "ภมยรฤลฦวศษสหฬอฮฯ",
  "ะ\u0e31าำ\u0e34\u0e35\u0e36\u0e37\u0e38\u0e39\u0e3a    ฿",
  "เแโใไๅๆ\u0e47\u0e48\u0e49\u0e4a\u0e4b\u0e4c\u0e4d\u0e4e๏", "๐๑๒๓๔๕๖๗๘๙๚๛"]

def windows1250 : Table := .ofRows 16 [
  "€\u0081‚\u0083„…†‡\u0088‰Š‹ŚŤŽŹ", "\u0090‘’“”•–—\u0098™š›śťžź", "\u00a0ˇ˘Ł¤Ą¦§¨©Ş«¬\u00ad®Ż",
  "°±˛ł´µ¶·¸ąş»Ľ˝ľż", "ŔÁÂĂÄĹĆÇČÉĘËĚÍÎĎ", "ĐŃŇÓÔŐÖ×ŘŮÚŰÜÝŢß", "ŕáâăäĺćçčéęëěíîď",
  "đńňóôőö÷řůúűüýţ˙"]

def windows1251 : Table := .ofRows 16 [
  "ЂЃ‚ѓ„…†‡€‰Љ‹ЊЌЋЏ", "ђ‘’“”•–—\u0098™љ›њќћџ", "\u00a0ЎўЈ¤Ґ¦§Ё©Є«¬\u00ad®Ї", "°±Ііґµ¶·ё№є»јЅѕї",
  "АБВГДЕЖЗИЙКЛМНОП", "РСТУФХЦЧШЩЪЫЬЭЮЯ", "абвгдежзийклмноп", "рстуфхцчшщъыьэюя"]

def windows1252 : Table := .ofRows 16 [
  "€\u0081‚ƒ„…†‡ˆ‰Š‹Œ\u008dŽ\u008f", "\u0090‘’“”•–—˜™š›œ\u009džŸ", "\u00a0¡¢£¤¥¦§¨©ª«¬\u00ad®¯",
  "°±²³´µ¶·¸¹º»¼½¾¿", "ÀÁÂÃÄÅÆÇÈÉÊËÌÍÎÏ", "ÐÑÒÓÔÕÖ×ØÙÚÛÜÝÞß", "àáâãäåæçèéêëìíîï",
  "ðñòóôõö÷øùúûüýþÿ"]

def windows1253 : Table := .ofRows 16 [
  "€\u0081‚ƒ„…†‡\u0088‰\u008a‹\u008c\u008d\u008e\u008f",
  "\u0090‘’“”•–—\u0098™\u009a›\u009c\u009d\u009e\u009f", "\u00a0΅Ά£¤¥¦§¨© «¬\u00ad®―",
  "°±²³΄µ¶·ΈΉΊ»Ό½ΎΏ", "ΐΑΒΓΔΕΖΗΘΙΚΛΜΝΞΟ", "ΠΡ ΣΤΥΦΧΨΩΪΫάέήί", "ΰαβγδεζηθικλμνξο",
  "πρςστυφχψωϊϋόύώ"]

def windows1254 : Table := .ofRows 16 [
  "€\u0081‚ƒ„…†‡ˆ‰Š‹Œ\u008d\u008e\u008f", "\u0090‘’“”•–—˜™š›œ\u009d\u009eŸ",
  "\u00a0¡¢£¤¥¦§¨©ª«¬\u00ad®¯", "°±²³´µ¶·¸¹º»¼½¾¿", "ÀÁÂÃÄÅÆÇÈÉÊËÌÍÎÏ", "ĞÑÒÓÔÕÖ×ØÙÚÛÜİŞß",
  "àáâãäåæçèéêëìíîï", "ğñòóôõö÷øùúûüışÿ"]

def windows1255 : Table := .ofRows 16 [
  "€\u0081‚ƒ„…†‡ˆ‰\u008a‹\u008c\u008d\u008e\u008f",
  "\u0090‘’“”•–—˜™\u009a›\u009c\u009d\u009e\u009f", "\u00a0¡¢£₪¥¦§¨©×«¬\u00ad®¯",
  "°±²³´µ¶·¸¹÷»¼½¾¿",
  "\u05b0\u05b1\u05b2\u05b3\u05b4\u05b5\u05b6\u05b7\u05b8\u05b9\u05ba\u05bb\u05bc\u05bd־\u05bf",
  "׀\u05c1\u05c2׃װױײ׳״", "אבגדהוזחטיךכלםמן", "נסעףפץצקרשת  \u200e\u200f"]

def windows1256 : Table := .ofRows 16 [
  "€پ‚ƒ„…†‡ˆ‰ٹ‹Œچژڈ", "گ‘’“”•–—ک™ڑ›œ\u200c\u200dں", "\u00a0،¢£¤¥¦§¨©ھ«¬\u00ad®¯",
  "°±²³´µ¶·¸¹؛»¼½¾؟", "ہءآأؤإئابةتثجحخد", "ذرزسشصض×طظعغـفقك", "àلâمنهوçèéêëىيîï",
  "\u064b\u064c\u064d\u064eô\u064f\u0650÷\u0651ù\u0652ûü\u200e\u200fے"]

def windows1257 : Table := .ofRows 16 [
  "€\u0081‚\u0083„…†‡\u0088‰\u008a‹\u008c¨ˇ¸", "\u0090‘’“”•–—\u0098™\u009a›\u009c¯˛\u009f",
  "\u00a0 ¢£¤ ¦§Ø©Ŗ«¬\u00ad®Æ", "°±²³´µ¶·ø¹ŗ»¼½¾æ", "ĄĮĀĆÄÅĘĒČÉŹĖĢĶĪĻ", "ŠŃŅÓŌÕÖ×ŲŁŚŪÜŻŽß",
  "ąįāćäåęēčéźėģķīļ", "šńņóōõö÷ųłśūüżž˙"]

def windows1258 : Table := .ofRows 16 [
  "€\u0081‚ƒ„…†‡ˆ‰\u008a‹Œ\u008d\u008e\u008f", "\u0090‘’“”•–—˜™\u009a›œ\u009d\u009eŸ",
  "\u00a0¡¢£¤¥¦§¨©ª«¬\u00ad®¯", "°±²³´µ¶·¸¹º»¼½¾¿", "ÀÁÂĂÄÅÆÇÈÉÊË\u0300ÍÎÏ",
  "ĐÑ\u0309ÓÔƠÖ×ØÙÚÛÜƯ\u0303ß", "àáâăäåæçèéêë\u0301íîï", "đñ\u0323óôơö÷øùúûüư₫ÿ"]

def macCyrillic : Table := .ofRows 16 [
  "АБВГДЕЖЗИЙКЛМНОП", "РСТУФХЦЧШЩЪЫЬЭЮЯ", "†°Ґ£§•¶І®©™Ђђ≠Ѓѓ", "∞±≤≥іµґЈЄєЇїЉљЊњ",
  "јЅ¬√ƒ≈∆«»…\u00a0ЋћЌќѕ", "–—“”‘’÷„ЎўЏџ№Ёёя", "абвгдежзийклмноп", "рстуфхцчшщъыьэю€"]

end Deliberation.Encoding
