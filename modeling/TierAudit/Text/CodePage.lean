import TierAudit.Text.Bytes

/-!
# Text — code pages

The one-byte encodings.  Below 0x80 all of them are ASCII; a page says what the other bytes mean.
-/

namespace TierAudit.Text

/-- The characters of the bytes 0x80 to 0xFF in order, U+FFFD for a byte that has none. -/
structure CodePage where
  upper : List Char
  deriving DecidableEq, Repr

namespace CodePage

/-- The character of one byte. -/
def char? (page : CodePage) (b : UInt8) : Option Char :=
  if b < 0x80 then some (Char.ofNat b.toNat)
  else page.upper[b.toNat - 0x80]?.filter (· ≠ '\ufffd')

/-- The text that a byte sequence encodes. -/
def decode? (page : CodePage) (bytes : Bytes) : Option (List Char) :=
  bytes.mapM page.char?

/-- A page given by the characters of all bytes from 0x80. -/
def ofUpper (chars : String) : CodePage := ⟨chars.toList⟩

/-- A page with the C1 controls in place, given by the characters of the bytes from 0xA0. -/
def ofGraphic (chars : String) : CodePage :=
  ⟨(List.range 0x20).map (fun n => Char.ofNat (0x80 + n)) ++ chars.toList⟩

/-! ### The pages -/

/-- IBM866. -/
def ibm866 : CodePage := .ofUpper
  ("АБВГДЕЖЗИЙКЛМНОПРСТУФХЦЧШЩЪЫЬЭЮЯабвгдежзийклмноп░▒▓│┤╡╢╖╕╣║╗╝╜╛┐└┴┬├─┼╞╟╚╔╩╦╠═╬╧╨╤╥╙╘╒╓╫╪┘" ++
    "┌█▄▌▐▀рстуфхцчшщъыьэюяЁёЄєЇїЎў°∙·√№¤■\xa0")

/-- ISO-8859-2. -/
def iso88592 : CodePage := .ofGraphic
  ("\xa0Ą\u02d8Ł¤ĽŚ§\xa8ŠŞŤŹ\xadŽŻ°ą\u02dbł\xb4ľś\u02c7\xb8šşťź\u02ddžżŔÁÂĂÄĹĆÇČÉĘËĚÍÎĎĐŃŇÓÔŐÖ" ++
    "×ŘŮÚŰÜÝŢßŕáâăäĺćçčéęëěíîďđńňóôőö÷řůúűüýţ\u02d9")

/-- ISO-8859-3. -/
def iso88593 : CodePage := .ofGraphic
  ("\xa0Ħ\u02d8£¤\ufffdĤ§\xa8İŞĞĴ\xad\ufffdŻ°ħ²³\xb4µĥ·\xb8ışğĵ½\ufffdżÀÁÂ\ufffdÄĊĈÇÈÉÊËÌÍÎÏ" ++
    "\ufffdÑÒÓÔĠÖ×ĜÙÚÛÜŬŜßàáâ\ufffdäċĉçèéêëìíîï\ufffdñòóôġö÷ĝùúûüŭŝ\u02d9")

/-- ISO-8859-4. -/
def iso88594 : CodePage := .ofGraphic
  ("\xa0ĄĸŖ¤ĨĻ§\xa8ŠĒĢŦ\xadŽ\xaf°ą\u02dbŗ\xb4ĩļ\u02c7\xb8šēģŧŊžŋĀÁÂÃÄÅÆĮČÉĘËĖÍÎĪĐŅŌĶÔÕÖ×ØŲÚÛÜŨ" ++
    "Ūßāáâãäåæįčéęëėíîīđņōķôõö÷øųúûüũū\u02d9")

/-- ISO-8859-5. -/
def iso88595 : CodePage := .ofGraphic
  ("\xa0ЁЂЃЄЅІЇЈЉЊЋЌ\xadЎЏАБВГДЕЖЗИЙКЛМНОПРСТУФХЦЧШЩЪЫЬЭЮЯабвгдежзийклмнопрстуфхцчшщъыьэюя№ёђѓ" ++
    "єѕіїјљњћќ§ўџ")

/-- ISO-8859-6. -/
def iso88596 : CodePage := .ofGraphic
  ("\xa0\ufffd\ufffd\ufffd¤\ufffd\ufffd\ufffd\ufffd\ufffd\ufffd\ufffd،\xad\ufffd\ufffd\ufffd" ++
    "\ufffd\ufffd\ufffd\ufffd\ufffd\ufffd\ufffd\ufffd\ufffd\ufffd\u061b\ufffd\ufffd\ufffd\u061f" ++
    "\ufffd\u0621\u0622\u0623\u0624\u0625\u0626\u0627\u0628\u0629\u062a\u062b\u062c\u062d\u062e" ++
    "\u062f\u0630\u0631\u0632\u0633\u0634\u0635\u0636\u0637\u0638\u0639\u063a\ufffd\ufffd\ufffd" ++
    "\ufffd\ufffd\u0640\u0641\u0642\u0643\u0644\u0645\u0646\u0647\u0648\u0649\u064a\u064b\u064c" ++
    "\u064d\u064e\u064f\u0650\u0651\u0652\ufffd\ufffd\ufffd\ufffd\ufffd\ufffd\ufffd\ufffd\ufffd" ++
    "\ufffd\ufffd\ufffd\ufffd")

/-- ISO-8859-7. -/
def iso88597 : CodePage := .ofGraphic
  ("\xa0‘’£€₯¦§\xa8©\u037a«¬\xad\ufffd―°±²³\u0384\u0385Ά·ΈΉΊ»Ό½ΎΏΐΑΒΓΔΕΖΗΘΙΚΛΜΝΞΟΠΡ\ufffdΣΤΥΦΧ" ++
    "ΨΩΪΫάέήίΰαβγδεζηθικλμνξοπρςστυφχψωϊϋόύώ\ufffd")

/-- ISO-8859-8. -/
def iso88598 : CodePage := .ofGraphic
  ("\xa0\ufffd¢£¤¥¦§\xa8©×«¬\xad®\xaf°±²³\xb4µ¶·\xb8¹÷»¼½¾\ufffd\ufffd\ufffd\ufffd\ufffd\ufffd" ++
    "\ufffd\ufffd\ufffd\ufffd\ufffd\ufffd\ufffd\ufffd\ufffd\ufffd\ufffd\ufffd\ufffd\ufffd\ufffd" ++
    "\ufffd\ufffd\ufffd\ufffd\ufffd\ufffd\ufffd\ufffd\ufffd\ufffd\ufffd‗\u05d0\u05d1\u05d2" ++
    "\u05d3\u05d4\u05d5\u05d6\u05d7\u05d8\u05d9\u05da\u05db\u05dc\u05dd\u05de\u05df\u05e0\u05e1" ++
    "\u05e2\u05e3\u05e4\u05e5\u05e6\u05e7\u05e8\u05e9\u05ea\ufffd\ufffd\u200e\u200f\ufffd")

/-- ISO-8859-10. -/
def iso885910 : CodePage := .ofGraphic
  ("\xa0ĄĒĢĪĨĶ§ĻĐŠŦŽ\xadŪŊ°ąēģīĩķ·ļđšŧž―ūŋĀÁÂÃÄÅÆĮČÉĘËĖÍÎÏÐŅŌÓÔÕÖŨØŲÚÛÜÝÞßāáâãäåæįčéęëėíîïðņōó" ++
    "ôõöũøųúûüýþĸ")

/-- ISO-8859-13. -/
def iso885913 : CodePage := .ofGraphic
  ("\xa0”¢£¤„¦§Ø©Ŗ«¬\xad®Æ°±²³“µ¶·ø¹ŗ»¼½¾æĄĮĀĆÄÅĘĒČÉŹĖĢĶĪĻŠŃŅÓŌÕÖ×ŲŁŚŪÜŻŽßąįāćäåęēčéźėģķīļšńņó" ++
    "ōõö÷ųłśūüżž’")

/-- ISO-8859-14. -/
def iso885914 : CodePage := .ofGraphic
  ("\xa0Ḃḃ£ĊċḊ§Ẁ©ẂḋỲ\xad®ŸḞḟĠġṀṁ¶ṖẁṗẃṠỳẄẅṡÀÁÂÃÄÅÆÇÈÉÊËÌÍÎÏŴÑÒÓÔÕÖṪØÙÚÛÜÝŶßàáâãäåæçèéêëìíîïŵñòó" ++
    "ôõöṫøùúûüýŷÿ")

/-- ISO-8859-15. -/
def iso885915 : CodePage := .ofGraphic
  ("\xa0¡¢£€¥Š§š©ª«¬\xad®\xaf°±²³Žµ¶·ž¹º»ŒœŸ¿ÀÁÂÃÄÅÆÇÈÉÊËÌÍÎÏÐÑÒÓÔÕÖ×ØÙÚÛÜÝÞßàáâãäåæçèéêëìíîïð" ++
    "ñòóôõö÷øùúûüýþÿ")

/-- ISO-8859-16. -/
def iso885916 : CodePage := .ofGraphic
  ("\xa0ĄąŁ€„Š§š©Ș«Ź\xadźŻ°±ČłŽ”¶·žčș»ŒœŸżÀÁÂĂÄĆÆÇÈÉÊËÌÍÎÏĐŃÒÓÔŐÖŚŰÙÚÛÜĘȚßàáâăäćæçèéêëìíîïđńòó" ++
    "ôőöśűùúûüęțÿ")

/-- KOI8-R. -/
def koi8R : CodePage := .ofUpper
  ("─│┌┐└┘├┤┬┴┼▀▄█▌▐░▒▓⌠■∙√≈≤≥\xa0⌡°²·÷═║╒ё╓╔╕╖╗╘╙╚╛╜╝╞╟╠╡Ё╢╣╤╥╦╧╨╩╪╫╬©юабцдефгхийклмнопярстуж" ++
    "вьызшэщчъЮАБЦДЕФГХИЙКЛМНОПЯРСТУЖВЬЫЗШЭЩЧЪ")

/-- KOI8-U. -/
def koi8U : CodePage := .ofUpper
  ("─│┌┐└┘├┤┬┴┼▀▄█▌▐░▒▓⌠■∙√≈≤≥\xa0⌡°²·÷═║╒ёє╔ії╗╘╙╚╛ґў╞╟╠╡ЁЄ╣ІЇ╦╧╨╩╪ҐЎ©юабцдефгхийклмнопярстуж" ++
    "вьызшэщчъЮАБЦДЕФГХИЙКЛМНОПЯРСТУЖВЬЫЗШЭЩЧЪ")

/-- macintosh. -/
def macintosh : CodePage := .ofUpper
  ("ÄÅÇÉÑÖÜáàâäãåçéèêëíìîïñóòôöõúùûü†°¢£§•¶ß®©™\xb4\xa8≠ÆØ∞±≤≥¥µ∂∑∏π∫ªºΩæø¿¡¬√ƒ≈∆«»…\xa0ÀÃÕŒœ–" ++
    "—“”‘’÷◊ÿŸ⁄€‹›ﬁﬂ‡·‚„‰ÂÊÁËÈÍÎÏÌÓÔ\uf8ffÒÚÛÙı\u02c6\u02dc\xaf\u02d8\u02d9\u02da\xb8\u02dd" ++
    "\u02db\u02c7")

/-- windows-874. -/
def windows874 : CodePage := .ofUpper
  ("€\x81\x82\x83\x84…\x86\x87\x88\x89\x8a\x8b\x8c\x8d\x8e\x8f\x90‘’“”•–—\x98\x99\x9a\x9b\x9c" ++
    "\x9d\x9e\x9f\xa0กขฃคฅฆงจฉชซฌญฎฏฐฑฒณดตถทธนบปผฝพฟภมยรฤลฦวศษสหฬอฮฯะ\u0e31าำ\u0e34\u0e35\u0e36" ++
    "\u0e37\u0e38\u0e39\u0e3a\ufffd\ufffd\ufffd\ufffd฿เแโใไๅ\u0e46\u0e47\u0e48\u0e49\u0e4a" ++
    "\u0e4b\u0e4c\u0e4d\u0e4e๏๐๑๒๓๔๕๖๗๘๙๚๛\ufffd\ufffd\ufffd\ufffd")

/-- windows-1250. -/
def windows1250 : CodePage := .ofUpper
  ("€\x81‚\x83„…†‡\x88‰Š‹ŚŤŽŹ\x90‘’“”•–—\x98™š›śťžź\xa0\u02c7\u02d8Ł¤Ą¦§\xa8©Ş«¬\xad®Ż°±\u02db" ++
    "ł\xb4µ¶·\xb8ąş»Ľ\u02ddľżŔÁÂĂÄĹĆÇČÉĘËĚÍÎĎĐŃŇÓÔŐÖ×ŘŮÚŰÜÝŢßŕáâăäĺćçčéęëěíîďđńňóôőö÷řůúűüýţ" ++
    "\u02d9")

/-- windows-1251. -/
def windows1251 : CodePage := .ofUpper
  ("ЂЃ‚ѓ„…†‡€‰Љ‹ЊЌЋЏђ‘’“”•–—\x98™љ›њќћџ\xa0ЎўЈ¤Ґ¦§Ё©Є«¬\xad®Ї°±Ііґµ¶·ё№є»јЅѕїАБВГДЕЖЗИЙКЛМНОПР" ++
    "СТУФХЦЧШЩЪЫЬЭЮЯабвгдежзийклмнопрстуфхцчшщъыьэюя")

/-- windows-1252. -/
def windows1252 : CodePage := .ofUpper
  ("€\x81‚ƒ„…†‡\u02c6‰Š‹Œ\x8dŽ\x8f\x90‘’“”•–—\u02dc™š›œ\x9džŸ\xa0¡¢£¤¥¦§\xa8©ª«¬\xad®\xaf°±²³" ++
    "\xb4µ¶·\xb8¹º»¼½¾¿ÀÁÂÃÄÅÆÇÈÉÊËÌÍÎÏÐÑÒÓÔÕÖ×ØÙÚÛÜÝÞßàáâãäåæçèéêëìíîïðñòóôõö÷øùúûüýþÿ")

/-- windows-1253. -/
def windows1253 : CodePage := .ofUpper
  ("€\x81‚ƒ„…†‡\x88‰\x8a‹\x8c\x8d\x8e\x8f\x90‘’“”•–—\x98™\x9a›\x9c\x9d\x9e\x9f\xa0\u0385Ά£¤¥¦§" ++
    "\xa8©\ufffd«¬\xad®―°±²³\u0384µ¶·ΈΉΊ»Ό½ΎΏΐΑΒΓΔΕΖΗΘΙΚΛΜΝΞΟΠΡ\ufffdΣΤΥΦΧΨΩΪΫάέήίΰαβγδεζηθικλμ" ++
    "νξοπρςστυφχψωϊϋόύώ\ufffd")

/-- windows-1254. -/
def windows1254 : CodePage := .ofUpper
  ("€\x81‚ƒ„…†‡\u02c6‰Š‹Œ\x8d\x8e\x8f\x90‘’“”•–—\u02dc™š›œ\x9d\x9eŸ\xa0¡¢£¤¥¦§\xa8©ª«¬\xad®" ++
    "\xaf°±²³\xb4µ¶·\xb8¹º»¼½¾¿ÀÁÂÃÄÅÆÇÈÉÊËÌÍÎÏĞÑÒÓÔÕÖ×ØÙÚÛÜİŞßàáâãäåæçèéêëìíîïğñòóôõö÷øùúûüışÿ")

/-- windows-1255. -/
def windows1255 : CodePage := .ofUpper
  ("€\x81‚ƒ„…†‡\u02c6‰\x8a‹\x8c\x8d\x8e\x8f\x90‘’“”•–—\u02dc™\x9a›\x9c\x9d\x9e\x9f\xa0¡¢£₪¥¦§" ++
    "\xa8©×«¬\xad®\xaf°±²³\xb4µ¶·\xb8¹÷»¼½¾¿\u05b0\u05b1\u05b2\u05b3\u05b4\u05b5\u05b6\u05b7" ++
    "\u05b8\u05b9\u05ba\u05bb\u05bc\u05bd\u05be\u05bf\u05c0\u05c1\u05c2\u05c3\u05f0\u05f1\u05f2" ++
    "\u05f3\u05f4\ufffd\ufffd\ufffd\ufffd\ufffd\ufffd\ufffd\u05d0\u05d1\u05d2\u05d3\u05d4\u05d5" ++
    "\u05d6\u05d7\u05d8\u05d9\u05da\u05db\u05dc\u05dd\u05de\u05df\u05e0\u05e1\u05e2\u05e3\u05e4" ++
    "\u05e5\u05e6\u05e7\u05e8\u05e9\u05ea\ufffd\ufffd\u200e\u200f\ufffd")

/-- windows-1256. -/
def windows1256 : CodePage := .ofUpper
  ("€\u067e‚ƒ„…†‡\u02c6‰\u0679‹Œ\u0686\u0698\u0688\u06af‘’“”•–—\u06a9™\u0691›œ\u200c\u200d" ++
    "\u06ba\xa0،¢£¤¥¦§\xa8©\u06be«¬\xad®\xaf°±²³\xb4µ¶·\xb8¹\u061b»¼½¾\u061f\u06c1\u0621\u0622" ++
    "\u0623\u0624\u0625\u0626\u0627\u0628\u0629\u062a\u062b\u062c\u062d\u062e\u062f\u0630\u0631" ++
    "\u0632\u0633\u0634\u0635\u0636×\u0637\u0638\u0639\u063a\u0640\u0641\u0642\u0643à\u0644â" ++
    "\u0645\u0646\u0647\u0648çèéêë\u0649\u064aîï\u064b\u064c\u064d\u064eô\u064f\u0650÷\u0651ù" ++
    "\u0652ûü\u200e\u200f\u06d2")

/-- windows-1257. -/
def windows1257 : CodePage := .ofUpper
  ("€\x81‚\x83„…†‡\x88‰\x8a‹\x8c\xa8\u02c7\xb8\x90‘’“”•–—\x98™\x9a›\x9c\xaf\u02db\x9f\xa0" ++
    "\ufffd¢£¤\ufffd¦§Ø©Ŗ«¬\xad®Æ°±²³\xb4µ¶·ø¹ŗ»¼½¾æĄĮĀĆÄÅĘĒČÉŹĖĢĶĪĻŠŃŅÓŌÕÖ×ŲŁŚŪÜŻŽßąįāćäåęēčéź" ++
    "ėģķīļšńņóōõö÷ųłśūüżž\u02d9")

/-- windows-1258. -/
def windows1258 : CodePage := .ofUpper
  ("€\x81‚ƒ„…†‡\u02c6‰\x8a‹Œ\x8d\x8e\x8f\x90‘’“”•–—\u02dc™\x9a›œ\x9d\x9eŸ\xa0¡¢£¤¥¦§\xa8©ª«¬" ++
    "\xad®\xaf°±²³\xb4µ¶·\xb8¹º»¼½¾¿ÀÁÂĂÄÅÆÇÈÉÊË\u0300ÍÎÏĐÑ\u0309ÓÔƠÖ×ØÙÚÛÜƯ\u0303ßàáâăäåæçèéêë" ++
    "\u0301íîïđñ\u0323óôơö÷øùúûüư₫ÿ")

/-- x-mac-cyrillic. -/
def macCyrillic : CodePage := .ofUpper
  ("АБВГДЕЖЗИЙКЛМНОПРСТУФХЦЧШЩЪЫЬЭЮЯ†°Ґ£§•¶І®©™Ђђ≠Ѓѓ∞±≤≥іµґЈЄєЇїЉљЊњјЅ¬√ƒ≈∆«»…\xa0ЋћЌќѕ–—“”‘’÷" ++
    "„ЎўЏџ№Ёёяабвгдежзийклмнопрстуфхцчшщъыьэю€")

/-- x-user-defined: the upper bytes are the private characters from U+F780. -/
def userDefined : CodePage :=
  ⟨(List.range 0x80).map fun n => Char.ofNat (0xF780 + n)⟩

end CodePage

end TierAudit.Text
