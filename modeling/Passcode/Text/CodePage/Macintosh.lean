import Passcode.Text.Plane

/-!
# Macintosh charsets

ASCII in the lower half, and letters, signs and marks of typography in the upper half.
-/

namespace Passcode.Text.CodePage

def macArabic : CodePage where
  name := "mac_arabic"
  first := 0x80
  upper := "Ä\u00A0ÇÉÑÖÜáàâäں«çéèêëí…îïñó»ôö÷úùûü !\"#$٪&'()*+،-./٠١٢٣٤٥٦٧٨٩:؛<=>؟❊ءآأؤإئا"
    ++ "بةتثجحخدذرزسشصضطظعغ[\\]^_ـفقكلمنهوىي\u064B\u064C\u064D\u064E\u064F\u0650\u0651"
    ++ "\u0652پٹچەڤگڈڑ\x7b|\x7dژے"

def macCroatian : CodePage where
  name := "mac_croatian"
  first := 0x80
  upper := "ÄÅÇÉÑÖÜáàâäãåçéèêëíìîïñóòôöõúùûü†°¢£§•¶ß®Š™´¨≠ŽØ∞±≤≥∆µ∂∑∏š∫ªºΩžø¿¡¬√ƒ≈Ć«Č…"
    ++ "\u00A0ÀÃÕŒœĐ—“”‘’÷◊\uF8FF©⁄€‹›Æ»–·‚„‰ÂćÁčÈÍÎÏÌÓÔđÒÚÛÙıˆ˜¯πË˚¸Êæˇ"

def macCyrillic : CodePage where
  name := "mac_cyrillic"
  aliases := ["maccyrillic"]
  first := 0x80
  upper := "АБВГДЕЖЗИЙКЛМНОПРСТУФХЦЧШЩЪЫЬЭЮЯ†°Ґ£§•¶І®©™Ђђ≠Ѓѓ∞±≤≥іµґЈЄєЇїЉљЊњјЅ¬√ƒ≈∆«»…"
    ++ "\u00A0ЋћЌќѕ–—“”‘’÷„ЎўЏџ№Ёёяабвгдежзийклмнопрстуфхцчшщъыьэю€"

def macFarsi : CodePage where
  name := "mac_farsi"
  first := 0x80
  upper := "Ä\u00A0ÇÉÑÖÜáàâäں«çéèêëí…îïñó»ôö÷úùûü !\"#$٪&'()*+،-./۰۱۲۳۴۵۶۷۸۹:؛<=>؟❊ءآأؤإئا"
    ++ "بةتثجحخدذرزسشصضطظعغ[\\]^_ـفقكلمنهوىي\u064B\u064C\u064D\u064E\u064F\u0650\u0651"
    ++ "\u0652پٹچەڤگڈڑ\x7b|\x7dژے"

def macGreek : CodePage where
  name := "mac_greek"
  aliases := ["macgreek"]
  first := 0x80
  upper := "Ä¹²É³ÖÜ΅àâä΄¨çéèêë£™îï•½‰ôö¦€ùûü†ΓΔΘΛΞΠß®©ΣΪ§≠°·Α±≤≥¥ΒΕΖΗΙΚΜΦΫΨΩάΝ¬ΟΡ≈Τ«»…"
    ++ "\u00A0ΥΧΆΈœ–―“”‘’÷ΉΊΌΎέήίόΏύαβψδεφγηιξκλμνοπώρστθωςχυζϊϋΐΰ\u00AD"

def macIcelandic : CodePage where
  name := "mac_iceland"
  aliases := ["maciceland"]
  first := 0x80
  upper := "ÄÅÇÉÑÖÜáàâäãåçéèêëíìîïñóòôöõúùûüÝ°¢£§•¶ß®©™´¨≠ÆØ∞±≤≥¥µ∂∑∏π∫ªºΩæø¿¡¬√ƒ≈∆«»…"
    ++ "\u00A0ÀÃÕŒœ–—“”‘’÷◊ÿŸ⁄€ÐðÞþý·‚„‰ÂÊÁËÈÍÎÏÌÓÔ\uF8FFÒÚÛÙıˆ˜¯˘˙˚¸˝˛ˇ"

def macCentral : CodePage where
  name := "mac_latin2"
  aliases := ["mac_centeuro", "maccentraleurope", "maclatin2"]
  first := 0x80
  upper := "ÄĀāÉĄÖÜáąČäčĆćéŹźĎíďĒēĖóėôöõúĚěü†°Ę£§•¶ß®©™ę¨≠ģĮįĪ≤≥īĶ∂∑łĻļĽľĹĺŅņŃ¬√ńŇ∆«»…"
    ++ "\u00A0ňŐÕőŌ–—“”‘’÷◊ōŔŕŘ‹›řŖŗŠ‚„šŚśÁŤťÍŽžŪÓÔūŮÚůŰűŲųÝýķŻŁżĢˇ"

def macRoman : CodePage where
  name := "mac_roman"
  aliases := ["macintosh", "macroman"]
  first := 0x80
  upper := "ÄÅÇÉÑÖÜáàâäãåçéèêëíìîïñóòôöõúùûü†°¢£§•¶ß®©™´¨≠ÆØ∞±≤≥¥µ∂∑∏π∫ªºΩæø¿¡¬√ƒ≈∆«»…"
    ++ "\u00A0ÀÃÕŒœ–—“”‘’÷◊ÿŸ⁄€‹›ﬁﬂ‡·‚„‰ÂÊÁËÈÍÎÏÌÓÔ\uF8FFÒÚÛÙıˆ˜¯˘˙˚¸˝˛ˇ"

def macRomanian : CodePage where
  name := "mac_romanian"
  first := 0x80
  upper := "ÄÅÇÉÑÖÜáàâäãåçéèêëíìîïñóòôöõúùûü†°¢£§•¶ß®©™´¨≠ĂȘ∞±≤≥¥µ∂∑∏π∫ªºΩăș¿¡¬√ƒ≈∆«»…"
    ++ "\u00A0ÀÃÕŒœ–—“”‘’÷◊ÿŸ⁄€‹›Țț‡·‚„‰ÂÊÁËÈÍÎÏÌÓÔ\uF8FFÒÚÛÙıˆ˜¯˘˙˚¸˝˛ˇ"

def macTurkish : CodePage where
  name := "mac_turkish"
  aliases := ["macturkish"]
  first := 0x80
  upper := "ÄÅÇÉÑÖÜáàâäãåçéèêëíìîïñóòôöõúùûü†°¢£§•¶ß®©™´¨≠ÆØ∞±≤≥¥µ∂∑∏π∫ªºΩæø¿¡¬√ƒ≈∆«»…"
    ++ "\u00A0ÀÃÕŒœ–—“”‘’÷◊ÿŸĞğİıŞş‡·‚„‰ÂÊÁËÈÍÎÏÌÓÔ\uF8FFÒÚÛÙ\uF8A0ˆ˜¯˘˙˚¸˝˛ˇ"

def macintosh : List CodePage :=
  [macArabic, macCroatian, macCyrillic, macFarsi, macGreek, macIcelandic, macCentral, macRoman,
   macRomanian, macTurkish]

end Passcode.Text.CodePage
