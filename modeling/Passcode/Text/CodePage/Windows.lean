import Passcode.Text.Plane

/-!
# Windows code pages

ASCII in the lower half, and the letters and signs of a region in the upper half, also where
ISO 8859 has control characters.
-/

namespace Passcode.Text.CodePage

/-- Windows 1250, Central European. -/
def windows1250 : CodePage where
  name := "cp1250"
  aliases := ["1250", "windows_1250"]
  first := 0x80
  upper := "€\uFFFD‚\uFFFD„…†‡\uFFFD‰Š‹ŚŤŽŹ\uFFFD‘’“”•–—\uFFFD™š›śťžź\u00A0ˇ˘Ł¤Ą¦§¨©Ş«¬"
    ++ "\u00AD®Ż°±˛ł´µ¶·¸ąş»Ľ˝ľżŔÁÂĂÄĹĆÇČÉĘËĚÍÎĎĐŃŇÓÔŐÖ×ŘŮÚŰÜÝŢßŕáâăäĺćçčéęëěíîďđńňóôő"
    ++ "ö÷řůúűüýţ˙"

/-- Windows 1251, Cyrillic. -/
def windows1251 : CodePage where
  name := "cp1251"
  aliases := ["1251", "windows_1251"]
  first := 0x80
  upper := "ЂЃ‚ѓ„…†‡€‰Љ‹ЊЌЋЏђ‘’“”•–—\uFFFD™љ›њќћџ\u00A0ЎўЈ¤Ґ¦§Ё©Є«¬\u00AD®Ї°±Ііґµ¶·ё№є»јЅѕ"
    ++ "їАБВГДЕЖЗИЙКЛМНОПРСТУФХЦЧШЩЪЫЬЭЮЯабвгдежзийклмнопрстуфхцчшщъыьэюя"

/-- Windows 1252, Western European. -/
def windows1252 : CodePage where
  name := "cp1252"
  aliases := ["1252", "windows_1252"]
  first := 0x80
  upper := "€\uFFFD‚ƒ„…†‡ˆ‰Š‹Œ\uFFFDŽ\uFFFD\uFFFD‘’“”•–—˜™š›œ\uFFFDžŸ\u00A0¡¢£¤¥¦§¨©ª«¬"
    ++ "\u00AD®¯°±²³´µ¶·¸¹º»¼½¾¿ÀÁÂÃÄÅÆÇÈÉÊËÌÍÎÏÐÑÒÓÔÕÖ×ØÙÚÛÜÝÞßàáâãäåæçèéêëìíîïðñòóôõ"
    ++ "ö÷øùúûüýþÿ"

/-- Windows 1253, Greek. -/
def windows1253 : CodePage where
  name := "cp1253"
  aliases := ["1253", "windows_1253"]
  first := 0x80
  upper := "€\uFFFD‚ƒ„…†‡\uFFFD‰\uFFFD‹\uFFFD\uFFFD\uFFFD\uFFFD\uFFFD‘’“”•–—\uFFFD™\uFFFD›"
    ++ "\uFFFD\uFFFD\uFFFD\uFFFD\u00A0΅Ά£¤¥¦§¨©\uFFFD«¬\u00AD®―°±²³΄µ¶·ΈΉΊ»Ό½ΎΏΐΑΒΓΔΕΖ"
    ++ "ΗΘΙΚΛΜΝΞΟΠΡ\uFFFDΣΤΥΦΧΨΩΪΫάέήίΰαβγδεζηθικλμνξοπρςστυφχψωϊϋόύώ"

/-- Windows 1254, Turkish. -/
def windows1254 : CodePage where
  name := "cp1254"
  aliases := ["1254", "windows_1254"]
  first := 0x80
  upper := "€\uFFFD‚ƒ„…†‡ˆ‰Š‹Œ\uFFFD\uFFFD\uFFFD\uFFFD‘’“”•–—˜™š›œ\uFFFD\uFFFDŸ\u00A0¡¢£¤¥"
    ++ "¦§¨©ª«¬\u00AD®¯°±²³´µ¶·¸¹º»¼½¾¿ÀÁÂÃÄÅÆÇÈÉÊËÌÍÎÏĞÑÒÓÔÕÖ×ØÙÚÛÜİŞßàáâãäåæçèéêëìíî"
    ++ "ïğñòóôõö÷øùúûüışÿ"

/-- Windows 1255, Hebrew. -/
def windows1255 : CodePage where
  name := "cp1255"
  aliases := ["1255", "windows_1255"]
  first := 0x80
  upper := "€\uFFFD‚ƒ„…†‡ˆ‰\uFFFD‹\uFFFD\uFFFD\uFFFD\uFFFD\uFFFD‘’“”•–—˜™\uFFFD›\uFFFD"
    ++ "\uFFFD\uFFFD\uFFFD\u00A0¡¢£₪¥¦§¨©×«¬\u00AD®¯°±²³´µ¶·¸¹÷»¼½¾¿\u05B0\u05B1\u05B2"
    ++ "\u05B3\u05B4\u05B5\u05B6\u05B7\u05B8\u05B9\uFFFD\u05BB\u05BC\u05BD־\u05BF׀"
    ++ "\u05C1\u05C2׃װױײ׳״\uFFFD\uFFFD\uFFFD\uFFFD\uFFFD\uFFFD\uFFFDאבגדהוזחטיךכלםמןנס"
    ++ "עףפץצקרשת\uFFFD\uFFFD\u200E\u200F"

/-- Windows 1256, Arabic. -/
def windows1256 : CodePage where
  name := "cp1256"
  aliases := ["1256", "windows_1256"]
  first := 0x80
  upper := "€پ‚ƒ„…†‡ˆ‰ٹ‹Œچژڈگ‘’“”•–—ک™ڑ›œ\u200C\u200Dں\u00A0،¢£¤¥¦§¨©ھ«¬\u00AD®¯°±²³´µ¶·¸¹"
    ++ "؛»¼½¾؟ہءآأؤإئابةتثجحخدذرزسشصض×طظعغـفقكàلâمنهوçèéêëىيîï\u064B\u064C\u064D\u064E"
    ++ "ô\u064F\u0650÷\u0651ù\u0652ûü\u200E\u200Fے"

/-- Windows 1257, Baltic. -/
def windows1257 : CodePage where
  name := "cp1257"
  aliases := ["1257", "windows_1257"]
  first := 0x80
  upper := "€\uFFFD‚\uFFFD„…†‡\uFFFD‰\uFFFD‹\uFFFD¨ˇ¸\uFFFD‘’“”•–—\uFFFD™\uFFFD›\uFFFD¯˛"
    ++ "\uFFFD\u00A0\uFFFD¢£¤\uFFFD¦§Ø©Ŗ«¬\u00AD®Æ°±²³´µ¶·ø¹ŗ»¼½¾æĄĮĀĆÄÅĘĒČÉŹĖĢĶĪĻŠŃŅÓ"
    ++ "ŌÕÖ×ŲŁŚŪÜŻŽßąįāćäåęēčéźėģķīļšńņóōõö÷ųłśūüżž˙"

/-- Windows 1258, Vietnamese. -/
def windows1258 : CodePage where
  name := "cp1258"
  aliases := ["1258", "windows_1258"]
  first := 0x80
  upper := "€\uFFFD‚ƒ„…†‡ˆ‰\uFFFD‹Œ\uFFFD\uFFFD\uFFFD\uFFFD‘’“”•–—˜™\uFFFD›œ\uFFFD\uFFFDŸ"
    ++ "\u00A0¡¢£¤¥¦§¨©ª«¬\u00AD®¯°±²³´µ¶·¸¹º»¼½¾¿ÀÁÂĂÄÅÆÇÈÉÊË\u0300ÍÎÏĐÑ\u0309ÓÔƠÖ×ØÙ"
    ++ "ÚÛÜƯ\u0303ßàáâăäåæçèéêë\u0301íîïđñ\u0323óôơö÷øùúûüư₫ÿ"

/-- Windows 874, Thai. -/
def windows874 : CodePage where
  name := "cp874"
  first := 0x80
  upper := "€\uFFFD\uFFFD\uFFFD\uFFFD…\uFFFD\uFFFD\uFFFD\uFFFD\uFFFD\uFFFD\uFFFD\uFFFD"
    ++ "\uFFFD\uFFFD\uFFFD‘’“”•–—\uFFFD\uFFFD\uFFFD\uFFFD\uFFFD\uFFFD\uFFFD\uFFFD"
    ++ "\u00A0กขฃคฅฆงจฉชซฌญฎฏฐฑฒณดตถทธนบปผฝพฟภมยรฤลฦวศษสหฬอฮฯะ\u0E31าำ\u0E34\u0E35"
    ++ "\u0E36\u0E37\u0E38\u0E39\u0E3A\uFFFD\uFFFD\uFFFD\uFFFD฿เแโใไๅๆ\u0E47\u0E48"
    ++ "\u0E49\u0E4A\u0E4B\u0E4C\u0E4D\u0E4E๏๐๑๒๓๔๕๖๗๘๙๚๛"

/-- The variant of Windows 1252 for hand-held devices. -/
def palmOs : CodePage where
  name := "palmos"
  first := 0x80
  upper := "€\u0081‚ƒ„…†‡ˆ‰Š‹Œ♦♣♥♠‘’“”•–—˜™š\u009Bœ\u009D\u009EŸ\u00A0¡¢£¤¥¦§¨©ª«¬\u00AD®¯"
    ++ "°±²³´µ¶·¸¹º»¼½¾¿ÀÁÂÃÄÅÆÇÈÉÊËÌÍÎÏÐÑÒÓÔÕÖ×ØÙÚÛÜÝÞßàáâãäåæçèéêëìíîïðñòóôõö÷øùúûüý"
    ++ "þÿ"

/-- The code pages of Windows. -/
def windows : List CodePage :=
  [windows1250, windows1251, windows1252, windows1253, windows1254, windows1255, windows1256,
   windows1257, windows1258, windows874, palmOs]

end Passcode.Text.CodePage
