import Passcode.Text.Plane

/-!
# ISO 8859

The parts of ISO 8859 beyond the first: ASCII in the lower half, control characters of the
same numbers after it, and the letters of a region in what is left.
-/

namespace Passcode.Text.CodePage

/-- ISO 8859-2, Central European. -/
def iso8859Part2 : CodePage where
  name := "iso8859_2"
  aliases := ["csisolatin2", "iso_8859_2", "iso_8859_2_1987", "iso_ir_101", "l2", "latin2"]
  first := 0xA1
  upper := "Ą˘Ł¤ĽŚ§¨ŠŞŤŹ\u00ADŽŻ°ą˛ł´ľśˇ¸šşťź˝žżŔÁÂĂÄĹĆÇČÉĘËĚÍÎĎĐŃŇÓÔŐÖ×ŘŮÚŰÜÝŢßŕáâăäĺćçčé"
    ++ "ęëěíîďđńňóôőö÷řůúűüýţ˙"

/-- ISO 8859-3, South European. -/
def iso8859Part3 : CodePage where
  name := "iso8859_3"
  aliases := ["csisolatin3", "iso_8859_3", "iso_8859_3_1988", "iso_ir_109", "l3", "latin3"]
  first := 0xA1
  upper := "Ħ˘£¤\uFFFDĤ§¨İŞĞĴ\u00AD\uFFFDŻ°ħ²³´µĥ·¸ışğĵ½\uFFFDżÀÁÂ\uFFFDÄĊĈÇÈÉÊËÌÍÎÏ\uFFFD"
    ++ "ÑÒÓÔĠÖ×ĜÙÚÛÜŬŜßàáâ\uFFFDäċĉçèéêëìíîï\uFFFDñòóôġö÷ĝùúûüŭŝ˙"

/-- ISO 8859-4, North European. -/
def iso8859Part4 : CodePage where
  name := "iso8859_4"
  aliases := ["csisolatin4", "iso_8859_4", "iso_8859_4_1988", "iso_ir_110", "l4", "latin4"]
  first := 0xA1
  upper := "ĄĸŖ¤ĨĻ§¨ŠĒĢŦ\u00ADŽ¯°ą˛ŗ´ĩļˇ¸šēģŧŊžŋĀÁÂÃÄÅÆĮČÉĘËĖÍÎĪĐŅŌĶÔÕÖ×ØŲÚÛÜŨŪßāáâãäåæįčé"
    ++ "ęëėíîīđņōķôõö÷øųúûüũū˙"

/-- ISO 8859-5, Cyrillic. -/
def iso8859Part5 : CodePage where
  name := "iso8859_5"
  aliases := ["csisolatincyrillic", "cyrillic", "iso_8859_5", "iso_8859_5_1988", "iso_ir_144"]
  first := 0xA1
  upper := "ЁЂЃЄЅІЇЈЉЊЋЌ\u00ADЎЏАБВГДЕЖЗИЙКЛМНОПРСТУФХЦЧШЩЪЫЬЭЮЯабвгдежзийклмнопрстуфхцчшщ"
    ++ "ъыьэюя№ёђѓєѕіїјљњћќ§ўџ"

/-- ISO 8859-6, Arabic. -/
def iso8859Part6 : CodePage where
  name := "iso8859_6"
  aliases := ["arabic", "asmo_708", "csisolatinarabic", "ecma_114", "iso_8859_6",
    "iso_8859_6_1987", "iso_ir_127"]
  first := 0xA1
  upper := "\uFFFD\uFFFD\uFFFD¤\uFFFD\uFFFD\uFFFD\uFFFD\uFFFD\uFFFD\uFFFD،\u00AD\uFFFD"
    ++ "\uFFFD\uFFFD\uFFFD\uFFFD\uFFFD\uFFFD\uFFFD\uFFFD\uFFFD\uFFFD\uFFFD\uFFFD؛"
    ++ "\uFFFD\uFFFD\uFFFD؟\uFFFDءآأؤإئابةتثجحخدذرزسشصضطظعغ\uFFFD\uFFFD\uFFFD\uFFFD"
    ++ "\uFFFDـفقكلمنهوىي\u064B\u064C\u064D\u064E\u064F\u0650\u0651\u0652"

/-- ISO 8859-7, Greek. -/
def iso8859Part7 : CodePage where
  name := "iso8859_7"
  aliases := ["csisolatingreek", "ecma_118", "elot_928", "greek", "greek8", "iso_8859_7",
    "iso_8859_7_1987", "iso_ir_126"]
  first := 0xA1
  upper := "‘’£€₯¦§¨©ͺ«¬\u00AD\uFFFD―°±²³΄΅Ά·ΈΉΊ»Ό½ΎΏΐΑΒΓΔΕΖΗΘΙΚΛΜΝΞΟΠΡ\uFFFDΣΤΥΦΧΨΩΪΫάέήί"
    ++ "ΰαβγδεζηθικλμνξοπρςστυφχψωϊϋόύώ"

/-- ISO 8859-8, Hebrew. -/
def iso8859Part8 : CodePage where
  name := "iso8859_8"
  aliases := ["csisolatinhebrew", "hebrew", "iso_8859_8", "iso_8859_8_1988", "iso_ir_138"]
  first := 0xA1
  upper := "\uFFFD¢£¤¥¦§¨©×«¬\u00AD®¯°±²³´µ¶·¸¹÷»¼½¾\uFFFD\uFFFD\uFFFD\uFFFD\uFFFD\uFFFD"
    ++ "\uFFFD\uFFFD\uFFFD\uFFFD\uFFFD\uFFFD\uFFFD\uFFFD\uFFFD\uFFFD\uFFFD\uFFFD\uFFFD"
    ++ "\uFFFD\uFFFD\uFFFD\uFFFD\uFFFD\uFFFD\uFFFD\uFFFD\uFFFD\uFFFD\uFFFD\uFFFD\uFFFD"
    ++ "‗אבגדהוזחטיךכלםמןנסעףפץצקרשת\uFFFD\uFFFD\u200E\u200F"

/-- ISO 8859-9, Turkish. -/
def iso8859Part9 : CodePage where
  name := "iso8859_9"
  aliases := ["csisolatin5", "iso_8859_9", "iso_8859_9_1989", "iso_ir_148", "l5", "latin5"]
  first := 0xD0
  upper := "ĞÑÒÓÔÕÖ×ØÙÚÛÜİŞßàáâãäåæçèéêëìíîïğñòóôõö÷øùúûüışÿ"

/-- ISO 8859-10, Nordic. -/
def iso8859Part10 : CodePage where
  name := "iso8859_10"
  aliases := ["csisolatin6", "iso_8859_10", "iso_8859_10_1992", "iso_ir_157", "l6", "latin6"]
  first := 0xA1
  upper := "ĄĒĢĪĨĶ§ĻĐŠŦŽ\u00ADŪŊ°ąēģīĩķ·ļđšŧž―ūŋĀÁÂÃÄÅÆĮČÉĘËĖÍÎÏÐŅŌÓÔÕÖŨØŲÚÛÜÝÞßāáâãäåæįčé"
    ++ "ęëėíîïðņōóôõöũøųúûüýþĸ"

/-- ISO 8859-11, Thai. -/
def iso8859Part11 : CodePage where
  name := "iso8859_11"
  aliases := ["iso_8859_11", "iso_8859_11_2001", "thai"]
  first := 0xA1
  upper := "กขฃคฅฆงจฉชซฌญฎฏฐฑฒณดตถทธนบปผฝพฟภมยรฤลฦวศษสหฬอฮฯะ\u0E31าำ\u0E34\u0E35\u0E36"
    ++ "\u0E37\u0E38\u0E39\u0E3A\uFFFD\uFFFD\uFFFD\uFFFD฿เแโใไๅๆ\u0E47\u0E48\u0E49"
    ++ "\u0E4A\u0E4B\u0E4C\u0E4D\u0E4E๏๐๑๒๓๔๕๖๗๘๙๚๛"

/-- ISO 8859-13, Baltic. -/
def iso8859Part13 : CodePage where
  name := "iso8859_13"
  aliases := ["iso_8859_13", "l7", "latin7"]
  first := 0xA1
  upper := "”¢£¤„¦§Ø©Ŗ«¬\u00AD®Æ°±²³“µ¶·ø¹ŗ»¼½¾æĄĮĀĆÄÅĘĒČÉŹĖĢĶĪĻŠŃŅÓŌÕÖ×ŲŁŚŪÜŻŽßąįāćäåęēčé"
    ++ "źėģķīļšńņóōõö÷ųłśūüżž’"

/-- ISO 8859-14, Celtic. -/
def iso8859Part14 : CodePage where
  name := "iso8859_14"
  aliases := ["iso_8859_14", "iso_8859_14_1998", "iso_celtic", "iso_ir_199", "l8", "latin8"]
  first := 0xA1
  upper := "Ḃḃ£ĊċḊ§Ẁ©ẂḋỲ\u00AD®ŸḞḟĠġṀṁ¶ṖẁṗẃṠỳẄẅṡÀÁÂÃÄÅÆÇÈÉÊËÌÍÎÏŴÑÒÓÔÕÖṪØÙÚÛÜÝŶßàáâãäåæçèé"
    ++ "êëìíîïŵñòóôõöṫøùúûüýŷÿ"

/-- ISO 8859-15, Western European with the euro sign. -/
def iso8859Part15 : CodePage where
  name := "iso8859_15"
  aliases := ["iso_8859_15", "l9", "latin9"]
  first := 0xA4
  upper := "€¥Š§š©ª«¬\u00AD®¯°±²³Žµ¶·ž¹º»ŒœŸ¿ÀÁÂÃÄÅÆÇÈÉÊËÌÍÎÏÐÑÒÓÔÕÖ×ØÙÚÛÜÝÞßàáâãäåæçèéêëì"
    ++ "íîïðñòóôõö÷øùúûüýþÿ"

/-- ISO 8859-16, South-Eastern European. -/
def iso8859Part16 : CodePage where
  name := "iso8859_16"
  aliases := ["iso_8859_16", "iso_8859_16_2001", "iso_ir_226", "l10", "latin10"]
  first := 0xA1
  upper := "ĄąŁ€„Š§š©Ș«Ź\u00ADźŻ°±ČłŽ”¶·žčș»ŒœŸżÀÁÂĂÄĆÆÇÈÉÊËÌÍÎÏĐŃÒÓÔŐÖŚŰÙÚÛÜĘȚßàáâăäćæçèé"
    ++ "êëìíîïđńòóôőöśűùúûüęțÿ"

/-- The parts of ISO 8859 beyond the first. -/
def iso8859 : List CodePage :=
  [iso8859Part2, iso8859Part3, iso8859Part4, iso8859Part5, iso8859Part6, iso8859Part7,
   iso8859Part8, iso8859Part9, iso8859Part10, iso8859Part11, iso8859Part13, iso8859Part14,
   iso8859Part15, iso8859Part16]

end Passcode.Text.CodePage
