import Passcode.Text.Plane

/-!
# National charsets

Charsets of single countries and regions, and one of printers and terminals.
-/

namespace Passcode.Text.CodePage

def koi8Russian : CodePage where
  name := "koi8_r"
  aliases := ["cskoi8r"]
  first := 0x80
  upper := "─│┌┐└┘├┤┬┴┼▀▄█▌▐░▒▓⌠■∙√≈≤≥\u00A0⌡°²·÷═║╒ё╓╔╕╖╗╘╙╚╛╜╝╞╟╠╡Ё╢╣╤╥╦╧╨╩╪╫╬©юабцдефгх"
    ++ "ийклмнопярстужвьызшэщчъЮАБЦДЕФГХИЙКЛМНОПЯРСТУЖВЬЫЗШЭЩЧЪ"

def koi8Tajik : CodePage where
  name := "koi8_t"
  first := 0x80
  upper := "қғ‚Ғ„…†‡\uFFFD‰ҳ‹ҲҷҶ\uFFFDҚ‘’“”•–—\uFFFD™\uFFFD›\uFFFD\uFFFD\uFFFD\uFFFD\uFFFD"
    ++ "ӯӮё¤ӣ¦§\uFFFD\uFFFD\uFFFD«¬\u00AD®\uFFFD°±²Ё\uFFFDӢ¶·\uFFFD№\uFFFD»\uFFFD"
    ++ "\uFFFD\uFFFD©юабцдефгхийклмнопярстужвьызшэщчъЮАБЦДЕФГХИЙКЛМНОПЯРСТУЖВЬЫЗШЭЩЧЪ"

def koi8Ukrainian : CodePage where
  name := "koi8_u"
  first := 0x80
  upper := "─│┌┐└┘├┤┬┴┼▀▄█▌▐░▒▓⌠■∙√≈≤≥\u00A0⌡°²·÷═║╒ёє╔ії╗╘╙╚╛ґ╝╞╟╠╡ЁЄ╣ІЇ╦╧╨╩╪Ґ╬©юабцдефгх"
    ++ "ийклмнопярстужвьызшэщчъЮАБЦДЕФГХИЙКЛМНОПЯРСТУЖВЬЫЗШЭЩЧЪ"

def kazakh : CodePage where
  name := "kz1048"
  aliases := ["kz_1048", "rk1048", "strk1048_2002"]
  first := 0x80
  upper := "ЂЃ‚ѓ„…†‡€‰Љ‹ЊҚҺЏђ‘’“”•–—\uFFFD™љ›њқһџ\u00A0ҰұӘ¤Ө¦§Ё©Ғ«¬\u00AD®Ү°±Ііөµ¶·ё№ғ»әҢң"
    ++ "үАБВГДЕЖЗИЙКЛМНОПРСТУФХЦЧШЩЪЫЬЭЮЯабвгдежзийклмнопрстуфхцчшщъыьэюя"

def asianCyrillic : CodePage where
  name := "ptcp154"
  aliases := ["cp154", "csptcp154", "cyrillic_asian", "pt154"]
  first := 0x80
  upper := "ҖҒӮғ„…ҶҮҲүҠӢҢҚҺҸҗ‘’“”•–—ҳҷҡӣңқһҹ\u00A0ЎўЈӨҘҰ§Ё©Ә«¬ӯ®Ҝ°ұІіҙө¶·ё№ә»јҪҫҝАБВГДЕЖЗИ"
    ++ "ЙКЛМНОПРСТУФХЦЧШЩЪЫЬЭЮЯабвгдежзийклмнопрстуфхцчшщъыьэюя"

def thai : CodePage where
  name := "tis_620"
  aliases := ["iso_ir_166", "tis620", "tis_620_0", "tis_620_2529_0", "tis_620_2529_1"]
  first := 0xA0
  upper := "\uFFFDกขฃคฅฆงจฉชซฌญฎฏฐฑฒณดตถทธนบปผฝพฟภมยรฤลฦวศษสหฬอฮฯะ\u0E31าำ\u0E34\u0E35"
    ++ "\u0E36\u0E37\u0E38\u0E39\u0E3A\uFFFD\uFFFD\uFFFD\uFFFD฿เแโใไๅๆ\u0E47\u0E48"
    ++ "\u0E49\u0E4A\u0E4B\u0E4C\u0E4D\u0E4E๏๐๑๒๓๔๕๖๗๘๙๚๛"

def urdu : CodePage where
  name := "cp1006"
  first := 0xA1
  upper := "۰۱۲۳۴۵۶۷۸۹،؛\u00AD؟ﺁﺍﺎﺎﺏﺑﭖﭘﺓﺕﺗﭦﭨﺙﺛﺝﺟﭺﭼﺡﺣﺥﺧﺩﮄﺫﺭﮌﺯﮊﺱﺳﺵﺷﺹﺻﺽﺿﻁﻅﻉﻊﻋﻌﻍﻎﻏﻐﻑﻓﻕﻗﻙﻛﮒﮔﻝﻟﻠ"
    ++ "ﻡﻣﮞﻥﻧﺅﻭﮦﮨﮩﮪﺀﺉﺊﺋﻱﻲﻳﮰﮮﹼﹽ"

def roman8 : CodePage where
  name := "hp_roman8"
  aliases := ["cp1051", "ibm1051", "r8", "roman8"]
  first := 0xA1
  upper := "ÀÂÈÊËÎÏ´ˋˆ¨˜ÙÛ₤¯Ýý°ÇçÑñ¡¿¤£¥§ƒ¢âêôûáéóúàèòùäëöüÅîØÆåíøæÄìÖÜÉïßÔÁÃãÐðÍÌÓÒÕõŠšÚŸ"
    ++ "ÿÞþ·µ¶¾—¼½ªº«■»±"

def national : List CodePage :=
  [koi8Russian, koi8Tajik, koi8Ukrainian, kazakh, asianCyrillic, thai, urdu, roman8]

end Passcode.Text.CodePage
