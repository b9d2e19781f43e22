import Passcode.Text.Plane

/-!
# DOS code pages

ASCII in the lower half, and in the upper half the letters of a region among characters for
drawing boxes.
-/

namespace Passcode.Text.CodePage

/-- Code page 437, Latin with box drawing. -/
def dos437 : CodePage where
  name := "cp437"
  aliases := ["437", "cspc8codepage437", "ibm437"]
  first := 0x80
  upper := "ÇüéâäàåçêëèïîìÄÅÉæÆôöòûùÿÖÜ¢£¥₧ƒáíóúñÑªº¿⌐¬½¼¡«»░▒▓│┤╡╢╖╕╣║╗╝╜╛┐└┴┬├─┼╞╟╚╔╩╦╠═"
    ++ "╬╧╨╤╥╙╘╒╓╫╪┘┌█▄▌▐▀αßΓπΣσµτΦΘΩδ∞φε∩≡±≥≤⌠⌡÷≈°∙·√ⁿ²■\u00A0"

/-- Code page 720, Arabic. -/
def dos720 : CodePage where
  name := "cp720"
  first := 0x82
  upper := "éâ\u0084à\u0086çêëèïî\u008D\u008E\u008F\u0090\u0651\u0652ô¤ـûùءآأؤ£إئابةتثجحخد"
    ++ "ذرزسشص«»░▒▓│┤╡╢╖╕╣║╗╝╜╛┐└┴┬├─┼╞╟╚╔╩╦╠═╬╧╨╤╥╙╘╒╓╫╪┘┌█▄▌▐▀ضطظعغفµقكلمنهوىي≡"
    ++ "\u064B\u064C\u064D\u064E\u064F\u0650≈°∙·√ⁿ²■\u00A0"

/-- Code page 737, Greek. -/
def dos737 : CodePage where
  name := "cp737"
  first := 0x80
  upper := "ΑΒΓΔΕΖΗΘΙΚΛΜΝΞΟΠΡΣΤΥΦΧΨΩαβγδεζηθικλμνξοπρσςτυφχψ░▒▓│┤╡╢╖╕╣║╗╝╜╛┐└┴┬├─┼╞╟╚╔╩╦╠═"
    ++ "╬╧╨╤╥╙╘╒╓╫╪┘┌█▄▌▐▀ωάέήϊίόύϋώΆΈΉΊΌΎΏ±≥≤ΪΫ÷≈°∙·√ⁿ²■\u00A0"

/-- Code page 775, Baltic. -/
def dos775 : CodePage where
  name := "cp775"
  aliases := ["775", "cspc775baltic", "ibm775"]
  first := 0x80
  upper := "ĆüéāäģåćłēŖŗīŹÄÅÉæÆōöĢ¢ŚśÖÜø£Ø×¤ĀĪóŻżź”¦©®¬½¼Ł«»░▒▓│┤ĄČĘĖ╣║╗╝ĮŠ┐└┴┬├─┼ŲŪ╚╔╩╦╠═"
    ++ "╬Žąčęėįšųūž┘┌█▄▌▐▀ÓßŌŃõÕµńĶķĻļņĒŅ’\u00AD±“¾¶§÷„°∙·¹³²■\u00A0"

/-- Code page 850, Western European. -/
def dos850 : CodePage where
  name := "cp850"
  aliases := ["850", "cspc850multilingual", "ibm850"]
  first := 0x80
  upper := "ÇüéâäàåçêëèïîìÄÅÉæÆôöòûùÿÖÜø£Ø×ƒáíóúñÑªº¿®¬½¼¡«»░▒▓│┤ÁÂÀ©╣║╗╝¢¥┐└┴┬├─┼ãÃ╚╔╩╦╠═"
    ++ "╬¤ðÐÊËÈıÍÎÏ┘┌█▄¦Ì▀ÓßÔÒõÕµþÞÚÛÙýÝ¯´\u00AD±‗¾¶§÷¸°¨·¹³²■\u00A0"

/-- Code page 852, Central European. -/
def dos852 : CodePage where
  name := "cp852"
  aliases := ["852", "cspcp852", "ibm852"]
  first := 0x80
  upper := "ÇüéâäůćçłëŐőîŹÄĆÉĹĺôöĽľŚśÖÜŤťŁ×čáíóúĄąŽžĘę¬źČş«»░▒▓│┤ÁÂĚŞ╣║╗╝Żż┐└┴┬├─┼Ăă╚╔╩╦╠═"
    ++ "╬¤đĐĎËďŇÍÎě┘┌█▄ŢŮ▀ÓßÔŃńňŠšŔÚŕŰýÝţ´\u00AD˝˛ˇ˘§÷¸°¨˙űŘř■\u00A0"

/-- Code page 855, Cyrillic. -/
def dos855 : CodePage where
  name := "cp855"
  aliases := ["855", "csibm855", "ibm855"]
  first := 0x80
  upper := "ђЂѓЃёЁєЄѕЅіІїЇјЈљЉњЊћЋќЌўЎџЏюЮъЪаАбБцЦдДеЕфФгГ«»░▒▓│┤хХиИ╣║╗╝йЙ┐└┴┬├─┼кК╚╔╩╦╠═"
    ++ "╬¤лЛмМнНоОп┘┌█▄Пя▀ЯрРсСтТуУжЖвВьЬ№\u00ADыЫзЗшШэЭщЩчЧ§■\u00A0"

/-- Code page 856, Hebrew. -/
def dos856 : CodePage where
  name := "cp856"
  first := 0x80
  upper := "אבגדהוזחטיךכלםמןנסעףפץצקרשת\uFFFD£\uFFFD×\uFFFD\uFFFD\uFFFD\uFFFD\uFFFD\uFFFD"
    ++ "\uFFFD\uFFFD\uFFFD\uFFFD®¬½¼\uFFFD«»░▒▓│┤\uFFFD\uFFFD\uFFFD©╣║╗╝¢¥┐└┴┬├─┼"
    ++ "\uFFFD\uFFFD╚╔╩╦╠═╬¤\uFFFD\uFFFD\uFFFD\uFFFD\uFFFD\uFFFD\uFFFD\uFFFD\uFFFD┘┌█▄"
    ++ "¦\uFFFD▀\uFFFD\uFFFD\uFFFD\uFFFD\uFFFD\uFFFDµ\uFFFD\uFFFD\uFFFD\uFFFD\uFFFD"
    ++ "\uFFFD\uFFFD¯´\u00AD±‗¾¶§÷¸°¨·¹³²■\u00A0"

/-- Code page 857, Turkish. -/
def dos857 : CodePage where
  name := "cp857"
  aliases := ["857", "csibm857", "ibm857"]
  first := 0x80
  upper := "ÇüéâäàåçêëèïîıÄÅÉæÆôöòûùİÖÜø£ØŞşáíóúñÑĞğ¿®¬½¼¡«»░▒▓│┤ÁÂÀ©╣║╗╝¢¥┐└┴┬├─┼ãÃ╚╔╩╦╠═"
    ++ "╬¤ºªÊËÈ\uFFFDÍÎÏ┘┌█▄¦Ì▀ÓßÔÒõÕµ\uFFFD×ÚÛÙìÿ¯´\u00AD±\uFFFD¾¶§÷¸°¨·¹³²■\u00A0"

/-- Code page 858, Western European with the euro sign. -/
def dos858 : CodePage where
  name := "cp858"
  aliases := ["858", "csibm858", "ibm858"]
  first := 0x80
  upper := "ÇüéâäàåçêëèïîìÄÅÉæÆôöòûùÿÖÜø£Ø×ƒáíóúñÑªº¿®¬½¼¡«»░▒▓│┤ÁÂÀ©╣║╗╝¢¥┐└┴┬├─┼ãÃ╚╔╩╦╠═"
    ++ "╬¤ðÐÊËÈ€ÍÎÏ┘┌█▄¦Ì▀ÓßÔÒõÕµþÞÚÛÙýÝ¯´\u00AD±‗¾¶§÷¸°¨·¹³²■\u00A0"

/-- Code page 860, Portuguese. -/
def dos860 : CodePage where
  name := "cp860"
  aliases := ["860", "csibm860", "ibm860"]
  first := 0x80
  upper := "ÇüéâãàÁçêÊèÍÔìÃÂÉÀÈôõòÚùÌÕÜ¢£Ù₧ÓáíóúñÑªº¿Ò¬½¼¡«»░▒▓│┤╡╢╖╕╣║╗╝╜╛┐└┴┬├─┼╞╟╚╔╩╦╠═"
    ++ "╬╧╨╤╥╙╘╒╓╫╪┘┌█▄▌▐▀αßΓπΣσµτΦΘΩδ∞φε∩≡±≥≤⌠⌡÷≈°∙·√ⁿ²■\u00A0"

/-- Code page 861, Icelandic. -/
def dos861 : CodePage where
  name := "cp861"
  aliases := ["861", "cp_is", "csibm861", "ibm861"]
  first := 0x80
  upper := "ÇüéâäàåçêëèÐðÞÄÅÉæÆôöþûÝýÖÜø£Ø₧ƒáíóúÁÍÓÚ¿⌐¬½¼¡«»░▒▓│┤╡╢╖╕╣║╗╝╜╛┐└┴┬├─┼╞╟╚╔╩╦╠═"
    ++ "╬╧╨╤╥╙╘╒╓╫╪┘┌█▄▌▐▀αßΓπΣσµτΦΘΩδ∞φε∩≡±≥≤⌠⌡÷≈°∙·√ⁿ²■\u00A0"

/-- Code page 862, Hebrew with box drawing. -/
def dos862 : CodePage where
  name := "cp862"
  aliases := ["862", "cspc862latinhebrew", "ibm862"]
  first := 0x80
  upper := "אבגדהוזחטיךכלםמןנסעףפץצקרשת¢£¥₧ƒáíóúñÑªº¿⌐¬½¼¡«»░▒▓│┤╡╢╖╕╣║╗╝╜╛┐└┴┬├─┼╞╟╚╔╩╦╠═"
    ++ "╬╧╨╤╥╙╘╒╓╫╪┘┌█▄▌▐▀αßΓπΣσµτΦΘΩδ∞φε∩≡±≥≤⌠⌡÷≈°∙·√ⁿ²■\u00A0"

/-- Code page 863, Canadian French. -/
def dos863 : CodePage where
  name := "cp863"
  aliases := ["863", "csibm863", "ibm863"]
  first := 0x80
  upper := "ÇüéâÂà¶çêëèïî‗À§ÉÈÊôËÏûù¤ÔÜ¢£ÙÛƒ¦´óú¨¸³¯Î⌐¬½¼¾«»░▒▓│┤╡╢╖╕╣║╗╝╜╛┐└┴┬├─┼╞╟╚╔╩╦╠═"
    ++ "╬╧╨╤╥╙╘╒╓╫╪┘┌█▄▌▐▀αßΓπΣσµτΦΘΩδ∞φε∩≡±≥≤⌠⌡÷≈°∙·√ⁿ²■\u00A0"

/-- Code page 864, Arabic without box drawing. -/
def dos864 : CodePage where
  name := "cp864"
  aliases := ["864", "csibm864", "ibm864"]
  first := 0x25
  upper := "٪&'()*+,-./0123456789:;<=>?@ABCDEFGHIJKLMNOPQRSTUVWXYZ[\\]^_`abcdefghijklmnopq"
    ++ "rstuvwxyz\x7b|\x7d~\u007F°·∙√▒─│┼┤┬├┴┐┌└┘β∞φ±½¼≈«»ﻷﻸ\uFFFD\uFFFDﻻﻼ\uFFFD\u00A0"
    ++ "\u00ADﺂ£¤ﺄ\uFFFD\uFFFDﺎﺏﺕﺙ،ﺝﺡﺥ٠١٢٣٤٥٦٧٨٩ﻑ؛ﺱﺵﺹ؟¢ﺀﺁﺃﺅﻊﺋﺍﺑﺓﺗﺛﺟﺣﺧﺩﺫﺭﺯﺳﺷﺻﺿﻁﻅﻋﻏ¦¬÷×ﻉ"
    ++ "ـﻓﻗﻛﻟﻣﻧﻫﻭﻯﻳﺽﻌﻎﻍﻡﹽ\u0651ﻥﻩﻬﻰﻲﻐﻕﻵﻶﻝﻙﻱ■"

/-- Code page 865, Nordic. -/
def dos865 : CodePage where
  name := "cp865"
  aliases := ["865", "csibm865", "ibm865"]
  first := 0x80
  upper := "ÇüéâäàåçêëèïîìÄÅÉæÆôöòûùÿÖÜø£Ø₧ƒáíóúñÑªº¿⌐¬½¼¡«¤░▒▓│┤╡╢╖╕╣║╗╝╜╛┐└┴┬├─┼╞╟╚╔╩╦╠═"
    ++ "╬╧╨╤╥╙╘╒╓╫╪┘┌█▄▌▐▀αßΓπΣσµτΦΘΩδ∞φε∩≡±≥≤⌠⌡÷≈°∙·√ⁿ²■\u00A0"

/-- Code page 866, Russian. -/
def dos866 : CodePage where
  name := "cp866"
  aliases := ["866", "csibm866", "ibm866"]
  first := 0x80
  upper := "АБВГДЕЖЗИЙКЛМНОПРСТУФХЦЧШЩЪЫЬЭЮЯабвгдежзийклмноп░▒▓│┤╡╢╖╕╣║╗╝╜╛┐└┴┬├─┼╞╟╚╔╩╦╠═"
    ++ "╬╧╨╤╥╙╘╒╓╫╪┘┌█▄▌▐▀рстуфхцчшщъыьэюяЁёЄєЇїЎў°∙·√№¤■\u00A0"

/-- Code page 869, Greek with accents. -/
def dos869 : CodePage where
  name := "cp869"
  aliases := ["869", "cp_gr", "csibm869", "ibm869"]
  first := 0x80
  upper := "\uFFFD\uFFFD\uFFFD\uFFFD\uFFFD\uFFFDΆ\uFFFD·¬¦‘’Έ―ΉΊΪΌ\uFFFD\uFFFDΎΫ©Ώ²³ά£έήίϊ"
    ++ "ΐόύΑΒΓΔΕΖΗ½ΘΙ«»░▒▓│┤ΚΛΜΝ╣║╗╝ΞΟ┐└┴┬├─┼ΠΡ╚╔╩╦╠═╬ΣΤΥΦΧΨΩαβγ┘┌█▄δε▀ζηθικλμνξοπρσςτ"
    ++ "΄\u00AD±υφχ§ψ΅°¨ωϋΰώ■\u00A0"

/-- Code page 1125, Ukrainian. -/
def dos1125 : CodePage where
  name := "cp1125"
  aliases := ["1125", "cp866u", "ibm1125", "ruscii"]
  first := 0x80
  upper := "АБВГДЕЖЗИЙКЛМНОПРСТУФХЦЧШЩЪЫЬЭЮЯабвгдежзийклмноп░▒▓│┤╡╢╖╕╣║╗╝╜╛┐└┴┬├─┼╞╟╚╔╩╦╠═"
    ++ "╬╧╨╤╥╙╘╒╓╫╪┘┌█▄▌▐▀рстуфхцчшщъыьэюяЁёҐґЄєІіЇї·√№¤■\u00A0"

/-- The code pages of DOS. -/
def dos : List CodePage :=
  [dos437, dos720, dos737, dos775, dos850, dos852, dos855, dos856, dos857, dos858, dos860, dos861,
   dos862, dos863, dos864, dos865, dos866, dos869, dos1125]

end Passcode.Text.CodePage
