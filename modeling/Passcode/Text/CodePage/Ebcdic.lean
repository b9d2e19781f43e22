import Passcode.Text.Plane

/-!
# EBCDIC

The charsets of mainframes, in which hardly any octet has the meaning that it has in ASCII.
-/

namespace Passcode.Text.CodePage

/-- EBCDIC 037, North American. -/
def ebcdic037 : CodePage where
  name := "cp037"
  aliases := ["037", "csibm037", "ebcdic_cp_ca", "ebcdic_cp_nl", "ebcdic_cp_us", "ebcdic_cp_wt",
    "ibm037", "ibm039"]
  first := 0x04
  upper := "\u009C\u0009\u0086\u007F\u0097\u008D\u008E\u000B\u000C\u000D\u000E\u000F\u0010"
    ++ "\u0011\u0012\u0013\u009D\u0085\u0008\u0087\u0018\u0019\u0092\u008F\u001C\u001D"
    ++ "\u001E\u001F\u0080\u0081\u0082\u0083\u0084\u000A\u0017\u001B\u0088\u0089\u008A"
    ++ "\u008B\u008C\u0005\u0006\u0007\u0090\u0091\u0016\u0093\u0094\u0095\u0096\u0004"
    ++ "\u0098\u0099\u009A\u009B\u0014\u0015\u009E\u001A \u00A0âäàáãåçñ¢.<(+|&éêëèíîïì"
    ++ "ß!$*);¬-/ÂÄÀÁÃÅÇÑ¦,%_>?øÉÊËÈÍÎÏÌ`:#@'=\"Øabcdefghi«»ðýþ±°jklmnopqrªºæ¸Æ¤µ~stuv"
    ++ "wxyz¡¿ÐÝÞ®^£¥·©§¶¼½¾[]¯¨´×\x7bABCDEFGHI\u00ADôöòóõ\x7dJKLMNOPQR¹ûüùúÿ\\÷STUVWX"
    ++ "YZ²ÔÖÒÓÕ0123456789³ÛÜÙÚ\u009F"

/-- EBCDIC 273, German. -/
def ebcdic273 : CodePage where
  name := "cp273"
  aliases := ["273", "csibm273", "ibm273"]
  first := 0x04
  upper := "\u009C\u0009\u0086\u007F\u0097\u008D\u008E\u000B\u000C\u000D\u000E\u000F\u0010"
    ++ "\u0011\u0012\u0013\u009D\u0085\u0008\u0087\u0018\u0019\u0092\u008F\u001C\u001D"
    ++ "\u001E\u001F\u0080\u0081\u0082\u0083\u0084\u000A\u0017\u001B\u0088\u0089\u008A"
    ++ "\u008B\u008C\u0005\u0006\u0007\u0090\u0091\u0016\u0093\u0094\u0095\u0096\u0004"
    ++ "\u0098\u0099\u009A\u009B\u0014\u0015\u009E\u001A \u00A0â\x7bàáãåçñÄ.<(+!&éêëèí"
    ++ "îïì~Ü$*);^-/Â[ÀÁÃÅÇÑö,%_>?øÉÊËÈÍÎÏÌ`:#§'=\"Øabcdefghi«»ðýþ±°jklmnopqrªºæ¸Æ¤µßs"
    ++ "tuvwxyz¡¿ÐÝÞ®¢£¥·©@¶¼½¾¬|‾¨´×äABCDEFGHI\u00ADô¦òóõüJKLMNOPQR¹û\x7dùúÿÖ÷STUVWXY"
    ++ "Z²Ô\\ÒÓÕ0123456789³Û]ÙÚ\u009F"

/-- EBCDIC 424, Hebrew. -/
def ebcdic424 : CodePage where
  name := "cp424"
  aliases := ["424", "csibm424", "ebcdic_cp_he", "ibm424"]
  first := 0x04
  upper := "\u009C\u0009\u0086\u007F\u0097\u008D\u008E\u000B\u000C\u000D\u000E\u000F\u0010"
    ++ "\u0011\u0012\u0013\u009D\u0085\u0008\u0087\u0018\u0019\u0092\u008F\u001C\u001D"
    ++ "\u001E\u001F\u0080\u0081\u0082\u0083\u0084\u000A\u0017\u001B\u0088\u0089\u008A"
    ++ "\u008B\u008C\u0005\u0006\u0007\u0090\u0091\u0016\u0093\u0094\u0095\u0096\u0004"
    ++ "\u0098\u0099\u009A\u009B\u0014\u0015\u009E\u001A אבגדהוזחט¢.<(+|&יךכלםמןנס!$*)"
    ++ ";¬-/עףפץצקרש¦,%_>?\uFFFDת\uFFFD\uFFFD\u00A0\uFFFD\uFFFD\uFFFD‗`:#@'=\"\uFFFDab"
    ++ "cdefghi«»\uFFFD\uFFFD\uFFFD±°jklmnopqr\uFFFD\uFFFD\uFFFD¸\uFFFD¤µ~stuvwxyz"
    ++ "\uFFFD\uFFFD\uFFFD\uFFFD\uFFFD®^£¥·©§¶¼½¾[]¯¨´×\x7bABCDEFGHI\u00AD\uFFFD\uFFFD"
    ++ "\uFFFD\uFFFD\uFFFD\x7dJKLMNOPQR¹\uFFFD\uFFFD\uFFFD\uFFFD\uFFFD\\÷STUVWXYZ²"
    ++ "\uFFFD\uFFFD\uFFFD\uFFFD\uFFFD0123456789³\uFFFD\uFFFD\uFFFD\uFFFD\u009F"

/-- EBCDIC 500, international. -/
def ebcdic500 : CodePage where
  name := "cp500"
  aliases := ["500", "csibm500", "ebcdic_cp_be", "ebcdic_cp_ch", "ibm500"]
  first := 0x04
  upper := "\u009C\u0009\u0086\u007F\u0097\u008D\u008E\u000B\u000C\u000D\u000E\u000F\u0010"
    ++ "\u0011\u0012\u0013\u009D\u0085\u0008\u0087\u0018\u0019\u0092\u008F\u001C\u001D"
    ++ "\u001E\u001F\u0080\u0081\u0082\u0083\u0084\u000A\u0017\u001B\u0088\u0089\u008A"
    ++ "\u008B\u008C\u0005\u0006\u0007\u0090\u0091\u0016\u0093\u0094\u0095\u0096\u0004"
    ++ "\u0098\u0099\u009A\u009B\u0014\u0015\u009E\u001A \u00A0âäàáãåçñ[.<(+!&éêëèíîïì"
    ++ "ß]$*);^-/ÂÄÀÁÃÅÇÑ¦,%_>?øÉÊËÈÍÎÏÌ`:#@'=\"Øabcdefghi«»ðýþ±°jklmnopqrªºæ¸Æ¤µ~stuv"
    ++ "wxyz¡¿ÐÝÞ®¢£¥·©§¶¼½¾¬|¯¨´×\x7bABCDEFGHI\u00ADôöòóõ\x7dJKLMNOPQR¹ûüùúÿ\\÷STUVWX"
    ++ "YZ²ÔÖÒÓÕ0123456789³ÛÜÙÚ\u009F"

/-- EBCDIC 875, Greek. -/
def ebcdic875 : CodePage where
  name := "cp875"
  first := 0x04
  upper := "\u009C\u0009\u0086\u007F\u0097\u008D\u008E\u000B\u000C\u000D\u000E\u000F\u0010"
    ++ "\u0011\u0012\u0013\u009D\u0085\u0008\u0087\u0018\u0019\u0092\u008F\u001C\u001D"
    ++ "\u001E\u001F\u0080\u0081\u0082\u0083\u0084\u000A\u0017\u001B\u0088\u0089\u008A"
    ++ "\u008B\u008C\u0005\u0006\u0007\u0090\u0091\u0016\u0093\u0094\u0095\u0096\u0004"
    ++ "\u0098\u0099\u009A\u009B\u0014\u0015\u009E\u001A ΑΒΓΔΕΖΗΘΙ[.<(+!&ΚΛΜΝΞΟΠΡΣ]$*)"
    ++ ";^-/ΤΥΦΧΨΩΪΫ|,%_>?¨ΆΈΉ\u00A0ΊΌΎΏ`:#@'=\"΅abcdefghiαβγδεζ°jklmnopqrηθικλμ´~stuv"
    ++ "wxyzνξοπρσ£άέήϊίόύϋώςτυφχψ\x7bABCDEFGHI\u00ADωΐΰ‘―\x7dJKLMNOPQR±½\u001A·’¦\\"
    ++ "\u001ASTUVWXYZ²§\u001A\u001A«¬0123456789³©\u001A\u001A»\u009F"

/-- EBCDIC 1026, Turkish. -/
def ebcdic1026 : CodePage where
  name := "cp1026"
  aliases := ["1026", "csibm1026", "ibm1026"]
  first := 0x04
  upper := "\u009C\u0009\u0086\u007F\u0097\u008D\u008E\u000B\u000C\u000D\u000E\u000F\u0010"
    ++ "\u0011\u0012\u0013\u009D\u0085\u0008\u0087\u0018\u0019\u0092\u008F\u001C\u001D"
    ++ "\u001E\u001F\u0080\u0081\u0082\u0083\u0084\u000A\u0017\u001B\u0088\u0089\u008A"
    ++ "\u008B\u008C\u0005\u0006\u0007\u0090\u0091\u0016\u0093\u0094\u0095\u0096\u0004"
    ++ "\u0098\u0099\u009A\u009B\u0014\u0015\u009E\u001A \u00A0âäàáãå\x7bñÇ.<(+!&éêëèí"
    ++ "îïìßĞİ*);^-/ÂÄÀÁÃÅ[Ñş,%_>?øÉÊËÈÍÎÏÌı:ÖŞ'=ÜØabcdefghi«»\x7d`¦±°jklmnopqrªºæ¸Æ¤µ"
    ++ "östuvwxyz¡¿]$@®¢£¥·©§¶¼½¾¬|¯¨´×çABCDEFGHI\u00ADô~òóõğJKLMNOPQR¹û\\ùúÿü÷STUVWXY"
    ++ "Z²Ô#ÒÓÕ0123456789³Û\"ÙÚ\u009F"

/-- EBCDIC 1140, North American with the euro sign. -/
def ebcdic1140 : CodePage where
  name := "cp1140"
  aliases := ["1140", "ibm1140"]
  first := 0x04
  upper := "\u009C\u0009\u0086\u007F\u0097\u008D\u008E\u000B\u000C\u000D\u000E\u000F\u0010"
    ++ "\u0011\u0012\u0013\u009D\u0085\u0008\u0087\u0018\u0019\u0092\u008F\u001C\u001D"
    ++ "\u001E\u001F\u0080\u0081\u0082\u0083\u0084\u000A\u0017\u001B\u0088\u0089\u008A"
    ++ "\u008B\u008C\u0005\u0006\u0007\u0090\u0091\u0016\u0093\u0094\u0095\u0096\u0004"
    ++ "\u0098\u0099\u009A\u009B\u0014\u0015\u009E\u001A \u00A0âäàáãåçñ¢.<(+|&éêëèíîïì"
    ++ "ß!$*);¬-/ÂÄÀÁÃÅÇÑ¦,%_>?øÉÊËÈÍÎÏÌ`:#@'=\"Øabcdefghi«»ðýþ±°jklmnopqrªºæ¸Æ€µ~stuv"
    ++ "wxyz¡¿ÐÝÞ®^£¥·©§¶¼½¾[]¯¨´×\x7bABCDEFGHI\u00ADôöòóõ\x7dJKLMNOPQR¹ûüùúÿ\\÷STUVWX"
    ++ "YZ²ÔÖÒÓÕ0123456789³ÛÜÙÚ\u009F"

/-- The variants of EBCDIC. -/
def ebcdic : List CodePage :=
  [ebcdic037, ebcdic273, ebcdic424, ebcdic500, ebcdic875, ebcdic1026, ebcdic1140]

end Passcode.Text.CodePage
