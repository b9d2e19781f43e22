import Passcode.Text.CodePage.Dos
import Passcode.Text.CodePage.Ebcdic
import Passcode.Text.CodePage.Iso8859
import Passcode.Text.CodePage.Macintosh
import Passcode.Text.CodePage.National
import Passcode.Text.CodePage.Windows
import Passcode.Text.Decoder.Big5
import Passcode.Text.Decoder.Escapes
import Passcode.Text.Decoder.GuoBiao
import Passcode.Text.Decoder.Iso2022
import Passcode.Text.Decoder.Utf7
import Passcode.Text.Label

/-!
# Charsets

What octets in a header mean. A charset is found by any of its names, in which capitals do
not count and anything but letters, digits and points only parts words.
-/

namespace Passcode.Text

/-- A way to read octets. -/
inductive Charset where
  | ascii
  | latin1
  /-- UTF-8, in which a mark at the beginning may be no part of the text. -/
  | utf8 (marked : Bool)
  | utf7
  /-- UTF-16 in an order, or in the one that a mark at the beginning gives. -/
  | utf16 (order : Option ByteOrder)
  | utf32 (order : Option ByteOrder)
  | page (p : CodePage)
  | gb2312
  | gbk
  | gb18030
  | hz
  | big5
  | big5HongKong
  | codePage950
  | shiftJis
  | shiftJis213 (e : JisEdition)
  | codePage932
  | eucJp
  | eucJis213 (e : JisEdition)
  | eucKr
  | codePage949
  | johab
  | iso2022 (r : Iso2022.Repertoire)
  | escapes
  | rawEscapes
  | punycode
  | labels
  /-- A charset in which no octet means anything. -/
  | undefined

namespace Charset

/-! ## Names -/

/-- A charset under its name and its other names. -/
structure Listing where
  name : String
  aliases : List String
  charset : Charset

def basic : List Listing :=
  [⟨"ascii", ["646", "ansi_x3.4_1968", "ansi_x3_4_1968", "ansi_x3.4_1986", "cp367", "csascii",
      "ibm367", "iso646_us", "iso_646.irv_1991", "iso_ir_6", "us", "us_ascii"], .ascii⟩,
   ⟨"latin_1", ["8859", "cp819", "csisolatin1", "ibm819", "iso8859", "iso8859_1",
      "iso_8859_1", "iso_8859_1_1987", "iso_ir_100", "l1", "latin", "latin1"], .latin1⟩,
   ⟨"charmap", [], .latin1⟩,
   ⟨"utf_8", ["u8", "utf", "utf8", "utf8_ucs2", "utf8_ucs4", "cp65001"], .utf8 false⟩,
   ⟨"utf_8_sig", [], .utf8 true⟩,
   ⟨"utf_7", ["u7", "utf7", "unicode_1_1_utf_7"], .utf7⟩,
   ⟨"utf_16", ["u16", "utf16"], .utf16 none⟩,
   ⟨"utf_16_be", ["unicodebigunmarked", "utf_16be"], .utf16 (some .big)⟩,
   ⟨"utf_16_le", ["unicodelittleunmarked", "utf_16le"], .utf16 (some .little)⟩,
   ⟨"utf_32", ["u32", "utf32"], .utf32 none⟩,
   ⟨"utf_32_be", ["utf_32be"], .utf32 (some .big)⟩,
   ⟨"utf_32_le", ["utf_32le"], .utf32 (some .little)⟩,
   ⟨"unicode_escape", [], .escapes⟩,
   ⟨"raw_unicode_escape", [], .rawEscapes⟩,
   ⟨"punycode", [], .punycode⟩,
   ⟨"idna", [], .labels⟩,
   ⟨"undefined", [], .undefined⟩]

/-- The charsets of Chinese, Japanese and Korean. -/
def eastAsian : List Listing :=
  [⟨"gb2312", ["chinese", "csiso58gb231280", "euc_cn", "euccn", "eucgb2312_cn",
      "gb2312_1980", "gb2312_80", "iso_ir_58", "x_mac_simp_chinese"], .gb2312⟩,
   ⟨"gbk", ["936", "cp936", "ms936"], .gbk⟩,
   ⟨"gb18030", ["gb18030_2000"], .gb18030⟩,
   ⟨"hz", ["hzgb", "hz_gb", "hz_gb_2312"], .hz⟩,
   ⟨"big5", ["big5_tw", "csbig5", "x_mac_trad_chinese"], .big5⟩,
   ⟨"big5hkscs", ["big5_hkscs", "hkscs"], .big5HongKong⟩,
   ⟨"cp950", ["950", "ms950"], .codePage950⟩,
   ⟨"shift_jis", ["csshiftjis", "shiftjis", "sjis", "s_jis", "x_mac_japanese"], .shiftJis⟩,
   ⟨"shift_jis_2004", ["shiftjis2004", "sjis_2004", "s_jis_2004"], .shiftJis213 .of2004⟩,
   ⟨"shift_jisx0213", ["shiftjisx0213", "sjisx0213", "s_jisx0213"], .shiftJis213 .of2000⟩,
   ⟨"cp932", ["932", "ms932", "mskanji", "ms_kanji"], .codePage932⟩,
   ⟨"euc_jp", ["eucjp", "ujis", "u_jis"], .eucJp⟩,
   ⟨"euc_jis_2004", ["jisx0213", "eucjis2004", "euc_jis2004"], .eucJis213 .of2004⟩,
   ⟨"euc_jisx0213", ["eucjisx0213"], .eucJis213 .of2000⟩,
   ⟨"euc_kr", ["euckr", "korean", "ksc5601", "ks_c_5601", "ks_c_5601_1987", "ksx1001",
      "ks_x_1001", "x_mac_korean"], .eucKr⟩,
   ⟨"cp949", ["949", "ms949", "uhc"], .codePage949⟩,
   ⟨"johab", ["cp1361", "ms1361"], .johab⟩,
   ⟨"iso2022_jp", ["csiso2022jp", "iso2022jp", "iso_2022_jp"], .iso2022 Iso2022.japanese⟩,
   ⟨"iso2022_jp_1", ["iso2022jp_1", "iso_2022_jp_1"], .iso2022 Iso2022.japanese1⟩,
   ⟨"iso2022_jp_2", ["iso2022jp_2", "iso_2022_jp_2"], .iso2022 Iso2022.japanese2⟩,
   ⟨"iso2022_jp_2004", ["iso_2022_jp_2004", "iso2022jp_2004"],
      .iso2022 Iso2022.japanese2004⟩,
   ⟨"iso2022_jp_3", ["iso2022jp_3", "iso_2022_jp_3"], .iso2022 Iso2022.japanese3⟩,
   ⟨"iso2022_jp_ext", ["iso2022jp_ext", "iso_2022_jp_ext"],
      .iso2022 Iso2022.japaneseExtended⟩,
   ⟨"iso2022_kr", ["csiso2022kr", "iso2022kr", "iso_2022_kr"], .iso2022 Iso2022.korean⟩]

/-- The code pages. -/
def pages : List CodePage :=
  CodePage.iso8859 ++ CodePage.windows ++ CodePage.dos ++ CodePage.ebcdic
    ++ CodePage.macintosh ++ CodePage.national

def listed : List Listing :=
  basic ++ eastAsian ++ pages.map fun p => ⟨p.name, p.aliases, .page p⟩

/-- A name in small letters, with one low line for whatever parts its words. `parted` says
whether something parted the last word from what follows. -/
def normalChars : (parted : Bool) → (written : Bool) → List Char → List Char
  | _, _, [] => []
  | parted, written, c :: cs =>
    if c.isAlphanum || c = '.' then
      let rest := c.toLower :: normalChars false true cs
      if parted && written then '_' :: rest else rest
    else normalChars true written cs

/-- The form of a name in which charsets are looked up. -/
def normalName (name : String) : String := String.ofList (normalChars false false name.toList)

def aliased? (name : String) : Option Charset :=
  (listed.find? fun l => name ∈ l.aliases).map (·.charset)

/-- The charset of a name. A point may stand for a low line in the other names only. -/
def ofName? (name : String) : Option Charset :=
  let n := normalName name
  (aliased? n).or <|
    (aliased? (n.map fun c => if c = '.' then '_' else c)).or <|
      (listed.find? fun l => l.name = n).map (·.charset)

/-! ## Reading -/

/-- What an octet means where one octet is one character. -/
def single (char? : UInt8 → Option Char) : Decoder Unit :=
  .stateless fun bs => .ofChar? (bs.head?.bind char?) 1

/-- What octets of UTF-16 mean, whose order a mark may give. -/
def utf16Glyphs (order : Option ByteOrder) (bs : List UInt8) : Option Glyphs :=
  match order, bs with
  | some o, _ => (Decoder.utf16 o).run () bs
  | none, 0xFF :: 0xFE :: rest => (Decoder.utf16 .little).run () rest
  | none, 0xFE :: 0xFF :: rest => (Decoder.utf16 .big).run () rest
  | none, _ => (Decoder.utf16 .little).run () bs

/-- What octets of UTF-32 mean, whose order a mark may give. -/
def utf32Glyphs (order : Option ByteOrder) (bs : List UInt8) : Option Glyphs :=
  match order, bs with
  | some o, _ => (Decoder.utf32 o).run () bs
  | none, 0xFF :: 0xFE :: 0x00 :: 0x00 :: rest => (Decoder.utf32 .little).run () rest
  | none, 0x00 :: 0x00 :: 0xFE :: 0xFF :: rest => (Decoder.utf32 .big).run () rest
  | none, _ => (Decoder.utf32 .little).run () bs

/-- What octets mean; nothing if they are beyond help. Octets beyond ASCII that mean nothing
stay as they are. -/
def decode : Charset → List UInt8 → Option Glyphs
  | ascii, bs => (single Decoder.asciiChar?).run () bs
  | latin1, bs => (single fun b => some (Char.ofNat b.toNat)).run () bs
  | page p, bs => (single p.char?).run () bs
  | utf8 marked, bs =>
    match marked, bs with
    | true, 0xEF :: 0xBB :: 0xBF :: rest => some (Glyphs.ofUtf8 rest)
    | _, _ => some (Glyphs.ofUtf8 bs)
  | utf7, bs => Decoder.utf7.run () bs
  | utf16 order, bs => utf16Glyphs order bs
  | utf32 order, bs => utf32Glyphs order bs
  | gb2312, bs => Decoder.gb2312.run () bs
  | gbk, bs => Decoder.gbk.run () bs
  | gb18030, bs => Decoder.gb18030.run () bs
  | hz, bs => Decoder.hz.run false bs
  | big5, bs => Decoder.big5.run () bs
  | big5HongKong, bs => Decoder.big5HongKong.run () bs
  | codePage950, bs => Decoder.codePage950.run () bs
  | shiftJis, bs => Decoder.shiftJis.run () bs
  | shiftJis213 e, bs => (Decoder.shiftJis213 e).run () bs
  | codePage932, bs => Decoder.codePage932.run () bs
  | eucJp, bs => Decoder.eucJp.run () bs
  | eucJis213 e, bs => (Decoder.eucJis213 e).run () bs
  | eucKr, bs => Decoder.eucKr.run () bs
  | codePage949, bs => Decoder.codePage949.run () bs
  | johab, bs => Decoder.johab.run () bs
  | iso2022 r, bs => (Iso2022.decoder r).run {} bs
  | escapes, bs => Decoder.escapes.run () bs
  | rawEscapes, bs => Decoder.rawEscapes.run () bs
  | punycode, bs => Punycode.decode? bs
  | labels, bs => Labels.decode? bs
  | undefined, bs => if bs.isEmpty then some [] else none

end Charset

end Passcode.Text
