/-!
# Prepared characters

The preparation of names makes capitals small, takes compatibility characters apart,
composes marks with letters, and forbids what is not to stand in a name. The characters
listed here are left alone by all of this. They are given as ranges: the first, the last, and
the distance from one to the next.
-/

namespace Passcode.Text.Prepared

/-- Characters beyond ASCII that preparation leaves alone and that are not written from right to
left. -/
def plain : List (Nat × Nat × Nat) :=
  [(0x00A1, 0x00A7, 1), (0x00A9, 0x00AB, 2), (0x00AC, 0x00B0, 2), (0x00B1, 0x00B1, 1),
   (0x00B6, 0x00B7, 1), (0x00BB, 0x00BB, 1), (0x00BF, 0x00BF, 1), (0x00D7, 0x00D7, 1),
   (0x00E0, 0x00FF, 1), (0x0101, 0x0131, 2), (0x0135, 0x0137, 2), (0x0138, 0x013E, 2),
   (0x0142, 0x0148, 2), (0x014B, 0x0177, 2), (0x017A, 0x0180, 2), (0x0183, 0x0185, 2),
   (0x0188, 0x0188, 1), (0x018C, 0x018D, 1), (0x0192, 0x0192, 1), (0x0195, 0x0195, 1),
   (0x0199, 0x019B, 1), (0x019E, 0x019E, 1), (0x01A1, 0x01A5, 2), (0x01A8, 0x01AA, 2),
   (0x01AB, 0x01AD, 2), (0x01B0, 0x01B0, 1), (0x01B4, 0x01B6, 2), (0x01B9, 0x01BB, 1),
   (0x01BD, 0x01C3, 1), (0x01CE, 0x01DC, 2), (0x01DD, 0x01EF, 2), (0x01F5, 0x01F5, 1),
   (0x01F9, 0x0233, 2), (0x0234, 0x0239, 1), (0x023C, 0x023C, 1), (0x023F, 0x0240, 1),
   (0x0242, 0x0242, 1), (0x0247, 0x024F, 2), (0x0250, 0x02AF, 1), (0x02B9, 0x02D7, 1),
   (0x02DE, 0x02DF, 1), (0x02E5, 0x02FF, 1), (0x0305, 0x0305, 1), (0x030D, 0x030E, 1),
   (0x0310, 0x0312, 2), (0x0315, 0x031A, 1), (0x031C, 0x0322, 1), (0x0329, 0x032C, 1),
   (0x032F, 0x032F, 1), (0x0332, 0x0337, 1), (0x0339, 0x033F, 1), (0x0346, 0x034E, 1),
   (0x0350, 0x036F, 1), (0x0371, 0x0377, 2), (0x0378, 0x0379, 1), (0x037B, 0x037D, 1),
   (0x0380, 0x0383, 1), (0x038B, 0x038D, 2), (0x03A2, 0x03A2, 1), (0x03AC, 0x03AF, 1),
   (0x03B1, 0x03C1, 1), (0x03C3, 0x03CE, 1), (0x03D7, 0x03EF, 2), (0x03F3, 0x03F3, 1),
   (0x03F6, 0x03F8, 2), (0x03FB, 0x03FC, 1), (0x0430, 0x045F, 1), (0x0461, 0x0481, 2),
   (0x0482, 0x0489, 1), (0x048B, 0x04BF, 2), (0x04C2, 0x04CE, 2), (0x04CF, 0x052F, 2),
   (0x0530, 0x0530, 1), (0x0557, 0x0586, 1), (0x0588, 0x05BD, 1), (0x05BF, 0x05C1, 2),
   (0x05C2, 0x05C4, 2), (0x05C5, 0x05CF, 1), (0x05EB, 0x05EF, 1), (0x05F5, 0x061A, 1),
   (0x061C, 0x061E, 1), (0x0620, 0x0620, 1), (0x063B, 0x063F, 1), (0x064B, 0x0652, 1),
   (0x0656, 0x066C, 1), (0x0670, 0x0670, 1), (0x06D6, 0x06DC, 1), (0x06DE, 0x06E4, 1),
   (0x06E7, 0x06F9, 1), (0x06FF, 0x06FF, 1), (0x070E, 0x070E, 1), (0x0711, 0x0711, 1),
   (0x072D, 0x077F, 1), (0x07A6, 0x07B0, 1), (0x07B2, 0x093B, 1), (0x093D, 0x0957, 1),
   (0x0960, 0x09BD, 1), (0x09BF, 0x09D6, 1), (0x09D8, 0x09DB, 1), (0x09DE, 0x09E0, 2),
   (0x09E1, 0x0A32, 1), (0x0A34, 0x0A35, 1), (0x0A37, 0x0A58, 1), (0x0A5C, 0x0A5D, 1),
   (0x0A5F, 0x0B3D, 1), (0x0B3F, 0x0B55, 1), (0x0B58, 0x0B5B, 1), (0x0B5E, 0x0BBD, 1),
   (0x0BBF, 0x0BD6, 1), (0x0BD8, 0x0C55, 1), (0x0C57, 0x0CC1, 1), (0x0CC3, 0x0CD4, 1),
   (0x0CD7, 0x0D3D, 1), (0x0D3F, 0x0D56, 1), (0x0D58, 0x0DC9, 1), (0x0DCB, 0x0DCE, 1),
   (0x0DD0, 0x0DDE, 1), (0x0DE0, 0x0E32, 1), (0x0E34, 0x0EB2, 1), (0x0EB4, 0x0EDB, 1),
   (0x0EDE, 0x0F0B, 1), (0x0F0D, 0x0F42, 1), (0x0F44, 0x0F4C, 1), (0x0F4E, 0x0F51, 1),
   (0x0F53, 0x0F56, 1), (0x0F58, 0x0F5B, 1), (0x0F5D, 0x0F68, 1), (0x0F6A, 0x0F72, 1),
   (0x0F74, 0x0F74, 1), (0x0F7A, 0x0F80, 1), (0x0F82, 0x0F92, 1), (0x0F94, 0x0F9C, 1),
   (0x0F9E, 0x0FA1, 1), (0x0FA3, 0x0FA6, 1), (0x0FA8, 0x0FAB, 1), (0x0FAD, 0x0FB8, 1),
   (0x0FBA, 0x102D, 1), (0x102F, 0x109F, 1), (0x10C6, 0x10C8, 2), (0x10C9, 0x10CC, 1),
   (0x10CE, 0x1160, 1), (0x1176, 0x11A7, 1), (0x11C3, 0x139F, 1), (0x13F6, 0x167F, 1),
   (0x1681, 0x1805, 1), (0x1807, 0x180A, 1), (0x180F, 0x1C8F, 1), (0x1CBB, 0x1CBC, 1),
   (0x1CC0, 0x1DFF, 1), (0x1E01, 0x1E95, 2), (0x1E9C, 0x1E9D, 1), (0x1E9F, 0x1EFF, 2),
   (0x1F00, 0x1F07, 1), (0x1F10, 0x1F17, 1), (0x1F1E, 0x1F27, 1), (0x1F30, 0x1F37, 1),
   (0x1F40, 0x1F47, 1), (0x1F4E, 0x1F4F, 1), (0x1F51, 0x1F57, 2), (0x1F58, 0x1F60, 2),
   (0x1F61, 0x1F67, 1), (0x1F70, 0x1F7E, 2), (0x1F7F, 0x1F7F, 1), (0x1FB0, 0x1FB1, 1),
   (0x1FB5, 0x1FB5, 1), (0x1FC5, 0x1FC5, 1), (0x1FD0, 0x1FD1, 1), (0x1FD4, 0x1FD5, 1),
   (0x1FDC, 0x1FDC, 1), (0x1FE0, 0x1FE1, 1), (0x1FE5, 0x1FE5, 1), (0x1FF0, 0x1FF1, 1),
   (0x1FF5, 0x1FF5, 1), (0x1FFF, 0x1FFF, 1), (0x2010, 0x2012, 2), (0x2013, 0x2016, 1),
   (0x2018, 0x2023, 1), (0x2027, 0x2027, 1), (0x2030, 0x2032, 1), (0x2035, 0x2035, 1),
   (0x2038, 0x203B, 1), (0x203D, 0x203F, 2), (0x2040, 0x2046, 1), (0x204A, 0x2056, 1),
   (0x2058, 0x205E, 1), (0x2064, 0x2069, 1), (0x2072, 0x2073, 1), (0x208F, 0x20A7, 1),
   (0x20A9, 0x20FF, 1), (0x2104, 0x2104, 1), (0x2108, 0x2108, 1), (0x2114, 0x2114, 1),
   (0x2117, 0x2118, 1), (0x211E, 0x211F, 1), (0x2123, 0x2129, 2), (0x212E, 0x212E, 1),
   (0x213A, 0x213C, 1), (0x2141, 0x2144, 1), (0x214A, 0x2152, 1), (0x2180, 0x2182, 1),
   (0x2184, 0x222B, 1), (0x222E, 0x222E, 1), (0x2231, 0x2328, 1), (0x232B, 0x245F, 1),
   (0x24EB, 0x2A0B, 1), (0x2A0D, 0x2A73, 1), (0x2A77, 0x2ADB, 1), (0x2ADD, 0x2BFF, 1),
   (0x2C30, 0x2C5F, 1), (0x2C61, 0x2C61, 1), (0x2C65, 0x2C66, 1), (0x2C68, 0x2C6C, 2),
   (0x2C71, 0x2C73, 2), (0x2C74, 0x2C76, 2), (0x2C77, 0x2C7D, 1), (0x2C81, 0x2CE3, 2),
   (0x2CE4, 0x2CEA, 1), (0x2CEC, 0x2CEE, 2), (0x2CEF, 0x2CF1, 1), (0x2CF3, 0x2E9E, 1),
   (0x2EA0, 0x2EF2, 1), (0x2EF4, 0x2EFF, 1), (0x2FD6, 0x2FEF, 1), (0x2FFC, 0x2FFF, 1),
   (0x3001, 0x3035, 1), (0x3037, 0x3037, 1), (0x303B, 0x3098, 1), (0x309D, 0x309E, 1),
   (0x30A0, 0x30FE, 1), (0x3100, 0x3130, 1), (0x318F, 0x3191, 1), (0x31A0, 0x31FF, 1),
   (0x321D, 0x321F, 1), (0x3244, 0x3250, 1), (0x327C, 0x327F, 1), (0x32CC, 0x32CF, 1),
   (0x32FF, 0x32FF, 1), (0x3377, 0x337A, 1), (0x33DE, 0x33DF, 1), (0x33FF, 0xA63F, 1),
   (0xA641, 0xA66D, 2), (0xA66E, 0xA67F, 1), (0xA681, 0xA69B, 2), (0xA69C, 0xA721, 1),
   (0xA723, 0xA72F, 2), (0xA730, 0xA731, 1), (0xA733, 0xA76F, 2), (0xA770, 0xA778, 1),
   (0xA77A, 0xA77C, 2), (0xA77F, 0xA787, 2), (0xA788, 0xA78A, 1), (0xA78C, 0xA78E, 2),
   (0xA78F, 0xA793, 2), (0xA794, 0xA795, 1), (0xA797, 0xA7A9, 2), (0xA7AF, 0xA7AF, 1),
   (0xA7B5, 0xA7C3, 2), (0xA7C8, 0xA7CA, 2), (0xA7CB, 0xA7CF, 1), (0xA7D1, 0xA7D5, 1),
   (0xA7D7, 0xA7D9, 2), (0xA7DA, 0xA7F4, 1), (0xA7F6, 0xD7FF, 1), (0xFA0E, 0xFA0F, 1),
   (0xFA11, 0xFA13, 2), (0xFA14, 0xFA14, 1), (0xFA1F, 0xFA23, 2), (0xFA24, 0xFA24, 1),
   (0xFA27, 0xFA29, 1), (0xFA2E, 0xFA2F, 1), (0xFA6B, 0xFAFF, 1), (0xFB07, 0xFB12, 1),
   (0xFB18, 0xFB1C, 1), (0xFB1E, 0xFB1E, 1), (0xFB37, 0xFB37, 1), (0xFB3D, 0xFB3F, 2),
   (0xFB42, 0xFB42, 1), (0xFB45, 0xFB45, 1), (0xFBB2, 0xFBD2, 1), (0xFD3E, 0xFD4F, 1),
   (0xFD90, 0xFD91, 1), (0xFDC8, 0xFDCF, 1), (0xFDFD, 0xFDFF, 1), (0xFE10, 0xFE2F, 1),
   (0xFE45, 0xFE48, 1), (0xFE53, 0xFE53, 1), (0xFE67, 0xFE67, 1), (0xFE6C, 0xFE6F, 1),
   (0xFE75, 0xFE75, 1), (0xFEFD, 0xFEFE, 1), (0xFF00, 0xFF00, 1), (0xFFBF, 0xFFC1, 1),
   (0xFFC8, 0xFFC9, 1), (0xFFD0, 0xFFD1, 1), (0xFFD8, 0xFFD9, 1), (0xFFDD, 0xFFDF, 1),
   (0xFFE7, 0xFFE7, 1), (0xFFEF, 0xFFF8, 1), (0x10000, 0x103FF, 1), (0x10428, 0x104AF, 1),
   (0x104D4, 0x1056F, 1), (0x1057B, 0x1057B, 1), (0x1058B, 0x1058B, 1), (0x10593, 0x10593, 1),
   (0x10596, 0x10C7F, 1), (0x10CB3, 0x1189F, 1), (0x118C0, 0x16E3F, 1), (0x16E60, 0x1D15D, 1),
   (0x1D165, 0x1D172, 1), (0x1D17B, 0x1D1BA, 1), (0x1D1C1, 0x1D3FF, 1), (0x1D455, 0x1D455, 1),
   (0x1D49D, 0x1D49D, 1), (0x1D4A0, 0x1D4A1, 1), (0x1D4A3, 0x1D4A4, 1), (0x1D4A7, 0x1D4A8, 1),
   (0x1D4AD, 0x1D4AD, 1), (0x1D4BA, 0x1D4BC, 2), (0x1D4C1, 0x1D4C1, 1), (0x1D4C4, 0x1D4C4, 1),
   (0x1D506, 0x1D506, 1), (0x1D50B, 0x1D50C, 1), (0x1D515, 0x1D515, 1), (0x1D51D, 0x1D51D, 1),
   (0x1D53A, 0x1D53A, 1), (0x1D53F, 0x1D53F, 1), (0x1D545, 0x1D547, 2), (0x1D548, 0x1D549, 1),
   (0x1D551, 0x1D551, 1), (0x1D6A4, 0x1D6A7, 1), (0x1D7CA, 0x1D7CD, 1), (0x1D800, 0x1E8FF, 1),
   (0x1E922, 0x1FFFD, 1), (0x20000, 0x2F7FF, 1), (0x2FA1E, 0x2FFFD, 1), (0x30000, 0x3FFFD, 1),
   (0x40000, 0x4FFFD, 1), (0x50000, 0x5FFFD, 1), (0x60000, 0x6FFFD, 1), (0x70000, 0x7FFFD, 1),
   (0x80000, 0x8FFFD, 1), (0x90000, 0x9FFFD, 1), (0xA0000, 0xAFFFD, 1), (0xB0000, 0xBFFFD, 1),
   (0xC0000, 0xCFFFD, 1), (0xD0000, 0xDFFFD, 1), (0xE0000, 0xE0002, 2), (0xE0003, 0xE001F, 1),
   (0xE0080, 0xEFFFD, 1)]

/-- Characters that preparation leaves alone and that are written from right to left. -/
def rightToLeft : List (Nat × Nat × Nat) :=
  [(0x05BE, 0x05C0, 2), (0x05C3, 0x05C3, 1), (0x05D0, 0x05EA, 1), (0x05F0, 0x05F4, 1),
   (0x061B, 0x061B, 1), (0x061F, 0x0621, 2), (0x0622, 0x063A, 1), (0x0640, 0x064A, 1),
   (0x066D, 0x066F, 1), (0x0671, 0x0674, 1), (0x0679, 0x06D5, 1), (0x06E5, 0x06E6, 1),
   (0x06FA, 0x06FE, 1), (0x0700, 0x070D, 1), (0x0710, 0x0712, 2), (0x0713, 0x072C, 1),
   (0x0780, 0x07A5, 1), (0x07B1, 0x07B1, 1), (0xFE73, 0xFE73, 1)]

def within (ranges : List (Nat × Nat × Nat)) (n : Nat) : Bool :=
  ranges.any fun r => r.1 ≤ n && n ≤ r.2.1 && (n - r.1) % r.2.2 = 0

def isRightToLeft (c : Char) : Bool := within rightToLeft c.toNat

/-- Whether preparation leaves a character alone. -/
def isKept (c : Char) : Bool :=
  if c.toNat < 0x80 then !c.isUpper else within plain c.toNat || isRightToLeft c

/-- Whether a character may stand among others that are written from right to left: a sign of
ASCII, or a mark of their scripts. -/
def isNeutral (c : Char) : Bool :=
  (c.toNat < 0x80 && !c.isAlpha) || (0x590 ≤ c.toNat && c.toNat < 0x900)

/-- Whether some characters may stand together as far as the direction of writing goes: if
one is written from right to left, the first and the last are, and none the other way. -/
def oneWay (cs : List Char) : Bool :=
  if cs.any isRightToLeft then
    cs.head?.any isRightToLeft && cs.getLast?.any isRightToLeft
      && cs.all fun c => isRightToLeft c || isNeutral c
  else true

/-- Whether preparation leaves a text alone. -/
def isPrepared (cs : List Char) : Bool := cs.all isKept && oneWay cs

end Passcode.Text.Prepared
