import Passcode.Text.Glyph

/-!
# Octets and back

A text that is written in UTF-8 and taken apart again is the text: the octets of a character
begin a character, owe as many octets as follow, and stay within the bounds that keep out longer
forms and surrogates (`Text.Utf8.piecesAfter_encodeChar`). So glyphs that are the characters of a
text say this text (`Glyphs.toText_ofString`).
-/

namespace Passcode

namespace Text.Utf8

theorem within_secondBounds {first second : Nat} (hlow : 0x80 ≤ second) (hhigh : second ≤ 0xBF)
    (hlong : first = 0xE0 → 0xA0 ≤ second) (hhalf : first = 0xED → second ≤ 0x9F)
    (hlonger : first = 0xF0 → 0x90 ≤ second) (hlast : first = 0xF4 → second ≤ 0x8F) :
    (secondBounds first).1 ≤ second ∧ second ≤ (secondBounds first).2 := by
  grind [secondBounds]

/-- An octet of ASCII is a character of its own. -/
theorem piecesAfter_ascii {n : Nat} (hn : n < 0x80) (bs : List UInt8) :
    piecesAfter none (UInt8.ofNat n :: bs) = .char (Char.ofNat n) :: piecesAfter none bs := by
  have hnat : (UInt8.ofNat n).toNat = n :=
    UInt8.toNat_ofNat_of_lt' (by simp only [UInt8.size]; omega)
  simp only [piecesAfter, step, start, hnat, if_pos hn, List.cons_append, List.nil_append]

/-- An octet that begins a longer character: how many octets it owes depends on its bits. -/
theorem piecesAfter_begins {n : Nat} (hlow : 0xC2 ≤ n) (hhigh : n < 0xF5) (bs : List UInt8) :
    piecesAfter none (UInt8.ofNat n :: bs) =
      piecesAfter (some
        { octets := [UInt8.ofNat n]
          bits := if n < 0xE0 then n - 0xC0 else if n < 0xF0 then n - 0xE0 else n - 0xF0
          owed := if n < 0xE0 then 1 else if n < 0xF0 then 2 else 3
          low := (secondBounds n).1
          high := (secondBounds n).2 }) bs := by
  have hnat : (UInt8.ofNat n).toNat = n :=
    UInt8.toNat_ofNat_of_lt' (by simp only [UInt8.size]; omega)
  simp only [piecesAfter, step, start, hnat, if_neg (show ¬ n < 0x80 by omega),
    if_neg (show ¬ n < 0xC2 by omega), if_pos hhigh]
  split
  · rfl
  · split <;> rfl

/-- An octet that goes on a character adds its bits. -/
theorem piecesAfter_goesOn {g : Begun} {n : Nat} (hn : g.low ≤ n ∧ n ≤ g.high) (hlt : n < 256)
    (howed : 1 < g.owed) (bs : List UInt8) :
    piecesAfter (some g) (UInt8.ofNat n :: bs) =
      piecesAfter (some
        { octets := g.octets ++ [UInt8.ofNat n]
          bits := 64 * g.bits + (n - 0x80)
          owed := g.owed - 1 }) bs := by
  have hnat : (UInt8.ofNat n).toNat = n := UInt8.toNat_ofNat_of_lt' hlt
  simp only [piecesAfter, step, hnat, if_pos hn, if_neg (Nat.not_le.mpr howed), List.nil_append]

/-- The last octet of a character ends it. -/
theorem piecesAfter_ends {g : Begun} {n : Nat} (hn : g.low ≤ n ∧ n ≤ g.high) (hlt : n < 256)
    (howed : g.owed ≤ 1) (bs : List UInt8) :
    piecesAfter (some g) (UInt8.ofNat n :: bs) =
      .char (Char.ofNat (64 * g.bits + (n - 0x80))) :: piecesAfter none bs := by
  have hnat : (UInt8.ofNat n).toNat = n := UInt8.toNat_ofNat_of_lt' hlt
  simp only [piecesAfter, step, hnat, if_pos hn, if_pos howed, List.cons_append, List.nil_append]

/-- The octets of a character are taken for this character, whatever follows. -/
theorem piecesAfter_encodeChar (c : Char) (bs : List UInt8) :
    piecesAfter none (String.utf8EncodeChar c ++ bs) = .char c :: piecesAfter none bs := by
  have hvalid : c.toNat < 0xD800 ∨ 0xDFFF < c.toNat ∧ c.toNat < 0x110000 := c.valid
  have hval : c.val.toNat = c.toNat := rfl
  conv => rhs; rw [← Char.ofNat_toNat c]
  generalize c.toNat = v at hvalid hval
  have hgoesOn (n : Nat) : 0x80 ≤ n % 64 + 128 ∧ n % 64 + 128 ≤ 0xBF := by omega
  simp only [String.utf8EncodeChar, hval]
  -- one case for each number of octets
  split
  · exact piecesAfter_ascii (by omega) bs
  split
  · have hsecond : (secondBounds (v / 64 % 32 + 192)).1 ≤ v % 64 + 128 ∧
        v % 64 + 128 ≤ (secondBounds (v / 64 % 32 + 192)).2 :=
      within_secondBounds (by omega) (by omega) (by omega) (by omega) (by omega) (by omega)
    have htwo : v / 64 % 32 + 192 < 0xE0 := by omega
    have hbits : 64 * (v / 64 % 32 + 192 - 0xC0) + (v % 64 + 128 - 0x80) = v := by omega
    simp only [List.cons_append, List.nil_append]
    rw [piecesAfter_begins (by omega) (by omega)]
    simp only [if_pos htwo]
    rw [piecesAfter_ends hsecond (by omega) (by simp), hbits]
  split
  · have hsecond : (secondBounds (v / 4096 % 16 + 224)).1 ≤ v / 64 % 64 + 128 ∧
        v / 64 % 64 + 128 ≤ (secondBounds (v / 4096 % 16 + 224)).2 :=
      within_secondBounds (by omega) (by omega) (by omega) (by omega) (by omega) (by omega)
    have hthree : ¬ v / 4096 % 16 + 224 < 0xE0 ∧ v / 4096 % 16 + 224 < 0xF0 := by omega
    have hbits : 64 * (64 * (v / 4096 % 16 + 224 - 0xE0) + (v / 64 % 64 + 128 - 0x80)) +
        (v % 64 + 128 - 0x80) = v := by omega
    simp only [List.cons_append, List.nil_append]
    rw [piecesAfter_begins (by omega) (by omega)]
    simp only [if_neg hthree.1, if_pos hthree.2]
    rw [piecesAfter_goesOn hsecond (by omega) (by simp),
      piecesAfter_ends (hgoesOn _) (by omega) (by simp), hbits]
  · have hsecond : (secondBounds (v / 262144 % 8 + 240)).1 ≤ v / 4096 % 64 + 128 ∧
        v / 4096 % 64 + 128 ≤ (secondBounds (v / 262144 % 8 + 240)).2 :=
      within_secondBounds (by omega) (by omega) (by omega) (by omega) (by omega) (by omega)
    have hfour : ¬ v / 262144 % 8 + 240 < 0xE0 ∧ ¬ v / 262144 % 8 + 240 < 0xF0 := by omega
    have hbits : 64 * (64 * (64 * (v / 262144 % 8 + 240 - 0xF0) + (v / 4096 % 64 + 128 - 0x80)) +
        (v / 64 % 64 + 128 - 0x80)) + (v % 64 + 128 - 0x80) = v := by omega
    simp only [List.cons_append, List.nil_append]
    rw [piecesAfter_begins (by omega) (by omega)]
    simp only [if_neg hfour.1, if_neg hfour.2]
    rw [piecesAfter_goesOn hsecond (by omega) (by simp),
      piecesAfter_goesOn (hgoesOn _) (by omega) (by simp),
      piecesAfter_ends (hgoesOn _) (by omega) (by simp), hbits]

/-- A text in UTF-8 is taken apart into its characters. -/
theorem pieces_encode (cs : List Char) :
    pieces (cs.flatMap String.utf8EncodeChar) = cs.map .char := by
  induction cs with
  | nil => rfl
  | cons c cs ih =>
      show piecesAfter none (String.utf8EncodeChar c ++ cs.flatMap String.utf8EncodeChar) = _
      rw [piecesAfter_encodeChar]
      exact congrArg (Piece.char c :: ·) ih

end Text.Utf8

theorem Glyphs.toText_ofString (s : String) : (Glyphs.ofString s).toText = s := by
  have hutf8 : (s.toList.map Glyph.char).flatMap Glyph.utf8 =
      s.toList.flatMap String.utf8EncodeChar := List.flatMap_map ..
  rw [Glyphs.toText, Glyphs.ofString, hutf8, Text.Utf8.pieces_encode, List.map_map]
  exact (congrArg String.ofList (List.map_id _)).trans String.ofList_toList

end Passcode
