import RegistrySearch.Text.Utf8

/-!
# The characters of an encoded text

The octets that a text is encoded to are the pieces of the text again, without a mark for a stray octet.
-/

namespace RegistrySearch

namespace Utf8

/-- A character at the start is found, whatever octets follow it. -/
theorem leading_append (c : Char) (rest : List UInt8) : leading (String.utf8EncodeChar c ++ rest) = some c := by
  have hlength : (String.utf8EncodeChar c).length ≤ 4 := by
    rw [String.length_utf8EncodeChar]
    exact c.utf8Size_le_four
  rw [leading, List.take_append, List.take_of_length_le hlength, List.toByteArray_append]
  exact ByteArray.utf8DecodeChar?_utf8EncodeChar_append

theorem piecesAfter_append (skipped rest : List UInt8) :
    piecesAfter skipped.length (skipped ++ rest) = pieces rest := by
  induction skipped with
  | nil => rfl
  | cons octet skipped ih => rw [List.length_cons, List.cons_append, piecesAfter, ih]

theorem pieces_append (c : Char) (rest : List UInt8) :
    pieces (String.utf8EncodeChar c ++ rest) = some c :: pieces rest := by
  have hleading := leading_append c rest
  have hsize := String.length_utf8EncodeChar c
  cases hoctets : String.utf8EncodeChar c with
  | nil =>
      rw [hoctets, List.length_nil] at hsize
      exact absurd hsize.symm (Nat.pos_iff_ne_zero.1 c.utf8Size_pos)
  | cons octet octets =>
      rw [hoctets, List.cons_append] at hleading
      rw [hoctets, List.length_cons] at hsize
      rw [List.cons_append, pieces, piecesAfter, hleading]
      dsimp only
      rw [← hsize, Nat.add_sub_cancel, piecesAfter_append]

theorem pieces_encode (text : List Char) : pieces (encode text) = text.map some := by
  induction text with
  | nil => rfl
  | cons c text ih =>
      rw [List.map_cons, ← ih]
      exact pieces_append c (encode text)

theorem decode?_encode (text : List Char) : decode? (encode text) = some text := by
  rw [decode?, pieces_encode]
  induction text with
  | nil => rfl
  | cons c text ih =>
      rw [List.map_cons, List.mapM_cons, ih]
      rfl

/-- The octets of a string are those that its characters are encoded to. -/
theorem encode_toList (s : String) : encode s.toList = s.toUTF8.data.toList := by
  rw [String.toUTF8, ← String.utf8Encode_toList, List.utf8Encode, List.data_toByteArray]
  rfl

end Utf8

end RegistrySearch
