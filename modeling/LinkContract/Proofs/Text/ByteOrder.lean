/-!
# Byte order of texts

Texts are compared character by character. UTF-8 keeps that order: the bytes of one text
come before those of another exactly when its characters do, so a list of names that is
sorted as texts is sorted as bytes.
-/
namespace LinkContract.Text

/-- The bytes of a text in UTF-8. -/
def bytes (text : String) : List UInt8 := text.toUTF8.data.toList

/-- The bytes of one text stand before those of another in the order of a dictionary. -/
def BytesBefore (first second : String) : Prop := bytes first < bytes second

theorem bytes_eq (text : String) : bytes text = text.toList.flatMap String.utf8EncodeChar := by
  have encoded : text.toUTF8 = (text.toList.flatMap String.utf8EncodeChar).toByteArray := by
    conv => lhs; rw [← String.ofList_toList (s := text)]
    rfl
  rw [bytes, encoded, List.toList_data_toByteArray]

theorem toNat_lt (c : Char) : c.val.toNat < 0x110000 := by
  have valid := c.valid
  simp only [UInt32.isValidChar, Nat.isValidChar] at valid
  omega

/-- The encodings of two characters already differ in favour of the smaller one, whatever
comes after them. -/
theorem utf8EncodeChar_append_lt (c d : Char) (smaller : c < d) (first second : List UInt8) :
    String.utf8EncodeChar c ++ first < String.utf8EncodeChar d ++ second := by
  have order : c.val.toNat < d.val.toNat := smaller
  have bound := toNat_lt d
  have nested (number : Nat) :
      number / 4096 = number / 64 / 64 ∧ number / 262144 = number / 64 / 64 / 64 := by omega
  simp only [String.utf8EncodeChar, nested]
  generalize c.val.toNat = m at *
  generalize d.val.toNat = n at *
  -- one case for each pair of lengths; the longer encoding has the greater first byte
  repeat' split
  all_goals
    simp only [List.cons_append, List.nil_append, List.cons_lt_cons_iff, UInt8.lt_iff_toNat_lt,
      ← UInt8.toNat_inj, UInt8.toNat_ofNat']
    omega

theorem utf8EncodeChar_ne_nil (c : Char) : String.utf8EncodeChar c ≠ [] := by
  have occupied := c.utf8Size_pos
  rw [← String.length_utf8EncodeChar] at occupied
  exact List.length_pos_iff.mp occupied

/-- By induction on the common beginning of the two texts. -/
theorem flatMap_utf8EncodeChar_lt (first second : List Char) (before : first < second) :
    first.flatMap String.utf8EncodeChar < second.flatMap String.utf8EncodeChar := by
  induction before with
  | @nil c rest =>
    rw [List.flatMap_nil, List.flatMap_cons]
    cases shape : String.utf8EncodeChar c with
    | nil => exact absurd shape (utf8EncodeChar_ne_nil c)
    | cons byte others => exact List.nil_lt_cons byte _
  | rel smaller => exact utf8EncodeChar_append_lt _ _ smaller _ _
  | cons _ ih => exact List.append_left_lt ih

theorem bytesBefore_of_lt (first second : String) (before : first < second) :
    BytesBefore first second := by
  rw [BytesBefore, bytes_eq, bytes_eq]
  exact flatMap_utf8EncodeChar_lt _ _ before

theorem bytesBefore_iff (first second : String) : BytesBefore first second ↔ first < second := by
  constructor
  · intro before
    -- were it not so, the two would be equal or the other way round, in bytes as well
    rcases Std.lt_trichotomy first second with smaller | same | greater
    · exact smaller
    · subst same
      exact absurd before (List.lt_irrefl _)
    · exact absurd before (List.lt_asymm (bytesBefore_of_lt second first greater))
  · exact bytesBefore_of_lt first second

end LinkContract.Text
