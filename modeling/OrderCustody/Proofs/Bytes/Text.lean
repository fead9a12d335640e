import OrderCustody.Bytes.Basic

namespace OrderCustody.Bytes

/-!
# Texts as bytes

The bytes of a text are those of its characters, one after the other, and a text is
read back from its bytes.  A character below 128 is one byte of the same number, and
all bytes of any other character are 128 or more, so no part of it can be taken for a
character below.
-/

theorem toList_loop_eq (array : ByteArray) (index : Nat) (read : Bytes) :
    ByteArray.toList.loop array index read =
      read.reverse ++ array.data.toList.drop index := by
  fun_induction ByteArray.toList.loop array index read with
  | case1 index read inside inductionHypothesis =>
      have inArray : index < array.data.size := inside
      have inList : index < array.data.toList.length := by simpa using inArray
      have next : array.data.toList[index] = array.get! index :=
        (getElem!_pos array.data index inArray).symm
      rw [inductionHypothesis, List.drop_eq_getElem_cons inList, next]
      simp
  | case2 index read outside =>
      have behind : array.data.toList.length ≤ index := by simpa using outside
      rw [List.drop_of_length_le behind, List.append_nil]

theorem toList_eq_toList_data (array : ByteArray) :
    array.toList = array.data.toList := by
  simp [ByteArray.toList, toList_loop_eq]

/-- The bytes of characters, one after the other. -/
def ofChars (characters : List Char) : Bytes :=
  characters.flatMap String.utf8EncodeChar

@[simp] theorem ofChars_nil : ofChars [] = [] :=
  rfl

@[simp] theorem ofChars_append (first second : List Char) :
    ofChars (first ++ second) = ofChars first ++ ofChars second := by
  simp [ofChars]

theorem ofChars_cons (c : Char) (rest : List Char) :
    ofChars (c :: rest) = String.utf8EncodeChar c ++ ofChars rest :=
  rfl

theorem ofText_eq_ofChars (text : String) : ofText text = ofChars text.toList := by
  rw [ofText, toList_eq_toList_data, String.toUTF8_eq_toByteArray,
    ← String.utf8Encode_toList, List.utf8Encode]
  exact List.toList_data_toByteArray

@[simp] theorem ofText_ofList (characters : List Char) :
    ofText (String.ofList characters) = ofChars characters := by
  rw [ofText_eq_ofChars, String.toList_ofList]

@[simp] theorem ofText_append (first second : String) :
    ofText (first ++ second) = ofText first ++ ofText second := by
  simp [ofText_eq_ofChars]

/-- A text is read back from its bytes. -/
@[simp] theorem toText?_ofText (text : String) : toText? (ofText text) = some text := by
  have array : (⟨(ofText text).toArray⟩ : ByteArray) = text.toByteArray := by
    rw [ofText, toList_eq_toList_data]
    simp
  rw [toText?, array, String.fromUTF8?, dif_pos text.isValidUTF8]
  rfl

theorem ofText_injective {first second : String} (same : ofText first = ofText second) :
    first = second := by
  have read : some first = some second := by
    rw [← toText?_ofText first, ← toText?_ofText second, same]
  exact Option.some.inj read

/-! ## Single characters -/

theorem utf8EncodeChar_of_lt
    {c : Char}
    (small : c.toNat < 128) :
    String.utf8EncodeChar c = [UInt8.ofNat c.toNat] := by
  have oneByte : c.val.toNat ≤ 127 := Nat.le_of_lt_succ small
  simp only [String.utf8EncodeChar, oneByte, ↓reduceIte]
  rfl

theorem ofChars_cons_of_lt
    {c : Char}
    {rest : List Char}
    (small : c.toNat < 128) :
    ofChars (c :: rest) = UInt8.ofNat c.toNat :: ofChars rest := by
  rw [ofChars_cons, utf8EncodeChar_of_lt small, List.singleton_append]

theorem ofChars_of_lt
    {characters : List Char}
    (small : ∀ c ∈ characters, c.toNat < 128) :
    ofChars characters = characters.map fun c => UInt8.ofNat c.toNat := by
  induction characters with
  | nil => rfl
  | cons c characters inductionHypothesis =>
      obtain ⟨first, others⟩ := List.forall_mem_cons.mp small
      rw [ofChars_cons_of_lt first, inductionHypothesis others, List.map_cons]

theorem le_of_mem_utf8EncodeChar
    {c : Char}
    {byte : UInt8}
    (large : 128 ≤ c.toNat)
    (member : byte ∈ String.utf8EncodeChar c) :
    128 ≤ byte.toNat := by
  have notOneByte : ¬ c.val.toNat ≤ 127 := Nat.not_le_of_lt large
  have high (value start room : Nat) (fits : start + room ≤ 256) (above : 128 ≤ start)
      (positive : 0 < room) :
      128 ≤ (UInt8.ofNat (value % room + start)).toNat := by
    have below : value % room < room := Nat.mod_lt _ positive
    rw [UInt8.toNat_ofNat', Nat.mod_eq_of_lt (by omega)]
    omega
  simp only [String.utf8EncodeChar, notOneByte, ↓reduceIte] at member
  split at member
  · simp only [List.mem_cons, List.not_mem_nil, or_false] at member
    rcases member with rfl | rfl <;> exact high _ _ _ (by decide) (by decide) (by decide)
  · split at member
    · simp only [List.mem_cons, List.not_mem_nil, or_false] at member
      rcases member with rfl | rfl | rfl <;>
        exact high _ _ _ (by decide) (by decide) (by decide)
    · simp only [List.mem_cons, List.not_mem_nil, or_false] at member
      rcases member with rfl | rfl | rfl | rfl <;>
        exact high _ _ _ (by decide) (by decide) (by decide)

end OrderCustody.Bytes
