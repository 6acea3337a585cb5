/-!
The UTF-8 form of text, and cutting text at byte offsets of it. A cut inside a character is refused.
-/

namespace DaemonLaunch.Text

/-- The bytes that the text takes. -/
def byteCount (text : List Char) : Nat := text.foldr (fun c bytes => c.utf8Size + bytes) 0

def dropBytes? : Nat → List Char → Option (List Char)
  | 0, text => some text
  | _ + 1, [] => none
  | n + 1, c :: rest => if c.utf8Size ≤ n + 1 then dropBytes? (n + 1 - c.utf8Size) rest else none

def takeBytes? : Nat → List Char → Option (List Char)
  | 0, _ => some []
  | _ + 1, [] => none
  | n + 1, c :: rest =>
    if c.utf8Size ≤ n + 1 then (takeBytes? (n + 1 - c.utf8Size) rest).map (c :: ·) else none

def slice? (text : List Char) (start stop : Nat) : Option (List Char) :=
  (dropBytes? start text).bind (takeBytes? (stop - start))

theorem dropBytes?_byteCount (before rest : List Char) :
    dropBytes? (byteCount before) (before ++ rest) = some rest := by
  induction before with
  | nil =>
    rw [byteCount, List.foldr_nil, List.nil_append]
    cases rest <;> rfl
  | cons c before ih =>
    have hpositive : 0 < c.utf8Size := c.utf8Size_pos
    have hcount : byteCount (c :: before) = c.utf8Size + byteCount before := rfl
    obtain ⟨n, hn⟩ : ∃ n, byteCount (c :: before) = n + 1 :=
      ⟨c.utf8Size + byteCount before - 1, by omega⟩
    have hleft : n + 1 - c.utf8Size = byteCount before := by omega
    rw [hn, List.cons_append, dropBytes?, if_pos (by omega), hleft, ih]

private theorem toList_loop (bytes : ByteArray) (i : Nat) (before : List UInt8) :
    ByteArray.toList.loop bytes i before = before.reverse ++ bytes.data.toList.drop i := by
  -- the loop goes on with the count of bytes that are left
  induction hleft : bytes.size - i generalizing i before with
  | zero =>
    have hend : bytes.data.toList.length ≤ i := Nat.le_of_sub_eq_zero hleft
    rw [ByteArray.toList.loop, if_neg (by omega), List.drop_eq_nil_of_le hend, List.append_nil]
  | succ left ih =>
    have hi : i < bytes.size := by omega
    have hget : bytes.get! i = bytes.data.toList[i] := getElem!_pos bytes.data i hi
    rw [ByteArray.toList.loop, if_pos hi, ih (i + 1) _ (by omega), hget,
      List.drop_eq_getElem_cons hi]
    simp

theorem toList_eq_data (bytes : ByteArray) : bytes.toList = bytes.data.toList := by
  rw [ByteArray.toList, toList_loop]
  rfl

theorem toList_toUTF8 (text : String) :
    text.toUTF8.toList = text.toList.flatMap String.utf8EncodeChar := by
  have hbytes : text.toByteArray = text.toList.utf8Encode := by
    rw [← String.toByteArray_ofList, String.ofList_toList]
  rw [toList_eq_data, String.toUTF8_eq_toByteArray, hbytes, List.utf8Encode, List.data_toByteArray,
    List.toList_toArray]

theorem toList_toUTF8_append (text text' : String) :
    (text ++ text').toUTF8.toList = text.toUTF8.toList ++ text'.toUTF8.toList := by
  simp only [toList_toUTF8, String.toList_append, List.flatMap_append]

theorem toList_toUTF8_ne_nil {text : String} (h : text.toList ≠ []) : text.toUTF8.toList ≠ [] := by
  rcases List.exists_cons_of_ne_nil h with ⟨c, rest, hcons⟩
  have hlength := String.length_utf8EncodeChar c
  have hpositive := c.utf8Size_pos
  rw [toList_toUTF8, hcons, List.flatMap_cons]
  intro hnil
  rw [(List.append_eq_nil_iff.mp hnil).1, List.length_nil] at hlength
  omega

theorem length_flatMap_utf8EncodeChar (text : List Char) :
    (text.flatMap String.utf8EncodeChar).length = byteCount text := by
  induction text with
  | nil => rfl
  | cons c text ih =>
    rw [List.flatMap_cons, List.length_append, String.length_utf8EncodeChar, ih]
    rfl

theorem byteCount_append (text text' : List Char) :
    byteCount (text ++ text') = byteCount text + byteCount text' := by
  simp only [← length_flatMap_utf8EncodeChar, List.flatMap_append, List.length_append]

theorem utf8ByteSize_eq (text : String) : text.utf8ByteSize = byteCount text.toList := by
  rw [← length_flatMap_utf8EncodeChar, ← toList_toUTF8, toList_eq_data, Array.length_toList,
    String.toUTF8_eq_toByteArray, ← String.size_toByteArray]
  rfl

theorem fromUTF8?_toUTF8 (text : String) : String.fromUTF8? text.toUTF8 = some text := by
  rw [String.fromUTF8?, String.toUTF8_eq_toByteArray, dif_pos text.isValidUTF8]
  rfl

theorem eq_toUTF8_of_fromUTF8? {bytes : ByteArray} {text : String}
    (h : String.fromUTF8? bytes = some text) :
    bytes = text.toUTF8 := by
  rw [String.fromUTF8?] at h
  split at h
  · cases h
    rfl
  · cases h

end DaemonLaunch.Text
