import ModelCheck.Proofs.Text.Decode

/-!
# Texts as bytes

A text is encoded character by character and is read back from its bytes. Only a line feed has the
byte of a line feed, so the bytes of a text are cut into lines where the text is.
-/

namespace ModelCheck.Text

/-- The loop that makes a list of an array of bytes puts those it has still to read behind the ones it
holds reversed. -/
theorem toList_loop (bytes : ByteArray) (i : Nat) (reversed : List UInt8) :
    ByteArray.toList.loop bytes i reversed = reversed.reverse ++ bytes.data.toList.drop i := by
  have hsize : bytes.size = bytes.data.toList.length := Array.length_toList.symm
  induction i, reversed using ByteArray.toList.loop.induct bytes with
  | case1 i reversed hi ih =>
    have hi' : i < bytes.data.toList.length := hsize ▸ hi
    have hget : bytes.get! i = bytes.data.toList[i] := getElem!_pos bytes.data i hi
    rw [ByteArray.toList.loop, if_pos hi, ih, List.drop_eq_getElem_cons hi', hget]
    simp
  | case2 i reversed hi =>
    rw [ByteArray.toList.loop, if_neg hi, List.drop_eq_nil_of_le (by omega), List.append_nil]

/-- The bytes of a text are those of its characters. -/
theorem encode_ofList (s : List Char) : encode (String.ofList s) = s.flatMap String.utf8EncodeChar := by
  rw [encode, String.toUTF8_eq_toByteArray, ByteArray.toList, toList_loop, String.toByteArray_ofList,
    List.utf8Encode]
  simp

/-- Characters are encoded one by one, so texts may be encoded in parts. -/
theorem encode_ofList_append (s t : List Char) :
    encode (String.ofList (s ++ t)) = encode (String.ofList s) ++ encode (String.ofList t) := by
  rw [encode_ofList, encode_ofList, encode_ofList, List.flatMap_append]

/-- Texts may be encoded in parts. -/
theorem encode_append (s t : String) : encode (s ++ t) = encode s ++ encode t := by
  have hchars := encode_ofList_append s.toList t.toList
  rwa [String.ofList_append, String.ofList_toList, String.ofList_toList] at hchars

/-- A text is read back from its bytes. -/
theorem decodeStrict?_encode (s : String) : decodeStrict? (encode s) = some s := by
  have hbytes : (⟨(encode s).toArray⟩ : ByteArray) = s.toByteArray := by
    rw [encode, String.toUTF8_eq_toByteArray, ByteArray.toList, toList_loop]
    simp
  rw [decodeStrict?, hbytes, String.fromUTF8?, dif_pos s.isValidUTF8]
  rfl

/-- Only a line feed has the byte of a line feed. -/
theorem eq_of_lineFeed_mem {c : Char} (h : lineFeed ∈ String.utf8EncodeChar c) : c = '\n' := by
  have hbyte : ∀ n, lineFeed = UInt8.ofNat n → n % 256 = 10 := by
    intro n hn
    have hnat := congrArg UInt8.toNat hn
    rw [UInt8.toNat_ofNat'] at hnat
    exact hnat.symm
  rw [String.utf8EncodeChar.eq_1] at h
  split at h
  · have hvalue := hbyte _ (List.mem_singleton.mp h)
    refine Char.ext (UInt32.toNat_inj.mp ?_)
    show c.val.toNat = 10
    omega
  -- each byte of a character of several bytes is above those of single ones
  split at h
  · simp only [List.mem_cons, List.not_mem_nil, or_false] at h
    rcases h with h | h
    all_goals
      have hvalue := hbyte _ h
      omega
  split at h
  · simp only [List.mem_cons, List.not_mem_nil, or_false] at h
    rcases h with h | h | h
    all_goals
      have hvalue := hbyte _ h
      omega
  · simp only [List.mem_cons, List.not_mem_nil, or_false] at h
    rcases h with h | h | h | h
    all_goals
      have hvalue := hbyte _ h
      omega

/-- The byte of a line feed is in no character but the line feed itself. -/
theorem lineFeed_not_mem_encode {s : List Char} (h : '\n' ∉ s) :
    lineFeed ∉ encode (String.ofList s) := by
  intro hfeed
  rw [encode_ofList] at hfeed
  obtain ⟨c, hc, hfeed⟩ := List.mem_flatMap.mp hfeed
  exact h (eq_of_lineFeed_mem hfeed ▸ hc)

/-- A line feed is one byte. -/
theorem encode_lineFeed : encode (String.ofList ['\n']) = [lineFeed] := by
  rw [encode_ofList]
  rfl

end ModelCheck.Text
