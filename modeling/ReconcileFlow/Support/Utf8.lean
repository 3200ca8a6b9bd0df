import Mathlib.Data.List.Basic

/-!
# Support — Utf8

Texts as bytes in UTF-8, and the encoding `utf-8-sig`, which is UTF-8 after a mark.  A reader of
`utf-8-sig` drops the mark if it is there.  It reads back what was written with the mark
(`decodeSig_mark`), and what was written without, unless that begins with the character of which the
mark is made (`decodeSig_encode`).
-/

namespace Support.Utf8

/-- The byte order mark, in UTF-8. -/
def mark : List UInt8 := [0xEF, 0xBB, 0xBF]

/-- `text.encode("utf-8")`. -/
def encode (text : List Char) : List UInt8 := (String.ofList text).toUTF8.toList

/-- `bytes.decode("utf-8")`, or nothing if that is an error. -/
def decode (bytes : List UInt8) : Option (List Char) :=
  (String.fromUTF8? bytes.toByteArray).map String.toList

/-- What a reader of `utf-8-sig` decodes. -/
def decodeSig (bytes : List UInt8) : Option (List Char) :=
  -- at the end of the bytes a part of the mark is left unread
  if bytes <+: mark then some []
  else decode (if mark <+: bytes then bytes.drop mark.length else bytes)

/-! ### Bytes of a text -/

theorem toList_loop (bytes : ByteArray) :
    ∀ (n i : Nat) (done : List UInt8), bytes.size - i = n →
      ByteArray.toList.loop bytes i done = done.reverse ++ bytes.data.toList.drop i := by
  intro n
  induction n with
  | zero =>
    intro i done h
    have hsize : bytes.data.toList.length ≤ i := by simpa using Nat.le_of_sub_eq_zero h
    rw [ByteArray.toList.loop, if_neg (by omega), List.drop_eq_nil_of_le hsize, List.append_nil]
  | succ n ih =>
    intro i done h
    have hi : i < bytes.data.toList.length := by
      have hsize : bytes.data.toList.length = bytes.size := by simp
      omega
    have hget : bytes.get! i = bytes.data.toList[i] := by
      rw [Array.getElem_toList]
      exact getElem!_pos bytes.data i (by simpa using hi)
    rw [ByteArray.toList.loop, if_pos (by omega), ih (i + 1) _ (by omega), List.reverse_cons,
      List.append_assoc, List.singleton_append, hget, ← List.drop_eq_getElem_cons hi]

theorem toList_eq (bytes : ByteArray) : bytes.toList = bytes.data.toList := by
  rw [ByteArray.toList, toList_loop bytes _ 0 [] rfl]
  rfl

theorem toByteArray_toList (bytes : ByteArray) : bytes.toList.toByteArray = bytes := by
  apply ByteArray.ext
  rw [toList_eq, List.data_toByteArray, Array.toArray_toList]

/-- What is encoded is decoded again. -/
theorem decode_encode (text : List Char) : decode (encode text) = some text := by
  rw [decode, encode, toByteArray_toList, String.toUTF8_eq_toByteArray, String.fromUTF8?,
    dif_pos (String.ofList text).isValidUTF8]
  exact congrArg some String.toList_ofList

theorem encode_eq (text : List Char) : encode text = text.flatMap String.utf8EncodeChar := by
  rw [encode, toList_eq, String.toUTF8_eq_toByteArray, String.toByteArray_ofList, List.utf8Encode,
    List.toList_data_toByteArray]

/-! ### The mark -/

/-- Only one character starts with the first byte of the mark, and goes on as the mark. -/
theorem char_of_mark {c : Char} {rest more : List UInt8}
    (h : String.utf8EncodeChar c ++ rest = 0xEF :: more) :
    ∃ b b', String.utf8EncodeChar c = [0xEF, b, b'] ∧ (b = 0xBB → b' = 0xBF → c = '\uFEFF') := by
  have hbyte : ∀ {n m : Nat}, UInt8.ofNat n = UInt8.ofNat m → n % 256 = m % 256 := by
    intro n m h
    simpa using congrArg UInt8.toNat h
  revert h
  fun_cases String.utf8EncodeChar c
  · intro h
    have h₁ := hbyte (m := 0xEF) (List.cons.inj h).1
    omega
  · intro h
    have h₁ := hbyte (m := 0xEF) (List.cons.inj h).1
    omega
  · intro h
    have h₁ := (List.cons.inj h).1
    refine ⟨_, _, by rw [h₁], fun h₂ h₃ => Char.ext (UInt32.toNat_inj.mp ?_)⟩
    have h₁ := hbyte (m := 0xEF) h₁
    have h₂ := hbyte (m := 0xBB) h₂
    have h₃ := hbyte (m := 0xBF) h₃
    change _ = 0xFEFF
    omega
  · intro h
    have h₁ := hbyte (m := 0xEF) (List.cons.inj h).1
    omega

/-- A text that is not empty and does not start with that character is not mistaken for the mark. -/
theorem encode_of_head {text : List Char} (ht : text ≠ []) (h : text.head? ≠ some '\uFEFF') :
    ¬ encode text <+: mark ∧ ¬ mark <+: encode text := by
  obtain ⟨c, text, rfl⟩ := List.exists_cons_of_ne_nil ht
  rw [encode_eq, List.flatMap_cons]
  have hc : c ≠ '\uFEFF' := fun hc => h (by rw [hc]; rfl)
  constructor
  · rintro ⟨more, hm⟩
    have hm' : String.utf8EncodeChar c ++ (text.flatMap String.utf8EncodeChar ++ more) =
        0xEF :: [0xBB, 0xBF] := by
      rw [← List.append_assoc]
      exact hm
    obtain ⟨b, b', hb, heq⟩ := char_of_mark hm'
    rw [hb] at hm'
    simp only [List.cons_append, List.cons.injEq, true_and] at hm'
    exact hc (heq hm'.1 hm'.2.1)
  · rintro ⟨more, hm⟩
    have hmark : String.utf8EncodeChar c ++ _ = 0xEF :: (0xBB :: 0xBF :: more) := hm.symm
    obtain ⟨b, b', hb, heq⟩ := char_of_mark hmark
    rw [hb] at hm
    simp only [mark, List.cons_append, List.cons.injEq, true_and] at hm
    exact hc (heq hm.1.symm hm.2.1.symm)

theorem decodeSig_mark (text : List Char) : decodeSig (mark ++ encode text) = some text := by
  by_cases h : mark ++ encode text <+: mark
  · -- the mark alone is the empty text
    have hlength := h.length_le
    have hnil : encode text = [] := by
      rw [List.length_append] at hlength
      exact List.eq_nil_of_length_eq_zero (by omega)
    have htext := decode_encode text
    rw [hnil] at htext
    rw [decodeSig, if_pos h, ← htext]
    rfl
  · rw [decodeSig, if_neg h, if_pos (List.prefix_append _ _), List.drop_left, decode_encode]

theorem decodeSig_encode {text : List Char} (h : text.head? ≠ some '\uFEFF') :
    decodeSig (encode text) = some text := by
  by_cases ht : text = []
  · rw [ht, encode_eq]
    exact if_pos List.nil_prefix
  · obtain ⟨h₁, h₂⟩ := encode_of_head ht h
    rw [decodeSig, if_neg h₁, if_neg h₂, decode_encode]

end Support.Utf8
