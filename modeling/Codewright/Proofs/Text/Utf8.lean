import Codewright.Text.Utf8

/-!
# The bytes of a text, read again

What is decoded from the bytes of a text are its characters, whatever they are: each of the four
lengths of an encoded character has its lead bytes to itself, and neither a surrogate nor an overlong
form is ever encoded.
-/

namespace Codewright.Text

theorem toList_loop (bytes : ByteArray) (i : Nat) (done : List UInt8) :
    ByteArray.toList.loop bytes i done = done.reverse ++ bytes.data.toList.drop i := by
  induction i, done using ByteArray.toList.loop.induct bytes with
  | case1 i done h ih =>
      have hlength : i < bytes.data.toList.length := h
      have hget : bytes.get! i = bytes.data.toList[i] := getElem!_pos bytes.data i h
      rw [ByteArray.toList.loop, if_pos h, ih, hget, List.reverse_cons, List.append_assoc,
        List.singleton_append, List.getElem_cons_drop]
  | case2 i done h =>
      rw [ByteArray.toList.loop, if_neg h, List.drop_of_length_le (Nat.le_of_not_lt h),
        List.append_nil]

theorem bytes_ofList (text : List Char) :
    bytes (String.ofList text) = text.flatMap String.utf8EncodeChar := by
  have htoList : bytes (String.ofList text) = (String.ofList text).toUTF8.data.toList :=
    toList_loop _ 0 []
  rw [htoList, String.toUTF8_eq_toByteArray, String.toByteArray_ofList, List.utf8Encode]
  simp

/-! ## One character -/

variable {n : Nat} (rest : List UInt8)

theorem toNat_ofNat (h : n < 256) : (UInt8.ofNat n).toNat = n := by
  simp [Nat.mod_eq_of_lt h]

theorem symbolFrom_one (h : n < 0x80) :
    symbolFrom (UInt8.ofNat n) rest = (some (Char.ofNat n), 0) := by
  have ha := toNat_ofNat (n := n) (by omega)
  simp only [symbolFrom, UInt8.lt_iff_toNat_lt, ha, UInt8.reduceToNat]
  rw [if_pos h]

theorem symbolFrom_two (h : 0x7F < n) (h' : n ≤ 0x7FF) :
    symbolFrom (UInt8.ofNat (n / 64 % 32 + 192)) (UInt8.ofNat (n % 64 + 128) :: rest) =
      (some (Char.ofNat n), 1) := by
  have ha := toNat_ofNat (n := n / 64 % 32 + 192) (by omega)
  have hb := toNat_ofNat (n := n % 64 + 128) (by omega)
  have hn : (n / 64 % 32 + 192) % 32 * 64 + (n % 64 + 128) % 64 = n := by omega
  simp only [symbolFrom, isTail, tailBits, UInt8.lt_iff_toNat_lt, UInt8.le_iff_toNat_le, ha, hb,
    Bool.and_eq_true, decide_eq_true_eq, UInt8.reduceToNat]
  rw [if_neg (by omega), if_pos (by omega), if_pos (by omega), hn]

theorem secondByteOk_three (h : 0x7FF < n) (h' : n ≤ 0xFFFF) (hvalid : n < 0xD800 ∨ 0xDFFF < n) :
    secondByteOk (UInt8.ofNat (n / 4096 % 16 + 224)) (UInt8.ofNat (n / 64 % 64 + 128)) = true := by
  have ha := toNat_ofNat (n := n / 4096 % 16 + 224) (by omega)
  have hb := toNat_ofNat (n := n / 64 % 64 + 128) (by omega)
  simp only [secondByteOk, isTail, ← UInt8.toNat_inj, UInt8.le_iff_toNat_le, ha, hb,
    UInt8.reduceToNat]
  -- The lead bytes that begin overlong forms and surrogates are the first two.
  split
  · simp
    omega
  split
  · simp
    omega
  split
  · omega
  split
  · omega
  · simp
    omega

theorem symbolFrom_three (h : 0x7FF < n) (h' : n ≤ 0xFFFF) (hvalid : n < 0xD800 ∨ 0xDFFF < n) :
    symbolFrom (UInt8.ofNat (n / 4096 % 16 + 224))
        (UInt8.ofNat (n / 64 % 64 + 128) :: UInt8.ofNat (n % 64 + 128) :: rest) =
      (some (Char.ofNat n), 2) := by
  have ha := toNat_ofNat (n := n / 4096 % 16 + 224) (by omega)
  have hb := toNat_ofNat (n := n / 64 % 64 + 128) (by omega)
  have hc := toNat_ofNat (n := n % 64 + 128) (by omega)
  have hn : (n / 4096 % 16 + 224) % 16 * 4096 + (n / 64 % 64 + 128) % 64 * 64 +
      (n % 64 + 128) % 64 = n := by omega
  simp only [symbolFrom, secondByteOk_three h h' hvalid, isTail, tailBits, UInt8.lt_iff_toNat_lt,
    UInt8.le_iff_toNat_le, ha, hb, hc, Bool.and_eq_true, decide_eq_true_eq, UInt8.reduceToNat]
  rw [if_neg (by omega), if_neg (by omega), if_pos (by omega), if_pos trivial, if_pos (by omega),
    hn]

theorem secondByteOk_four (h : 0xFFFF < n) (h' : n < 0x110000) :
    secondByteOk (UInt8.ofNat (n / 262144 % 8 + 240)) (UInt8.ofNat (n / 4096 % 64 + 128)) =
      true := by
  have ha := toNat_ofNat (n := n / 262144 % 8 + 240) (by omega)
  have hb := toNat_ofNat (n := n / 4096 % 64 + 128) (by omega)
  simp only [secondByteOk, isTail, ← UInt8.toNat_inj, UInt8.le_iff_toNat_le, ha, hb,
    UInt8.reduceToNat]
  -- The lead bytes that begin overlong forms and what exceeds Unicode are the last two.
  split
  · omega
  split
  · omega
  split
  · simp
    omega
  split
  · simp
    omega
  · simp
    omega

theorem symbolFrom_four (h : 0xFFFF < n) (h' : n < 0x110000) :
    symbolFrom (UInt8.ofNat (n / 262144 % 8 + 240))
        (UInt8.ofNat (n / 4096 % 64 + 128) :: UInt8.ofNat (n / 64 % 64 + 128) ::
          UInt8.ofNat (n % 64 + 128) :: rest) =
      (some (Char.ofNat n), 3) := by
  have ha := toNat_ofNat (n := n / 262144 % 8 + 240) (by omega)
  have hb := toNat_ofNat (n := n / 4096 % 64 + 128) (by omega)
  have hc := toNat_ofNat (n := n / 64 % 64 + 128) (by omega)
  have hd := toNat_ofNat (n := n % 64 + 128) (by omega)
  have hn : (n / 262144 % 8 + 240) % 8 * 262144 + (n / 4096 % 64 + 128) % 64 * 4096 +
      (n / 64 % 64 + 128) % 64 * 64 + (n % 64 + 128) % 64 = n := by omega
  simp only [symbolFrom, secondByteOk_four h h', isTail, tailBits, UInt8.lt_iff_toNat_lt,
    UInt8.le_iff_toNat_le, ha, hb, hc, hd, Bool.and_eq_true, decide_eq_true_eq,
    UInt8.reduceToNat]
  rw [if_neg (by omega), if_neg (by omega), if_neg (by omega), if_pos (by omega),
    if_pos trivial, if_pos (by omega), if_pos (by omega), hn]

theorem symbols_cons {a : UInt8} (more : List UInt8) {x : Symbol}
    (h : symbolFrom a (more ++ rest) = (x, more.length)) :
    symbols (a :: (more ++ rest)) = x :: symbols rest := by
  rw [symbols, h]
  simp

theorem symbols_utf8EncodeChar (c : Char) :
    symbols (String.utf8EncodeChar c ++ rest) = some c :: symbols rest := by
  have hc : Char.ofNat c.val.toNat = c := Char.ofNat_toNat c
  have hvalid : c.val.toNat < 0xD800 ∨ 0xDFFF < c.val.toNat ∧ c.val.toNat < 0x110000 := c.valid
  have hlimit : c.val.toNat < 0x110000 := by omega
  unfold String.utf8EncodeChar
  dsimp only
  split
  · rename_i h
    refine symbols_cons rest [] ?_
    rw [List.nil_append, symbolFrom_one rest (Nat.lt_succ_of_le h), hc]
    rfl
  split
  · rename_i h h'
    refine symbols_cons rest [_] ?_
    rw [List.singleton_append, symbolFrom_two rest (Nat.lt_of_not_le h) h', hc]
    rfl
  split
  · rename_i h h'
    refine symbols_cons rest [_, _] ?_
    rw [List.cons_append, List.singleton_append,
      symbolFrom_three rest (Nat.lt_of_not_le h) h' (hvalid.imp_right And.left), hc]
    rfl
  · rename_i h
    refine symbols_cons rest [_, _, _] ?_
    rw [List.cons_append, List.cons_append, List.singleton_append,
      symbolFrom_four rest (Nat.lt_of_not_le h) hlimit, hc]
    rfl

/-! ## A text -/

theorem symbols_flatMap (text : List Char) :
    symbols (text.flatMap String.utf8EncodeChar) = text.map some := by
  induction text with
  | nil => rw [List.flatMap_nil, List.map_nil, symbols]
  | cons c text ih =>
      rw [List.flatMap_cons, symbols_utf8EncodeChar, ih, List.map_cons]

@[simp]
theorem symbols_bytes (s : String) : symbols (bytes s) = s.toList.map some := by
  rw [← symbols_flatMap, ← bytes_ofList, String.ofList_toList]

theorem lossy_bytes (s : String) : lossy (bytes s) = s := by
  have hid : (fun x : Symbol => x.getD '\ufffd') ∘ some = id := rfl
  rw [lossy, symbols_bytes, List.map_map, hid, List.map_id, String.ofList_toList]

theorem bytes_injective : Function.Injective bytes :=
  Function.LeftInverse.injective lossy_bytes

end Codewright.Text
