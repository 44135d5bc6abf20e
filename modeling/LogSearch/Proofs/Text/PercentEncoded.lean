import LogSearch.Text.PercentEncoded
import LogSearch.Proofs.Text.ByteOrder

/-!
# Names in URLs are read back

A name is written byte by byte, so a reader that has got some bytes goes on with what follows them:
each part of a written text is read together with an arbitrary rest (`percentBytes?_percentByte`,
`percentBytes?_percentChar`).

Main statements: what is written of a name is read as that name (`percentDecode?_percentEncode`), and
only unreserved characters and `%` are written (`of_mem_percentEncode`).
-/

namespace LogSearch

variable {c : Char} {b : UInt8} {name : String}

/-! ## Digits -/

theorem upperHexValue?_upperHex : ∀ n < 16, upperHexValue? (upperHex n) = some n := by decide

theorem isUnreserved_upperHex : ∀ n < 16, isUnreserved (upperHex n) = true := by decide

theorem nibbles_lt (b : UInt8) : b.toNat / 16 < 16 ∧ b.toNat % 16 < 16 := by
  have hbyte : b.toNat < 256 := b.toNat_lt
  omega

/-! ## Characters that stand for themselves -/

theorem isUnreserved_lt (h : isUnreserved c = true) : c.val.toNat < 0x80 := by
  simp only [isUnreserved, Char.isAlphanum, Char.isAlpha, Char.isUpper, Char.isLower, Char.isDigit,
    ge_iff_le, Bool.or_eq_true, Bool.and_eq_true, decide_eq_true_eq, beq_iff_eq,
    UInt32.le_iff_toNat_le, Char.reduceVal, UInt32.reduceToNat] at h
  rcases h with (((halphanum | rfl) | rfl) | rfl) | rfl
  · omega
  all_goals decide

/-- They have one byte. -/
theorem utf8EncodeChar_of_isUnreserved (h : isUnreserved c = true) :
    String.utf8EncodeChar c = [UInt8.ofNat c.toNat] := by
  have hlt := isUnreserved_lt h
  rw [String.utf8EncodeChar, if_pos (Nat.le_of_lt_succ hlt)]
  rfl

theorem percentBytes?_unreserved (h : isUnreserved c = true) (rest : List Char) :
    percentBytes? (c :: rest) = (percentBytes? rest).map (UInt8.ofNat c.toNat :: ·) := by
  have hne : c ≠ '%' := by
    rintro rfl
    cases h
  rw [percentBytes?, if_pos h]
  exact fun _ _ _ hpercent => absurd hpercent hne

/-! ## Reading -/

/-- **A byte is read back**, whatever follows. -/
theorem percentBytes?_percentByte (b : UInt8) (rest : List Char) :
    percentBytes? (percentByte b ++ rest) = (percentBytes? rest).map (b :: ·) := by
  have hhigh := upperHexValue?_upperHex _ (nibbles_lt b).1
  have hlow := upperHexValue?_upperHex _ (nibbles_lt b).2
  have hbyte : UInt8.ofNat (16 * (b.toNat / 16) + b.toNat % 16) = b := by
    rw [Nat.div_add_mod, UInt8.ofNat_toNat]
  rw [percentByte, List.cons_append, List.cons_append, List.cons_append, List.nil_append,
    percentBytes?, hhigh, hlow]
  simp only [Option.bind_eq_bind, Option.bind_some, hbyte]
  cases percentBytes? rest <;> rfl

theorem percentBytes?_flatMap (bytes : List UInt8) (rest : List Char) :
    percentBytes? (bytes.flatMap percentByte ++ rest) = (percentBytes? rest).map (bytes ++ ·) := by
  induction bytes with
  | nil => exact Option.map_id'.symm
  | cons b bytes ih =>
    rw [List.flatMap_cons, List.append_assoc, percentBytes?_percentByte, ih, Option.map_map]
    rfl

/-- A character is read as its bytes. -/
theorem percentBytes?_percentChar (c : Char) (rest : List Char) :
    percentBytes? (percentChar c ++ rest)
      = (percentBytes? rest).map (String.utf8EncodeChar c ++ ·) := by
  rw [percentChar]
  split
  · next h =>
    rw [List.singleton_append, percentBytes?_unreserved h, utf8EncodeChar_of_isUnreserved h]
    rfl
  · exact percentBytes?_flatMap _ rest

theorem percentBytes?_percentEncode (name : String) :
    percentBytes? (percentEncode name) = some name.toUTF8.data.toList := by
  rw [toList_toUTF8, percentEncode]
  induction name.toList with
  | nil => rfl
  | cons c cs ih =>
    rw [List.flatMap_cons, percentBytes?_percentChar, ih, List.flatMap_cons]
    rfl

/-- **A name is read back.** -/
theorem percentDecode?_percentEncode (name : String) :
    percentDecode? (percentEncode name) = some name := by
  have hvalid : String.fromUTF8? name.toUTF8 = some name := dif_pos name.isValidUTF8
  rw [percentDecode?, percentBytes?_percentEncode]
  exact hvalid

example : percentEncode "a-1,é" = "a-1%2C%C3%A9".toList := by decide

/-- Names are read back one by one. -/
theorem mapM_percentDecode? (names : List String) :
    (names.map percentEncode).mapM percentDecode? = some names := by
  induction names with
  | nil => rfl
  | cons name names ih =>
    rw [List.map_cons, List.mapM_cons, percentDecode?_percentEncode, ih]
    rfl

/-! ## What is written -/

theorem of_mem_percentByte (h : c ∈ percentByte b) : isUnreserved c = true ∨ c = '%' := by
  rw [percentByte, List.mem_cons, List.mem_cons, List.mem_singleton] at h
  rcases h with rfl | rfl | rfl
  · exact .inr rfl
  · exact .inl (isUnreserved_upperHex _ (nibbles_lt b).1)
  · exact .inl (isUnreserved_upperHex _ (nibbles_lt b).2)

/-- **No delimiter is written.** -/
theorem of_mem_percentEncode (h : c ∈ percentEncode name) : isUnreserved c = true ∨ c = '%' := by
  obtain ⟨d, -, hd⟩ := List.mem_flatMap.mp h
  rw [percentChar] at hd
  split at hd
  · next hunreserved => exact .inl (List.mem_singleton.mp hd ▸ hunreserved)
  · obtain ⟨b, -, hb⟩ := List.mem_flatMap.mp hd
    exact of_mem_percentByte hb

end LogSearch
