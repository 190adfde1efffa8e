import LineScript.Text.Basic

/-!
Texts as bytes in UTF-8. Decoding refuses every byte sequence that is no encoding, so a text is the
only one with its bytes (`ofBytes?_toBytes`). A line feed in the bytes is one in the text.
-/

namespace LineScript.Text

/-- The bytes of a text in UTF-8. -/
def toBytes (t : Text) : List UInt8 := t.flatMap String.utf8EncodeChar

/-- The text with these bytes in UTF-8, if there is one. -/
def ofBytes? (bytes : List UInt8) : Option Text :=
  bytes.toByteArray.utf8Decode?.map Array.toList

theorem toBytes_append (s t : Text) : toBytes (s ++ t) = toBytes s ++ toBytes t :=
  List.flatMap_append

theorem ofBytes?_toBytes (t : Text) : ofBytes? (toBytes t) = some t := by
  have h : (toBytes t).toByteArray = t.utf8Encode := rfl
  simp [ofBytes?, h, List.utf8Decode?_utf8Encode]

/-- Only a line feed has the byte of a line feed in its encoding. -/
theorem eq_feed_of_mem_encode {c : Char} (h : 10 ∈ String.utf8EncodeChar c) : c = '\n' := by
  have htoNat : ∀ n, (10 : UInt8) = UInt8.ofNat n → n % 256 = 10 := by
    intro n hn
    have hb := congrArg UInt8.toNat hn
    rw [UInt8.toNat_ofNat'] at hb
    exact hb.symm
  have hhigh : ∀ bytes : List Nat, (∀ n ∈ bytes, 128 ≤ n ∧ n < 256) →
      10 ∉ bytes.map UInt8.ofNat := by
    intro bytes hbytes hm
    obtain ⟨n, hn, hb⟩ := List.mem_map.mp hm
    have hbound := hbytes n hn
    have hmod := htoNat n hb.symm
    omega
  -- An encoding of more than one byte has none below 128.
  have hval : c.val.toNat = 10 := by
    simp only [String.utf8EncodeChar] at h
    split at h
    · have hmod := htoNat _ (List.mem_singleton.mp h)
      omega
    · split at h
      · exact absurd h (hhigh [_, _] (by simp; omega))
      · split at h
        · exact absurd h (hhigh [_, _, _] (by simp; omega))
        · exact absurd h (hhigh [_, _, _, _] (by simp; omega))
  exact Char.ext (UInt32.toNat_inj.mp hval)

theorem feed_not_mem_toBytes {t : Text} (h : '\n' ∉ t) : (10 : UInt8) ∉ toBytes t := by
  intro hm
  obtain ⟨c, hc, hb⟩ := List.mem_flatMap.mp hm
  rw [eq_feed_of_mem_encode hb] at hc
  exact h hc

end LineScript.Text
