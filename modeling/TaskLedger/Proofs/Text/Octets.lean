import Mathlib
import TaskLedger.Outcome.Packed

/-!
# Texts as octets

`octets_injective`: different texts have different octets.  An octet below 128 stands for itself, so
a text without line breaks has none among its octets (`newLine_not_mem_octets`).
-/

namespace TaskLedger.Packed

theorem toList_loop (bs : ByteArray) (i : Nat) (seen : List UInt8) :
    ByteArray.toList.loop bs i seen = seen.reverse ++ bs.data.toList.drop i := by
  fun_induction ByteArray.toList.loop bs i seen with
  | case1 i seen inside ih =>
    have here : i < bs.data.toList.length := inside
    have get : bs.get! i = bs.data.toList[i] := getElem!_pos bs.data i inside
    rw [ih, List.drop_eq_getElem_cons here, get]
    simp
  | case2 i seen outside =>
    rw [List.drop_eq_nil_of_le (Nat.not_lt.1 outside), List.append_nil]

/-- The octets of a text in the order of their array. -/
theorem octets_eq_data (s : String) : octets s = s.toByteArray.data.toList :=
  toList_loop _ 0 []

theorem octets_injective : Function.Injective octets := by
  intro s t same
  rw [octets_eq_data, octets_eq_data] at same
  exact String.toByteArray_inj.1 (ByteArray.ext (Array.toList_inj.1 same))

/-- The octets of a text, character by character. -/
theorem octets_eq_flatMap (s : String) : octets s = s.toList.flatMap String.utf8EncodeChar := by
  rw [octets_eq_data, ← String.utf8Encode_toList, List.utf8Encode, List.toList_data_toByteArray]

/-- The octets from 128 on are parts of longer characters. -/
theorem toNat_of_mem_utf8EncodeChar {c : Char} {b : UInt8} (mem : b ∈ String.utf8EncodeChar c)
    (small : b.toNat < 128) : c.toNat = b.toNat := by
  have val : c.val.toNat = c.toNat := rfl
  -- all other octets are at least 128 before they are cut to eight bits, and below 256
  have part (n : Nat) (low : 128 ≤ n) (high : n < 256) : b ≠ UInt8.ofNat n := by
    rintro rfl
    rw [UInt8.toNat_ofNat_of_lt' high] at small
    omega
  rw [String.utf8EncodeChar, val] at mem
  split_ifs at mem with ascii
  · rw [List.mem_singleton.1 mem, UInt8.toNat_ofNat_of_lt' (ascii.trans_lt (by decide))]
  all_goals
    simp (disch := omega) only [List.mem_cons, List.not_mem_nil, or_false, part] at mem

theorem newLine_not_mem_octets {s : String} (h : '\n' ∉ s.toList) : (10 : UInt8) ∉ octets s := by
  rw [octets_eq_flatMap, List.mem_flatMap]
  rintro ⟨c, mem, here⟩
  have same : c.toNat = '\n'.toNat := toNat_of_mem_utf8EncodeChar here (by decide)
  exact h (Char.toNat_inj.1 same ▸ mem)

end TaskLedger.Packed
