import FilterQuery.Registry
import Mathlib.Tactic.SplitIfs

/-!
# The order of texts is the order of their bytes

Texts are ordered by their characters. UTF-8 keeps that order: of two characters the lesser
one has the lesser bytes, and they differ before either ends, so that what comes behind them
does not matter. A registry lists its names in that order.
-/
namespace FilterQuery

namespace Text

/-- The bytes of a text in UTF-8. -/
def bytes (s : String) : List UInt8 := s.toUTF8.data.toList

theorem bytes_eq (s : String) : bytes s = s.toList.flatMap String.utf8EncodeChar := by
  rw [bytes, String.toUTF8_eq_toByteArray, ← String.utf8Encode_toList, List.utf8Encode,
    List.toList_data_toByteArray]

/-- The bytes of the lesser character come first, whatever follows them. -/
theorem utf8EncodeChar_append_lt {c d : Char} (h : c < d) (r r' : List UInt8) :
    String.utf8EncodeChar c ++ r < String.utf8EncodeChar d ++ r' := by
  have less : c.val.toNat < d.val.toNat := h
  have bound : d.val.toNat < 0x110000 := by
    have := d.valid
    simp only [UInt32.isValidChar, Nat.isValidChar] at this
    omega
  unfold String.utf8EncodeChar
  generalize c.val.toNat = v at less ⊢
  generalize d.val.toNat = w at less bound ⊢
  -- Encodings of equal length are compared by the digits to the base 64.
  have digits (n : Nat) : n / 4096 = n / 64 / 64 ∧ n / 262144 = n / 64 / 64 / 64 := by
    simp [Nat.div_div_eq_div_mul]
  simp only [digits]
  split_ifs <;> simp only [List.cons_append, List.cons_lt_cons_iff, UInt8.lt_iff_toNat_lt,
    ← UInt8.toNat_inj, UInt8.toNat_ofNat'] <;> omega

theorem flatMap_utf8EncodeChar_lt {cs ds : List Char} (h : cs < ds) :
    cs.flatMap String.utf8EncodeChar < ds.flatMap String.utf8EncodeChar := by
  induction h with
  | @nil d ds =>
    rw [List.flatMap_nil, List.flatMap_cons]
    cases hd : String.utf8EncodeChar d with
    | nil => exact absurd hd String.utf8EncodeChar_ne_nil
    | cons b bs => exact List.nil_lt_cons ..
  | @rel c cs d ds less =>
    rw [List.flatMap_cons, List.flatMap_cons]
    exact utf8EncodeChar_append_lt less _ _
  | @cons c cs ds _ ih =>
    rw [List.flatMap_cons, List.flatMap_cons]
    exact List.append_left_lt ih

/-- Texts are ordered by their bytes. -/
theorem bytes_lt_bytes_iff {s t : String} : bytes s < bytes t ↔ s < t := by
  have forth {s t : String} (h : s < t) : bytes s < bytes t := by
    rw [bytes_eq, bytes_eq]
    exact flatMap_utf8EncodeChar_lt h
  refine ⟨fun h => ?_, forth⟩
  rcases Std.lt_trichotomy s t with less | rfl | greater
  · exact less
  · exact absurd h (List.lt_irrefl _)
  · exact absurd h (List.lt_asymm (forth greater))

theorem compare_eq_lt_iff {s t : String} : compare s t = .lt ↔ bytes s < bytes t := by
  rw [bytes_lt_bytes_iff]
  exact compareOfLessAndEq_eq_lt

end Text

namespace Registry

theorem nodup_names (r : Registry) : r.names.Nodup :=
  (List.mergeSort_perm ..).nodup_iff.2
    (r.attributes.distinct_keys.imp fun distinct same => distinct (Std.compare_eq_iff_eq.2 same))

/-- Sorted names that differ are in the strict order of their bytes. -/
theorem names_ascending (r : Registry) :
    r.names.Pairwise fun a b => Text.bytes a < Text.bytes b := by
  have total (a b : String) : ((compare a b).isLE || (compare b a).isLE) = true := by
    rw [Std.OrientedOrd.eq_swap (a := b)]
    cases compare a b <;> rfl
  have sorted : r.names.Pairwise fun a b => (compare a b).isLE :=
    @List.pairwise_mergeSort String (fun a b => (compare a b).isLE)
      (fun _ _ _ => Std.TransOrd.isLE_trans) total _
  refine (sorted.and r.nodup_names).imp fun {a b} ⟨le, ne⟩ => Text.compare_eq_lt_iff.1 ?_
  cases order : compare a b with
  | lt => rfl
  | eq => exact absurd (Std.compare_eq_iff_eq.1 order) ne
  | gt => simp [order] at le

end Registry

end FilterQuery
