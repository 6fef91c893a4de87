/-
# The keygen format, read and written

The reader of the format accepts just the arrays that the writer makes of 64 bytes
(`ofJson_eq_ok_iff`), and every other value it refuses with a failure of the kind `fileDecode`. What
is written for 64 bytes is read back, from the text and from its bytes.
-/
import LedgerKeys.Keygen.Format
import LedgerKeys.Proofs.Json.Encoded

namespace LedgerKeys
namespace Keygen

/-- The array that is written for bytes. -/
def arrayOf (bs : Bytes) : Json := .arr (bs.map fun b => .int b.toNat)

variable {found : Json} {b : UInt8} {bs : Bytes} {f : Failure}

/-! ## 1. Arrays of bytes -/

theorem byteOf_eq_ok_iff : byteOf found = .ok b ↔ found = .int b.toNat := by
  have hb := b.toNat_lt
  cases found with
  | int n =>
    rw [byteOf]
    split
    · next h =>
      rw [Except.ok.injEq, Json.int.injEq, ← UInt8.toNat_inj, UInt8.toNat_ofNat']
      omega
    · next h =>
      rw [Json.int.injEq]
      exact ⟨fun h => (by cases h), by omega⟩
  | _ => exact ⟨fun h => (by cases h), fun h => (by cases h)⟩

theorem kind_of_byteOf_eq_error (h : byteOf found = .error f) : f.kind = .fileDecode := by
  cases found with
  | int n =>
    rw [byteOf] at h
    split at h
    · cases h
    · cases h
      rfl
  | _ =>
    cases h
    rfl

/-- **What is accepted is an array that is written for 64 bytes.** -/
theorem ofJson_eq_ok_iff : ofJson found = .ok bs ↔ found = arrayOf bs ∧ bs.length = 64 := by
  cases found with
  | arr vs =>
    have hread : vs.mapM byteOf = .ok bs ↔ vs = bs.map fun b => .int b.toNat :=
      mapM_eq_ok_iff_eq_map fun found b => byteOf_eq_ok_iff
    rw [ofJson, except_bind_eq_ok, arrayOf, Json.arr.injEq]
    constructor
    · rintro ⟨bs', hbs', hlen⟩
      split at hlen
      · next h64 =>
        cases hlen
        obtain rfl := hread.mp hbs'
        exact ⟨rfl, by rwa [List.length_map] at h64⟩
      · cases hlen
    · rintro ⟨hvs, hlen⟩
      refine ⟨bs, hread.mpr hvs, ?_⟩
      rw [hvs, List.length_map, if_pos hlen]
      rfl
  | _ => exact ⟨fun h => (by cases h), fun h => (by cases h.1)⟩

/-- Whatever is wrong with a value is reported with the kind `fileDecode`. -/
theorem kind_of_ofJson_eq_error (h : ofJson found = .error f) : f.kind = .fileDecode := by
  cases found with
  | arr vs =>
    rw [ofJson, except_bind_eq_error] at h
    rcases h with h | ⟨bs, -, h⟩
    · obtain ⟨v, -, hv⟩ := exists_mem_of_mapM_eq_error h
      exact kind_of_byteOf_eq_error hv
    · split at h
      · cases h
      · cases h
        rfl
  | _ =>
    cases h
    rfl

theorem isA_of_ofJson_eq_error (h : ofJson found = .error f) : f.isA .fileDecode = true := by
  rw [Failure.isA, kind_of_ofJson_eq_error h]
  rfl

/-- Bytes whose number is right make a key. -/
theorem bind_ofLength_eq_error_iff {r : Except Failure Bytes}
    (hlen : ∀ bs, r = .ok bs → bs.length = 64) :
    (r >>= ofLength .privateKey PrivateKey.ofBytes?) = .error f ↔ r = .error f := by
  rw [except_bind_eq_error]
  refine ⟨fun h => h.resolve_right ?_, .inl⟩
  rintro ⟨bs, hbs, h⟩
  rw [ofLength, PrivateKey.ofBytes?, dif_pos (hlen bs hbs)] at h
  cases h

/-! ## 2. Documents -/

/-- The largest byte has far fewer digits than a number may have. -/
theorem length_ofNat_byte : ∀ n < 256, (Text.ofNat n).length ≤ 3 := by decide +kernel

theorem readable_arrayOf (bs : Bytes) : Json.Readable Json.nestingLimit (arrayOf bs) := by
  change Json.Readable (989 + 1) (.arr _)
  refine .arr fun v hv => ?_
  obtain ⟨b, -, rfl⟩ := List.mem_map.mp hv
  exact .int (Nat.le_trans (length_ofNat_byte _ b.toNat_lt) (by decide))

/-- **What is written for 64 bytes is read back**, as a text and in UTF-8. -/
theorem decode_encode (h : bs.length = 64) :
    decode (.text (encode bs)) = .ok bs ∧
      decode (.bytes (Utf8.encodeAll (encode bs))) = .ok bs := by
  have hjson : ofJson (arrayOf bs) = .ok bs := ofJson_eq_ok_iff.mpr ⟨rfl, h⟩
  have htext := Json.ofDocument_print (readable_arrayOf bs)
  have hbytes := Json.ofDocument_encodeAll_print (readable_arrayOf bs)
  constructor
  · rw [decode, encode, ← arrayOf, htext]
    exact hjson
  · rw [decode, encode, ← arrayOf, hbytes]
    exact hjson

end Keygen
end LedgerKeys
