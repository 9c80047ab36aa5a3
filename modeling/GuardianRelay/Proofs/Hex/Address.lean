import GuardianRelay.Proofs.Evm.Envelope
import GuardianRelay.Proofs.Hex.Readers

/-!
# Addresses in Hexadecimal

The address of a contract is read by two readers: by one that takes 20 bytes and nothing else, and
by one that takes up to 32 bytes and puts zeros in front of them. What the first one reads, the
second one reads as well, and as the same address. An address of any chain is read as it is written,
its leading zeros included, because all of its 64 digits are written.

## Main results

* `Address.ofHex_of_evm`: the two readers agree where the narrow one reads.
* `Address.ofHex_marks_toHex`: an address is read as it is written, behind marks or without them.
-/

namespace GuardianRelay.Address

variable {s : String} {e : EvmAddress}

/-- **What is read as a contract-model address is read as its shared form.** The digits make the
same number, whatever their case and however many marks there are. -/
theorem ofHex_of_evm (h : EvmAddress.ofHex s = .ok e) : ofHex s = .ok (ofEvm e) := by
  obtain ⟨n, digits, hs, hlength, hspells⟩ := Hex.evmAddress_ofHex_eq_ok_iff.mp h
  refine Hex.address_ofHex_eq_ok_iff.mpr ⟨n, digits, hs, ?_, by omega, ?_⟩
  · rw [hlength]
    decide
  · rwa [toNat_ofEvm]

/-- **An address is read as it is written**, with marks in front of it or without them. -/
theorem ofHex_marks_toHex (n : ℕ) (a : Address) :
    ofHex (String.ofList (Hex.marks n) ++ a.toHex) = .ok a := by
  have hwrites := Hex.writes_encodeChars a.toList
  have hlength : (Hex.encodeChars a.toList).length = 64 := by
    rw [hwrites.length_eq, a.length_toList]
  refine Hex.address_ofHex_eq_ok_iff.mpr ⟨n, Hex.encodeChars a.toList, ?_, ?_, hlength.le,
    hwrites.spells⟩
  · rw [String.toList_append, String.toList_ofList, toHex, Hex.encode, String.toList_ofList]
  · rw [hlength]
    decide

/-- An address is read as it is written. -/
theorem ofHex_toHex (a : Address) : ofHex a.toHex = .ok a := by
  have h := ofHex_marks_toHex 0 a
  rwa [Hex.marks, List.replicate_zero, List.flatten_nil, String.ofList_nil, String.empty_append]
    at h

/-- An address is read behind a mark. -/
theorem ofHex_mark_toHex (a : Address) : ofHex ("0x" ++ a.toHex) = .ok a :=
  ofHex_marks_toHex 1 a

end GuardianRelay.Address
