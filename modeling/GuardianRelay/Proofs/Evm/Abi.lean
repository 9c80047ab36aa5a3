import GuardianRelay.Evm.Abi
import GuardianRelay.Proofs.Bytes

/-!
# Calls as Contracts Read Them

A contract finds its byte string in the data of a call by itself: it reads an offset, the length
that stands there, and as many bytes as that says. This module gives the reader and shows that
it finds what the endpoint wrote. The length stands in one word, so a byte string of `2 ^ 256`
bytes or more would not be found again.

## Main results

* `Call.selector_encode`, `Call.bytes?_encode`: a contract recognises the function that is
  called and finds the byte string that the call was made with.
-/

namespace GuardianRelay.Evm

/-- The bytes of a selector. -/
def selectorLength : ℕ := 4

@[simp] theorem length_selector (signature : String) :
    (selector signature).length = selectorLength := by
  simp [selector, selectorLength]

namespace Arguments

/-! ### Byte strings -/

/-- The number in the word that starts at an offset, if there is a whole word. -/
def numberAt? (data : Bytes) (offset : ℕ) : Option ℕ :=
  (FixedBytes.ofList? (n := wordLength) ((data.drop offset).take wordLength)).map
    FixedBytes.toNat

/-- The byte string that arguments hold as the only one, as a contract reads it: a word says
where it stands, the word there says how long it is, and its bytes follow. -/
def bytes? (data : Bytes) : Option Bytes := do
  let offset ← numberAt? data 0
  let length ← numberAt? data offset
  let content := (data.drop (offset + wordLength)).take length
  if content.length = length then some content else none

/-- Behind `before`, a word that was written is read. -/
theorem numberAt?_append (before : Bytes) (w : Word) (after : Bytes) :
    numberAt? (before ++ (w.toList ++ after)) before.length = some w.toNat := by
  have htake : (w.toList ++ after).take wordLength = w.toList :=
    List.take_left' w.length_toList
  rw [numberAt?, List.drop_left, htake]
  exact congrArg (Option.map FixedBytes.toNat) (FixedBytes.ofList?_toList w)

/-- The byte string that was written is read, if its length fits a word. -/
theorem bytes?_encode {b : Bytes} (h : b.length < 256 ^ wordLength) :
    bytes? (bytes b).encode = some b := by
  have hword : ∀ n < 256 ^ wordLength, (Word.ofNat n).toNat = n := fun n hn =>
    (FixedBytes.toNat_ofNat n).trans (Nat.mod_eq_of_lt hn)
  have hencode : (bytes b).encode = (Word.ofNat wordLength).toList ++
      ((Word.ofNat b.length).toList ++ (b ++ Bytes.zeros (padding b.length))) := by
    simp only [encode, List.append_assoc]
  have hoffset : numberAt? (bytes b).encode 0 = some wordLength := by
    rw [hencode]
    exact (numberAt?_append [] _ _).trans (congrArg some (hword _ (by decide)))
  have hlength : numberAt? (bytes b).encode wordLength = some b.length := by
    have hread := numberAt?_append (Word.ofNat wordLength).toList (Word.ofNat b.length)
      (b ++ Bytes.zeros (padding b.length))
    rw [FixedBytes.length_toList, hword _ h] at hread
    rw [hencode]
    exact hread
  have hcontent : ((bytes b).encode.drop (wordLength + wordLength)).take b.length = b := by
    rw [hencode, ← List.append_assoc, List.drop_left' (by simp [wordLength]), List.take_left]
  simp only [bytes?, hoffset, hlength, hcontent, Option.bind_eq_bind, Option.bind_some,
    if_true]

end Arguments

namespace Call

/-! ### Calls -/

/-- The byte string with which a function was called that takes only one. -/
def bytes? (data : Bytes) : Option Bytes := Arguments.bytes? (data.drop selectorLength)

/-- The data of a call starts with the selector of its function. -/
theorem selector_encode (call : Call) :
    call.encode.take selectorLength = selector call.signature :=
  List.take_left' (length_selector _)

/-- What follows the selector are the arguments. -/
theorem drop_selector_encode (call : Call) :
    call.encode.drop selectorLength = call.arguments.encode :=
  List.drop_left' (length_selector _)

/-- The byte string of a call is found in its data, if its length fits a word. -/
theorem bytes?_encode {call : Call} {b : Bytes} (hcall : call.arguments = .bytes b)
    (hlength : b.length < 256 ^ wordLength) : bytes? call.encode = some b := by
  rw [bytes?, drop_selector_encode, hcall, Arguments.bytes?_encode hlength]

end Call

/-! ### Answers -/

/-- A word that was read is read as a number if it fits 128 bits. -/
theorem number_of_word {data : Bytes} {index : ℕ} {w : Word} (hword : word data index = .ok w) :
    number data index =
      if w.toNat < 2 ^ 128 then .ok w.toNat else .error (.wideWord index) := by
  have hsplit : w.toNat =
      Bytes.toNatBE (w.toList.take 16) * 2 ^ 128 + Bytes.toNatBE (w.toList.drop 16) := by
    have happend := Bytes.toNatBE_append (w.toList.take 16) (w.toList.drop 16)
    rw [List.take_append_drop, List.length_drop, FixedBytes.length_toList] at happend
    exact happend
  have hlow : Bytes.toNatBE (w.toList.drop 16) < 2 ^ 128 := by
    have hlt := Bytes.toNatBE_lt (w.toList.drop 16)
    rwa [List.length_drop, FixedBytes.length_toList] at hlt
  have hhigh : Bytes.allZero (w.toList.take 16) ↔ Bytes.toNatBE (w.toList.take 16) = 0 :=
    Bytes.toNatBE_eq_zero_iff.symm
  rw [number, hword]
  change (if Bytes.allZero (w.toList.take 16) then Except.ok (Bytes.toNatBE (w.toList.drop 16))
    else _) = _
  split
  next hzero =>
    have hnarrow : w.toNat = Bytes.toNatBE (w.toList.drop 16) := by
      rw [hsplit, hhigh.mp hzero, Nat.zero_mul, Nat.zero_add]
    rw [if_pos (hnarrow ▸ hlow), hnarrow]
  next hnonzero =>
    have hpos := Nat.pos_of_ne_zero (mt hhigh.mpr hnonzero)
    rw [if_neg (by omega)]

/-- The first word of what a call returned is read as a number if it fits 128 bits. -/
theorem number_toList (w : Word) :
    number w.toList 0 = if w.toNat < 2 ^ 128 then .ok w.toNat else .error (.wideWord 0) := by
  have hword : word w.toList 0 = .ok w := by
    have hwhole : w.toList.take wordLength = w.toList :=
      List.take_of_length_le w.length_toList.le
    rw [word, Nat.zero_mul, List.drop_zero, hwhole, FixedBytes.ofList?_toList]
  exact number_of_word hword

/-- Where no word is, no number is read. -/
theorem number_of_noWord {data : Bytes} {index : ℕ} {fault : RpcFault}
    (hword : word data index = .error fault) : number data index = .error fault := by
  rw [number, hword]
  rfl

end GuardianRelay.Evm
