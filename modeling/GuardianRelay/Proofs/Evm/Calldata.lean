import GuardianRelay.Proofs.Evm.Abi
import Mathlib.Data.List.Forall2

/-!
# What the Data of a Call Hold

Behind the selector the data of a call hold either a byte string that stands alone, or one word
for each argument. `HoldsBytes` and `HoldsWords` say so by what the decoders of answers read at
the index of an argument, and `Call.Holds` tells for each function what is held. Data hold the
arguments of one call of a function at most, since a value is read from an index in one way; so
the arguments of a call are found again in its data, and two calls of one function with the same
data are the same call.

The decoders read numbers of 128 bits. The amounts and the lengths that endpoints write are
narrower than that (`Call.Fits`).

## Main results

* `word_words`, `word_words_length`: the words that were written are read, and none behind them.
* `Call.holds_arguments`: what is written behind the selector holds the arguments of the call.
* `Call.Holds.unique`: data hold the arguments of at most one call of a function.
* `Call.exists_holds_encode`: both for the data of a call.
-/

namespace GuardianRelay.Evm

/-! ### Words in a row -/

section Words

variable {index : ℕ}

theorem length_words (ws : List Word) :
    (ws.flatMap FixedBytes.toList).length = ws.length * wordLength := by
  induction ws with
  | nil => simp
  | cons w rest ih => simp [ih, Nat.add_mul, wordLength, Nat.add_comm]

/-- Behind the first words stand the others. -/
theorem drop_words (ws : List Word) (h : index ≤ ws.length) (later : Bytes) :
    (ws.flatMap FixedBytes.toList ++ later).drop (index * wordLength) =
      (ws.drop index).flatMap FixedBytes.toList ++ later := by
  have hfront : ((ws.take index).flatMap FixedBytes.toList).length = index * wordLength := by
    rw [length_words, List.length_take, Nat.min_eq_left h]
  have hsplit : ws.flatMap FixedBytes.toList =
      (ws.take index).flatMap FixedBytes.toList ++ (ws.drop index).flatMap FixedBytes.toList := by
    rw [← List.flatMap_append, List.take_append_drop]
  rw [hsplit, List.append_assoc, List.drop_left' hfront]

/-- A word that was written is read at its index, whatever follows the words. -/
theorem word_words (ws : List Word) {w : Word} (h : ws[index]? = some w) (later : Bytes) :
    word (ws.flatMap FixedBytes.toList ++ later) index = .ok w := by
  obtain ⟨hlt, hw⟩ := List.getElem?_eq_some_iff.mp h
  have htake : ((ws.drop index).flatMap FixedBytes.toList ++ later).take wordLength =
      w.toList := by
    rw [List.drop_eq_getElem_cons hlt, hw, List.flatMap_cons, List.append_assoc]
    exact List.take_left' w.length_toList
  rw [word, drop_words ws hlt.le, htake, FixedBytes.ofList?_toList]

/-- Behind the last word none is read. -/
theorem word_words_length (ws : List Word) :
    word (ws.flatMap FixedBytes.toList) ws.length =
      .error (.noWord ws.length (ws.flatMap FixedBytes.toList).length) := by
  have hdrop := drop_words ws le_rfl []
  rw [List.append_nil, List.drop_length] at hdrop
  rw [word, hdrop]
  rfl

/-- A narrow number is read from its word. -/
theorem number_of_word_ofNat {data : Bytes} {n : ℕ} (hn : n < 2 ^ 128)
    (hword : word data index = .ok (Word.ofNat n)) : number data index = .ok n := by
  have hvalue : (Word.ofNat n).toNat = n :=
    (FixedBytes.toNat_ofNat n).trans (Nat.mod_eq_of_lt (by omega))
  rw [number_of_word hword, hvalue, if_pos hn]

/-- An address stands at the end of its word, with zeros in front. -/
theorem toList_ofAddress (a : EvmAddress) :
    (Word.ofAddress a).toList = Bytes.zeros 12 ++ a.toList := by
  rw [Word.ofAddress, FixedBytes.toList_leftPad (by simp), a.length_toList]

end Words

/-! ### Fixed arguments -/

/-- A fixed argument of a call. -/
inductive Argument where
  | number (n : ℕ)
  | address (a : EvmAddress)
  | word (w : Word)

namespace Argument

variable {data : Bytes} {index : ℕ}

/-- The word by which an argument is written. -/
def toWord : Argument → Word
  | number n => Word.ofNat n
  | address a => Word.ofAddress a
  | word w => w

/-- Whether an argument is read as it was written. -/
def Fits : Argument → Prop
  | number n => n < 2 ^ 128
  | address _ | word _ => True

@[simp] theorem fits_address (a : EvmAddress) : (address a).Fits := trivial

@[simp] theorem fits_word (w : Word) : (word w).Fits := trivial

/-- Chain numbers have 128 bits. -/
@[simp] theorem fits_chain (chain : ChainId) : (number chain.toNat).Fits :=
  chain.toNat_lt.trans (by decide)

/-- Batch numbers have 128 bits. -/
@[simp] theorem fits_batch (batch : UInt32) : (number batch.toNat).Fits :=
  batch.toNat_lt.trans (by decide)

/-- The argument is what is read at an index: a number as a number and in its word, an address as
a word with zeros in front, and any other word as it is. -/
def ReadAt (data : Bytes) (index : ℕ) : Argument → Prop
  | number n => Evm.word data index = .ok (Word.ofNat n) ∧ Evm.number data index = .ok n
  | address a => ∃ w : Word, Evm.word data index = .ok w ∧ w.toList = Bytes.zeros 12 ++ a.toList
  | word w => Evm.word data index = .ok w

/-- Two arguments are of one kind. -/
def Alike : Argument → Argument → Prop
  | number _, number _ | address _, address _ | word _, word _ => True
  | _, _ => False

/-- An argument whose word is read is read itself. -/
theorem readAt_of_word {argument : Argument} (hfits : argument.Fits)
    (hword : Evm.word data index = .ok argument.toWord) : argument.ReadAt data index := by
  cases argument with
  | number n => exact ⟨hword, number_of_word_ofNat hfits hword⟩
  | address a => exact ⟨_, hword, toList_ofAddress a⟩
  | word w => exact hword

/-- One argument of a kind is read at an index. -/
theorem ReadAt.unique {argument argument' : Argument} (h : argument.ReadAt data index)
    (h' : argument'.ReadAt data index) (halike : argument.Alike argument') :
    argument = argument' := by
  match argument, argument', halike with
  | number n, number n', _ => exact congrArg number (Except.ok.inj (h.2.symm.trans h'.2))
  | address a, address a', _ =>
    obtain ⟨w, hw, hlist⟩ := h
    obtain ⟨w', hw', hlist'⟩ := h'
    obtain rfl := Except.ok.inj (hw.symm.trans hw')
    exact congrArg address (FixedBytes.ext (List.append_cancel_left (hlist.symm.trans hlist')))
  | word w, word w', _ => exact congrArg word (Except.ok.inj (h.symm.trans h'))

end Argument

/-- The data hold fixed arguments and nothing else: each is read at its index, and none is read at
the index behind the last. -/
structure HoldsWords (data : Bytes) (arguments : List Argument) : Prop where
  length : data.length = arguments.length * wordLength
  read : ∀ (index : ℕ) (argument : Argument), arguments[index]? = some argument →
    argument.ReadAt data index
  noWord : word data arguments.length = .error (.noWord arguments.length data.length)
  noNumber : number data arguments.length = .error (.noWord arguments.length data.length)

/-- The words of fixed arguments hold them. -/
theorem holdsWords_words (arguments : List Argument) (hfits : ∀ a ∈ arguments, a.Fits) :
    HoldsWords (Arguments.words (arguments.map Argument.toWord)).encode arguments := by
  have hnone := word_words_length (arguments.map Argument.toWord)
  rw [List.length_map] at hnone
  refine ⟨?_, fun index argument hget => ?_, hnone, number_of_noWord hnone⟩
  · rw [Arguments.encode, length_words, List.length_map]
  · have hword := word_words (arguments.map Argument.toWord)
      (by rw [List.getElem?_map, hget]; rfl) []
    rw [List.append_nil] at hword
    exact Argument.readAt_of_word (hfits _ (List.mem_of_getElem? hget)) hword

/-- Data hold one list of arguments of some kinds. -/
theorem HoldsWords.unique {data : Bytes} {arguments arguments' : List Argument}
    (h : HoldsWords data arguments) (h' : HoldsWords data arguments')
    (halike : List.Forall₂ Argument.Alike arguments arguments') : arguments = arguments' := by
  refine List.ext_getElem halike.length_eq fun index hlt hlt' => ?_
  exact (h.read index _ (List.getElem?_eq_getElem hlt)).unique
    (h'.read index _ (List.getElem?_eq_getElem hlt')) (halike.get hlt hlt')

/-! ### A byte string that stands alone -/

/-- The data hold a byte string and nothing else: an offset of one word, the length, the bytes, and
zeros up to whole words. -/
structure HoldsBytes (data b : Bytes) : Prop where
  whole : wordLength ∣ data.length
  offset : number data 0 = .ok wordLength
  length : number data 1 = .ok b.length
  content : ∃ rest, data.drop (2 * wordLength) = b ++ rest ∧ rest.length < wordLength ∧
    Bytes.allZero rest

/-- A length is filled up to whole words, and not by a whole one. -/
theorem Arguments.padding_spec (n : ℕ) :
    wordLength ∣ n + padding n ∧ padding n < wordLength := by
  simp only [padding, wordLength]
  omega

/-- The written form of a byte string holds it. -/
theorem holdsBytes_bytes {b : Bytes} (hfits : b.length < 2 ^ 128) :
    HoldsBytes (Arguments.bytes b).encode b := by
  let ws := [Word.ofNat wordLength, Word.ofNat b.length]
  obtain ⟨hwhole, hshort⟩ := Arguments.padding_spec b.length
  have hencode : (Arguments.bytes b).encode =
      ws.flatMap FixedBytes.toList ++ (b ++ Bytes.zeros (Arguments.padding b.length)) := by
    simp [ws, Arguments.encode]
  rw [hencode]
  refine ⟨?_, ?_, ?_, Bytes.zeros (Arguments.padding b.length), ?_, ?_, ?_⟩
  · rw [List.length_append, length_words]
    refine (Nat.dvd_add_right (Nat.dvd_mul_left _ _)).mpr ?_
    rwa [List.length_append, Bytes.zeros, List.length_replicate]
  · exact number_of_word_ofNat (by decide) (word_words ws rfl _)
  · exact number_of_word_ofNat hfits (word_words ws rfl _)
  · exact drop_words ws le_rfl _
  · rwa [Bytes.zeros, List.length_replicate]
  · simp [Bytes.allZero, Bytes.zeros]

/-- Data hold one byte string. -/
theorem HoldsBytes.unique {data b b' : Bytes} (h : HoldsBytes data b) (h' : HoldsBytes data b') :
    b = b' := by
  obtain ⟨rest, hrest, -⟩ := h.content
  obtain ⟨rest', hrest', -⟩ := h'.content
  have hlength : b.length = b'.length := Except.ok.inj (h.length.symm.trans h'.length)
  exact (List.append_inj (hrest.symm.trans hrest') hlength).1

/-! ### Calls -/

namespace Call

/-- The amount of a call and the length of its byte string have 128 bits. -/
def Fits : Call → Prop
  | sendMessage b | receiveMessage b | redeemTokens b => b.length < 2 ^ 128
  | sendTokens _ amount _ _ _ => amount < 2 ^ 128
  | _ => True

/-- The data behind the selector hold the arguments of a call, in the order of its function. -/
def Holds (data : Bytes) : Call → Prop
  | sendMessage b | receiveMessage b | redeemTokens b => HoldsBytes data b
  | sendTokens token amount chain recipient batch =>
    HoldsWords data [.address token, .number amount, .number chain.toNat, .word recipient.bytes,
      .number batch.toNat]
  | registerEmitter chain emitter => HoldsWords data [.number chain.toNat, .word emitter.bytes]
  | registeredEmitter chain => HoldsWords data [.number chain.toNat]
  | messageFee => HoldsWords data []
  | isTransferCompleted digest | isMessageConsumed digest => HoldsWords data [.word digest]
  | balanceOf owner => HoldsWords data [.address owner]
  | allowance owner spender => HoldsWords data [.address owner, .address spender]

/-- What is written behind the selector holds the arguments of the call. -/
theorem holds_arguments {call : Call} (hfits : call.Fits) :
    call.Holds call.arguments.encode := by
  cases call with
  | sendMessage b | receiveMessage b | redeemTokens b => exact holdsBytes_bytes hfits
  | sendTokens token amount chain recipient batch =>
    refine holdsWords_words [.address token, .number amount, .number chain.toNat,
      .word recipient.bytes, .number batch.toNat] ?_
    have hamount : (Argument.number amount).Fits := hfits
    simpa using hamount
  | registerEmitter chain emitter =>
    exact holdsWords_words [.number chain.toNat, .word emitter.bytes] (by simp)
  | registeredEmitter chain =>
    exact holdsWords_words [.number chain.toNat] (by simp)
  | messageFee => exact holdsWords_words [] nofun
  | isTransferCompleted digest | isMessageConsumed digest =>
    exact holdsWords_words [.word digest] (by simp)
  | balanceOf owner => exact holdsWords_words [.address owner] (by simp)
  | allowance owner spender =>
    exact holdsWords_words [.address owner, .address spender] (by simp)

/-- Data hold the arguments of one call of a function at most. -/
theorem Holds.unique {data : Bytes} {call call' : Call} (h : call.Holds data)
    (h' : call'.Holds data) (hsame : call.signature = call'.signature) : call = call' := by
  cases call <;> cases call' <;> simp only [signature, String.reduceEq] at hsame
  case sendMessage.sendMessage => exact congrArg sendMessage (HoldsBytes.unique h h')
  case receiveMessage.receiveMessage => exact congrArg receiveMessage (HoldsBytes.unique h h')
  case redeemTokens.redeemTokens => exact congrArg redeemTokens (HoldsBytes.unique h h')
  case messageFee.messageFee => rfl
  all_goals
    have hlists := HoldsWords.unique h h' (by repeat constructor)
    simpa [UInt16.toNat_inj, UInt32.toNat_inj, FixedBytes.ext_iff, Address.ext_iff] using hlists

/-- Data of whole words are what a call holds. -/
theorem Holds.whole {data : Bytes} {call : Call} (h : call.Holds data) :
    wordLength ∣ data.length := by
  cases call
  case sendMessage | receiveMessage | redeemTokens => exact HoldsBytes.whole h
  all_goals exact ⟨_, (HoldsWords.length h).trans (Nat.mul_comm _ _)⟩

/-- Behind a selector the data of a call hold its arguments, and no other call of the function has
the same data. -/
theorem exists_holds_encode (call : Call) (hfits : call.Fits) :
    (∃ data, call.encode = selector call.signature ++ data ∧
      (selector call.signature).length = 4 ∧ wordLength ∣ data.length ∧ call.Holds data) ∧
    ∀ call' : Call, call'.Fits → call'.signature = call.signature →
      call'.encode = call.encode → call' = call := by
  have hholds := holds_arguments hfits
  refine ⟨⟨_, rfl, length_selector _, hholds.whole, hholds⟩,
    fun call' hfits' hsame hencode => ?_⟩
  have hdata : call'.arguments.encode = call.arguments.encode := by
    rw [← drop_selector_encode, hencode, drop_selector_encode]
  have hholds' := holds_arguments hfits'
  rw [hdata] at hholds'
  exact hholds'.unique hholds hsame

/-- The data of a message of five bytes, and of a transfer of a thousand. -/
theorem exists_holds_encode_message_transfer :
    (∃ data, (sendMessage [104, 101, 108, 108, 111]).encode =
      selector "sendMessage(bytes)" ++ data ∧ HoldsBytes data [104, 101, 108, 108, 111]) ∧
    ∃ data, (sendTokens FixedBytes.zero 1000 1 Address.zero 7).encode =
      selector "sendTokensWithPayload(address,uint256,uint16,bytes32,uint32)" ++ data ∧
        HoldsWords data [.address FixedBytes.zero, .number 1000, .number 1,
          .word FixedBytes.zero, .number 7] := by
  obtain ⟨⟨message, hmessage, -, -, hholds⟩, -⟩ :=
    exists_holds_encode (sendMessage [104, 101, 108, 108, 111])
      (show [104, 101, 108, 108, 111].length < 2 ^ 128 by decide)
  obtain ⟨⟨transfer, htransfer, -, -, hholds'⟩, -⟩ :=
    exists_holds_encode (sendTokens FixedBytes.zero 1000 1 Address.zero 7)
      (show 1000 < 2 ^ 128 by decide)
  exact ⟨⟨message, hmessage, hholds⟩, transfer, htransfer, hholds'⟩

end Call

end GuardianRelay.Evm
