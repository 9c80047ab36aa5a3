import GuardianRelay.Text.Base58
import GuardianRelay.Text.Hex

/-!
# Addresses

Every chain's addresses are carried in one form of 32 bytes. Account-model chains use all of them; the 20 bytes
of a contract-model address stand at the end, after twelve zeros.
-/

namespace GuardianRelay

/-- A chain, by its number in the guardian network; zero names no chain. -/
abbrev ChainId := UInt16

/-- An address on a contract-model chain. -/
abbrev EvmAddress := FixedBytes 20

/-- An address in the form that all chains share. -/
@[ext]
structure Address where
  /-- The octets. -/
  bytes : FixedBytes 32
deriving DecidableEq

/-- Why a text names no address. -/
inductive AddressFault where
  /-- The text is not hexadecimal. -/
  | hex (text : String) (fault : Hex.Fault)
  /-- The hexadecimal text is wider than an address. -/
  | tooLong (text : String)
  /-- The text is not in base 58. -/
  | base58 (text : String) (fault : Base58.Fault)
  /-- The text in base 58 has not the width of an address. -/
  | base58Length (text : String)
  /-- The text of a contract-model address is not hexadecimal. -/
  | evmHex (text : String) (fault : Hex.Fault)
  /-- The text of a contract-model address has not its width. -/
  | evmLength (text : String)
deriving DecidableEq, Repr

/-- The wording of an address fault. -/
def AddressFault.message : AddressFault → String
  | .hex text fault => s!"invalid hex address {text}: {fault.message}"
  | .tooLong text => s!"address {text} longer than 32 bytes"
  | .base58 text fault => s!"invalid base58 address {text}: {fault.message}"
  | .base58Length text => s!"base58 address {text} is not 32 bytes"
  | .evmHex text fault => s!"invalid EVM address {text}: {fault.message}"
  | .evmLength text => s!"EVM address {text} is not 20 bytes"

namespace Address

instance : Inhabited Address := ⟨⟨default⟩⟩

/-- The address of which every byte is zero; it stands for no address. -/
def zero : Address := ⟨FixedBytes.zero⟩

/-- The shared form of a native address: zeros in front of a narrow one, and of a wide one its first 32 bytes. -/
def ofNative (b : Bytes) : Address := ⟨FixedBytes.leftPad b⟩

/-- The shared form of a contract-model address. -/
def ofEvm (a : EvmAddress) : Address := ofNative a.toList

/-- The contract-model address, if the twelve bytes in front are zero. -/
def evm? (a : Address) : Option EvmAddress :=
  if Bytes.allZero (a.bytes.toList.take 12) then some ⟨a.bytes.toList.drop 12, by simp⟩ else none

/-- Whether every byte is zero. -/
def isZero (a : Address) : Bool := a.bytes.isZero

/-- The octets of an address. -/
def toList (a : Address) : Bytes := a.bytes.toList

@[simp] theorem length_toList (a : Address) : a.toList.length = 32 := a.bytes.length_toList

/-- Lowercase hexadecimal without a mark, the form that messages and lookups show. -/
def toHex (a : Address) : String := Hex.encode a.toList

/-- Base 58, the form in which account-model chains show addresses. -/
def toBase58 (a : Address) : String := Base58.encode a.toList

/-- The octets after the leading zeros. -/
def stripped (a : Address) : Bytes := a.toList.dropWhile (· == 0)

/-- Reads an address of at most 32 bytes in hexadecimal, with or without marks in front. -/
def ofHex (s : String) : Except AddressFault Address :=
  match Hex.decode (Hex.dropMarks s) with
  | .error fault => .error (.hex s fault)
  | .ok b => if 32 < b.length then .error (.tooLong s) else .ok (ofNative b)

/-- Reads an address of exactly 32 bytes in base 58. -/
def ofBase58 (s : String) : Except AddressFault Address :=
  match Base58.decode s with
  | .error fault => .error (.base58 s fault)
  | .ok b =>
    match FixedBytes.ofList? b with
    | none => .error (.base58Length s)
    | some bytes => .ok ⟨bytes⟩

instance : ToString Address := ⟨toHex⟩

end Address

namespace EvmAddress

/-- Reads a contract-model address of exactly 20 bytes in hexadecimal, with or without marks in front. -/
def ofHex (s : String) : Except AddressFault EvmAddress :=
  match Hex.decode (Hex.dropMarks s) with
  | .error fault => .error (.evmHex s fault)
  | .ok b =>
    match FixedBytes.ofList? b with
    | none => .error (.evmLength s)
    | some address => .ok address

end EvmAddress

end GuardianRelay
