import GuardianRelay.Svm.CoreBridge

/-!
# The messenger program

The program that publishes messages, receives attested ones and knows the emitters of other chains, and the
instructions that it takes. A message that was received leaves a record behind, so that it is received once.
-/

namespace GuardianRelay.Svm

/-- The messenger's accounts. -/
structure Messenger where
  program : Address
  config : Address
  emitter : Address
  /-- The next sequence of the emitter. -/
  tracker : Address
  core : CoreBridge
deriving DecidableEq

namespace Messenger

/-- The accounts of a messenger over a core bridge. -/
def derive (program coreProgram : Address) : Except DeriveError Messenger := do
  let emitter ← ProgramAccount.emitter.address program
  return { program, emitter, config := ← ProgramAccount.config.address program,
           tracker := ← (ProgramAccount.sequenceTracker emitter).address coreProgram,
           core := ← CoreBridge.derive coreProgram }

/-- Publishes a message. The seed names the account of the message: it is the sequence that the message will
probably get. -/
def send (messenger : Messenger) (chain : ChainId) (payer : Address) (payload : Bytes) (seed : UInt64) :
    Except DeriveError UnsignedTransaction := do
  let message ← (ProgramAccount.sentMessage seed).address messenger.program
  return .instruction chain messenger.program (instructionMark "send_message" ++ counted payload)
    [.signer payer, .readonly messenger.config, .readonly messenger.core.program, .writable messenger.core.account,
      .writable messenger.core.feeCollector, .readonly messenger.emitter, .writable messenger.tracker,
      .writable message, .readonly systemProgram, .readonly clockAccount, .readonly rentAccount]

/-- The record of a received message. -/
def received (messenger : Messenger) (a : Attestation) : Except DeriveError Address :=
  (ProgramAccount.received a.emitterChain a.sequence).address messenger.program

/-- Receives a message whose attestation was posted. -/
def receive (messenger : Messenger) (chain : ChainId) (payer : Address) (a : Attestation) :
    Except DeriveError UnsignedTransaction := do
  let posted ← messenger.core.posted a
  let foreignEmitter ← (ProgramAccount.foreignEmitter a.emitterChain).address messenger.program
  return .instruction chain messenger.program (instructionMark "receive_message" ++ a.messageHash.toList)
    [.signer payer, .readonly messenger.config, .readonly messenger.core.program, .readonly posted,
      .readonly foreignEmitter, .writable (← messenger.received a), .readonly systemProgram]

/-- Registers the emitter of another chain. -/
def register (messenger : Messenger) (chain : ChainId) (owner : Address) (foreign : ChainId) (emitter : Address) :
    Except DeriveError UnsignedTransaction := do
  let record ← (ProgramAccount.foreignEmitter foreign).address messenger.program
  return .instruction chain messenger.program
    (instructionMark "register_emitter" ++ Bytes.littleEndian 2 foreign.toNat ++ emitter.toList)
    [.signer owner, .readonly messenger.config, .writable record, .readonly systemProgram]

end Messenger

end GuardianRelay.Svm
