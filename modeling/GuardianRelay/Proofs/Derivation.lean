import GuardianRelay.Derivation.Account
import GuardianRelay.Proofs.Bytes
import GuardianRelay.Proofs.Outcome
import Mathlib.Data.List.Nodup

/-!
# Derived Addresses Are Not Shared

The address of an account is a hash. What is hashed are the seeds of the account, which follow each
other without a mark between them, a bump, the program and a mark at the end. The last two have
fixed lengths, so what is hashed determines the program, the bump and the joined seeds.

That the joined seeds determine the account is a property of the table of seeds as a whole. Most
layouts start with a label and go on with fields of fixed lengths; three have no label and start
with octets that a caller may choose. Two layouts of different lengths have no joined seeds in
common. The layouts without a label have lengths of their own, and so has the one of token
accounts; of two others that have the same length, neither label starts the other
(`ProgramAccount.eq_of_label_isPrefix`).

So two accounts have the same address only if they are the same account, unless the hash takes two
of the strings that are hashed for them to the same value.

## Main results

* `Derivation.of_derive`: an address that is found is the hash of something that was tried.
* `Derivation.preimage_inj`: what is hashed determines program, joined seeds and bump.
* `ProgramAccount.flatten_seeds_inj`: the joined seeds determine the account.
* `derived_address_inj`: accounts that share an address are the same.
-/

namespace GuardianRelay

/-- An address is the shared form of its own octets. -/
theorem Address.ofNative_toList (a : Address) : ofNative a.toList = a :=
  Address.ext (FixedBytes.leftPad_toList a.bytes)

/-! ### Collisions -/

/-- A hash has no collision among some byte strings. -/
def CollisionFree (hash : Bytes → Hash256) (inputs : List Bytes) : Prop :=
  ∀ b ∈ inputs, ∀ b' ∈ inputs, hash b = hash b' → b = b'

instance (hash : Bytes → Hash256) (inputs : List Bytes) :
    Decidable (CollisionFree hash inputs) :=
  inferInstanceAs (Decidable (∀ b ∈ inputs, ∀ b' ∈ inputs, hash b = hash b' → b = b'))

/-- A hash has no collision if its values differ. -/
theorem CollisionFree.of_nodup {hash : Bytes → Hash256} {inputs : List Bytes}
    (h : (inputs.map hash).Nodup) : CollisionFree hash inputs :=
  fun _ hb _ hb' heq => List.inj_on_of_nodup_map h hb hb' heq

/-! ### What is hashed -/

namespace Derivation

variable {d : Derivation} {program program' address : Address} {seeds seeds' : List Bytes}

/-- What is hashed in search of a bump below `bumps`. The search goes on for as long as the hash is
a point. -/
def tried (d : Derivation) (program : Address) (seeds : List Bytes) : ℕ → List Bytes
  | 0 => []
  | bumps + 1 =>
    let input := preimage program (seeds ++ [[UInt8.ofNat bumps]])
    if d.isPoint (d.hash input) then input :: d.tried program seeds bumps else [input]

/-- An address that is found below `bumps` is the hash of something that was tried. -/
theorem of_findBelow {bumps : ℕ} {bump : UInt8}
    (h : d.findBelow program seeds bumps = .ok (address, bump)) :
    preimage program (seeds ++ [[bump]]) ∈ d.tried program seeds bumps ∧
      address.bytes = d.hash (preimage program (seeds ++ [[bump]])) := by
  induction bumps with
  | zero => contradiction
  | succ bumps ih =>
      rw [findBelow] at h
      rw [tried]
      by_cases hpoint : d.isPoint (d.hash (preimage program (seeds ++ [[UInt8.ofNat bumps]])))
      · obtain ⟨hmem, hhash⟩ := ih (by rwa [candidate, if_pos hpoint] at h)
        rw [if_pos hpoint]
        exact ⟨List.mem_cons_of_mem _ hmem, hhash⟩
      · rw [candidate, if_neg hpoint] at h
        obtain ⟨rfl, rfl⟩ := Prod.mk.inj (Except.ok.inj h)
        rw [if_neg hpoint]
        exact ⟨List.mem_singleton_self _, rfl⟩

/-- An address that is derived is the hash of something that was tried. -/
theorem of_derive (h : d.derive program seeds = .ok address) :
    ∃ bump, preimage program (seeds ++ [[bump]]) ∈ d.tried program seeds 256 ∧
      address.bytes = d.hash (preimage program (seeds ++ [[bump]])) := by
  obtain ⟨⟨_, bump⟩, hfind, rfl⟩ := Outcome.map_eq_ok_iff.mp h
  obtain ⟨_, -, hbelow⟩ := Outcome.bind_eq_ok_iff.mp hfind
  exact ⟨bump, of_findBelow hbelow⟩

/-- What is hashed determines the program, the joined seeds and the bump. -/
theorem preimage_inj {bump bump' : UInt8}
    (h : preimage program (seeds ++ [[bump]]) = preimage program' (seeds' ++ [[bump']])) :
    program = program' ∧ seeds.flatten = seeds'.flatten ∧ bump = bump' := by
  simp only [preimage, List.flatten_append, List.flatten_singleton] at h
  obtain ⟨hleft, -⟩ := List.append_inj' h rfl
  obtain ⟨hseeds, hprogram⟩ := List.append_inj' hleft (by simp)
  obtain ⟨hflatten, hbump⟩ := List.append_inj' hseeds rfl
  exact ⟨Address.ext (FixedBytes.ext hprogram), hflatten, List.singleton_inj.mp hbump⟩

end Derivation

/-! ### The table of seeds -/

namespace ProgramAccount

/-- The text that the seeds of an account start with; three accounts have none. -/
def label : ProgramAccount → String
  | config => "config"
  | emitter => "emitter"
  | foreignEmitter _ => "foreign_emitter"
  | received .. => "received"
  | sentMessage _ => "sent"
  | senderConfig => "sender"
  | redeemerConfig => "redeemer"
  | foreignContract _ => "foreign_contract"
  | bridgedMessage _ => "bridged"
  | temporaryToken _ => "tmp"
  | coreBridge => "Bridge"
  | feeCollector => "fee_collector"
  | sequenceTracker _ => "Sequence"
  | postedAttestation _ => "PostedVAA"
  | guardianSet _ => "GuardianSet"
  | authoritySigner => "authority_signer"
  | custodySigner => "custody_signer"
  | mintAuthority => "mint_signer"
  | wrappedMint .. => "wrapped"
  | wrappedMeta _ => "meta"
  | custody _ | claim .. | endpointRegistration .. => ""

/-- What follows the label: numbers and addresses, each in octets of a fixed number. -/
def fields : ProgramAccount → Bytes
  | config | emitter | senderConfig | redeemerConfig | coreBridge | feeCollector
  | authoritySigner | custodySigner | mintAuthority => []
  | foreignEmitter chain | foreignContract chain => Bytes.littleEndian 2 chain.toNat
  | received chain sequence =>
    Bytes.littleEndian 2 chain.toNat ++ Bytes.littleEndian 8 sequence.toNat
  | sentMessage sequence | bridgedMessage sequence => Bytes.littleEndian 8 sequence.toNat
  | temporaryToken key | sequenceTracker key | custody key | wrappedMeta key => key.toList
  | postedAttestation messageHash => messageHash.toList
  | guardianSet index => Bytes.bigEndian 4 index.toNat
  | wrappedMint chain key | endpointRegistration chain key =>
    Bytes.bigEndian 2 chain.toNat ++ key.toList
  | claim publisher chain sequence =>
    publisher.toList ++ (Bytes.bigEndian 2 chain.toNat ++ Bytes.bigEndian 8 sequence.toNat)

/-- The joined seeds of an account are its label and its fields. -/
theorem flatten_seeds (account : ProgramAccount) :
    account.seeds.flatten = Bytes.ofText account.label ++ account.fields := by
  have hempty : Bytes.ofText "" = [] := by decide +kernel
  cases account <;> simp [seeds, label, fields, hempty]

/-- The label and the length of the fields of every account. -/
def layouts : List (String × ℕ) :=
  [("config", 0), ("emitter", 0), ("foreign_emitter", 2), ("received", 10), ("sent", 8),
    ("sender", 0), ("redeemer", 0), ("foreign_contract", 2), ("bridged", 8), ("tmp", 32),
    ("Bridge", 0), ("fee_collector", 0), ("Sequence", 32), ("PostedVAA", 32), ("GuardianSet", 4),
    ("authority_signer", 0), ("custody_signer", 0), ("mint_signer", 0), ("wrapped", 34),
    ("meta", 32), ("", 32), ("", 34), ("", 42)]

theorem layout_mem (account : ProgramAccount) :
    (account.label, account.fields.length) ∈ layouts := by
  cases account <;> simp [layouts, label, fields]

/-- In layouts of the same length, the label of one does not start the label of another. -/
theorem eq_of_label_isPrefix : ∀ x ∈ layouts, ∀ y ∈ layouts,
    (Bytes.ofText x.1).length + x.2 = (Bytes.ofText y.1).length + y.2 →
    Bytes.ofText x.1 <+: Bytes.ofText y.1 → x = y := by
  decide +kernel

/-- The joined seeds determine the label and the fields. -/
theorem label_fields_inj {account account' : ProgramAccount}
    (h : account.seeds.flatten = account'.seeds.flatten) :
    account.label = account'.label ∧ account.fields = account'.fields := by
  rw [flatten_seeds, flatten_seeds] at h
  have hlength := congrArg List.length h
  rw [List.length_append, List.length_append] at hlength
  have hstart : Bytes.ofText account.label <+: Bytes.ofText account'.label ++ account'.fields :=
    h ▸ List.prefix_append _ _
  have hlabel : account.label = account'.label := by
    obtain hle | hge := List.prefix_or_prefix_of_prefix hstart (List.prefix_append _ _)
    · exact (Prod.mk.inj (eq_of_label_isPrefix _ account.layout_mem _ account'.layout_mem
        hlength hle)).1
    · exact (Prod.mk.inj (eq_of_label_isPrefix _ account'.layout_mem _ account.layout_mem
        hlength.symm hge)).1.symm
  rw [hlabel] at h
  exact ⟨hlabel, List.append_cancel_left h⟩

/-- The account with a label and fields, each field read in the order in which it is written. -/
def ofFields? (label : String) (b : Bytes) : Option ProgramAccount :=
  match label with
  | "config" => some config
  | "emitter" => some emitter
  | "foreign_emitter" => some (foreignEmitter (UInt16.ofNat (Bytes.toNatLE b)))
  | "received" => some (received (UInt16.ofNat (Bytes.toNatLE (b.take 2)))
      (UInt64.ofNat (Bytes.toNatLE (b.drop 2))))
  | "sent" => some (sentMessage (UInt64.ofNat (Bytes.toNatLE b)))
  | "sender" => some senderConfig
  | "redeemer" => some redeemerConfig
  | "foreign_contract" => some (foreignContract (UInt16.ofNat (Bytes.toNatLE b)))
  | "bridged" => some (bridgedMessage (UInt64.ofNat (Bytes.toNatLE b)))
  | "tmp" => some (temporaryToken (Address.ofNative b))
  | "Bridge" => some coreBridge
  | "fee_collector" => some feeCollector
  | "Sequence" => some (sequenceTracker (Address.ofNative b))
  | "PostedVAA" => some (postedAttestation (FixedBytes.leftPad b))
  | "GuardianSet" => some (guardianSet (UInt32.ofNat (Bytes.toNatBE b)))
  | "authority_signer" => some authoritySigner
  | "custody_signer" => some custodySigner
  | "mint_signer" => some mintAuthority
  | "wrapped" => some (wrappedMint (UInt16.ofNat (Bytes.toNatBE (b.take 2)))
      (Address.ofNative (b.drop 2)))
  | "meta" => some (wrappedMeta (Address.ofNative b))
  | "" =>
    if b.length = 32 then some (custody (Address.ofNative b))
    else if b.length = 34 then
      some (endpointRegistration (UInt16.ofNat (Bytes.toNatBE (b.take 2)))
        (Address.ofNative (b.drop 2)))
    else some (claim (Address.ofNative (b.take 32))
      (UInt16.ofNat (Bytes.toNatBE ((b.drop 32).take 2)))
      (UInt64.ofNat (Bytes.toNatBE ((b.drop 32).drop 2))))
  | _ => none

/-- An account is read back from its label and its fields. -/
theorem ofFields?_fields (account : ProgramAccount) :
    ofFields? account.label account.fields = some account := by
  have h16 (v : UInt16) : v.toNat % 65536 = v.toNat := Nat.mod_eq_of_lt v.toNat_lt
  have h32 (v : UInt32) : v.toNat % 4294967296 = v.toNat := Nat.mod_eq_of_lt v.toNat_lt
  have h64 (v : UInt64) : v.toNat % 18446744073709551616 = v.toNat :=
    Nat.mod_eq_of_lt v.toNat_lt
  cases account <;>
    simp [label, fields, ofFields?, Bytes.toNatLE_littleEndian, Bytes.toNatBE_bigEndian, h16, h32,
      h64, FixedBytes.leftPad_toList, Address.ofNative_toList]

/-- The joined seeds determine the account. -/
theorem flatten_seeds_inj {account account' : ProgramAccount}
    (h : account.seeds.flatten = account'.seeds.flatten) : account = account' := by
  obtain ⟨hlabel, hfields⟩ := label_fields_inj h
  apply Option.some.inj
  rw [← ofFields?_fields account, ← ofFields?_fields account', hlabel, hfields]

/-- No account of a program has longer seeds than a claim. -/
theorem length_flatten_seeds_le (account : ProgramAccount) :
    account.seeds.flatten.length ≤ 42 := by
  have hlayouts : ∀ x ∈ layouts, (Bytes.ofText x.1).length + x.2 ≤ 42 := by decide +kernel
  rw [flatten_seeds, List.length_append]
  exact hlayouts _ account.layout_mem

end ProgramAccount

/-! ### Accounts -/

/-- An account whose address is derived: one of a program, or an owner's token account for a
mint. -/
inductive DerivedAccount where
  | ofProgram (program : Address) (account : ProgramAccount)
  | ofOwner (owner mint : Address)
deriving DecidableEq

namespace DerivedAccount

/-- The program from which the address is derived. -/
def root : DerivedAccount → Address
  | ofProgram program _ => program
  | ofOwner .. => associatedTokenProgram

/-- The seeds of an account. -/
def seeds : DerivedAccount → List Bytes
  | ofProgram _ account => account.seeds
  | ofOwner owner mint => AssociatedToken.seeds owner mint

/-- The address of an account, with a hash and a test for points. -/
def addressWith (d : Derivation) : DerivedAccount → Except DeriveError Address
  | ofProgram program account => account.addressWith d program
  | ofOwner owner mint => AssociatedToken.addressWith d owner mint

/-- What is hashed to derive the address of an account. -/
def hashed (d : Derivation) (account : DerivedAccount) : List Bytes :=
  d.tried account.root account.seeds 256

/-- The address is derived from the program and the seeds. -/
theorem addressWith_eq (d : Derivation) (account : DerivedAccount) :
    account.addressWith d = d.derive account.root account.seeds := by
  cases account <;> rfl

/-- The joined seeds of a token account are longer than those of any account of a program. -/
theorem length_flatten_seeds_ofOwner (owner mint : Address) :
    (ofOwner owner mint).seeds.flatten.length = 96 := by
  simp [seeds, AssociatedToken.seeds]

/-- The program and the joined seeds determine the account. -/
theorem root_seeds_inj {account account' : DerivedAccount} (hroot : account.root = account'.root)
    (hseeds : account.seeds.flatten = account'.seeds.flatten) : account = account' := by
  have hlength := congrArg List.length hseeds
  cases account with
  | ofProgram program a =>
      have hshort : (ofProgram program a).seeds.flatten.length ≤ 42 := a.length_flatten_seeds_le
      cases account' with
      | ofProgram program' a' =>
          obtain rfl : program = program' := hroot
          obtain rfl : a = a' := ProgramAccount.flatten_seeds_inj hseeds
          rfl
      | ofOwner owner' mint' =>
          rw [length_flatten_seeds_ofOwner] at hlength
          omega
  | ofOwner owner mint =>
      cases account' with
      | ofProgram program' a' =>
          have hshort : (ofProgram program' a').seeds.flatten.length ≤ 42 :=
            a'.length_flatten_seeds_le
          rw [length_flatten_seeds_ofOwner] at hlength
          omega
      | ofOwner owner' mint' =>
          simp only [seeds, AssociatedToken.seeds, List.flatten_cons, List.flatten_nil,
            List.append_nil] at hseeds
          obtain ⟨howner, hrest⟩ := List.append_inj hseeds (by simp)
          obtain rfl : owner = owner' := Address.ext (FixedBytes.ext howner)
          obtain rfl : mint = mint' :=
            Address.ext (FixedBytes.ext (List.append_cancel_left hrest))
          rfl

end DerivedAccount

/-- **Accounts do not share addresses.** Let the hash have no collision among the strings that are
hashed to derive the addresses of two accounts. If both addresses are found, and are the same, then
the two are the same account: of the same program, of the same kind, and with the same chains,
numbers, addresses and hashes. -/
theorem derived_address_inj (d : Derivation) (account account' : DerivedAccount)
    (hfree : CollisionFree d.hash (account.hashed d ++ account'.hashed d)) {address : Address}
    (h : account.addressWith d = .ok address) (h' : account'.addressWith d = .ok address) :
    account = account' := by
  rw [DerivedAccount.addressWith_eq] at h h'
  obtain ⟨bump, hmem, hhash⟩ := Derivation.of_derive h
  obtain ⟨bump', hmem', hhash'⟩ := Derivation.of_derive h'
  have hpreimage := hfree _ (List.mem_append_left _ hmem) _ (List.mem_append_right _ hmem')
    (hhash.symm.trans hhash')
  obtain ⟨hroot, hseeds, -⟩ := Derivation.preimage_inj hpreimage
  exact DerivedAccount.root_seeds_inj hroot hseeds

/-- The account to which the attestation with some message hash is posted. -/
def somePosted : DerivedAccount := .ofProgram Address.zero (.postedAttestation FixedBytes.zero)

/-- A wrapped mint, whose seeds take as many octets. -/
def someWrapped : DerivedAccount := .ofProgram Address.zero (.wrappedMint 2 Address.zero)

/-- SHA-256 has no collision among what is hashed for the two. The first has an address, and of the
two only the first has it. -/
theorem derived_address_inj_somePosted :
    (∀ account ∈ [somePosted, someWrapped], CollisionFree Derivation.standard.hash
      (somePosted.hashed .standard ++ account.hashed .standard)) ∧
    ∃ address, ∀ account ∈ [somePosted, someWrapped],
      account.addressWith .standard = .ok address ↔ account = somePosted := by
  have hfree : ∀ account ∈ [somePosted, someWrapped], CollisionFree Derivation.standard.hash
      (somePosted.hashed .standard ++ account.hashed .standard) := by
    decide +kernel
  have hfound : (somePosted.addressWith .standard).map (fun _ => ()) = .ok () := by
    decide +kernel
  obtain ⟨address, haddress, -⟩ := Outcome.map_eq_ok_iff.mp hfound
  refine ⟨hfree, address, fun account hmem => ⟨fun h => ?_, fun h => h ▸ haddress⟩⟩
  exact (derived_address_inj .standard somePosted account (hfree account hmem) haddress h).symm

end GuardianRelay
