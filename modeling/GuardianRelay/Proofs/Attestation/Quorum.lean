import GuardianRelay.Attestation.Verification
import Mathlib.Data.Finset.Card
import Mathlib.Data.List.Chain

/-!
# Quorums of Guardians

Verification walks through the signatures once and remembers the guardian before. This module
states what the walk decides, without the walk: an attestation stands exactly if it names the
set, carries a quorum of signatures, names its guardians in strictly ascending order, and each
signature passes the check of a single signature. Ascending guardians are distinct guardians,
and all are below the number of keys, so the signatures of an attestation that stands are those
of a quorum of different guardians.

From that follows the safety of the quorum. Two quorums of one set are each larger than two
thirds of it, so they have more than a third of it in common: whoever wants two attestations to
stand needs more than a third of the guardians to sign both.

## Main results

* `Attestation.checkSignatures_eq_ok_iff`: the walk, by induction on the signatures; what it
  has remembered stands in front of the guardians that are still to come.
* `Attestation.verifyWith_eq_ok_iff_quorum`: what it takes for an attestation to stand, and
  what that says of its signers.
* `Attestation.signers_overlap`: any two attestations that stand share more than a third of the
  guardians.
-/

namespace GuardianRelay

/-! ### One signature -/

/-- A single signature passes if the set has a key for its guardian and the signature gives
that key back. -/
theorem GuardianSet.verifyWith_eq_ok_iff {recover : Recovery} {set : GuardianSet}
    {guardian : UInt8} {digest : Hash256} {signature : SignatureBytes} :
    set.verifyWith recover guardian digest signature = .ok () ↔
      ∃ key, set.keys[guardian.toNat]? = some key ∧ recover digest signature = .ok key := by
  rw [GuardianSet.verifyWith]
  cases hkey : set.keys[guardian.toNat]? with
  | none => simp
  | some key =>
      cases hrecover : recover digest signature with
      | error fault => simp [bind, Except.bind]
      | ok signer => simp [bind, Except.bind]

namespace Attestation

/-- The guardians that an attestation names, signature by signature. -/
def guardians (a : Attestation) : List UInt8 := a.signatures.map GuardianSignature.guardian

/-! ### The walk through the signatures -/

section Walk

variable {recover : Recovery} {set : GuardianSet} {digest : Hash256} {last : Option UInt8}

/-- The walk goes past a signature if its guardian comes after the one before and the signature
passes. -/
theorem checkSignatures_cons_eq_ok_iff {signature : GuardianSignature}
    {rest : List GuardianSignature} :
    checkSignatures recover set.keys digest last (signature :: rest) = .ok () ↔
      (∀ guardian ∈ last, guardian < signature.guardian) ∧
      set.verifyWith recover signature.guardian digest signature.toBytes = .ok () ∧
      checkSignatures recover set.keys digest (some signature.guardian) rest = .ok () := by
  rw [GuardianSet.verifyWith_eq_ok_iff, checkSignatures]
  have hany : last.any (signature.guardian ≤ ·) = true ↔
      ¬ ∀ guardian ∈ last, guardian < signature.guardian := by
    cases last <;> simp
  by_cases hascends : ∀ guardian ∈ last, guardian < signature.guardian
  · rw [if_neg (hany.not.mpr (not_not.mpr hascends)), and_iff_right hascends]
    cases hkey : set.keys[signature.guardian.toNat]? with
    | none => simp
    | some key =>
        cases hrecover : recover digest signature.toBytes with
        | error fault => simp
        | ok signer => by_cases hsigner : signer = key <;> simp [hsigner]
  · rw [if_pos (hany.mpr hascends)]
    exact iff_of_false nofun fun h => hascends h.1

/-- The walk ends well exactly if the guardians ascend from the remembered one on and every
signature passes. -/
theorem checkSignatures_eq_ok_iff {signatures : List GuardianSignature} :
    checkSignatures recover set.keys digest last signatures = .ok () ↔
      (last.toList ++ signatures.map GuardianSignature.guardian).IsChain (· < ·) ∧
      ∀ signature ∈ signatures,
        set.verifyWith recover signature.guardian digest signature.toBytes = .ok () := by
  induction signatures generalizing last with
  | nil => cases last <;> simp [checkSignatures]
  | cons signature rest ih =>
      rw [checkSignatures_cons_eq_ok_iff, ih, List.forall_mem_cons, List.map_cons]
      cases last with
      | none => simp [and_left_comm]
      | some guardian =>
          simp only [Option.mem_def, Option.some.injEq, forall_eq', Option.toList_some,
            List.singleton_append, List.isChain_cons_cons]
          constructor
          · rintro ⟨hlt, hsignature, hchain, hrest⟩
            exact ⟨⟨hlt, hchain⟩, hsignature, hrest⟩
          · rintro ⟨⟨hlt, hchain⟩, hsignature, hrest⟩
            exact ⟨hlt, hsignature, hchain, hrest⟩

end Walk

/-! ### Attestations that stand -/

section Stands

variable {recover : Recovery} {set : GuardianSet} {a : Attestation}

/-- An attestation stands exactly if it names the set, a quorum signed, its guardians ascend
strictly and each of its signatures passes. -/
theorem verifyWith_eq_ok_iff :
    a.verifyWith recover set = .ok () ↔ a.guardianSetIndex = set.index ∧
      set.quorum ≤ a.signatures.length ∧ a.guardians.Pairwise (· < ·) ∧
      ∀ s ∈ a.signatures, set.verifyWith recover s.guardian a.digest s.toBytes = .ok () := by
  rw [verifyWith]
  by_cases hset : a.guardianSetIndex = set.index
  · by_cases hquorum : a.signatures.length < set.quorum
    · simp [hset, hquorum]
    · rw [if_neg (not_not.mpr hset), if_neg hquorum, checkSignatures_eq_ok_iff,
        Option.toList_none, List.nil_append, List.isChain_iff_pairwise]
      exact ⟨fun ⟨hascending, hpass⟩ => ⟨hset, not_lt.mp hquorum, hascending, hpass⟩,
        fun ⟨_, _, hascending, hpass⟩ => ⟨hascending, hpass⟩⟩
  · simp [hset]

/-- The guardians of an attestation that stands are distinct. -/
theorem nodup_guardians (h : a.verifyWith recover set = .ok ()) : a.guardians.Nodup := by
  obtain ⟨-, -, hascending, -⟩ := verifyWith_eq_ok_iff.mp h
  exact hascending.imp fun hlt => UInt8.ne_of_lt hlt

/-- Every signature of an attestation that stands is that of the key at its guardian's
place. -/
theorem recover_eq_key (h : a.verifyWith recover set = .ok ()) {s : GuardianSignature}
    (hs : s ∈ a.signatures) :
    ∃ _ : s.guardian.toNat < set.keys.length,
      recover a.digest s.toBytes = .ok set.keys[s.guardian.toNat] := by
  obtain ⟨-, -, -, hpass⟩ := verifyWith_eq_ok_iff.mp h
  obtain ⟨key, hkey, hrecover⟩ := GuardianSet.verifyWith_eq_ok_iff.mp (hpass s hs)
  obtain ⟨hlt, rfl⟩ := List.getElem?_eq_some_iff.mp hkey
  exact ⟨hlt, hrecover⟩

/-- No attestation stands before a set without keys: it takes one signature at least, and that
one would need a key. -/
theorem verifyWith_ne_ok_of_keys_eq_nil (hkeys : set.keys = []) :
    a.verifyWith recover set ≠ .ok () := by
  intro h
  obtain ⟨-, hquorum, -, -⟩ := verifyWith_eq_ok_iff.mp h
  have hpos : 0 < a.signatures.length := lt_of_lt_of_le (Nat.succ_pos _) hquorum
  obtain ⟨s, hs⟩ := List.exists_mem_of_length_pos hpos
  obtain ⟨hlt, -⟩ := recover_eq_key h hs
  rw [hkeys, List.length_nil] at hlt
  exact Nat.not_lt_zero _ hlt

end Stands

/-- **What verification decides.** An attestation stands exactly if it names the set, carries
at least a quorum of signatures, names its guardians in strictly ascending order, and each
signature passes on its own. If it stands, then its signatures are those of a quorum of
distinct guardians, each below the number of keys and each with its own key; and before an
empty set nothing stands. -/
theorem verifyWith_eq_ok_iff_quorum (recover : Recovery) (a : Attestation)
    (set : GuardianSet) :
    (a.verifyWith recover set = .ok () ↔ a.guardianSetIndex = set.index ∧
      set.quorum ≤ a.signatures.length ∧ a.guardians.Pairwise (· < ·) ∧
      ∀ s ∈ a.signatures, set.verifyWith recover s.guardian a.digest s.toBytes = .ok ()) ∧
    (a.verifyWith recover set = .ok () →
      set.quorum ≤ a.guardians.length ∧ a.guardians.Nodup ∧
      ∀ s ∈ a.signatures, ∃ _ : s.guardian.toNat < set.keys.length,
        recover a.digest s.toBytes = .ok set.keys[s.guardian.toNat]) ∧
    (set.keys = [] → a.verifyWith recover set ≠ .ok ()) := by
  refine ⟨verifyWith_eq_ok_iff, fun h => ?_, verifyWith_ne_ok_of_keys_eq_nil⟩
  obtain ⟨-, hquorum, -, -⟩ := verifyWith_eq_ok_iff.mp h
  rw [guardians, List.length_map]
  exact ⟨hquorum, nodup_guardians h, fun s hs => recover_eq_key h hs⟩

/-- A set of four guardians, each with the key that repeats its place. -/
def fourGuardians : GuardianSet where
  index := 3
  keys := [0, 1, 2, 3].map fun guardian => ⟨List.replicate 20 guardian, by simp⟩
  expirationTime := 0

/-- An attestation signed by some of the four, with `r` and `s` that repeat their place. -/
def signedByFour (payload : Bytes) (guardians : List UInt8) : Attestation where
  version := 1
  guardianSetIndex := 3
  signatures := guardians.map fun guardian =>
    ⟨guardian, ⟨List.replicate 32 guardian, by simp⟩, ⟨List.replicate 32 guardian, by simp⟩, 27⟩
  timestamp := 1699276800
  nonce := 7
  emitterChain := 1
  emitter := Address.zero
  sequence := 42
  consistencyLevel := 32
  payload := payload

/-- Takes the front of a signature for its signer. -/
def frontRecovery : Recovery := fun _ signature =>
  .ok ⟨signature.toList.take 20, by simp⟩

/-- Three of four guardians are a quorum of distinct ones; without keys nobody is. -/
theorem verifyWith_eq_ok_iff_quorum_three_of_four :
    ((signedByFour [1] [0, 1, 2]).verifyWith frontRecovery fourGuardians = .ok () ∧
      fourGuardians.quorum ≤ (signedByFour [1] [0, 1, 2]).guardians.length ∧
      (signedByFour [1] [0, 1, 2]).guardians.Nodup) ∧
    (signedByFour [1] [0, 1, 2]).verifyWith frontRecovery
      { fourGuardians with keys := [] } ≠ .ok () := by
  have hstands : (signedByFour [1] [0, 1, 2]).verifyWith frontRecovery fourGuardians = .ok () :=
    rfl
  obtain ⟨hquorum, hnodup, -⟩ := (verifyWith_eq_ok_iff_quorum frontRecovery _ _).2.1 hstands
  exact ⟨⟨hstands, hquorum, hnodup⟩, (verifyWith_eq_ok_iff_quorum frontRecovery _ _).2.2 rfl⟩

/-! ### Two quorums of one set -/

/-- The guardians that an attestation names, as a set. -/
def signers (a : Attestation) : Finset UInt8 := a.guardians.toFinset

/-- A signature of the attestation names the guardian and gives the key back. -/
def SignedWith (recover : Recovery) (a : Attestation) (guardian : UInt8)
    (key : EvmAddress) : Prop :=
  ∃ s ∈ a.signatures, s.guardian = guardian ∧ recover a.digest s.toBytes = .ok key

section Overlap

variable {recover : Recovery} {set : GuardianSet} {a : Attestation}

/-- Of an attestation that stands, the signers are a quorum. -/
theorem quorum_le_card_signers (h : a.verifyWith recover set = .ok ()) :
    set.quorum ≤ a.signers.card := by
  obtain ⟨-, hquorum, -, -⟩ := verifyWith_eq_ok_iff.mp h
  rwa [signers, List.toFinset_card_of_nodup (nodup_guardians h), guardians, List.length_map]

/-- Each signer of an attestation that stands signed with the key at its place. -/
theorem exists_key_of_mem_signers (h : a.verifyWith recover set = .ok ()) {guardian : UInt8}
    (hmem : guardian ∈ a.signers) :
    ∃ _ : guardian.toNat < set.keys.length,
      a.SignedWith recover guardian set.keys[guardian.toNat] := by
  rw [signers, List.mem_toFinset, guardians, List.mem_map] at hmem
  obtain ⟨s, hs, rfl⟩ := hmem
  obtain ⟨hlt, hrecover⟩ := recover_eq_key h hs
  exact ⟨hlt, s, hs, rfl, hrecover⟩

/-- Guardians whose places are all below a number are no more than that number. -/
theorem card_le_of_toNat_lt {guardians : Finset UInt8} {n : ℕ}
    (h : ∀ guardian ∈ guardians, guardian.toNat < n) : guardians.card ≤ n := by
  rw [← Finset.card_range n]
  refine Finset.card_le_card_of_injOn UInt8.toNat (fun guardian hguardian => ?_) ?_
  · exact Finset.mem_coe.mpr (Finset.mem_range.mpr (h guardian hguardian))
  · exact fun _ _ _ _ => UInt8.toNat_inj.mp

end Overlap

/-- **Quorums overlap.** Any two attestations that stand before one set, whatever they say and
whoever signed them, have more than a third of its guardians in common; each of those signed
both, with the one key at its place. -/
theorem signers_overlap (recover : Recovery) (set : GuardianSet) {a b : Attestation}
    (ha : a.verifyWith recover set = .ok ()) (hb : b.verifyWith recover set = .ok ()) :
    set.keys.length < 3 * (a.signers ∩ b.signers).card ∧
    ∀ guardian ∈ a.signers ∩ b.signers, ∃ _ : guardian.toNat < set.keys.length,
      a.SignedWith recover guardian set.keys[guardian.toNat] ∧
      b.SignedWith recover guardian set.keys[guardian.toNat] := by
  constructor
  · have hunion : (a.signers ∪ b.signers).card ≤ set.keys.length := by
      refine card_le_of_toNat_lt fun guardian hguardian => ?_
      rcases Finset.mem_union.mp hguardian with hmem | hmem
      · exact (exists_key_of_mem_signers ha hmem).1
      · exact (exists_key_of_mem_signers hb hmem).1
    have hqa : set.keys.length * 2 / 3 + 1 ≤ a.signers.card := quorum_le_card_signers ha
    have hqb : set.keys.length * 2 / 3 + 1 ≤ b.signers.card := quorum_le_card_signers hb
    have hsum := Finset.card_union_add_card_inter a.signers b.signers
    omega
  · intro guardian hguardian
    obtain ⟨hmema, hmemb⟩ := Finset.mem_inter.mp hguardian
    obtain ⟨hlt, hsigneda⟩ := exists_key_of_mem_signers ha hmema
    obtain ⟨_, hsignedb⟩ := exists_key_of_mem_signers hb hmemb
    exact ⟨hlt, hsigneda, hsignedb⟩

/-- Two messages, each signed by three of four guardians, share two of them. -/
theorem signers_overlap_three_of_four :
    (signedByFour [1] [0, 1, 2]).verifyWith frontRecovery fourGuardians = .ok () ∧
    (signedByFour [2] [1, 2, 3]).verifyWith frontRecovery fourGuardians = .ok () ∧
    fourGuardians.keys.length <
      3 * ((signedByFour [1] [0, 1, 2]).signers ∩ (signedByFour [2] [1, 2, 3]).signers).card :=
  ⟨rfl, rfl, (signers_overlap frontRecovery fourGuardians rfl rfl).1⟩

end Attestation

end GuardianRelay
