import GuardianRelay.Config.Reader
import GuardianRelay.Proofs.Outcome
import Mathlib.Data.List.Sort

/-!
# Chains of a Configuration

The chains stand in tables by family and name, and the entries of a table come in no order. They are
put into the order of their numbers. Two chains with one number become neighbours by that, whichever
tables they stand in, so it is enough to look at neighbours to find every number that occurs twice;
and without such a number the order of the numbers is the only thing that the result shows, so it is
the same however the entries came. A chain is then found by its number, if it is switched on: there
is no other one that could stand before it.

## Main results

* `ChainConfig.arrange_eq_ok_iff`: which lists of chains come out.
* `ChainConfig.find_eq_ok_iff`, `ChainConfig.find_eq_error_iff`: which chain is found.
* `RelayConfig.chains_in_order`: the chains of a configuration.
-/

namespace GuardianRelay

namespace ChainConfig

variable {chains configs : List ChainConfig} {families : List (ChainFamily × List ChainConfig)}
  {family : ChainFamily} {id : ChainId} {config : ChainConfig} {fault : ConfigFault}

/-- The chains are in the order of their numbers, and no number occurs twice. -/
def Ascending (chains : List ChainConfig) : Prop :=
  chains.Pairwise fun a b => a.chain < b.chain

instance : DecidablePred Ascending := fun chains =>
  inferInstanceAs (Decidable (chains.Pairwise fun a b => a.chain < b.chain))

/-! ### The order of the numbers -/

/-- A chain passes the check if it is of its family. -/
theorem checkFamily_eq_ok_iff {passed : ChainConfig} :
    checkFamily family config = .ok passed ↔ config.family = family ∧ passed = config := by
  rw [checkFamily]
  split
  next h => simp [h, eq_comm]
  next h => simp [h]

/-- The chains of a table pass the check if all of them are of its family. -/
theorem mapM_checkFamily_eq_ok_iff {passed : List ChainConfig} :
    configs.mapM (checkFamily family) = .ok passed ↔
      (∀ config ∈ configs, config.family = family) ∧ passed = configs := by
  induction configs generalizing passed with
  | nil => simp [pure, Except.pure, eq_comm]
  | cons config configs ih =>
      rw [List.mapM_cons, List.forall_mem_cons]
      exact Outcome.bind_bind_eq_ok_iff checkFamily_eq_ok_iff ih

/-- All tables pass the check if every chain is of the family under which it stands. -/
theorem flatMapM_checkFamily_eq_ok_iff {passed : List ChainConfig} :
    (families.flatMapM fun (family, configs) => configs.mapM (checkFamily family)) = .ok passed ↔
      (∀ table ∈ families, ∀ config ∈ table.2, config.family = table.1) ∧
        passed = families.flatMap Prod.snd := by
  induction families generalizing passed with
  | nil => simp [pure, Except.pure, eq_comm]
  | cons table families ih =>
      rw [List.flatMapM_cons, List.forall_mem_cons, List.flatMap_cons]
      exact Outcome.bind_bind_eq_ok_iff mapM_checkFamily_eq_ok_iff ih

/-- In the order of their numbers, no number occurs twice if no two neighbours share one. -/
theorem repeated?_eq_none_iff (h : chains.Pairwise fun a b => a.chain ≤ b.chain) :
    repeated? chains = none ↔ Ascending chains := by
  rw [Ascending]
  fun_induction repeated? chains with
  | case1 a b rest heq =>
      refine iff_of_false nofun fun hlt => ?_
      exact UInt16.ne_of_lt (List.rel_of_pairwise_cons hlt List.mem_cons_self) heq
  | case2 a b rest hne ih =>
      obtain ⟨hle, hrest⟩ := List.pairwise_cons.mp h
      rw [ih hrest, List.pairwise_cons (a := a)]
      refine ⟨fun hlt => ⟨fun config hconfig => ?_, hlt⟩, And.right⟩
      -- the next number is greater, and all others are at least that
      have hnext : a.chain < b.chain := UInt16.lt_of_le_of_ne (hle b List.mem_cons_self) hne
      obtain rfl | hlater := List.mem_cons.mp hconfig
      · exact hnext
      · exact UInt16.lt_trans hnext (List.rel_of_pairwise_cons hlt hlater)
  | case3 chains hshort =>
      refine iff_of_true rfl ?_
      match chains, hshort with
      | [], _ => exact List.Pairwise.nil
      | [a], _ => exact List.pairwise_singleton _ a
      | a :: b :: rest, hshort => exact absurd rfl (hshort a b rest)

/-- There is one order of the numbers. -/
theorem Ascending.eq_of_perm {other : List ChainConfig} (h : Ascending chains)
    (hother : Ascending other) (hperm : chains.Perm other) : chains = other :=
  hperm.eq_of_pairwise (fun _ _ _ _ hlt hgt => absurd hlt (UInt16.lt_asymm hgt)) h hother

/-- No number occurs twice in the order of the numbers. -/
theorem Ascending.nodup (h : Ascending chains) : (chains.map chain).Nodup :=
  List.pairwise_map.mpr (h.imp UInt16.ne_of_lt)

/-- The chains are sorted by their numbers. -/
theorem pairwise_mergeSort_chain (chains : List ChainConfig) :
    (chains.mergeSort fun a b => a.chain ≤ b.chain).Pairwise fun a b => a.chain ≤ b.chain := by
  refine List.Pairwise.imp of_decide_eq_true (List.pairwise_mergeSort ?_ ?_ chains)
  · intro a b c hab hbc
    exact decide_eq_true (UInt16.le_trans (of_decide_eq_true hab) (of_decide_eq_true hbc))
  · intro a b
    simpa using UInt16.le_total a.chain b.chain

/-- Sorted chains are in the order of their numbers if no number occurs twice. -/
theorem ascending_mergeSort (h : (chains.map chain).Nodup) :
    Ascending (chains.mergeSort fun a b => a.chain ≤ b.chain) := by
  have hperm := chains.mergeSort_perm fun a b => a.chain ≤ b.chain
  have hdistinct := (hperm.map chain).nodup_iff.mpr h
  exact (pairwise_mergeSort_chain chains).imp₂
    (fun _ _ hle hne => UInt16.lt_of_le_of_ne hle hne) (List.pairwise_map.mp hdistinct)

/-- **Which chains come out.** Every chain has to stand under its own family. Then the chains come
out in the order of their numbers, if there is one. -/
theorem arrange_eq_ok_iff :
    arrange families = .ok chains ↔
      (∀ table ∈ families, ∀ config ∈ table.2, config.family = table.1) ∧
        Ascending chains ∧ chains.Perm (families.flatMap Prod.snd) := by
  have hsorted := pairwise_mergeSort_chain (families.flatMap Prod.snd)
  have hperm := (families.flatMap Prod.snd).mergeSort_perm fun a b => a.chain ≤ b.chain
  rw [arrange, Outcome.bind_eq_ok_iff]
  simp only [flatMapM_checkFamily_eq_ok_iff]
  constructor
  · rintro ⟨_, ⟨hfamilies, rfl⟩, h⟩
    refine ⟨hfamilies, ?_⟩
    split at h
    next => contradiction
    next hnone =>
      obtain rfl := Except.ok.inj h
      exact ⟨(repeated?_eq_none_iff hsorted).mp hnone, hperm⟩
  · rintro ⟨hfamilies, hascending, hchains⟩
    have hlisted := ascending_mergeSort ((hchains.map chain).nodup_iff.mp hascending.nodup)
    refine ⟨_, ⟨hfamilies, rfl⟩, ?_⟩
    rw [(repeated?_eq_none_iff hsorted).mpr hlisted,
      hascending.eq_of_perm hlisted (hchains.trans hperm.symm)]
    rfl

/-- There is an order of the numbers if no number occurs twice. -/
theorem exists_ascending_iff :
    (∃ chains, Ascending chains ∧ chains.Perm configs) ↔ (configs.map chain).Nodup := by
  constructor
  · rintro ⟨chains, hascending, hperm⟩
    exact (hperm.map chain).nodup_iff.mp hascending.nodup
  · intro h
    exact ⟨_, ascending_mergeSort h, configs.mergeSort_perm _⟩

/-! ### Finding a chain -/

/-- In the order of the numbers, a chain is found by its number if it is switched on. -/
theorem find_eq_ok_iff (h : Ascending chains) :
    find chains id = .ok config ↔
      config ∈ chains ∧ config.chain = id ∧ config.enabled = true := by
  rw [find]
  split
  next found hfound =>
    have hmem := List.mem_of_find?_eq_some hfound
    have hprop : found.chain = id ∧ found.enabled = true := by simpa using List.find?_some hfound
    rw [Except.ok.injEq]
    constructor
    · rintro rfl
      exact ⟨hmem, hprop⟩
    · rintro ⟨hconfig, rfl, -⟩
      exact List.inj_on_of_nodup_map h.nodup hmem hconfig hprop.1
  next hnone =>
    refine iff_of_false nofun fun ⟨hconfig, hprop⟩ => ?_
    exact List.find?_eq_none.mp hnone config hconfig (decide_eq_true hprop)

/-- No chain is found if none that has the number is switched on. -/
theorem find_eq_error_iff :
    find chains id = .error fault ↔
      fault = .noEnabledChain id ∧
        ¬ ∃ config ∈ chains, config.chain = id ∧ config.enabled = true := by
  rw [find]
  split
  next found hfound =>
    refine iff_of_false nofun fun h => h.2 ⟨found, List.mem_of_find?_eq_some hfound, ?_⟩
    simpa using List.find?_some hfound
  next hnone =>
    rw [Except.error.injEq, eq_comm]
    refine (and_iff_left fun ⟨config, hconfig, hprop⟩ => ?_).symm
    exact List.find?_eq_none.mp hnone config hconfig (decide_eq_true hprop)

end ChainConfig

namespace RelayConfig

open ChainConfig (Ascending arrange find)

variable {text : String} {relay : RelayConfig} {chains : List ChainConfig}
  {families families' : List (String × List (String × ChainConfig))}

/-- The chains that stand under a name. -/
def under (families : List (String × List (String × ChainConfig))) (name : String) :
    List ChainConfig :=
  ((families.lookup name).getD []).map Prod.snd

/-- The chains that stand under a family. -/
def listed (families : List (String × List (String × ChainConfig))) : List ChainConfig :=
  under families "evm" ++ under families "svm"

/-- Under each family stand the same chains, in any order, whatever stands under other names. -/
structure SameChains (families families' : List (String × List (String × ChainConfig))) : Prop where
  evm : (under families "evm").Perm (under families' "evm")
  svm : (under families "svm").Perm (under families' "svm")

/-- A configuration that is read consists of its settings and the chains that come out of its
tables. -/
theorem parse_eq_ok_iff (hread : (Toml.parse? text).bind Settings.file? = some (relay, families))
    {result : RelayConfig × List ChainConfig} :
    parse text = .ok result ↔
      result.1 = relay ∧ arrange (ChainFamily.all.map (chainsOf families)) = .ok result.2 := by
  rw [parse, hread]
  simp only [Outcome.map_eq_ok_iff]
  constructor
  · rintro ⟨chains, hchains, rfl⟩
    exact ⟨rfl, hchains⟩
  · rintro ⟨rfl, hchains⟩
    exact ⟨result.2, hchains, rfl⟩

/-- Which chains come out of the tables. -/
theorem arrange_chainsOf_eq_ok_iff :
    arrange (ChainFamily.all.map (chainsOf families)) = .ok chains ↔
      ((∀ config ∈ under families "evm", config.family = .evm) ∧
        ∀ config ∈ under families "svm", config.family = .svm) ∧
        Ascending chains ∧ chains.Perm (listed families) := by
  have htables : ChainFamily.all.map (chainsOf families) =
      [(.evm, under families "evm"), (.svm, under families "svm")] := rfl
  simp [htables, ChainConfig.arrange_eq_ok_iff, listed]

/-- The same chains come out, in whatever order the chains stand in their tables. -/
theorem SameChains.arrange_iff (h : SameChains families families') :
    arrange (ChainFamily.all.map (chainsOf families')) = .ok chains ↔
      arrange (ChainFamily.all.map (chainsOf families)) = .ok chains := by
  have hlisted : (listed families).Perm (listed families') := h.evm.append h.svm
  simp only [arrange_chainsOf_eq_ok_iff, h.evm.mem_iff, h.svm.mem_iff, hlisted.congr_right]

/-- In a configuration that is read, the chains are in the order of their numbers. -/
theorem ascending_of_parse (h : parse text = .ok (relay, chains)) : Ascending chains := by
  cases hread : (Toml.parse? text).bind Settings.file? with
  | none =>
      rw [parse, hread] at h
      contradiction
  | some file =>
      obtain ⟨-, harrange⟩ := (parse_eq_ok_iff hread).mp h
      exact (arrange_chainsOf_eq_ok_iff.mp harrange).2.1

/-- **The chains of a configuration.** Let there be a configuration with its tables, and let the
entries of the tables come in any other order. A configuration is accepted exactly if each chain
stands under its own family and no two chains have one number; chains under other names do not
count. What comes out does not depend on the order of the entries: it is the chains, each once, in
the order of their numbers. And then a number finds the chain that has it, if there is one that is
switched on. -/
theorem chains_in_order
    (hread : (Toml.parse? text).bind Settings.file? = some (relay, families))
    (hsame : SameChains families families') :
    ((∃ result, parse text = .ok result) ↔
      (∀ config ∈ under families "evm", config.family = .evm) ∧
        (∀ config ∈ under families "svm", config.family = .svm) ∧
        ((listed families).map ChainConfig.chain).Nodup) ∧
    (∀ chains, arrange (ChainFamily.all.map (chainsOf families')) = .ok chains ↔
      parse text = .ok (relay, chains)) ∧
    ∀ result, parse text = .ok result →
      result.1 = relay ∧
      result.2.Pairwise (fun a b => a.chain < b.chain) ∧
      result.2.Perm (listed families) ∧
      ∀ id,
        (∀ config, find result.2 id = .ok config ↔
          config ∈ result.2 ∧ config.chain = id ∧ config.enabled = true) ∧
        ((∃ fault, find result.2 id = .error fault) ↔
          ¬ ∃ config ∈ result.2, config.chain = id ∧ config.enabled = true) := by
  refine ⟨?_, fun chains => ?_, fun result h => ?_⟩
  · rw [← and_assoc, ← ChainConfig.exists_ascending_iff]
    constructor
    · rintro ⟨result, h⟩
      obtain ⟨hfamilies, hchains⟩ := arrange_chainsOf_eq_ok_iff.mp ((parse_eq_ok_iff hread).mp h).2
      exact ⟨hfamilies, result.2, hchains⟩
    · rintro ⟨hfamilies, chains, hchains⟩
      have harrange := arrange_chainsOf_eq_ok_iff.mpr ⟨hfamilies, hchains⟩
      exact ⟨(relay, chains), (parse_eq_ok_iff hread).mpr ⟨rfl, harrange⟩⟩
  · rw [hsame.arrange_iff, parse_eq_ok_iff hread, and_iff_right rfl]
  · obtain ⟨hrelay, harrange⟩ := (parse_eq_ok_iff hread).mp h
    obtain ⟨-, hascending, hperm⟩ := arrange_chainsOf_eq_ok_iff.mp harrange
    refine ⟨hrelay, hascending, hperm, fun id => ⟨fun config => ?_, ?_⟩⟩
    · exact ChainConfig.find_eq_ok_iff hascending
    · simp only [ChainConfig.find_eq_error_iff, exists_eq_left]

/-- A chain about which only its number, its family and whether it is switched on are known. -/
def bare (chain : ChainId) (family : ChainFamily) (enabled : Bool) : ChainConfig where
  chain := chain
  family := family
  name := ""
  nodeUrl := ""
  coreAddress := ""
  programAddress := ""
  tokenBridgeAddress := some ""
  mode := .messenger
  enabled := enabled

/-- The greater number comes first under one family, and under a name that is no family's a number
comes again. -/
def shuffled : String := "relay=[['u']]
[chains.evm]
b=[3,'EVM','','','','','','messenger',true]
a=[2,'EVM','','','','','','messenger',false]
[chains.svm]
s=[1,'SVM','','','','','','messenger',true]
[chains.x]
s=[1,'EVM','','','','','','messenger',true]
"

/-- The chains come out by their numbers, also if the entries come the other way round, and the one
that is switched off is not found. -/
theorem chains_in_order_shuffled :
    let relay := { standalone with attestation := { standalone.attestation with baseUrl := "u" } }
    let families := [("evm", [("b", bare 3 .evm true), ("a", bare 2 .evm false)]),
      ("svm", [("s", bare 1 .svm true)]), ("x", [("s", bare 1 .evm true)])]
    let families' := [("svm", [("s", bare 1 .svm true)]),
      ("evm", [("a", bare 2 .evm false), ("b", bare 3 .evm true)])]
    let chains := [bare 1 .svm true, bare 2 .evm false, bare 3 .evm true]
    (Toml.parse? shuffled).bind Settings.file? = some (relay, families) ∧
    SameChains families families' ∧
    parse shuffled = .ok (relay, chains) ∧
    arrange (ChainFamily.all.map (chainsOf families')) = .ok chains ∧
    find chains 3 = .ok (bare 3 .evm true) ∧
    ∃ fault, find chains 2 = .error fault := by
  intro relay families families' chains
  have hread : (Toml.parse? shuffled).bind Settings.file? = some (relay, families) := by
    decide +kernel
  have hsame : SameChains families families' := ⟨.swap .., .refl _⟩
  obtain ⟨haccepted, hany, hresult⟩ := chains_in_order hread hsame
  have harrange : arrange (ChainFamily.all.map (chainsOf families')) = .ok chains :=
    arrange_chainsOf_eq_ok_iff.mpr (by decide +kernel)
  have hparse := (hany chains).mp harrange
  obtain ⟨-, -, -, hfind⟩ := hresult _ hparse
  refine ⟨hread, hsame, hparse, harrange, ((hfind 3).1 _).mpr ?_, (hfind 2).2.mpr ?_⟩
  · decide +kernel
  · decide +kernel

end RelayConfig

end GuardianRelay
