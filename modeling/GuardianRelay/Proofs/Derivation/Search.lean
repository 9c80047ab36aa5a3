import GuardianRelay.Derivation
import GuardianRelay.Proofs.Outcome
import Mathlib.Order.Basic

/-!
# The Search for a Bump

An address is found by trying bumps, the highest first, until the hash of seeds and bump is no point
of the curve. To create an address is a single try, for which the bump is one of the seeds. This
module shows that the search finds what single tries would find: the address of the highest bump for
which a try succeeds. The search checks the seeds once, leaving room for the bump, and a try checks
them with the bump among them, so both refuse the same seeds.

The run of the search is described from any bump downwards (`Derivation.findBelow_sound`,
`Derivation.findBelow_error`), and hash and test for points are arbitrary.

## Main results

* `Derivation.checkSeeds_cases`: which seeds pass, and what is said of others.
* `Derivation.create_eq_ok_iff`, `Derivation.create_eq_onCurve_iff`: what a single try gives.
* `Derivation.findBelow_sound`, `Derivation.findBelow_error`: what the search has seen when it ends.
* `Derivation.find_settled`: the search against single tries, and each of its errors.
-/

namespace GuardianRelay.Derivation

variable {d : Derivation} {program address : Address} {seeds : List Bytes} {bump : UInt8}

/-! ### Seeds -/

section Seeds

variable {reserved count index length : ℕ}

/-- The seed at a place is longer than seeds may be, and no seed before it is. -/
def IsFirstLong (seeds : List Bytes) (index length : ℕ) : Prop :=
  ∃ h : index < seeds.length, seeds[index].length = length ∧ 32 < length ∧
    ∀ (j : ℕ) (hj : j < index), seeds[j].length ≤ 32

/-- Either no seed is too long, or one is the first. -/
theorem all_short_or_isFirstLong (seeds : List Bytes) :
    (∀ seed ∈ seeds, seed.length ≤ 32) ∨ ∃ index length, IsFirstLong seeds index length := by
  cases hfind : seeds.findIdx? (maxSeedLength < ·.length) with
  | none =>
      left
      intro seed hseed
      have hshort := List.findIdx?_eq_none_iff.mp hfind seed hseed
      exact Nat.not_lt.mp (of_decide_eq_false hshort)
  | some index =>
      right
      obtain ⟨hindex, hlong, hbefore⟩ := List.findIdx?_eq_some_iff_getElem.mp hfind
      refine ⟨index, _, hindex, rfl, of_decide_eq_true hlong, fun j hj => ?_⟩
      have hshort : decide (maxSeedLength < seeds[j].length) ≠ true := hbefore j hj
      exact Nat.not_lt.mp (of_decide_eq_false (Bool.eq_false_iff.mpr hshort))

/-- Too many seeds are refused for their number, whatever they are. -/
theorem checkSeeds_of_many (h : 16 < seeds.length + reserved) :
    checkSeeds seeds reserved = .error (.tooManySeeds seeds.length) := if_pos h

/-- Seeds pass if there are not too many, and none is too long. -/
theorem checkSeeds_of_short (h : seeds.length + reserved ≤ 16)
    (hshort : ∀ seed ∈ seeds, seed.length ≤ 32) : checkSeeds seeds reserved = .ok () := by
  have hfind : seeds.findIdx? (maxSeedLength < ·.length) = none :=
    List.findIdx?_eq_none_iff.mpr fun seed hseed =>
      decide_eq_false (Nat.not_lt.mpr (hshort seed hseed))
  rw [checkSeeds, maxSeeds, if_neg (Nat.not_lt.mpr h), hfind]

/-- If there are not too many seeds, the first that is too long is blamed. -/
theorem checkSeeds_of_isFirstLong (h : seeds.length + reserved ≤ 16)
    (hlong : IsFirstLong seeds index length) :
    checkSeeds seeds reserved = .error (.invalidSeed index length) := by
  obtain ⟨hindex, rfl, hlength, hbefore⟩ := hlong
  have hfind : seeds.findIdx? (maxSeedLength < ·.length) = some index := by
    refine List.findIdx?_eq_some_iff_getElem.mpr ⟨hindex, decide_eq_true hlength, fun j hj => ?_⟩
    rw [decide_eq_true_eq]
    exact Nat.not_lt.mpr (hbefore j hj)
  rw [checkSeeds, maxSeeds, if_neg (Nat.not_lt.mpr h), hfind]
  dsimp only
  rw [List.getD_eq_getElem?_getD, List.getElem?_eq_getElem hindex, Option.getD_some]

/-- What checking seeds ends with: the number of seeds is judged before their lengths. -/
theorem checkSeeds_cases (seeds : List Bytes) (reserved : ℕ) :
    (16 < seeds.length + reserved ∧
      checkSeeds seeds reserved = .error (.tooManySeeds seeds.length)) ∨
    (seeds.length + reserved ≤ 16 ∧ (∀ seed ∈ seeds, seed.length ≤ 32) ∧
      checkSeeds seeds reserved = .ok ()) ∨
    ∃ index length, seeds.length + reserved ≤ 16 ∧ IsFirstLong seeds index length ∧
      checkSeeds seeds reserved = .error (.invalidSeed index length) := by
  rcases Nat.lt_or_ge 16 (seeds.length + reserved) with hmany | hfew
  · exact .inl ⟨hmany, checkSeeds_of_many hmany⟩
  · rcases all_short_or_isFirstLong seeds with hshort | ⟨index, length, hlong⟩
    · exact .inr (.inl ⟨hfew, hshort, checkSeeds_of_short hfew hshort⟩)
    · exact .inr (.inr ⟨index, length, hfew, hlong, checkSeeds_of_isFirstLong hfew hlong⟩)

/-- Seeds pass exactly when there are not too many, and none is too long. -/
theorem checkSeeds_eq_ok_iff :
    checkSeeds seeds reserved = .ok () ↔
      seeds.length + reserved ≤ 16 ∧ ∀ seed ∈ seeds, seed.length ≤ 32 := by
  refine ⟨fun h => ?_, fun ⟨hfew, hshort⟩ => checkSeeds_of_short hfew hshort⟩
  obtain ⟨-, herror⟩ | ⟨hfew, hshort, -⟩ | ⟨_, _, -, -, herror⟩ := checkSeeds_cases seeds reserved
  · cases h.symm.trans herror
  · exact ⟨hfew, hshort⟩
  · cases h.symm.trans herror

/-- Too many seeds are counted exactly when there are too many. -/
theorem checkSeeds_eq_tooManySeeds_iff :
    checkSeeds seeds reserved = .error (.tooManySeeds count) ↔
      16 < seeds.length + reserved ∧ count = seeds.length := by
  refine ⟨fun h => ?_, fun ⟨hmany, hcount⟩ => hcount ▸ checkSeeds_of_many hmany⟩
  obtain ⟨hmany, herror⟩ | ⟨-, -, hok⟩ | ⟨_, _, -, -, herror⟩ := checkSeeds_cases seeds reserved
  · exact ⟨hmany, DeriveError.tooManySeeds.inj (Except.error.inj (h.symm.trans herror))⟩
  · cases h.symm.trans hok
  · cases h.symm.trans herror

/-- A seed is blamed exactly when it is the first that is too long of not too many. -/
theorem checkSeeds_eq_invalidSeed_iff :
    checkSeeds seeds reserved = .error (.invalidSeed index length) ↔
      seeds.length + reserved ≤ 16 ∧ IsFirstLong seeds index length := by
  refine ⟨fun h => ?_, fun ⟨hfew, hlong⟩ => checkSeeds_of_isFirstLong hfew hlong⟩
  obtain ⟨-, herror⟩ | ⟨-, -, hok⟩ | ⟨_, _, hfew, hlong, herror⟩ := checkSeeds_cases seeds reserved
  · cases h.symm.trans herror
  · cases h.symm.trans hok
  · obtain ⟨rfl, rfl⟩ := DeriveError.invalidSeed.inj (Except.error.inj (h.symm.trans herror))
    exact ⟨hfew, hlong⟩

/-- Checking seeds finds no point of the curve, and tries no bump. -/
theorem of_checkSeeds_eq_error {error : DeriveError} (h : checkSeeds seeds reserved = .error error) :
    error ≠ .onCurve ∧ error ≠ .noViableBump := by
  obtain ⟨-, herror⟩ | ⟨-, -, hok⟩ | ⟨_, _, -, -, herror⟩ := checkSeeds_cases seeds reserved
  · obtain rfl := Except.error.inj (h.symm.trans herror)
    simp
  · cases h.symm.trans hok
  · obtain rfl := Except.error.inj (h.symm.trans herror)
    simp

/-- A bump takes the room that was left for it, and is short. -/
theorem checkSeeds_append_bump :
    checkSeeds (seeds ++ [[bump]]) 0 = .ok () ↔ checkSeeds seeds 1 = .ok () := by
  simp [checkSeeds_eq_ok_iff, or_imp, forall_and]

end Seeds

/-! ### Single tries -/

/-- A try gives the hash of seeds that pass, if it is no point. -/
theorem create_eq_ok_iff :
    d.create program seeds = .ok address ↔
      checkSeeds seeds 0 = .ok () ∧ d.candidate program seeds = address ∧
        d.isPoint address.bytes = false := by
  rw [create, Outcome.bind_eq_ok_iff]
  dsimp only
  constructor
  · rintro ⟨⟨⟩, hseeds, h⟩
    by_cases hpoint : d.isPoint (d.candidate program seeds).bytes
    · rw [if_pos hpoint] at h
      contradiction
    · rw [if_neg hpoint] at h
      obtain rfl := Except.ok.inj h
      exact ⟨hseeds, rfl, Bool.eq_false_iff.mpr hpoint⟩
  · rintro ⟨hseeds, rfl, hpoint⟩
    refine ⟨(), hseeds, ?_⟩
    rw [if_neg (Bool.eq_false_iff.mp hpoint)]
    rfl

/-- A try fails on the curve if seeds pass and their hash is a point. -/
theorem create_eq_onCurve_iff :
    d.create program seeds = .error .onCurve ↔
      checkSeeds seeds 0 = .ok () ∧ d.isPoint (d.candidate program seeds).bytes = true := by
  rw [create, Outcome.bind_eq_error_iff]
  dsimp only
  constructor
  · rintro (h | ⟨⟨⟩, hseeds, h⟩)
    · exact absurd rfl (of_checkSeeds_eq_error h).1
    · by_cases hpoint : d.isPoint (d.candidate program seeds).bytes
      · exact ⟨hseeds, hpoint⟩
      · rw [if_neg hpoint] at h
        contradiction
  · rintro ⟨hseeds, hpoint⟩
    refine .inr ⟨(), hseeds, ?_⟩
    rw [if_pos hpoint]
    rfl

/-! ### The search -/

/-- The hash that a bump gives is a point, so the bump gives no address. -/
def Misses (d : Derivation) (program : Address) (seeds : List Bytes) (bump : UInt8) : Prop :=
  d.isPoint (d.candidate program (seeds ++ [[bump]])).bytes = true

/-- The bump gives the address. -/
def Gives (d : Derivation) (program : Address) (seeds : List Bytes) (bump : UInt8)
    (address : Address) : Prop :=
  d.candidate program (seeds ++ [[bump]]) = address ∧ d.isPoint address.bytes = false

/-- A bump that gives an address does not miss. -/
theorem Gives.not_misses (h : d.Gives program seeds bump address) :
    ¬ d.Misses program seeds bump := by
  obtain ⟨rfl, hpoint⟩ := h
  exact Bool.eq_false_iff.mp hpoint

/-- The search goes on below a bump that misses. -/
theorem findBelow_of_misses {bumps : ℕ} (h : d.Misses program seeds (UInt8.ofNat bumps)) :
    d.findBelow program seeds (bumps + 1) = d.findBelow program seeds bumps := if_pos h

/-- The search ends with a bump that does not miss. -/
theorem findBelow_of_not_misses {bumps : ℕ} (h : ¬ d.Misses program seeds (UInt8.ofNat bumps)) :
    d.findBelow program seeds (bumps + 1) =
      .ok (d.candidate program (seeds ++ [[UInt8.ofNat bumps]]), UInt8.ofNat bumps) := if_neg h

/-- The next bump to be tried is the highest of those that are left. -/
theorem eq_ofNat_or_lt {bumps : ℕ} (h : bump.toNat < bumps + 1) :
    bump = UInt8.ofNat bumps ∨ bump.toNat < bumps := by
  rcases Nat.lt_succ_iff_lt_or_eq.mp h with hlt | heq
  · exact .inr hlt
  · left
    rw [← heq, UInt8.ofNat_toNat]

/-- **Soundness.** The bump that is found is one of those that were to be tried, it gives the
address, and all that are higher miss. -/
theorem findBelow_sound {bumps : ℕ} (hbumps : bumps ≤ 256)
    (h : d.findBelow program seeds bumps = .ok (address, bump)) :
    d.Gives program seeds bump address ∧
      ∀ higher, bump < higher → higher.toNat < bumps → d.Misses program seeds higher := by
  induction bumps with
  | zero => contradiction
  | succ bumps ih =>
      by_cases hmisses : d.Misses program seeds (UInt8.ofNat bumps)
      · rw [findBelow_of_misses hmisses] at h
        obtain ⟨hgives, hhigher⟩ := ih (by omega) h
        refine ⟨hgives, fun higher hlt hle => ?_⟩
        rcases eq_ofNat_or_lt hle with rfl | hbelow
        · exact hmisses
        · exact hhigher higher hlt hbelow
      · rw [findBelow_of_not_misses hmisses] at h
        obtain ⟨rfl, rfl⟩ := Prod.mk.inj (Except.ok.inj h)
        refine ⟨⟨rfl, Bool.eq_false_iff.mpr hmisses⟩, fun higher hlt hle => ?_⟩
        -- nothing that was to be tried is higher than the first
        have hfirst : (UInt8.ofNat bumps).toNat = bumps := UInt8.toNat_ofNat_of_lt hbumps
        rw [UInt8.lt_iff_toNat_lt, hfirst] at hlt
        omega

/-- The search ends without an address only because all bumps miss that were to be tried. -/
theorem findBelow_error {bumps : ℕ} {error : DeriveError}
    (h : d.findBelow program seeds bumps = .error error) :
    error = .noViableBump ∧ ∀ bump, bump.toNat < bumps → d.Misses program seeds bump := by
  induction bumps with
  | zero => exact ⟨(Except.error.inj h).symm, fun bump hlt => absurd hlt (Nat.not_lt_zero _)⟩
  | succ bumps ih =>
      by_cases hmisses : d.Misses program seeds (UInt8.ofNat bumps)
      · rw [findBelow_of_misses hmisses] at h
        obtain ⟨herror, hbelow⟩ := ih h
        refine ⟨herror, fun bump hle => ?_⟩
        rcases eq_ofNat_or_lt hle with rfl | hlt
        · exact hmisses
        · exact hbelow bump hlt
      · rw [findBelow_of_not_misses hmisses] at h
        contradiction

/-- Bumps that give addresses, and above which all bumps miss, are the same. -/
theorem Gives.unique {bump' : UInt8} {address' : Address}
    (h : d.Gives program seeds bump address) (h' : d.Gives program seeds bump' address')
    (hhigher : ∀ higher, bump < higher → d.Misses program seeds higher)
    (hhigher' : ∀ higher, bump' < higher → d.Misses program seeds higher) :
    address = address' ∧ bump = bump' := by
  rcases Nat.lt_trichotomy bump.toNat bump'.toNat with hlt | heq | hgt
  · exact absurd (hhigher _ hlt) h'.not_misses
  · obtain rfl := UInt8.toNat_inj.mp heq
    exact ⟨h.1.symm.trans h'.1, rfl⟩
  · exact absurd (hhigher' _ hgt) h.not_misses

/-- The search of all bumps finds the highest that gives an address. -/
theorem findBelow_eq_ok_iff :
    d.findBelow program seeds 256 = .ok (address, bump) ↔
      d.Gives program seeds bump address ∧
        ∀ higher, bump < higher → d.Misses program seeds higher := by
  have hsound {address : Address} {bump : UInt8}
      (h : d.findBelow program seeds 256 = .ok (address, bump)) :
      d.Gives program seeds bump address ∧
        ∀ higher, bump < higher → d.Misses program seeds higher := by
    obtain ⟨hgives, hhigher⟩ := findBelow_sound (Nat.le_refl 256) h
    exact ⟨hgives, fun higher hlt => hhigher higher hlt higher.toNat_lt⟩
  refine ⟨hsound, ?_⟩
  rintro ⟨hgives, hhigher⟩
  cases hfind : d.findBelow program seeds 256 with
  | error error => exact absurd ((findBelow_error hfind).2 bump bump.toNat_lt) hgives.not_misses
  | ok found =>
      obtain ⟨hfound, habove⟩ := hsound hfind
      obtain ⟨haddress, hbump⟩ := hgives.unique hfound hhigher habove
      rw [haddress, hbump]

/-- The search of all bumps fails exactly when all miss. -/
theorem findBelow_eq_error_iff {error : DeriveError} :
    d.findBelow program seeds 256 = .error error ↔
      error = .noViableBump ∧ ∀ bump, d.Misses program seeds bump := by
  constructor
  · intro h
    obtain ⟨herror, hbelow⟩ := findBelow_error h
    exact ⟨herror, fun bump => hbelow bump bump.toNat_lt⟩
  · rintro ⟨rfl, hall⟩
    cases hfind : d.findBelow program seeds 256 with
    | error error => rw [(findBelow_error hfind).1]
    | ok found =>
        obtain ⟨hgives, -⟩ := findBelow_eq_ok_iff.mp hfind
        exact absurd (hall _) hgives.not_misses

/-! ### Seeds and search -/

/-- A try with a bump gives the address that the bump gives to seeds that pass. -/
theorem create_append_eq_ok_iff :
    d.create program (seeds ++ [[bump]]) = .ok address ↔
      checkSeeds seeds 1 = .ok () ∧ d.Gives program seeds bump address := by
  rw [create_eq_ok_iff, checkSeeds_append_bump, Gives]

/-- A try with a bump fails on the curve if the bump misses and the seeds pass. -/
theorem create_append_eq_onCurve_iff :
    d.create program (seeds ++ [[bump]]) = .error .onCurve ↔
      checkSeeds seeds 1 = .ok () ∧ d.Misses program seeds bump := by
  rw [create_eq_onCurve_iff, checkSeeds_append_bump, Misses]

/-- An address is found if the seeds pass and the search finds it. -/
theorem find_eq_ok_iff :
    d.find program seeds = .ok (address, bump) ↔
      checkSeeds seeds 1 = .ok () ∧ d.Gives program seeds bump address ∧
        ∀ higher, bump < higher → d.Misses program seeds higher := by
  rw [find, Outcome.bind_eq_ok_iff, ← findBelow_eq_ok_iff]
  exact ⟨fun ⟨⟨⟩, h⟩ => h, fun h => ⟨(), h⟩⟩

/-- No address is found if the seeds do not pass, or if they pass and all bumps miss. -/
theorem find_eq_error_iff {error : DeriveError} :
    d.find program seeds = .error error ↔
      checkSeeds seeds 1 = .error error ∨
        (checkSeeds seeds 1 = .ok () ∧ error = .noViableBump ∧
          ∀ bump, d.Misses program seeds bump) := by
  rw [find, Outcome.bind_eq_error_iff, ← findBelow_eq_error_iff]
  exact or_congr_right ⟨fun ⟨⟨⟩, h⟩ => h, fun h => ⟨(), h⟩⟩

/-- **The search finds what single tries find**, for every hash and every test for points. It gives
an address and a bump exactly when a try with this bump gives the address and tries with all higher
bumps fail on the curve; the address is then no point. It says that no bump is viable exactly when
the seeds pass and tries with all bumps fail on the curve. It refuses 16 seeds or more for their
number, and of fewer it blames the first that is longer than 32 bytes. It fails in no other way. -/
theorem find_settled (d : Derivation) (program : Address) (seeds : List Bytes) :
    (∀ address bump, d.find program seeds = .ok (address, bump) ↔
      d.create program (seeds ++ [[bump]]) = .ok address ∧
      ∀ higher, bump < higher → d.create program (seeds ++ [[higher]]) = .error .onCurve) ∧
    (∀ address bump, d.find program seeds = .ok (address, bump) →
      d.isPoint address.bytes = false) ∧
    (d.find program seeds = .error .noViableBump ↔
      seeds.length < 16 ∧ (∀ seed ∈ seeds, seed.length ≤ 32) ∧
      ∀ bump, d.create program (seeds ++ [[bump]]) = .error .onCurve) ∧
    (∀ count, d.find program seeds = .error (.tooManySeeds count) ↔
      16 ≤ seeds.length ∧ count = seeds.length) ∧
    (∀ index length, d.find program seeds = .error (.invalidSeed index length) ↔
      seeds.length < 16 ∧ IsFirstLong seeds index length) ∧
    d.find program seeds ≠ .error .onCurve := by
  refine ⟨?_, ?_, ?_, ?_, ?_, ?_⟩
  · intro address bump
    rw [find_eq_ok_iff, create_append_eq_ok_iff, and_assoc]
    refine and_congr_right fun hseeds => and_congr_right fun _ => ?_
    simp only [create_append_eq_onCurve_iff, hseeds, true_and]
  · intro address bump h
    obtain ⟨-, hgives, -⟩ := find_eq_ok_iff.mp h
    exact hgives.2
  · rw [find_eq_error_iff]
    simp only [create_append_eq_onCurve_iff]
    constructor
    · rintro (h | ⟨hseeds, -, hall⟩)
      · exact absurd rfl (of_checkSeeds_eq_error h).2
      · obtain ⟨hfew, hshort⟩ := checkSeeds_eq_ok_iff.mp hseeds
        exact ⟨hfew, hshort, fun bump => ⟨hseeds, hall bump⟩⟩
    · rintro ⟨-, -, hall⟩
      exact .inr ⟨(hall 0).1, trivial, fun bump => (hall bump).2⟩
  · intro count
    rw [find_eq_error_iff, checkSeeds_eq_tooManySeeds_iff, Nat.lt_succ_iff]
    exact or_iff_left fun h => by cases h.2.1
  · intro index length
    rw [find_eq_error_iff, checkSeeds_eq_invalidSeed_iff, Nat.succ_le_iff]
    exact or_iff_left fun h => by cases h.2.1
  · rw [Ne, find_eq_error_iff]
    rintro (h | ⟨-, herror, -⟩)
    · exact (of_checkSeeds_eq_error h).1 rfl
    · cases herror

/-- The highest bump of an emitter is on the curve, the next one is not. Of seeds, sixteen are too
many, and the first of two long ones is blamed. -/
theorem find_settled_emitter :
    (∃ address, standard.find ⟨FixedBytes.ofNat 6⟩ [Bytes.ofText "emitter"] = .ok (address, 254) ∧
      standard.create ⟨FixedBytes.ofNat 6⟩ [Bytes.ofText "emitter", [254]] = .ok address ∧
      standard.create ⟨FixedBytes.ofNat 6⟩ [Bytes.ofText "emitter", [255]] = .error .onCurve ∧
      standard.isPoint address.bytes = false) ∧
    standard.find Address.zero (List.replicate 16 [1]) = .error (.tooManySeeds 16) ∧
    standard.find Address.zero [[1], Bytes.zeros 33, Bytes.zeros 34] =
      .error (.invalidSeed 1 33) := by
  refine ⟨?_, ?_, ?_⟩
  · have hbump : (standard.find ⟨FixedBytes.ofNat 6⟩ [Bytes.ofText "emitter"]).map Prod.snd =
        .ok 254 := by decide +kernel
    obtain ⟨⟨address, bump⟩, hfind, rfl⟩ := Outcome.map_eq_ok_iff.mp hbump
    obtain ⟨hfound, hpoint, -⟩ :=
      find_settled standard ⟨FixedBytes.ofNat 6⟩ [Bytes.ofText "emitter"]
    obtain ⟨hcreate, hhigher⟩ := (hfound _ _).mp hfind
    exact ⟨address, hfind, hcreate, hhigher 255 (by decide), hpoint _ _ hfind⟩
  · obtain ⟨-, -, -, hmany, -, -⟩ := find_settled standard Address.zero (List.replicate 16 [1])
    exact (hmany 16).mpr ⟨by decide, by decide⟩
  · obtain ⟨-, -, -, -, hlong, -⟩ :=
      find_settled standard Address.zero [[1], Bytes.zeros 33, Bytes.zeros 34]
    have hbefore : ∀ j : Fin 1, [[1], Bytes.zeros 33, Bytes.zeros 34][j.val].length ≤ 32 := by
      decide
    exact (hlong 1 33).mpr ⟨by decide, by decide, by decide, by decide,
      fun j hj => hbefore ⟨j, hj⟩⟩

end GuardianRelay.Derivation
