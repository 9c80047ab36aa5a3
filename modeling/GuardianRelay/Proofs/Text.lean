import GuardianRelay.Text.Integer
import GuardianRelay.Text.Search
import Mathlib.Algebra.Group.Nat.Defs
import Mathlib.Data.List.Infix
import Mathlib.Data.List.TakeDrop
import Mathlib.Data.Nat.Notation
import Mathlib.Tactic.SplitIfs

/-!
# Reading Texts

What is taken apart in a text is what it was put together from: a mark and what follows it, fields
with a comma and a blank between them, and the digits of a number. A number may have a plus sign in
front and any number of zeros; it is read exactly if it has a digit, nothing else, and fits.

## Main results

* `Text.span_append`: where a list is split.
* `Text.after?_eq_some_iff`: what follows a mark.
* `Text.splitComma_eq_iff`: the fields of a text.
* `Integer.parse_eq_ok_iff`: which texts are numbers, and which numbers they are.
-/

namespace GuardianRelay

namespace Text

/-! ### Where texts are split -/

/-- A list stays as it is if its first element is not dropped. -/
theorem dropWhile_eq_self {α : Type} {p : α → Bool} {l : List α} (h : ∀ a ∈ l.head?, p a = false) :
    l.dropWhile p = l := by
  cases l with
  | nil => rfl
  | cons a l => exact List.dropWhile_cons_of_neg (Bool.eq_false_iff.mp (h a rfl))

/-- A list is split before the first element that is not wanted. -/
theorem span_append {α : Type} {p : α → Bool} {front rest : List α}
    (hfront : ∀ a ∈ front, p a = true) (hrest : ∀ a ∈ rest.head?, p a = false) :
    (front ++ rest).span p = (front, rest) := by
  have hnone : rest.takeWhile p = [] := by
    cases rest with
    | nil => rfl
    | cons a rest => exact List.takeWhile_cons_of_neg (Bool.eq_false_iff.mp (hrest a rfl))
  rw [List.span_eq_takeWhile_dropWhile, List.takeWhile_append_of_pos hfront,
    List.dropWhile_append_of_pos hfront, hnone, dropWhile_eq_self hrest, List.append_nil]

/-- A list of which every element is wanted is not split. -/
theorem span_eq_self {α : Type} {p : α → Bool} {l : List α} (h : ∀ a ∈ l, p a = true) :
    l.span p = (l, []) := by
  have hspan : (l ++ []).span p = (l, []) := span_append h nofun
  rwa [List.append_nil] at hspan

/-- Slashes at the end are dropped, all of them. -/
theorem dropEndSlashes_append {s : String} (h : ∀ c ∈ s.toList.getLast?, c ≠ '/') (n : ℕ) :
    dropEndSlashes (s ++ String.ofList (List.replicate n '/')) = s := by
  have hslashes : ∀ c ∈ List.replicate n '/', (c == '/') = true := fun c hc =>
    beq_iff_eq.mpr (List.eq_of_mem_replicate hc)
  rw [dropEndSlashes, String.toList_append, String.toList_ofList, List.reverse_append,
    List.reverse_replicate, List.dropWhile_append_of_pos hslashes, dropWhile_eq_self,
    List.reverse_reverse, String.ofList_toList]
  intro c hc
  rw [List.head?_reverse] at hc
  exact beq_false_of_ne (h c hc)

/-! ### Marks -/

/-- What follows a mark is what is left when the mark is taken away. -/
theorem afterChars?_eq_some_iff {mark cs rest : List Char} :
    afterChars? mark cs = some rest ↔ cs = mark ++ rest := by
  fun_induction afterChars? mark cs with
  | case1 cs => rw [Option.some.injEq, List.nil_append]
  | case2 => simp
  | case3 c mark cs ih => rw [ih, List.cons_append, List.cons.injEq, and_iff_right rfl]
  | case4 m mark c cs hne =>
      rw [List.cons_append, List.cons.injEq]
      exact iff_of_false nofun fun h => hne h.1.symm

/-- What follows a mark in a text is what is left when the mark is taken away. -/
theorem after?_eq_some_iff {mark s rest : String} :
    after? mark s = some rest ↔ s = mark ++ rest := by
  rw [after?, Option.map_eq_some_iff]
  constructor
  · rintro ⟨cs, hcs, rfl⟩
    rw [afterChars?_eq_some_iff] at hcs
    rw [String.ext_iff, String.toList_append, String.toList_ofList]
    exact hcs
  · rintro rfl
    refine ⟨rest.toList, ?_, String.ofList_toList⟩
    rw [afterChars?_eq_some_iff, String.toList_append]

/-- A text that does not start with a mark has nothing that follows it. -/
theorem after?_eq_none_iff {mark s : String} : after? mark s = none ↔ ∀ rest, s ≠ mark ++ rest := by
  rw [Option.eq_none_iff_forall_ne_some]
  simp only [Ne, after?_eq_some_iff]

/-! ### Fields -/

/-- What stands between two fields. -/
def separator : List Char := [',', ' ']

/-- There is always a field, also in an empty text. -/
theorem splitCommaChars_ne_nil (cs : List Char) : splitCommaChars cs ≠ [] := by
  fun_cases splitCommaChars cs <;> simp

/-- The fields, with separators between them, are the text. -/
theorem intercalate_splitCommaChars (cs : List Char) :
    separator.intercalate (splitCommaChars cs) = cs := by
  fun_induction splitCommaChars cs with
  | case1 => rw [List.intercalate_singleton]
  | case2 cs ih =>
      rw [List.intercalate_cons_of_ne_nil (splitCommaChars_ne_nil cs), ih]
      rfl
  | case3 c cs hne piece pieces heq ih =>
      rw [List.intercalate_cons_cons_left, ← heq, ih]
  | case4 c cs hne heq ih => exact absurd heq (splitCommaChars_ne_nil cs)

/-- A character starts a separator only if a comma and a blank come. -/
theorem separator_prefix_cons_iff {c : Char} {cs : List Char} :
    separator <+: c :: cs ↔ c = ',' ∧ cs.head? = some ' ' := by
  rw [separator, List.cons_prefix_cons, eq_comm]
  refine and_congr_right fun _ => ?_
  cases cs with
  | nil => simp
  | cons d cs => simp [eq_comm]

/-- A separator does not begin in characters of which none is a comma. -/
theorem separator_infix_append_iff {mark cs : List Char} (hmark : ',' ∉ mark) :
    separator <:+: mark ++ cs ↔ separator <:+: cs := by
  induction mark with
  | nil => rw [List.nil_append]
  | cons c mark ih =>
      rw [List.mem_cons, not_or] at hmark
      rw [List.cons_append, List.infix_cons_iff, separator_prefix_cons_iff, ih hmark.2]
      exact or_iff_right fun h => hmark.1 h.1.symm

/-- A character that does not start a separator belongs to the first field. -/
theorem splitCommaChars_cons {c : Char} {cs piece : List Char} {pieces : List (List Char)}
    (hstart : ¬ separator <+: c :: cs) (h : splitCommaChars cs = piece :: pieces) :
    splitCommaChars (c :: cs) = (c :: piece) :: pieces := by
  rw [splitCommaChars, h]
  rintro rest rfl rfl
  exact hstart ⟨rest, rfl⟩

/-- A text begins with its first field. -/
theorem prefix_of_splitCommaChars {cs piece : List Char} {pieces : List (List Char)}
    (h : splitCommaChars cs = piece :: pieces) : piece <+: cs := by
  have hjoin := intercalate_splitCommaChars cs
  rw [h] at hjoin
  cases pieces with
  | nil => rw [← hjoin, List.intercalate_singleton]
  | cons next pieces =>
      rw [← hjoin, List.intercalate_cons_cons, List.append_assoc]
      exact List.prefix_append _ _

/-- In a field there is no separator. -/
theorem not_separator_infix {cs piece : List Char} (h : piece ∈ splitCommaChars cs) :
    ¬ separator <:+: piece := by
  fun_induction splitCommaChars cs generalizing piece with
  | case1 =>
      obtain rfl := List.mem_singleton.mp h
      simp [separator]
  | case2 cs ih =>
      obtain rfl | h := List.mem_cons.mp h
      · simp [separator]
      · exact ih h
  | case3 c cs hne first pieces heq ih =>
      obtain rfl | h := List.mem_cons.mp h
      · rw [List.infix_cons_iff, separator_prefix_cons_iff, not_or]
        refine ⟨?_, ih (heq ▸ List.mem_cons_self)⟩
        -- a separator there would be one in the text
        rintro ⟨rfl, hhead⟩
        obtain ⟨rest, rfl⟩ := List.head?_eq_some_iff.mp hhead
        obtain ⟨later, rfl⟩ := prefix_of_splitCommaChars heq
        exact hne _ rfl rfl
      · exact ih (heq ▸ List.mem_cons_of_mem _ h)
  | case4 c cs hne heq ih => exact absurd heq (splitCommaChars_ne_nil cs)

/-- A text without a separator is one field. -/
theorem splitCommaChars_of_not_infix {piece : List Char} (h : ¬ separator <:+: piece) :
    splitCommaChars piece = [piece] := by
  induction piece with
  | nil => rfl
  | cons c piece ih =>
      rw [List.infix_cons_iff, not_or] at h
      exact splitCommaChars_cons h.1 (ih h.2)

/-- What comes before a separator is a field, if there is no other separator in it. -/
theorem splitCommaChars_append {piece rest : List Char} (h : ¬ separator <:+: piece) :
    splitCommaChars (piece ++ separator ++ rest) = piece :: splitCommaChars rest := by
  induction piece with
  | nil => rfl
  | cons c piece ih =>
      rw [List.infix_cons_iff, not_or] at h
      refine splitCommaChars_cons ?_ (ih h.2)
      rw [separator_prefix_cons_iff] at h ⊢
      rintro ⟨rfl, hhead⟩
      cases piece with
      | nil => simp [separator] at hhead
      | cons d piece => exact h.1 ⟨rfl, hhead⟩

/-- The fields of a text are what it is put together from, with separators between them and in none
of them. -/
theorem splitCommaChars_eq_iff {cs : List Char} {pieces : List (List Char)} :
    splitCommaChars cs = pieces ↔
      pieces ≠ [] ∧ (∀ piece ∈ pieces, ¬ separator <:+: piece) ∧
        cs = separator.intercalate pieces := by
  constructor
  · rintro rfl
    exact ⟨splitCommaChars_ne_nil cs, fun _ => not_separator_infix,
      (intercalate_splitCommaChars cs).symm⟩
  · rintro ⟨hne, hpieces, rfl⟩
    induction pieces with
    | nil => contradiction
    | cons piece pieces ih =>
        obtain ⟨hpiece, hrest⟩ := List.forall_mem_cons.mp hpieces
        cases pieces with
        | nil => rw [List.intercalate_singleton, splitCommaChars_of_not_infix hpiece]
        | cons next pieces =>
            rw [List.intercalate_cons_cons, splitCommaChars_append hpiece,
              ih (List.cons_ne_nil _ _) hrest]

/-- The fields of a text are what it is put together from. -/
theorem splitComma_eq_iff {s : String} {fields : List String} :
    splitComma s = fields ↔
      fields ≠ [] ∧ (∀ field ∈ fields, ¬ separator <:+: field.toList) ∧
        s = ", ".intercalate fields := by
  have hlists : splitComma s = fields ↔ splitCommaChars s.toList = fields.map String.toList := by
    rw [splitComma]
    constructor
    · rintro rfl
      simp
    · intro h
      rw [h]
      simp
  have htext : s = ", ".intercalate fields ↔
      s.toList = separator.intercalate (fields.map String.toList) := by
    rw [String.ext_iff, String.toList_intercalate]
    rfl
  rw [hlists, splitCommaChars_eq_iff, htext, List.forall_mem_map]
  simp

/-- What comes before a comma and a blank is a field, if there is no other separator in it. -/
theorem splitComma_append {field : String} (h : ¬ separator <:+: field.toList) (rest : String) :
    splitComma (field ++ ", " ++ rest) = field :: splitComma rest := by
  have hchars : (field ++ ", " ++ rest).toList = field.toList ++ separator ++ rest.toList := by
    rw [String.toList_append, String.toList_append]
    rfl
  rw [splitComma, hchars, splitCommaChars_append h, List.map_cons, String.ofList_toList, splitComma]

end Text

/-! ### Numbers -/

namespace Integer

/-- The digits are those of a number, with any number of zeros in front. -/
structure IsDecimal (digits : List Char) (n : ℕ) : Prop where
  /-- There is a digit. -/
  ne_nil : digits ≠ []
  /-- There is nothing else. -/
  isDigit : ∀ c ∈ digits, c.isDigit = true
  /-- The number is theirs. -/
  value : Nat.ofDigitChars 10 digits 0 = n

/-- A character is a digit if it is between the first and the last. -/
theorem isDigit_iff {c : Char} : c.isDigit = true ↔ '0' ≤ c ∧ c ≤ '9' := by
  rw [Char.isDigit, Bool.and_eq_true, decide_eq_true_eq, decide_eq_true_eq]
  rfl

/-- The decimal digits, and what they are worth. -/
theorem digit?_ten_eq_some_iff {c : Char} {v : ℕ} :
    digit? 10 c = some v ↔ c.isDigit = true ∧ c.toNat - '0'.toNat = v := by
  have hletter (low offset : ℕ) (hlow : offset + 10 ≤ low) (hc : low ≤ c.toNat) :
      (some (c.toNat - offset)).filter (· < 10) = none := by
    simp only [Option.filter_eq_none_iff, Option.some.injEq, forall_eq', decide_eq_true_eq]
    omega
  rw [digit?, isDigit_iff]
  split_ifs with hten hlower hupper
  · have hlast : c.toNat ≤ 57 := hten.2
    have hvalue : c.toNat - 48 < 10 := by omega
    rw [Option.filter_some, if_pos (decide_eq_true hvalue), and_iff_right hten, Option.some.injEq]
    rfl
  · rw [hletter 97 87 (by decide) hlower.1]
    exact iff_of_false nofun fun h => hten h.1
  · rw [hletter 65 55 (by decide) hupper.1]
    exact iff_of_false nofun fun h => hten h.1
  · exact iff_of_false nofun fun h => hten h.1

variable {radix bound acc n : ℕ} {cs : List Char}

/-- The number that digits make behind those that made `acc`, however large it is. -/
def number? (radix acc : ℕ) : List Char → Option ℕ
  | [] => some acc
  | c :: cs => (digit? radix c).bind fun v => number? radix (acc * radix + v) cs

/-- Digits make a number at least as large as what comes before them. -/
theorem le_of_number? (hradix : 0 < radix) (h : number? radix acc cs = some n) : acc ≤ n := by
  induction cs generalizing acc with
  | nil => exact (Option.some.inj h).le
  | cons c cs ih =>
      obtain ⟨v, -, h⟩ := Option.bind_eq_some_iff.mp h
      calc acc ≤ acc * radix := Nat.le_mul_of_pos_right acc hradix
        _ ≤ acc * radix + v := Nat.le_add_right _ v
        _ ≤ n := ih h

/-- Digits are read if there is nothing else and their number stays below the bound. -/
theorem digits_eq_ok_iff (hradix : 0 < radix) (hacc : acc < bound) :
    digits radix bound acc cs = .ok n ↔ number? radix acc cs = some n ∧ n < bound := by
  induction cs generalizing acc with
  | nil =>
      rw [digits, number?, Except.ok.injEq, Option.some.injEq]
      exact ⟨fun h => ⟨h, h ▸ hacc⟩, And.left⟩
  | cons c cs ih =>
      rw [digits, number?]
      cases digit? radix c with
      | none => exact iff_of_false nofun nofun
      | some v =>
          dsimp only [Option.bind_some]
          split
          next hlarge =>
            refine iff_of_false nofun fun h => ?_
            exact absurd (le_of_number? hradix h.1) (by omega)
          next hsmall => exact ih (Nat.lt_of_not_le hsmall)

/-- A plus sign is no digit. -/
theorem number?_plus (radix acc : ℕ) (cs : List Char) : number? radix acc ('+' :: cs) = none := rfl

/-- Which characters are those of a number: digits, of which there is one at least, behind a plus
sign or nothing, if the number fits. -/
theorem parseChars_eq_ok_iff {bits : ℕ} (hradix : 0 < radix) :
    parseChars radix bits cs = .ok n ↔
      ∃ digits, (cs = digits ∨ cs = '+' :: digits) ∧ digits ≠ [] ∧
        number? radix 0 digits = some n ∧ n < 2 ^ bits := by
  have hbound : 0 < Nat.pow 2 bits := Nat.two_pow_pos bits
  fun_cases parseChars radix bits cs with
  | case1 =>
      refine iff_of_false nofun ?_
      rintro ⟨_, rfl | h, hne, -⟩
      · exact hne rfl
      · contradiction
  | case2 =>
      refine iff_of_false nofun ?_
      rintro ⟨_, rfl | h, hne, hnumber, -⟩
      · rw [number?_plus] at hnumber
        contradiction
      · exact hne (List.cons.inj h).2.symm
  | case3 rest hne =>
      rw [digits_eq_ok_iff hradix hbound]
      constructor
      · exact fun h => ⟨rest, .inr rfl, hne, h⟩
      · rintro ⟨_, rfl | h, -, hnumber, hlt⟩
        · rw [number?_plus] at hnumber
          contradiction
        · obtain rfl := (List.cons.inj h).2
          exact ⟨hnumber, hlt⟩
  | case4 _ hne _ hplus =>
      rw [digits_eq_ok_iff hradix hbound]
      constructor
      · exact fun h => ⟨cs, .inl rfl, hne, h⟩
      · rintro ⟨_, rfl | h, -, hnumber⟩
        · exact hnumber
        · exact absurd h (hplus _)

/-- Decimal digits make the number that they are known to make. -/
theorem number?_ten_eq_some_iff :
    number? 10 acc cs = some n ↔
      (∀ c ∈ cs, c.isDigit = true) ∧ Nat.ofDigitChars 10 cs acc = n := by
  induction cs generalizing acc with
  | nil => simp [number?]
  | cons c cs ih =>
      rw [number?, List.forall_mem_cons, Nat.ofDigitChars_cons, Nat.mul_comm 10 acc]
      cases hdigit : digit? 10 c with
      | none =>
          refine iff_of_false nofun fun h => ?_
          rw [digit?_ten_eq_some_iff.mpr ⟨h.1.1, rfl⟩] at hdigit
          contradiction
      | some v =>
          obtain ⟨hc, rfl⟩ := digit?_ten_eq_some_iff.mp hdigit
          rw [Option.bind_some, ih, and_iff_right hc]

/-- The digits of a number are those that make it, if there is one. -/
theorem isDecimal_iff : IsDecimal cs n ↔ cs ≠ [] ∧ number? 10 0 cs = some n := by
  rw [number?_ten_eq_some_iff]
  exact ⟨fun h => ⟨h.ne_nil, h.isDigit, h.value⟩, fun ⟨hne, hdigits, hvalue⟩ =>
    ⟨hne, hdigits, hvalue⟩⟩

/-- **Which texts are numbers.** A text is a number of some bits if it consists of its digits, of
which there is one at least, behind a plus sign or nothing, and if the number fits. -/
theorem parse_eq_ok_iff {bits : ℕ} {s : String} :
    parse bits s = .ok n ↔
      ∃ digits, (s.toList = digits ∨ s.toList = '+' :: digits) ∧ IsDecimal digits n ∧
        n < 2 ^ bits := by
  simp only [parse, parseChars_eq_ok_iff (by decide : 0 < 10), isDecimal_iff, and_assoc]

/-- A number that fits is read from its digits. -/
theorem parse_toDigits {bits : ℕ} (h : n < 2 ^ bits) :
    parse bits (String.ofList (Nat.toDigits 10 n)) = .ok n := by
  rw [parse_eq_ok_iff, String.toList_ofList]
  exact ⟨Nat.toDigits 10 n, .inl rfl, ⟨Nat.toDigits_ne_nil,
    fun c hc => Nat.isDigit_of_mem_toDigits (by decide) (by decide) hc,
    Nat.ofDigitChars_ten_toDigits⟩, h⟩

end Integer

end GuardianRelay
