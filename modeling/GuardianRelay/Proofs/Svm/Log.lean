import GuardianRelay.Proofs.Svm.Publication
import GuardianRelay.Proofs.Text

/-!
# Lines That Tell a Number

The core bridge logs the number of a message that it publishes, in one of two forms: `Sequence: N`,
or `MessagePublished: …, sequence=N, …` with other fields around the number. The chain writes the
line behind a mark, and a line without the mark is read in the same way. In the first form there may
be blanks around the number. In the second form the first field of the name counts, whatever comes
after it; there are no blanks around its number.

This module says what such a line looks like (`Says`, `Tells`), without saying how it is read, and
that exactly these lines are read. So a chain can be described by the lines that it writes. A line
that looks like neither is passed over, and so is everything in a message's line but its number.

## Main results

* `textSequence?_eq_some_iff`: what is read from what a program says.
* `lineSequence?_eq_some_iff`: what is read from a line of a log.
* `exists_tells_of_sequenceOf?`, `sequenceOf?_eq_none_iff`: what is read from a log.
* `says_published_iff`: the number of a message follows its publisher.
* `sequence_of_first_telling`: the first line that tells a number counts, and nothing else does.
-/

namespace GuardianRelay.Svm

variable {line text : String} {n : UInt64}

/-- A text is a number: its digits, behind a plus sign or nothing. -/
def IsNumber (text : String) (n : UInt64) : Prop :=
  ∃ digits, (text.toList = digits ∨ text.toList = '+' :: digits) ∧
    Integer.IsDecimal digits n.toNat

/-- What a program says tells a number. -/
inductive Says : String → UInt64 → Prop
  /-- The number alone. -/
  | sequence {value : String} {n : UInt64} :
      IsNumber (Text.trim value) n →
      Says ("Sequence: " ++ value) n
  /-- The number among other fields, of which none before it has its name. -/
  | published {before after : List String} {value : String} {n : UInt64} :
      (∀ field ∈ before ++ ("sequence=" ++ value) :: after,
        ¬ Text.separator <:+: field.toList) →
      (∀ field ∈ before, ∀ other, field ≠ "sequence=" ++ other) →
      IsNumber value n →
      Says ("MessagePublished: " ++ ", ".intercalate (before ++ ("sequence=" ++ value) :: after)) n

/-- A line of a log tells a number: it is what a program says, with the chain's mark or without. -/
def Tells (line : String) (n : UInt64) : Prop :=
  ∃ text, Says text n ∧ (line = logged text ∨ line = text)

/-! ### What is read -/

/-- The number that is read from a text, if it is one. -/
def number? (text : String) : Option UInt64 := (Integer.parse 64 text).toOption.map UInt64.ofNat

/-- The number that is read from what a program says. -/
def textSequence? (text : String) : Option UInt64 :=
  match Text.after? "Sequence: " text with
  | some value => number? (Text.trim value)
  | none => do
    let fields ← Text.after? "MessagePublished: " text
    let value ← (Text.splitComma fields).findSome? (Text.after? "sequence=")
    number? value

/-- The number of a line is that of what stands behind the mark. -/
theorem lineSequence?_eq : lineSequence? line =
    textSequence? ((Text.after? "Program log: " line).getD line) :=
  rfl

/-- Numbers are read if they fit. -/
theorem number?_eq_some_iff : number? text = some n ↔ IsNumber text n := by
  have hread : number? text = some n ↔ Integer.parse 64 text = .ok n.toNat := by
    rw [number?]
    cases hparse : Integer.parse 64 text with
    | error fault => simp [Except.toOption]
    | ok m =>
        obtain ⟨-, -, -, hlt⟩ := Integer.parse_eq_ok_iff.mp hparse
        simp only [Except.toOption, Option.map_some, Option.some.injEq, Except.ok.injEq]
        constructor
        · rintro rfl
          rw [UInt64.toNat_ofNat', Nat.mod_eq_of_lt hlt]
        · rintro rfl
          exact UInt64.ofNat_toNat
  rw [hread, Integer.parse_eq_ok_iff, IsNumber]
  have hfits : n.toNat < 2 ^ 64 := n.toNat_lt
  simp only [hfits, and_true]

/-- A text in one of the two forms is not in the other, and does not begin with the chain's mark. -/
theorem after?_other (rest : String) :
    Text.after? "Sequence: " ("MessagePublished: " ++ rest) = none ∧
    Text.after? "Program log: " ("Sequence: " ++ rest) = none ∧
    Text.after? "Program log: " ("MessagePublished: " ++ rest) = none := by
  simp [Text.after?, Text.afterChars?]

/-- From what a program says the number is read that it tells. -/
theorem textSequence?_eq_some_iff : textSequence? text = some n ↔ Says text n := by
  constructor
  · intro h
    rw [textSequence?] at h
    split at h
    next value hvalue =>
      obtain rfl := Text.after?_eq_some_iff.mp hvalue
      exact .sequence (number?_eq_some_iff.mp h)
    next =>
      obtain ⟨fields, hfields, h⟩ := Option.bind_eq_some_iff.mp h
      obtain ⟨value, hvalue, hnumber⟩ := Option.bind_eq_some_iff.mp h
      obtain ⟨before, field, after, hsplit, hfield, hbefore⟩ :=
        List.findSome?_eq_some_iff.mp hvalue
      obtain rfl := Text.after?_eq_some_iff.mp hfields
      obtain rfl := Text.after?_eq_some_iff.mp hfield
      obtain ⟨-, hseparated, rfl⟩ := Text.splitComma_eq_iff.mp hsplit
      refine .published hseparated (fun other hother => ?_) (number?_eq_some_iff.mp hnumber)
      exact Text.after?_eq_none_iff.mp (hbefore other hother)
  · rintro (hnumber | ⟨hseparated, hbefore, hnumber⟩)
    · rw [textSequence?, Text.after?_eq_some_iff.mpr rfl]
      exact number?_eq_some_iff.mpr hnumber
    · rw [textSequence?, (after?_other _).1, Text.after?_eq_some_iff.mpr rfl]
      have hsplit := Text.splitComma_eq_iff.mpr
        ⟨List.append_ne_nil_of_right_ne_nil _ (List.cons_ne_nil _ _), hseparated, rfl⟩
      have hfirst := List.findSome?_eq_some_iff.mpr ⟨_, _, _, hsplit,
        Text.after?_eq_some_iff.mpr rfl,
        fun field hfield => Text.after?_eq_none_iff.mpr (hbefore field hfield)⟩
      simp only [Option.bind_eq_bind, Option.bind_some, hfirst]
      exact number?_eq_some_iff.mpr hnumber

/-- What tells a number does not begin with the chain's mark. -/
theorem Says.unmarked (h : Says text n) : Text.after? "Program log: " text = none := by
  cases h with
  | sequence => exact (after?_other _).2.1
  | published => exact (after?_other _).2.2

/-- Behind the chain's mark the number is that of what the program says. -/
theorem lineSequence?_logged : lineSequence? (logged text) = textSequence? text := by
  have hmark : Text.after? "Program log: " (logged text) = some text :=
    Text.after?_eq_some_iff.mpr rfl
  rw [lineSequence?_eq, hmark, Option.getD_some]

/-- Without the chain's mark the number is that of the line itself. -/
theorem lineSequence?_of_unmarked (h : Text.after? "Program log: " line = none) :
    lineSequence? line = textSequence? line := by
  rw [lineSequence?_eq, h, Option.getD_none]

/-- From a line of a log the number is read that it tells. -/
theorem lineSequence?_eq_some_iff : lineSequence? line = some n ↔ Tells line n := by
  constructor
  · intro h
    cases hline : Text.after? "Program log: " line with
    | none =>
        rw [lineSequence?_of_unmarked hline, textSequence?_eq_some_iff] at h
        exact ⟨line, h, .inr rfl⟩
    | some text =>
        obtain rfl : line = logged text := Text.after?_eq_some_iff.mp hline
        rw [lineSequence?_logged, textSequence?_eq_some_iff] at h
        exact ⟨text, h, .inl rfl⟩
  · rintro ⟨text, h, rfl | rfl⟩
    · rwa [lineSequence?_logged, textSequence?_eq_some_iff]
    · rwa [lineSequence?_of_unmarked h.unmarked, textSequence?_eq_some_iff]

/-- The number that is read from a log is told by a line. -/
theorem exists_tells_of_sequenceOf? {lines : List String} (h : sequenceOf? lines = some n) :
    ∃ line ∈ lines, Tells line n := by
  obtain ⟨line, hfirst⟩ := sequenceOf?_eq_some_iff.mp h
  exact ⟨line, hfirst.mem, lineSequence?_eq_some_iff.mp hfirst.tells⟩

/-! ### Which line counts -/

/-- A line tells no number. -/
def Silent (line : String) : Prop := ∀ n, ¬ Tells line n

/-- Nothing is read from a line exactly if it tells no number. -/
theorem lineSequence?_eq_none_iff : lineSequence? line = none ↔ Silent line := by
  rw [Option.eq_none_iff_forall_ne_some]
  exact forall_congr' fun n => not_congr lineSequence?_eq_some_iff

/-- No number is read from a log if no line tells one. -/
theorem sequenceOf?_eq_none_iff {lines : List String} :
    sequenceOf? lines = none ↔ ∀ line ∈ lines, ∀ n, ¬ Tells line n := by
  rw [sequenceOf?, List.findSome?_eq_none_iff]
  exact forall₂_congr fun line _ => lineSequence?_eq_none_iff

/-- A log is read up to its first number. -/
theorem sequenceOf?_append (lines later : List String) :
    sequenceOf? (lines ++ later) = (sequenceOf? lines).or (sequenceOf? later) :=
  List.findSome?_append

/-- Lines that tell no number can be left out. -/
theorem sequenceOf?_append_silent {silent : List String} (h : ∀ line ∈ silent, Silent line)
    (before after : List String) :
    sequenceOf? (before ++ silent ++ after) = sequenceOf? (before ++ after) := by
  simp only [sequenceOf?_append, sequenceOf?_eq_none_iff.mpr h, Option.or_none]

/-- A number is read from a log if a line tells it and no line before that tells one. -/
theorem sequenceOf?_eq_some_iff_tells {lines : List String} :
    sequenceOf? lines = some n ↔ ∃ before line after,
      lines = before ++ line :: after ∧ (∀ other ∈ before, Silent other) ∧ Tells line n := by
  rw [sequenceOf?, List.findSome?_eq_some_iff]
  simp only [lineSequence?_eq_some_iff, lineSequence?_eq_none_iff]
  refine exists₃_congr fun before line after => ?_
  rw [and_congr_right_iff]
  exact fun _ => and_comm

/-! ### What the core bridge says -/

/-- What the core bridge says of a message: who published it, its number, and what comes after that,
which the publisher may choose. -/
def published (emitter value rest : String) : String :=
  "MessagePublished: " ++ ("emitter=" ++ emitter ++ ", " ++ ("sequence=" ++ value ++ ", " ++ rest))

/-- The number of a message follows its publisher, whoever that is and whatever comes after it. -/
theorem says_published_iff {emitter value : String} (rest : String)
    (hemitter : ¬ Text.separator <:+: emitter.toList)
    (hvalue : ¬ Text.separator <:+: value.toList) :
    Says (published emitter value rest) n ↔ IsNumber value n := by
  have hfirst : ¬ Text.separator <:+: ("emitter=" ++ emitter).toList := by
    rwa [String.toList_append, Text.separator_infix_append_iff (by decide)]
  have hsecond : ¬ Text.separator <:+: ("sequence=" ++ value).toList := by
    rwa [String.toList_append, Text.separator_infix_append_iff (by decide)]
  have hother : Text.after? "sequence=" ("emitter=" ++ emitter) = none := by
    simp [Text.after?, Text.afterChars?]
  have hnumber : Text.after? "sequence=" ("sequence=" ++ value) = some value :=
    Text.after?_eq_some_iff.mpr rfl
  have hfield : (Text.splitComma
      ("emitter=" ++ emitter ++ ", " ++ ("sequence=" ++ value ++ ", " ++ rest))).findSome?
        (Text.after? "sequence=") = some value := by
    rw [Text.splitComma_append hfirst, List.findSome?_cons, hother,
      Text.splitComma_append hsecond, List.findSome?_cons, hnumber]
  have hunnumbered : Text.after? "Sequence: " (published emitter value rest) = none :=
    (after?_other _).1
  have hsaid : Text.after? "MessagePublished: " (published emitter value rest) =
      some ("emitter=" ++ emitter ++ ", " ++ ("sequence=" ++ value ++ ", " ++ rest)) :=
    Text.after?_eq_some_iff.mpr rfl
  rw [← textSequence?_eq_some_iff, ← number?_eq_some_iff, textSequence?, hunnumbered, hsaid]
  rw [Option.bind_eq_bind, Option.bind_some, hfield]
  rfl

/-- Behind the chain's mark a line tells what the program says. -/
theorem tells_logged_iff : Tells (logged text) n ↔ Says text n := by
  rw [← lineSequence?_eq_some_iff, lineSequence?_logged, textSequence?_eq_some_iff]

/-- Without the chain's mark a line tells what it says itself. -/
theorem tells_iff_of_unmarked (h : Text.after? "Program log: " line = none) :
    Tells line n ↔ Says line n := by
  rw [← lineSequence?_eq_some_iff, lineSequence?_of_unmarked h, textSequence?_eq_some_iff]

/-- What the core bridge says of a message does not begin with the chain's mark. -/
theorem published_unmarked (emitter value rest : String) :
    Text.after? "Program log: " (published emitter value rest) = none :=
  (after?_other _).2.2

/-- **The number of a log.** It is that of the first line that tells one, and there is none if no
line does. Lines that tell none can be put in or left out anywhere, and what comes after the first
line that tells one changes nothing. In what the core bridge says of a message the number is the one
that follows the publisher, whatever the publisher put into the message. -/
theorem sequence_of_first_telling :
    (∀ lines n, sequenceOf? lines = some n ↔ ∃ before line after,
      lines = before ++ line :: after ∧ (∀ other ∈ before, Silent other) ∧ Tells line n) ∧
    (∀ lines, sequenceOf? lines = none ↔ ∀ line ∈ lines, Silent line) ∧
    (∀ before silent after, (∀ line ∈ silent, Silent line) →
      sequenceOf? (before ++ silent ++ after) = sequenceOf? (before ++ after)) ∧
    (∀ lines later n, sequenceOf? lines = some n → sequenceOf? (lines ++ later) = some n) ∧
    ∀ emitter value rest n,
      ¬ Text.separator <:+: emitter.toList → ¬ Text.separator <:+: value.toList →
      (Tells (published emitter value rest) n ↔ IsNumber value n) ∧
      (Tells (logged (published emitter value rest)) n ↔ IsNumber value n) := by
  refine ⟨fun lines n => sequenceOf?_eq_some_iff_tells, fun lines => sequenceOf?_eq_none_iff,
    fun before silent after h => sequenceOf?_append_silent h before after,
    fun lines later n h => ?_, fun emitter value rest n hemitter hvalue => ?_⟩
  · rw [sequenceOf?_append, h, Option.some_or]
  · rw [tells_iff_of_unmarked (published_unmarked emitter value rest), tells_logged_iff,
      says_published_iff rest hemitter hvalue]
    exact ⟨Iff.rfl, Iff.rfl⟩

/-- A publisher wrote another number into its message, and a line before it is no number. -/
theorem sequence_of_first_telling_forged :
    ¬ Text.separator <:+: "Emit11".toList ∧ ¬ Text.separator <:+: "7".toList ∧ IsNumber "7" 7 ∧
    (∀ line ∈ ["Program log: Sequence: x"], Silent line) ∧
    sequenceOf? ["Program log: Sequence: x",
      logged (published "Emit11" "7" "nonce=0, payload=, sequence=9"), "Sequence: 8"] = some 7 := by
  have hemitter : ¬ Text.separator <:+: "Emit11".toList := by decide +kernel
  have hvalue : ¬ Text.separator <:+: "7".toList := by decide +kernel
  have hnumber : IsNumber "7" 7 := number?_eq_some_iff.mp (by decide +kernel)
  obtain ⟨hsome, hnone, hsilent, hlater, hpublished⟩ := sequence_of_first_telling
  have hline : ∀ line ∈ ["Program log: Sequence: x"], Silent line :=
    (hnone _).mp (by decide +kernel)
  refine ⟨hemitter, hvalue, hnumber, hline, ?_⟩
  refine (hsilent [] _ _ hline).trans (hlater [_] _ _ ((hsome _ _).mpr ⟨[], _, [], rfl, nofun, ?_⟩))
  exact (hpublished "Emit11" "7" _ 7 hemitter hvalue).2.mpr hnumber

end GuardianRelay.Svm
