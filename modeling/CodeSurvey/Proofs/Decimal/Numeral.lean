import CodeSurvey.Decimal.Literal
import Mathlib.Data.List.TakeWhile

/-!
# Texts of numbers

Which texts are numbers is told here by how they are put together: a natural number is one or more
digits, perhaps behind a plus sign, and a decimal is digits with at most one point among them, perhaps
with a sign in front and a power of ten behind.  Infinities and what is not a number have names.

## Main definitions

* `Decimal.IsNatural`: the texts of natural numbers below a bound.
* `Decimal.IsDecimal`: the texts of decimals.

## Main results

* `Decimal.isSome_readNat?_iff`, `Decimal.isSome_readFloat32?_iff`: these are the texts that can be
  read.
-/

namespace CodeSurvey
namespace Decimal

/-! ## Digits -/

/-- Whether characters are digits, of which there is at least one. -/
def IsNumber (cs : List Char) : Prop := cs ≠ [] ∧ ∀ c ∈ cs, isDigit c = true

section Digits

variable {cs digits rest : List Char}

/-- A number is recognized by its being there and by its digits. -/
theorem isNumber_iff : IsNumber cs ↔ (cs.isEmpty || !cs.all isDigit) = false := by
  unfold IsNumber
  rw [Bool.or_eq_false_iff, Bool.not_eq_false', List.all_eq_true, List.isEmpty_eq_false_iff]

/-- Digits end where something else begins. -/
theorem takeWhile_digits (hdigits : ∀ c ∈ digits, isDigit c = true)
    (hrest : ∀ c ∈ rest.head?, isDigit c = false) : (digits ++ rest).takeWhile isDigit = digits := by
  rw [List.takeWhile_append_of_pos hdigits]
  cases rest with
  | nil => simp
  | cons c rest =>
      have hc : isDigit c = false := hrest c rfl
      simp [hc]

/-- Reading digits stops at the first character that is none. -/
theorem dropWhile_digits (hdigits : ∀ c ∈ digits, isDigit c = true)
    (hrest : ∀ c ∈ rest.head?, isDigit c = false) : (digits ++ rest).dropWhile isDigit = rest := by
  rw [List.dropWhile_append_of_pos hdigits]
  cases rest with
  | nil => rfl
  | cons c rest =>
      have hc : isDigit c = false := hrest c rfl
      simp [hc]

/-- Characters begin with digits and go on with something else. -/
theorem exists_digits_append (cs : List Char) :
    ∃ digits rest, cs = digits ++ rest ∧ (∀ c ∈ digits, isDigit c = true) ∧
      ∀ c ∈ rest.head?, isDigit c = false := by
  refine ⟨cs.takeWhile isDigit, cs.dropWhile isDigit, ?_, ?_, ?_⟩
  · rw [List.takeWhile_append_dropWhile]
  · intro c hc
    exact List.mem_takeWhile_imp hc
  · intro c hc
    have hhead := List.head?_dropWhile_not isDigit cs
    rw [Option.mem_def.1 hc] at hhead
    exact hhead

end Digits

/-! ## Signs -/

/-- Whether characters are of some kind, perhaps behind a sign. -/
def IsSigned (kind : List Char → Prop) (cs : List Char) : Prop :=
  ∃ body, kind body ∧ (cs = body ∨ cs = '+' :: body ∨ cs = '-' :: body)

/-- The characters without a sign in front. -/
def unsign : List Char → List Char
  | '+' :: rest => rest
  | '-' :: rest => rest
  | cs => cs

/-- A kind of characters that begins with no sign is looked for behind the sign. -/
theorem isSigned_iff {kind : List Char → Prop}
    (hkind : ∀ c rest, kind (c :: rest) → c ≠ '+' ∧ c ≠ '-') (cs : List Char) :
    IsSigned kind cs ↔ kind (unsign cs) := by
  constructor
  · intro h
    obtain ⟨body, hbody, hcs | hcs | hcs⟩ := h
    · rw [hcs]
      cases body with
      | nil => exact hbody
      | cons c rest =>
          obtain ⟨hplus, hminus⟩ := hkind c rest hbody
          unfold unsign
          split <;> simp_all
    · rw [hcs]
      exact hbody
    · rw [hcs]
      exact hbody
  · intro h
    unfold unsign at h
    split at h
    · exact ⟨_, h, .inr (.inl rfl)⟩
    · exact ⟨_, h, .inr (.inr rfl)⟩
    · exact ⟨_, h, .inl rfl⟩

/-- What is read behind a sign. -/
theorem unsign_eq {cs body : List Char} {negative : Bool}
    (h : (match cs with
      | '+' :: rest => (false, rest)
      | '-' :: rest => (true, rest)
      | cs => (false, cs)) = (negative, body)) : unsign cs = body := by
  unfold unsign
  split <;> simp_all

/-- No digit is a sign. -/
theorem ne_sign_of_isDigit {c : Char} (h : isDigit c = true) : c ≠ '+' ∧ c ≠ '-' := by
  constructor
  · intro hc
    rw [hc] at h
    exact absurd h (by decide)
  · intro hc
    rw [hc] at h
    exact absurd h (by decide)

/-! ## Natural numbers -/

/-- Whether a text is a natural number below a bound. -/
def IsNatural (bound : Nat) (text : String) : Prop :=
  ∃ digits, IsNumber digits ∧ ofDigits digits < bound ∧
    (text.toList = digits ∨ text.toList = '+' :: digits)

/-- The reader of natural numbers accepts exactly those below its bound. -/
theorem isSome_readNat?_iff (bound : Nat) (text : String) :
    (readNat? bound text).isSome = true ↔ IsNatural bound text := by
  -- What is read are the digits behind the sign.
  have hread : ∀ cs, (if (cs.isEmpty || !cs.all isDigit) = true then (none : Option Nat)
      else if ofDigits cs < bound then some (ofDigits cs) else none).isSome = true ↔
        IsNumber cs ∧ ofDigits cs < bound := by
    intro cs
    rw [isNumber_iff]
    by_cases hnone : (cs.isEmpty || !cs.all isDigit) = true
    · rw [if_pos hnone, hnone]
      simp
    · rw [if_neg hnone, Bool.eq_false_iff.2 hnone]
      simp
  unfold readNat? IsNatural
  simp only [hread]
  constructor
  · intro h
    split at h
    · exact ⟨_, h.1, h.2, .inr ‹_›⟩
    · exact ⟨_, h.1, h.2, .inl rfl⟩
  · intro h
    obtain ⟨digits, hnumber, hbound, hplain | hplus⟩ := h
    · rw [hplain]
      cases digits with
      | nil => exact ⟨hnumber, hbound⟩
      | cons c rest =>
          have hsign := (ne_sign_of_isDigit (hnumber.2 c List.mem_cons_self)).1
          split
          · simp_all
          · exact ⟨hnumber, hbound⟩
    · rw [hplus]
      exact ⟨hnumber, hbound⟩

/-! ## Decimals -/

/-- Digits with at most one point among them. -/
inductive IsMantissa : List Char → Prop where
  | whole {digits : List Char} (hdigits : IsNumber digits) : IsMantissa digits
  | pointed {whole fraction : List Char} (hdigits : IsNumber (whole ++ fraction)) :
      IsMantissa (whole ++ '.' :: fraction)

/-- What may stand behind a mantissa: nothing, or a power of ten. -/
inductive IsExponent : List Char → Prop where
  | none : IsExponent []
  | marked {mark : Char} {digits : List Char} (hmark : mark = 'e' ∨ mark = 'E')
      (hdigits : IsSigned IsNumber digits) : IsExponent (mark :: digits)

/-- A mantissa, perhaps with a power of ten behind it. -/
def IsScaled (cs : List Char) : Prop :=
  ∃ mantissa exponent, cs = mantissa ++ exponent ∧ IsMantissa mantissa ∧ IsExponent exponent

/-- The name of an infinity or of what is not a number, in letters of either case. -/
def IsSpecial (cs : List Char) : Prop :=
  String.ofList (cs.map smallLetter) ∈ ["inf", "infinity", "nan"]

/-- Whether a text is a decimal or one of the special names, perhaps behind a sign. -/
def IsDecimal (text : String) : Prop :=
  IsSigned (fun cs => IsSpecial cs ∨ IsScaled cs) text.toList

/-- The reader of exponents accepts exactly numbers, perhaps behind a sign. -/
theorem isSome_readExponent?_iff (cs : List Char) :
    (readExponent? cs).isSome = true ↔ IsSigned IsNumber cs := by
  have hkind : ∀ c rest, IsNumber (c :: rest) → c ≠ '+' ∧ c ≠ '-' := by
    intro c rest h
    exact ne_sign_of_isDigit (h.2 c List.mem_cons_self)
  rw [isSigned_iff hkind, isNumber_iff]
  unfold readExponent?
  split
  rename_i negative digits hsign
  rw [unsign_eq hsign]
  by_cases hnone : (digits.isEmpty || !digits.all isDigit) = true
  · simp [hnone]
  · simp [Bool.eq_false_iff.2 hnone]

/-- What stands behind a mantissa does not continue it. -/
theorem IsExponent.head {cs : List Char} (h : IsExponent cs) :
    ∀ c ∈ cs.head?, isDigit c = false ∧ c ≠ '.' := by
  cases h with
  | none => simp
  | marked hmark hdigits =>
      intro c hc
      cases hc
      cases hmark with
      | inl hsmall => subst hsmall; decide
      | inr hcapital => subst hcapital; decide

section Unsigned

variable {negative : Bool} {cs whole fraction rest : List Char}

/-- What is read of a decimal whose digits have been read. -/
def completed (negative : Bool) (whole fraction rest : List Char) : Option Literal :=
  if whole.isEmpty && fraction.isEmpty then none
  else
    match rest with
    | [] => some ⟨negative, ofDigits (whole ++ fraction), -(fraction.length : Int)⟩
    | c :: tail =>
        if c == 'e' || c == 'E' then
          (readExponent? tail).map fun e =>
            ⟨negative, ofDigits (whole ++ fraction), e - fraction.length⟩
        else none

/-- A decimal is complete if it has a digit and what stands behind it is an exponent. -/
theorem isSome_completed_iff :
    (completed negative whole fraction rest).isSome = true ↔
      whole ++ fraction ≠ [] ∧ IsExponent rest := by
  unfold completed
  by_cases hnone : whole = [] ∧ fraction = []
  · simp [hnone]
  · have hne : (whole.isEmpty && fraction.isEmpty) = false := by
      simpa using hnone
    rw [hne]
    cases rest with
    | nil => simp [IsExponent.none, hnone]
    | cons c tail =>
        have hsome : whole ++ fraction ≠ [] := by
          simpa using hnone
        by_cases hmark : c = 'e' ∨ c = 'E'
        · have htail : IsExponent (c :: tail) ↔ IsSigned IsNumber tail := by
            constructor
            · intro h
              cases h with
              | marked _ hdigits => exact hdigits
            · exact IsExponent.marked hmark
          rw [htail, ← isSome_readExponent?_iff]
          simp [hmark, hsome]
        · have htail : ¬ IsExponent (c :: tail) := by
            intro h
            cases h with
            | marked hmarked _ => exact hmark hmarked
          simp [hmark, htail]

/-- A decimal without a point. -/
theorem readUnsigned?_whole (hwhole : ∀ c ∈ whole, isDigit c = true)
    (hrest : ∀ c ∈ rest.head?, isDigit c = false ∧ c ≠ '.') :
    readUnsigned? negative (whole ++ rest) = completed negative whole [] rest := by
  have hdigit : ∀ c ∈ rest.head?, isDigit c = false := fun c hc => (hrest c hc).1
  unfold readUnsigned? completed
  simp only [takeWhile_digits hwhole hdigit, dropWhile_digits hwhole hdigit]
  cases rest with
  | nil => rfl
  | cons c tail =>
      have hpoint : c ≠ '.' := (hrest c rfl).2
      simp [hpoint]

/-- A decimal with a point. -/
theorem readUnsigned?_pointed (hwhole : ∀ c ∈ whole, isDigit c = true)
    (hfraction : ∀ c ∈ fraction, isDigit c = true)
    (hrest : ∀ c ∈ rest.head?, isDigit c = false) :
    readUnsigned? negative (whole ++ '.' :: (fraction ++ rest)) =
      completed negative whole fraction rest := by
  have hpoint : ∀ c ∈ ('.' :: (fraction ++ rest)).head?, isDigit c = false := by
    intro c hc
    cases hc
    decide
  unfold readUnsigned?
  simp only [takeWhile_digits hwhole hpoint, dropWhile_digits hwhole hpoint,
    takeWhile_digits hfraction hrest, dropWhile_digits hfraction hrest]
  rfl

/-- The reader of unsigned decimals accepts exactly a mantissa, perhaps with a power of ten. -/
theorem isSome_readUnsigned?_iff (negative : Bool) (cs : List Char) :
    (readUnsigned? negative cs).isSome = true ↔ IsScaled cs := by
  constructor
  · intro h
    obtain ⟨whole, after, rfl, hwhole, hafter⟩ := exists_digits_append cs
    by_cases hpoint : ∃ tail, after = '.' :: tail
    · obtain ⟨tail, rfl⟩ := hpoint
      obtain ⟨fraction, rest, rfl, hfraction, hrest⟩ := exists_digits_append tail
      rw [readUnsigned?_pointed hwhole hfraction hrest, isSome_completed_iff] at h
      refine ⟨whole ++ '.' :: fraction, rest, by simp, .pointed ⟨h.1, ?_⟩, h.2⟩
      exact List.forall_mem_append.2 ⟨hwhole, hfraction⟩
    · have hhead : ∀ c ∈ after.head?, isDigit c = false ∧ c ≠ '.' := by
        intro c hc
        refine ⟨hafter c hc, ?_⟩
        intro hdot
        obtain ⟨tail, htail⟩ := List.head?_eq_some_iff.1 hc
        exact hpoint ⟨tail, hdot ▸ htail⟩
      rw [readUnsigned?_whole hwhole hhead, isSome_completed_iff, List.append_nil] at h
      exact ⟨whole, after, rfl, .whole ⟨h.1, hwhole⟩, h.2⟩
  · intro h
    obtain ⟨mantissa, exponent, rfl, hmantissa, hexponent⟩ := h
    cases hmantissa with
    | whole hdigits =>
        rw [readUnsigned?_whole hdigits.2 hexponent.head, isSome_completed_iff, List.append_nil]
        exact ⟨hdigits.1, hexponent⟩
    | pointed hdigits =>
        obtain ⟨hwhole, hfraction⟩ := List.forall_mem_append.1 hdigits.2
        rw [List.append_assoc, List.cons_append,
          readUnsigned?_pointed hwhole hfraction fun c hc => (hexponent.head c hc).1,
          isSome_completed_iff]
        exact ⟨hdigits.1, hexponent⟩

end Unsigned

/-! ## What stands behind a sign -/

/-- No special name begins with a sign. -/
theorem IsSpecial.ne_sign {c : Char} {rest : List Char} (h : IsSpecial (c :: rest)) :
    c ≠ '+' ∧ c ≠ '-' := by
  have hnone : ∀ sign, smallLetter sign ∉ ['i', 'n'] → ¬ IsSpecial (sign :: rest) := by
    intro sign hsign hspecial
    unfold IsSpecial at hspecial
    simp only [List.map_cons, List.mem_cons, ← String.toList_inj, String.toList_ofList] at hspecial
    simp_all
  constructor
  · intro hc
    subst hc
    exact hnone '+' (by decide) h
  · intro hc
    subst hc
    exact hnone '-' (by decide) h

/-- No mantissa begins with a sign. -/
theorem IsMantissa.ne_sign {cs : List Char} (h : IsMantissa cs) :
    cs ≠ [] ∧ ∀ c ∈ cs.head?, c ≠ '+' ∧ c ≠ '-' := by
  cases h with
  | whole hdigits =>
      refine ⟨hdigits.1, ?_⟩
      intro c hc
      exact ne_sign_of_isDigit (hdigits.2 c (List.mem_of_mem_head? hc))
  | @pointed whole fraction hdigits =>
      refine ⟨by simp, ?_⟩
      intro c hc
      cases whole with
      | nil =>
          cases hc
          decide
      | cons first others =>
          cases hc
          exact ne_sign_of_isDigit (hdigits.2 _ List.mem_cons_self)

/-- The reader of single-precision numbers accepts exactly the decimals and the special names. -/
theorem isSome_readFloat32?_iff (text : String) :
    (readFloat32? text).isSome = true ↔ IsDecimal text := by
  have hkind : ∀ c rest, IsSpecial (c :: rest) ∨ IsScaled (c :: rest) → c ≠ '+' ∧ c ≠ '-' := by
    intro c rest h
    cases h with
    | inl hspecial => exact hspecial.ne_sign
    | inr hscaled =>
        obtain ⟨mantissa, exponent, hcs, hmantissa, -⟩ := hscaled
        obtain ⟨hne, hhead⟩ := hmantissa.ne_sign
        cases mantissa with
        | nil => exact absurd rfl hne
        | cons first others =>
            rw [List.cons_append, List.cons.injEq] at hcs
            rw [hcs.1]
            exact hhead first rfl
  unfold IsDecimal
  rw [isSigned_iff hkind]
  unfold readFloat32?
  split
  rename_i negative cs hsign
  rw [unsign_eq hsign, ← isSome_readUnsigned?_iff negative]
  unfold IsSpecial
  generalize String.ofList (cs.map smallLetter) = word
  by_cases hinfinite : word = "inf" ∨ word = "infinity"
  · cases hinfinite with
    | inl hword => simp [hword]
    | inr hword => simp [hword]
  · by_cases hnan : word = "nan"
    · simp [hnan]
    · simp_all

end Decimal
end CodeSurvey
