import Mathlib.Tactic

/-!
# Text fields

Numbers as texts, and texts with a separator between them: hexadecimal numerals of a fixed width,
decimals with a fixed number of places as `str` writes them, and fields that can be told apart
because some of them do not contain the separator.
-/

namespace TextFields

/-- Two fields can be told apart if the second does not contain the separator. -/
theorem separate {α : Type} {separator : α} {front front' back back' : List α}
    (absent : separator ∉ back) (absent' : separator ∉ back')
    (same : front ++ separator :: back = front' ++ separator :: back') :
    front = front' ∧ back = back' := by
  rcases List.append_eq_append_iff.mp same with ⟨between, rest, tail⟩ | ⟨between, rest, tail⟩
  · cases between with
    | nil => exact ⟨by simpa using rest.symm, (List.cons.inj tail).2⟩
    | cons head between =>
        obtain ⟨-, inside⟩ := List.cons.inj tail
        exact absurd (inside ▸ List.mem_append_right between List.mem_cons_self) absent
  · cases between with
    | nil => exact ⟨by simpa using rest, (List.cons.inj tail).2.symm⟩
    | cons head between =>
        obtain ⟨-, inside⟩ := List.cons.inj tail
        exact absurd (inside ▸ List.mem_append_right between List.mem_cons_self) absent'

/-- Two fields can be told apart if the first does not contain the separator. -/
theorem separate_first {α : Type} {separator : α} {front front' back back' : List α}
    (absent : separator ∉ front) (absent' : separator ∉ front')
    (same : front ++ separator :: back = front' ++ separator :: back') :
    front = front' ∧ back = back' := by
  have mirrored : back.reverse ++ separator :: front.reverse =
      back'.reverse ++ separator :: front'.reverse := by
    simpa using congrArg List.reverse same
  obtain ⟨backs, fronts⟩ := separate (by simpa using absent) (by simpa using absent') mirrored
  exact ⟨List.reverse_injective fronts, List.reverse_injective backs⟩

/-- Parts that are free of the separator are determined by the text that joins them. -/
theorem intercalate_inj {α : Type} {separator : α} {parts parts' : List (List α)}
    (clean : ∀ part ∈ parts, separator ∉ part) (clean' : ∀ part ∈ parts', separator ∉ part)
    (some_part : parts ≠ []) (some_part' : parts' ≠ [])
    (same : [separator].intercalate parts = [separator].intercalate parts') : parts = parts' := by
  induction parts generalizing parts' with
  | nil => exact absurd rfl some_part
  | cons part rest induction =>
      obtain ⟨part', rest', rfl⟩ := List.exists_cons_of_ne_nil some_part'
      obtain ⟨free, cleanRest⟩ := List.forall_mem_cons.mp clean
      obtain ⟨free', cleanRest'⟩ := List.forall_mem_cons.mp clean'
      by_cases single : rest = []
      · by_cases single' : rest' = []
        · subst single single'
          simpa using same
        · subst single
          rw [List.intercalate_singleton, List.intercalate_cons_of_ne_nil single'] at same
          exact absurd (same ▸ by simp) free
      · by_cases single' : rest' = []
        · subst single'
          rw [List.intercalate_singleton, List.intercalate_cons_of_ne_nil single] at same
          exact absurd (same ▸ by simp) free'
        · rw [List.intercalate_cons_of_ne_nil single, List.intercalate_cons_of_ne_nil single',
            List.append_assoc, List.append_assoc, List.singleton_append,
            List.singleton_append] at same
          obtain ⟨rfl, rests⟩ := separate_first free free' same
          rw [induction cleanRest cleanRest' single single' rests]

theorem toList_eq_data (bytes : ByteArray) : bytes.toList = bytes.data.toList := by
  have loops : ∀ (i : ℕ) (before : List UInt8), i ≤ bytes.size →
      ByteArray.toList.loop bytes i before = before.reverse ++ bytes.data.toList.drop i := by
    intro i before
    fun_induction ByteArray.toList.loop bytes i before with
    | case1 i before inside induction =>
        intro _
        have get : bytes.data.toList.drop i = bytes.get! i :: bytes.data.toList.drop (i + 1) := by
          rw [List.drop_eq_getElem_cons (by simpa using inside)]
          simp [ByteArray.get!, inside]
        rw [induction inside, get]
        simp
    | case2 i before outside =>
        intro bounded
        rw [List.drop_of_length_le (by simpa using Nat.le_of_not_lt outside)]
        simp
  simpa [ByteArray.toList] using loops 0 [] (Nat.zero_le _)

theorem toUTF8_toList_inj {text text' : String}
    (same : text.toUTF8.toList = text'.toUTF8.toList) : text = text' := by
  rw [toList_eq_data, toList_eq_data] at same
  exact String.toByteArray_inj.mp (ByteArray.ext (Array.toList_inj.mp same))

/-- The last digits of a number in base 16. -/
def hexDigits : ℕ → ℕ → List Char
  | 0, _ => []
  | width + 1, n => hexDigits width (n / 16) ++ [Nat.digitChar (n % 16)]

private theorem digitChar_inj {m n : ℕ} (small : m < 16) (small' : n < 16)
    (same : Nat.digitChar m = Nat.digitChar n) : m = n := by
  have table : ∀ i j : Fin 16, Nat.digitChar i = Nat.digitChar j → i = j := by decide
  exact congrArg Fin.val (table ⟨m, small⟩ ⟨n, small'⟩ same)

theorem hexDigits_inj {width : ℕ} {m n : ℕ} (fits : m < 16 ^ width) (fits' : n < 16 ^ width)
    (same : hexDigits width m = hexDigits width n) : m = n := by
  induction width generalizing m n with
  | zero =>
      rw [pow_zero] at fits fits'
      omega
  | succ width induction =>
      obtain ⟨high, low⟩ := List.append_inj' same rfl
      rw [pow_succ] at fits fits'
      have quotients : m / 16 = n / 16 := induction (by omega) (by omega) high
      have digits : m % 16 = n % 16 :=
        digitChar_inj (Nat.mod_lt _ (by decide)) (Nat.mod_lt _ (by decide))
          (List.singleton_inj.mp low)
      omega

theorem isAlphanum_of_mem_hexDigits {width n : ℕ} {c : Char} (member : c ∈ hexDigits width n) :
    c.isAlphanum := by
  induction width generalizing n with
  | zero => cases member
  | succ width induction =>
      rcases List.mem_append.mp member with high | low
      · exact induction high
      · have table : ∀ i : Fin 16, (Nat.digitChar i).isAlphanum := by decide
        rw [List.mem_singleton.mp low]
        exact table ⟨n % 16, Nat.mod_lt _ (by decide)⟩

/-- `str` of a uuid: its 32 hexadecimal digits in groups of 8, 4, 4, 4 and 12. -/
def uuidStr (id : ℕ) : List Char :=
  let digits := hexDigits 32 id
  digits.take 8 ++ '-' :: (digits.drop 8).take 4 ++ '-' :: (digits.drop 12).take 4 ++
    '-' :: (digits.drop 16).take 4 ++ '-' :: digits.drop 20

/-- The digits are left if the hyphens are removed. -/
theorem filter_uuidStr (id : ℕ) :
    (uuidStr id).filter (fun c => c ≠ '-') = hexDigits 32 id := by
  have digits : ∀ part : List Char, (∀ c ∈ part, c ∈ hexDigits 32 id) →
      part.filter (fun c => c ≠ '-') = part := by
    intro part subset
    apply List.filter_eq_self.mpr
    intro c member
    have alphanum := isAlphanum_of_mem_hexDigits (subset c member)
    apply decide_eq_true
    intro hyphen
    subst hyphen
    exact absurd alphanum (by decide)
  have groups : hexDigits 32 id =
      (hexDigits 32 id).take 8 ++ ((hexDigits 32 id).drop 8).take 4 ++
        ((hexDigits 32 id).drop 12).take 4 ++ ((hexDigits 32 id).drop 16).take 4 ++
        (hexDigits 32 id).drop 20 := by
    have group : ∀ count start : ℕ, (hexDigits 32 id).drop start =
        ((hexDigits 32 id).drop start).take count ++ (hexDigits 32 id).drop (start + count) :=
      fun count start => by rw [← List.drop_drop, List.take_append_drop]
    rw [List.append_assoc, List.append_assoc, List.append_assoc, ← group 4 16, ← group 4 12,
      ← group 4 8, List.take_append_drop]
  rw [uuidStr]
  simp only [List.filter_append, List.filter_cons, ne_eq, not_true_eq_false, decide_false,
    Bool.false_eq_true, if_false]
  rw [digits _ fun c member => List.mem_of_mem_take member,
    digits _ fun c member => List.mem_of_mem_drop (List.mem_of_mem_take member),
    digits _ fun c member => List.mem_of_mem_drop (List.mem_of_mem_take member),
    digits _ fun c member => List.mem_of_mem_drop (List.mem_of_mem_take member),
    digits _ fun c member => List.mem_of_mem_drop member]
  exact groups.symm

theorem uuidStr_inj {m n : ℕ} (fits : m < 2 ^ 128) (fits' : n < 2 ^ 128)
    (same : uuidStr m = uuidStr n) : m = n := by
  have width : (16 : ℕ) ^ 32 = 2 ^ 128 := by norm_num
  have digits : hexDigits 32 m = hexDigits 32 n := by
    rw [← filter_uuidStr, same, filter_uuidStr]
  exact hexDigits_inj (by omega) (by omega) digits

/-- The integer of the coefficient. -/
def intDigits (coefficient : ℤ) : List Char := Nat.toDigits 10 coefficient.natAbs

/-- Digits of the coefficient to the left of the decimal point. -/
def leftDigits (places : ℕ) (coefficient : ℤ) : ℤ := (intDigits coefficient).length - places

/-- Digits to the left of the point in the mantissa, once the exponent is taken out. -/
def dotPlace (places : ℕ) (coefficient : ℤ) : ℤ :=
  if -6 < leftDigits places coefficient then leftDigits places coefficient else 1

/-- The mantissa of `str`. -/
def mantissa (places : ℕ) (coefficient : ℤ) : List Char :=
  let int := intDigits coefficient
  let dot := dotPlace places coefficient
  if dot ≤ 0 then '0' :: '.' :: (List.replicate (-dot).toNat '0' ++ int)
  else if int.length ≤ dot then int ++ List.replicate (dot - int.length).toNat '0'
  else int.take dot.toNat ++ '.' :: int.drop dot.toNat

/-- The exponent of `str`. -/
def exponent (places : ℕ) (coefficient : ℤ) : List Char :=
  let exp := leftDigits places coefficient - dotPlace places coefficient
  if exp = 0 then [] else 'E' :: (if exp < 0 then '-' else '+') :: Nat.toDigits 10 exp.natAbs

/-- `str` of a `Decimal` with a number of decimal places. -/
def decimalStr (places : ℕ) (coefficient : ℤ) : List Char :=
  (if coefficient < 0 then ['-'] else []) ++ (mantissa places coefficient ++
    exponent places coefficient)

example : decimalStr 8 1050000000 = "10.50000000".toList := by decide

example : decimalStr 8 (-12) = "-1.2E-7".toList := by decide

theorem dotPlace_le (places : ℕ) (coefficient : ℤ) :
    dotPlace places coefficient ≤ (intDigits coefficient).length := by
  have positive : 0 < (intDigits coefficient).length := Nat.length_toDigits_pos
  rw [dotPlace]
  split
  · rw [leftDigits]
    omega
  · omega

/-- Without its point the mantissa is the coefficient behind some zeros. -/
theorem filter_mantissa (places : ℕ) (coefficient : ℤ) :
    ∃ zeros, (mantissa places coefficient).filter (fun c => c ≠ '.') =
      List.replicate zeros '0' ++ intDigits coefficient := by
  have digits : ∀ part : List Char, (∀ c ∈ part, c ∈ intDigits coefficient) →
      part.filter (fun c => c ≠ '.') = part := by
    intro part subset
    refine List.filter_eq_self.mpr fun c member => decide_eq_true fun point => ?_
    have digit := Nat.isDigit_of_mem_toDigits (by decide) (by decide) (subset c member)
    rw [point] at digit
    exact absurd digit (by decide)
  have whole := digits (intDigits coefficient) fun _ member => member
  unfold mantissa
  dsimp only
  split
  · refine ⟨(-dotPlace places coefficient).toNat + 1, ?_⟩
    have zeros : ∀ count, (List.replicate count '0').filter (fun c => c ≠ '.') =
        List.replicate count '0' := fun count => List.filter_replicate_of_pos (by decide)
    rw [List.filter_cons_of_pos (by decide), List.filter_cons_of_neg (by decide),
      List.filter_append, zeros, whole, List.replicate_succ, List.cons_append]
  split
  · next above =>
      refine ⟨0, ?_⟩
      have exact_place := le_antisymm (dotPlace_le places coefficient) above
      rw [← exact_place, sub_self, Int.toNat_zero, List.replicate_zero, List.append_nil, whole]
      rfl
  · refine ⟨0, ?_⟩
    rw [List.filter_append, List.filter_cons_of_neg (by decide),
      digits _ fun c member => List.mem_of_mem_take member,
      digits _ fun c member => List.mem_of_mem_drop member, List.take_append_drop]
    rfl

theorem mem_mantissa {places : ℕ} {coefficient : ℤ} {c : Char}
    (member : c ∈ mantissa places coefficient) : c.isDigit ∨ c = '.' := by
  by_cases point : c = '.'
  · exact .inr point
  · obtain ⟨zeros, filtered⟩ := filter_mantissa places coefficient
    have inside : c ∈ List.replicate zeros '0' ++ intDigits coefficient :=
      filtered ▸ List.mem_filter.mpr ⟨member, decide_eq_true point⟩
    rcases List.mem_append.mp inside with zero | digit
    · rw [List.eq_of_mem_replicate zero]
      exact .inl (by decide)
    · exact .inl (Nat.isDigit_of_mem_toDigits (by decide) (by decide) digit)

theorem mantissa_ne_nil (places : ℕ) (coefficient : ℤ) : mantissa places coefficient ≠ [] := by
  obtain ⟨zeros, filtered⟩ := filter_mantissa places coefficient
  intro empty
  rw [empty, List.filter_nil, eq_comm, List.append_eq_nil_iff] at filtered
  exact Nat.toDigits_ne_nil filtered.2

theorem natAbs_of_mantissa {places : ℕ} {m n : ℤ}
    (same : mantissa places m = mantissa places n) : m.natAbs = n.natAbs := by
  obtain ⟨zeros, filtered⟩ := filter_mantissa places m
  obtain ⟨zeros', filtered'⟩ := filter_mantissa places n
  have value : ∀ (count : ℕ) (coefficient : ℤ),
      Nat.ofDigitChars 10 (List.replicate count '0' ++ intDigits coefficient) 0 =
        coefficient.natAbs := fun count coefficient => by
    rw [Nat.ofDigitChars_append, Nat.ofDigitChars_replicate_zero, mul_zero, intDigits,
      Nat.ofDigitChars_ten_toDigits]
  rw [← value zeros m, ← filtered, same, filtered', value]

private theorem takeWhile_mantissa (places : ℕ) (coefficient : ℤ) :
    (mantissa places coefficient ++ exponent places coefficient).takeWhile (fun c => c ≠ 'E') =
      mantissa places coefficient := by
  have digits : ∀ c ∈ mantissa places coefficient, decide (c ≠ 'E') = true := by
    intro c member
    apply decide_eq_true
    intro letter
    subst letter
    rcases mem_mantissa member with digit | point
    · exact absurd digit (by decide)
    · exact absurd point (by decide)
  rw [List.takeWhile_append_of_pos digits]
  unfold exponent
  dsimp only
  split
  · rw [List.takeWhile_nil, List.append_nil]
  · rw [List.takeWhile_cons_of_neg (by decide), List.append_nil]

/-- The text of a decimal determines it. -/
theorem decimalStr_inj {places : ℕ} {m n : ℤ} (same : decimalStr places m = decimalStr places n) :
    m = n := by
  have unsigned : ∀ (coefficient : ℤ) (rest : List Char),
      mantissa places coefficient ++ exponent places coefficient ≠ '-' :: rest := by
    intro coefficient rest minus
    cases body : mantissa places coefficient with
    | nil => exact mantissa_ne_nil _ _ body
    | cons head tail =>
        rw [body, List.cons_append] at minus
        have member : '-' ∈ mantissa places coefficient := by
          rw [body, (List.cons.inj minus).1]
          exact List.mem_cons_self
        rcases mem_mantissa member with digit | point
        · exact absurd digit (by decide)
        · exact absurd point (by decide)
  have magnitude : mantissa places m ++ exponent places m =
      mantissa places n ++ exponent places n → m.natAbs = n.natAbs := fun equal => by
    have mantissas : mantissa places m = mantissa places n := by
      rw [← takeWhile_mantissa places m, equal, takeWhile_mantissa]
    exact natAbs_of_mantissa mantissas
  unfold decimalStr at same
  by_cases negative : m < 0 <;> by_cases negative' : n < 0
  · rw [if_pos negative, if_pos negative'] at same
    have equal := magnitude (List.append_cancel_left same)
    omega
  · rw [if_pos negative, if_neg negative'] at same
    exact absurd same.symm (unsigned n _)
  · rw [if_neg negative, if_pos negative'] at same
    exact absurd same (unsigned m _)
  · rw [if_neg negative, if_neg negative'] at same
    have equal := magnitude same
    omega

theorem colon_notMem_uuidStr (id : ℕ) : ':' ∉ uuidStr id := by
  intro member
  have inside : ':' ∈ (uuidStr id).filter fun c => c ≠ '-' :=
    List.mem_filter.mpr ⟨member, by decide⟩
  rw [filter_uuidStr] at inside
  exact absurd (isAlphanum_of_mem_hexDigits inside) (by decide)

theorem colon_notMem_decimalStr (places : ℕ) (coefficient : ℤ) :
    ':' ∉ decimalStr places coefficient := by
  have number : ∀ n, ':' ∉ Nat.toDigits 10 n := fun n member =>
    absurd (Nat.isDigit_of_mem_toDigits (by decide) (by decide) member) (by decide)
  have minus : ':' ∉ if coefficient < 0 then ['-'] else [] := by split <;> decide
  have body : ':' ∉ mantissa places coefficient := fun member => by
    rcases mem_mantissa member with digit | point
    · exact absurd digit (by decide)
    · exact absurd point (by decide)
  have power : ':' ∉ exponent places coefficient := by
    unfold exponent
    dsimp only
    split
    · exact List.not_mem_nil
    · split <;> simp [number]
  simp [decimalStr, minus, body, power]

end TextFields
