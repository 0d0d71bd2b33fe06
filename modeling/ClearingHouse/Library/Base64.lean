import Mathlib.Tactic

/-!
# Base64

Bytes as characters of six bits, in groups of four, and a decoder that passes over characters
outside the alphabet and stops at the padding of a group.
-/

namespace Base64

/-- The character of a value below 64. -/
def charOf (value : ℕ) : Char :=
  if value < 26 then Char.ofNat (65 + value)
  else if value < 52 then Char.ofNat (71 + value)
  else if value < 62 then Char.ofNat (value - 4)
  else if value = 62 then '+'
  else '/'

/-- The value of a character of the alphabet. -/
def valueOf (char : Char) : Option ℕ :=
  if 65 ≤ char.toNat ∧ char.toNat ≤ 90 then some (char.toNat - 65)
  else if 97 ≤ char.toNat ∧ char.toNat ≤ 122 then some (char.toNat - 71)
  else if 48 ≤ char.toNat ∧ char.toNat ≤ 57 then some (char.toNat + 4)
  else if char = '+' then some 62
  else if char = '/' then some 63
  else none

theorem valueOf_charOf {value : ℕ} (small : value < 64) : valueOf (charOf value) = some value := by
  have every : ∀ value < 64, valueOf (charOf value) = some value := by decide
  exact every value small

theorem charOf_ne_pad {value : ℕ} (small : value < 64) : charOf value ≠ '=' := by
  intro same
  have found := valueOf_charOf small
  have missing : valueOf '=' = none := by decide
  rw [same, missing] at found
  exact Option.some_ne_none value found.symm

theorem charOf_ascii {value : ℕ} (small : value < 64) : (charOf value).toNat < 128 := by
  have every : ∀ value < 64, (charOf value).toNat < 128 := by decide
  exact every value small

/-- The characters of a byte string; the last group is padded. -/
def encode : List UInt8 → List Char
  | [] => []
  | [a] => [charOf (a.toNat / 4), charOf (a.toNat % 4 * 16), '=', '=']
  | [a, b] =>
      [charOf (a.toNat / 4), charOf (a.toNat % 4 * 16 + b.toNat / 16),
        charOf (b.toNat % 16 * 4), '=']
  | a :: b :: c :: rest =>
      charOf (a.toNat / 4) :: charOf (a.toNat % 4 * 16 + b.toNat / 16) ::
        charOf (b.toNat % 16 * 4 + c.toNat / 64) :: charOf (c.toNat % 64) :: encode rest

theorem encode_ascii (bytes : List UInt8) : ∀ char ∈ encode bytes, char.toNat < 128 := by
  have pad : '='.toNat < 128 := by decide
  induction bytes using encode.induct with
  | case1 => simp [encode]
  | case2 a =>
      have := a.toNat_lt
      simp only [encode, List.forall_mem_cons]
      exact ⟨charOf_ascii (by omega), charOf_ascii (by omega), pad, pad, by simp⟩
  | case3 a b =>
      have := a.toNat_lt
      have := b.toNat_lt
      simp only [encode, List.forall_mem_cons]
      exact ⟨charOf_ascii (by omega), charOf_ascii (by omega), charOf_ascii (by omega), pad,
        by simp⟩
  | case4 a b c rest induction =>
      have := a.toNat_lt
      have := b.toNat_lt
      have := c.toNat_lt
      simp only [encode, List.forall_mem_cons]
      exact ⟨charOf_ascii (by omega), charOf_ascii (by omega), charOf_ascii (by omega),
        charOf_ascii (by omega), induction⟩

/-- The bytes of characters, from a position in a group, with the bits left over from its last
character and the number of pads since. -/
def decodeFrom (position : Fin 4) (left pads : ℕ) : List Char → Option (List UInt8)
  | [] => if position = 0 then some [] else none
  | char :: rest =>
      if char = '=' then
        if 2 ≤ position.val then
          -- The padding ends the group, and the text.
          if 4 ≤ position.val + (pads + 1) then some []
          else decodeFrom position left (pads + 1) rest
        else decodeFrom position left pads rest
      else
        match valueOf char with
        | none => decodeFrom position left pads rest
        | some value =>
            match position with
            | 0 => decodeFrom 1 value 0 rest
            | 1 => (decodeFrom 2 (value % 16) 0 rest).map
                (UInt8.ofNat (left * 4 + value / 16) :: ·)
            | 2 => (decodeFrom 3 (value % 4) 0 rest).map
                (UInt8.ofNat (left * 16 + value / 4) :: ·)
            | 3 => (decodeFrom 0 0 0 rest).map (UInt8.ofNat (left * 64 + value) :: ·)

/-- The bytes of characters. -/
def decode (chars : List Char) : Option (List UInt8) := decodeFrom 0 0 0 chars

section Steps

variable {left pads value : ℕ} {rest : List Char}

theorem decodeFrom_first (small : value < 64) :
    decodeFrom 0 left pads (charOf value :: rest) = decodeFrom 1 value 0 rest := by
  simp [decodeFrom, charOf_ne_pad small, valueOf_charOf small]

theorem decodeFrom_second (small : value < 64) :
    decodeFrom 1 left pads (charOf value :: rest) =
      (decodeFrom 2 (value % 16) 0 rest).map (UInt8.ofNat (left * 4 + value / 16) :: ·) := by
  simp [decodeFrom, charOf_ne_pad small, valueOf_charOf small]

theorem decodeFrom_third (small : value < 64) :
    decodeFrom 2 left pads (charOf value :: rest) =
      (decodeFrom 3 (value % 4) 0 rest).map (UInt8.ofNat (left * 16 + value / 4) :: ·) := by
  simp [decodeFrom, charOf_ne_pad small, valueOf_charOf small]

theorem decodeFrom_fourth (small : value < 64) :
    decodeFrom 3 left pads (charOf value :: rest) =
      (decodeFrom 0 0 0 rest).map (UInt8.ofNat (left * 64 + value) :: ·) := by
  simp [decodeFrom, charOf_ne_pad small, valueOf_charOf small]

theorem decodeFrom_pad_pad : decodeFrom 2 left 0 ('=' :: '=' :: rest) = some [] := by
  simp [decodeFrom]

theorem decodeFrom_pad : decodeFrom 3 left 0 ('=' :: rest) = some [] := by
  simp [decodeFrom]

end Steps

/-- The first byte of a group. -/
theorem ofNat_first (a : UInt8) (low : ℕ) (small : low < 16) :
    UInt8.ofNat (a.toNat / 4 * 4 + (a.toNat % 4 * 16 + low) / 16) = a := by
  rw [show a.toNat / 4 * 4 + (a.toNat % 4 * 16 + low) / 16 = a.toNat by omega]
  exact UInt8.ofNat_toNat

/-- The second byte of a group. -/
theorem ofNat_second (a b : UInt8) (low : ℕ) (small : low < 4) :
    UInt8.ofNat ((a.toNat % 4 * 16 + b.toNat / 16) % 16 * 16 + (b.toNat % 16 * 4 + low) / 4) =
      b := by
  have := b.toNat_lt
  rw [show (a.toNat % 4 * 16 + b.toNat / 16) % 16 * 16 + (b.toNat % 16 * 4 + low) / 4 = b.toNat by
    omega]
  exact UInt8.ofNat_toNat

/-- The third byte of a group. -/
theorem ofNat_third (b c : UInt8) :
    UInt8.ofNat ((b.toNat % 16 * 4 + c.toNat / 64) % 4 * 64 + c.toNat % 64) = c := by
  have := c.toNat_lt
  rw [show (b.toNat % 16 * 4 + c.toNat / 64) % 4 * 64 + c.toNat % 64 = c.toNat by omega]
  exact UInt8.ofNat_toNat

theorem decode_encode (bytes : List UInt8) : decode (encode bytes) = some bytes := by
  rw [decode]
  induction bytes using encode.induct with
  | case1 => simp [encode, decodeFrom]
  | case2 a =>
      have := a.toNat_lt
      rw [encode, decodeFrom_first (by omega), decodeFrom_second (by omega), decodeFrom_pad_pad]
      simpa using ofNat_first a 0 (by omega)
  | case3 a b =>
      have := a.toNat_lt
      have := b.toNat_lt
      rw [encode, decodeFrom_first (by omega), decodeFrom_second (by omega),
        decodeFrom_third (by omega), decodeFrom_pad, ofNat_first a _ (by omega)]
      simpa using ofNat_second a b 0 (by omega)
  | case4 a b c rest induction =>
      have := a.toNat_lt
      have := b.toNat_lt
      have := c.toNat_lt
      rw [encode, decodeFrom_first (by omega), decodeFrom_second (by omega),
        decodeFrom_third (by omega), decodeFrom_fourth (by omega), induction,
        ofNat_first a _ (by omega), ofNat_second a b _ (by omega), ofNat_third b c]
      simp

/-- The text of a byte string. -/
def b64encode (bytes : List UInt8) : String := String.ofList (encode bytes)

/-- The byte string of a text, which has to be ASCII. -/
def b64decode (text : String) : Option (List UInt8) :=
  if text.toList.all fun char => char.toNat < 128 then decode text.toList else none

@[simp] theorem b64decode_b64encode (bytes : List UInt8) :
    b64decode (b64encode bytes) = some bytes := by
  simp only [b64decode, b64encode, String.toList_ofList]
  rw [if_pos (by simpa using encode_ascii bytes), decode_encode]

end Base64
