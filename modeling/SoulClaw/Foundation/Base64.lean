import SoulClaw.Foundation.Text

/-! Base64 with the digits for URLs: `base64.urlsafe_b64encode`, and `base64.urlsafe_b64decode` as the lenient decoder of
`binascii` does it, which skips what is no digit and ends at the first complete padding. -/

namespace SoulClaw.Foundation.Base64

def digit (sextet : Nat) : Char :=
  if sextet < 26 then Char.ofNat (65 + sextet)
  else if sextet < 52 then Char.ofNat (71 + sextet)
  else if sextet < 62 then Char.ofNat (sextet - 4)
  else if sextet = 62 then '-'
  else '_'

/-- The two last digits may also be those of plain Base64, which they are translated to. -/
def sextet? (c : Char) : Option Nat :=
  if 65 ≤ c.toNat ∧ c.toNat ≤ 90 then some (c.toNat - 65)
  else if 97 ≤ c.toNat ∧ c.toNat ≤ 122 then some (c.toNat - 71)
  else if 48 ≤ c.toNat ∧ c.toNat ≤ 57 then some (c.toNat + 4)
  else if c = '-' ∨ c = '+' then some 62
  else if c = '_' ∨ c = '/' then some 63
  else none

/-- `base64.urlsafe_b64encode(data)`. -/
def encode : List UInt8 → List Char
  | [] => []
  | [a] => [digit (a.toNat / 4), digit (a.toNat % 4 * 16), '=', '=']
  | [a, b] => [digit (a.toNat / 4), digit (a.toNat % 4 * 16 + b.toNat / 16), digit (b.toNat % 16 * 4), '=']
  | a :: b :: c :: rest =>
      digit (a.toNat / 4) :: digit (a.toNat % 4 * 16 + b.toNat / 16) :: digit (b.toNat % 16 * 4 + c.toNat / 64) ::
        digit (c.toNat % 64) :: encode rest

/-- Where the decoder stands in a group of four digits: how many it has seen, the bits that are left of the last one,
and the signs of padding behind it. -/
structure Group where
  quadPos : Nat := 0
  leftchar : Nat := 0
  pads : Nat := 0

/-- The loop of `binascii.a2b_base64`. -/
def decodeFrom : Group → List Char → Option (List UInt8)
  | group, [] => if group.quadPos = 0 then some [] else none
  | group, c :: rest =>
      if c = '=' then
        if 2 ≤ group.quadPos then
          if 4 ≤ group.quadPos + (group.pads + 1) then some [] else decodeFrom { group with pads := group.pads + 1 } rest
        else decodeFrom group rest
      else
        match sextet? c with
        | none => decodeFrom group rest
        | some value =>
            match group.quadPos with
            | 0 => decodeFrom ⟨1, value, 0⟩ rest
            | 1 => (decodeFrom ⟨2, value % 16, 0⟩ rest).map (UInt8.ofNat (group.leftchar * 4 + value / 16) :: ·)
            | 2 => (decodeFrom ⟨3, value % 4, 0⟩ rest).map (UInt8.ofNat (group.leftchar * 16 + value / 4) :: ·)
            | _ => (decodeFrom ⟨0, 0, 0⟩ rest).map (UInt8.ofNat (group.leftchar * 64 + value) :: ·)

/-- `base64.urlsafe_b64decode(text)`, which raises a `ValueError` where this is `none`. -/
def decode (chars : List Char) : Option (List UInt8) :=
  if chars.all fun c => c.toNat < 0x80 then decodeFrom {} chars else none

/-- `text.rstrip("=")`. -/
def unpad (chars : List Char) : List Char := (chars.reverse.dropWhile fun c => c = '=').reverse

/-- The padding that `"=" * (-len(text) % 4)` puts back. -/
def pad (chars : List Char) : List Char := chars ++ List.replicate ((4 - chars.length % 4) % 4) '='

/-! The digits. -/

theorem sextet?_digit {sextet : Nat} (small : sextet < 64) : sextet? (digit sextet) = some sextet := by
  have checked : ∀ sextet : Fin 64, sextet? (digit sextet.val) = some sextet.val := by decide +kernel
  exact checked ⟨sextet, small⟩

theorem ne_pad_of_sextet {c : Char} (known : (sextet? c).isSome = true) : c ≠ '=' := by
  intro same
  rw [same] at known
  exact absurd known (by decide)

theorem digit_ne_pad {sextet : Nat} (small : sextet < 64) : digit sextet ≠ '=' := by
  apply ne_pad_of_sextet
  rw [sextet?_digit small]
  rfl

theorem ascii_of_sextet {c : Char} (known : (sextet? c).isSome = true) : c.toNat < 0x80 := by
  unfold sextet? at known
  split_ifs at known with capital small number dash line
  · omega
  · omega
  · omega
  · obtain same | same := dash
    · rw [same]; decide
    · rw [same]; decide
  · obtain same | same := line
    · rw [same]; decide
    · rw [same]; decide
  · cases known

/-! One digit at each place of a group. -/

section Steps
variable {value left pads : Nat} {rest : List Char}

theorem decodeFrom_first (small : value < 64) :
    decodeFrom ⟨0, left, pads⟩ (digit value :: rest) = decodeFrom ⟨1, value, 0⟩ rest := by
  rw [decodeFrom, if_neg (digit_ne_pad small), sextet?_digit small]
  rfl

theorem decodeFrom_second (small : value < 64) :
    decodeFrom ⟨1, left, pads⟩ (digit value :: rest) =
      (decodeFrom ⟨2, value % 16, 0⟩ rest).map (UInt8.ofNat (left * 4 + value / 16) :: ·) := by
  rw [decodeFrom, if_neg (digit_ne_pad small), sextet?_digit small]
  rfl

theorem decodeFrom_third (small : value < 64) :
    decodeFrom ⟨2, left, pads⟩ (digit value :: rest) =
      (decodeFrom ⟨3, value % 4, 0⟩ rest).map (UInt8.ofNat (left * 16 + value / 4) :: ·) := by
  rw [decodeFrom, if_neg (digit_ne_pad small), sextet?_digit small]
  rfl

theorem decodeFrom_fourth (small : value < 64) :
    decodeFrom ⟨3, left, pads⟩ (digit value :: rest) =
      (decodeFrom ⟨0, 0, 0⟩ rest).map (UInt8.ofNat (left * 64 + value) :: ·) := by
  rw [decodeFrom, if_neg (digit_ne_pad small), sextet?_digit small]
  rfl

end Steps

/-! What is written is read back. -/

theorem ofNat_eq_of_toNat {value : Nat} {byte : UInt8} (same : value = byte.toNat) : UInt8.ofNat value = byte := by
  rw [same]
  exact UInt8.ofNat_toNat

theorem decodeFrom_encode (data : List UInt8) : decodeFrom ⟨0, 0, 0⟩ (encode data) = some data := by
  induction data using encode.induct with
  | case1 => rfl
  | case2 a =>
    have bound := a.toNat_lt
    have first : UInt8.ofNat (a.toNat / 4 * 4 + a.toNat % 4 * 16 / 16) = a := ofNat_eq_of_toNat (by omega)
    rw [encode, decodeFrom_first (by omega), decodeFrom_second (by omega), first]
    rfl
  | case3 a b =>
    have bound := a.toNat_lt
    have second := b.toNat_lt
    have high : UInt8.ofNat (a.toNat / 4 * 4 + (a.toNat % 4 * 16 + b.toNat / 16) / 16) = a :=
      ofNat_eq_of_toNat (by omega)
    have low : UInt8.ofNat ((a.toNat % 4 * 16 + b.toNat / 16) % 16 * 16 + b.toNat % 16 * 4 / 4) = b :=
      ofNat_eq_of_toNat (by omega)
    rw [encode, decodeFrom_first (by omega), decodeFrom_second (by omega), decodeFrom_third (by omega), high, low]
    rfl
  | case4 a b c rest ih =>
    have bound := a.toNat_lt
    have second := b.toNat_lt
    have third := c.toNat_lt
    have high : UInt8.ofNat (a.toNat / 4 * 4 + (a.toNat % 4 * 16 + b.toNat / 16) / 16) = a :=
      ofNat_eq_of_toNat (by omega)
    have middle : UInt8.ofNat
        ((a.toNat % 4 * 16 + b.toNat / 16) % 16 * 16 + (b.toNat % 16 * 4 + c.toNat / 64) / 4) = b :=
      ofNat_eq_of_toNat (by omega)
    have low : UInt8.ofNat ((b.toNat % 16 * 4 + c.toNat / 64) % 4 * 64 + c.toNat % 64) = c :=
      ofNat_eq_of_toNat (by omega)
    rw [encode, decodeFrom_first (by omega), decodeFrom_second (by omega), decodeFrom_third (by omega),
      decodeFrom_fourth (by omega), ih, high, middle, low]
    rfl

/-- A text of digits and the padding that completes it. -/
theorem encode_shape (data : List UInt8) :
    ∃ digits pads, encode data = digits ++ List.replicate pads '=' ∧ (∀ c ∈ digits, (sextet? c).isSome = true) ∧
      pads < 4 ∧ (digits.length + pads) % 4 = 0 := by
  have written : ∀ value < 64, (sextet? (digit value)).isSome = true := by
    intro value small
    rw [sextet?_digit small]
    rfl
  induction data using encode.induct with
  | case1 => exact ⟨[], 0, rfl, by simp, by omega, rfl⟩
  | case2 a =>
    have bound := a.toNat_lt
    refine ⟨[digit (a.toNat / 4), digit (a.toNat % 4 * 16)], 2, rfl, ?_, by omega, by simp⟩
    simp only [List.forall_mem_cons]
    exact ⟨written _ (by omega), written _ (by omega), by simp⟩
  | case3 a b =>
    have bound := a.toNat_lt
    have second := b.toNat_lt
    refine ⟨[digit (a.toNat / 4), digit (a.toNat % 4 * 16 + b.toNat / 16), digit (b.toNat % 16 * 4)], 1, rfl, ?_,
      by omega, by simp⟩
    simp only [List.forall_mem_cons]
    exact ⟨written _ (by omega), written _ (by omega), written _ (by omega), by simp⟩
  | case4 a b c rest ih =>
    have bound := a.toNat_lt
    have second := b.toNat_lt
    have third := c.toNat_lt
    obtain ⟨digits, pads, shape, known, few, whole⟩ := ih
    refine ⟨digit (a.toNat / 4) :: digit (a.toNat % 4 * 16 + b.toNat / 16) ::
      digit (b.toNat % 16 * 4 + c.toNat / 64) :: digit (c.toNat % 64) :: digits, pads, ?_, ?_, few, ?_⟩
    · rw [encode, shape]
      rfl
    · simp only [List.forall_mem_cons]
      exact ⟨written _ (by omega), written _ (by omega), written _ (by omega), written _ (by omega), known⟩
    · simp only [List.length_cons]
      omega

theorem unpad_append {digits : List Char} (known : ∀ c ∈ digits, (sextet? c).isSome = true) (pads : Nat) :
    unpad (digits ++ List.replicate pads '=') = digits := by
  have signs : ∀ tail : List Char, (List.replicate pads '=' ++ tail).dropWhile (fun c => c = '=') =
      tail.dropWhile fun c => c = '=' := by
    intro tail
    induction pads with
    | zero => rfl
    | succ pads ih => rw [List.replicate_succ, List.cons_append, List.dropWhile_cons_of_pos (by decide), ih]
  have kept : digits.reverse.dropWhile (fun c => c = '=') = digits.reverse := by
    cases shape : digits.reverse with
    | nil => rfl
    | cons c rest =>
      have member : c ∈ digits := List.mem_reverse.1 (by rw [shape]; exact List.mem_cons_self)
      rw [List.dropWhile_cons_of_neg (by simpa using ne_pad_of_sextet (known c member))]
  rw [unpad, List.reverse_append, List.reverse_replicate, signs, kept, List.reverse_reverse]

/-- What is left of an encoded text without its padding is made of digits. -/
theorem sextet_of_unpad {data : List UInt8} {c : Char} (member : c ∈ unpad (encode data)) :
    (sextet? c).isSome = true := by
  obtain ⟨digits, pads, shape, known, -, -⟩ := encode_shape data
  rw [shape, unpad_append known] at member
  exact known c member

theorem pad_unpad_encode (data : List UInt8) : pad (unpad (encode data)) = encode data := by
  obtain ⟨digits, pads, shape, known, few, whole⟩ := encode_shape data
  have completes : (4 - digits.length % 4) % 4 = pads := by omega
  rw [shape, unpad_append known, pad, completes]

theorem ascii_encode (data : List UInt8) : ((encode data).all fun c => c.toNat < 0x80) = true := by
  obtain ⟨digits, pads, shape, known, -, -⟩ := encode_shape data
  rw [shape, List.all_eq_true]
  intro c member
  apply decide_eq_true
  obtain member | member := List.mem_append.1 member
  · exact ascii_of_sextet (known c member)
  · rw [(List.mem_replicate.1 member).2]
    decide

theorem decode_pad_unpad_encode (data : List UInt8) : decode (pad (unpad (encode data))) = some data := by
  rw [pad_unpad_encode, decode, if_pos (ascii_encode data)]
  exact decodeFrom_encode data

end SoulClaw.Foundation.Base64
