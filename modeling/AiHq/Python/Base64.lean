import Mathlib

/-!
# Base64

`base64.b64encode`, which loses nothing of the bytes that it encodes.
-/

namespace AiHq

/-- The digits of base64. -/
def base64Digits : List Char :=
  "ABCDEFGHIJKLMNOPQRSTUVWXYZabcdefghijklmnopqrstuvwxyz0123456789+/".toList

def base64Digit (n : ℕ) : Char := base64Digits.getD n '='

/-- Three bytes are four digits; what is left over at the end is padded. -/
def base64Chars : List UInt8 → List Char
  | [] => []
  | [a] => [base64Digit (a.toNat / 4), base64Digit (a.toNat % 4 * 16), '=', '=']
  | [a, b] =>
    [base64Digit (a.toNat / 4), base64Digit (a.toNat % 4 * 16 + b.toNat / 16),
      base64Digit (b.toNat % 16 * 4), '=']
  | a :: b :: c :: bytes =>
    base64Digit (a.toNat / 4) :: base64Digit (a.toNat % 4 * 16 + b.toNat / 16) ::
      base64Digit (b.toNat % 16 * 4 + c.toNat / 64) :: base64Digit (c.toNat % 64) ::
      base64Chars bytes

/-- `base64.b64encode(content).decode("ascii")` -/
def b64encode (content : ByteArray) : String := String.ofList (base64Chars content.data.toList)

def base64Value (c : Char) : ℕ := base64Digits.idxOf c

/-- The bytes of which digits are the encoding. -/
def base64Bytes : List Char → List ℕ
  | w :: x :: y :: z :: cs =>
    let a := base64Value w * 4 + base64Value x / 16
    if y = '=' then [a]
    else
      let b := base64Value x % 16 * 16 + base64Value y / 4
      if z = '=' then [a, b]
      else a :: b :: (base64Value y % 4 * 64 + base64Value z) :: base64Bytes cs
  | _ => []

lemma base64Value_base64Digit {n : ℕ} (hn : n < 64) : base64Value (base64Digit n) = n := by
  have hall : ∀ n < 64, base64Value (base64Digit n) = n := by decide +kernel
  exact hall n hn

lemma base64Digit_ne {n : ℕ} (hn : n < 64) : base64Digit n ≠ '=' := by
  have hall : ∀ n < 64, base64Digit n ≠ '=' := by decide +kernel
  exact hall n hn

lemma base64Bytes_base64Chars (bytes : List UInt8) :
    base64Bytes (base64Chars bytes) = bytes.map UInt8.toNat := by
  induction bytes using base64Chars.induct with
  | case1 => rfl
  | case2 a =>
    have ha := a.toNat_lt
    simp only [base64Chars, base64Bytes, if_true, List.map_cons, List.map_nil, List.cons.injEq,
      and_true]
    rw [base64Value_base64Digit (by omega), base64Value_base64Digit (by omega)]
    omega
  | case3 a b =>
    have ha := a.toNat_lt
    have hb := b.toNat_lt
    simp only [base64Chars, base64Bytes, if_true, if_neg (base64Digit_ne (n := b.toNat % 16 * 4)
      (by omega)), List.map_cons, List.map_nil, List.cons.injEq, and_true]
    rw [base64Value_base64Digit (by omega), base64Value_base64Digit (by omega),
      base64Value_base64Digit (by omega)]
    omega
  | case4 a b c bytes ih =>
    have ha := a.toNat_lt
    have hb := b.toNat_lt
    have hc := c.toNat_lt
    simp only [base64Chars, base64Bytes, ih,
      if_neg (base64Digit_ne (n := b.toNat % 16 * 4 + c.toNat / 64) (by omega)),
      if_neg (base64Digit_ne (n := c.toNat % 64) (by omega)), List.map_cons, List.cons.injEq,
      and_true]
    rw [base64Value_base64Digit (by omega), base64Value_base64Digit (by omega),
      base64Value_base64Digit (by omega), base64Value_base64Digit (by omega)]
    omega

/-- Different contents are encoded differently. -/
lemma b64encode_inj {content content' : ByteArray} (h : b64encode content = b64encode content') :
    content = content' := by
  have hbytes := congrArg base64Bytes (String.ofList_injective h)
  rw [base64Bytes_base64Chars, base64Bytes_base64Chars] at hbytes
  have hlist := List.map_injective_iff.mpr (fun _ _ => UInt8.toNat_inj.mp) hbytes
  cases content
  cases content'
  simpa using hlist

end AiHq
