/-
  Converge.Number.Binary64
  ────────────────────────
  **BINARY64 NUMBERS, EXACTLY.**

  A finite number is a sign, a mantissa below 2^53 and an exponent of two at least -1074.  Every
  operation is computed on exact ratios of natural numbers and rounded once, to the nearest
  number and to the even mantissa on a tie, so nothing rests on machine arithmetic.
-/

namespace Converge.Number

/-- A binary64 number. -/
inductive Binary64 where
  /-- The number `mantissa · 2^exponent`, with a sign that zero has too. -/
  | finite (negative : Bool) (mantissa : Nat) (exponent : Int)
  /-- An infinity. -/
  | infinite (negative : Bool)
  /-- Not a number. -/
  | nan
deriving DecidableEq, Repr

namespace Binary64

/-! ## §1. Rounding a ratio. -/

/-- The natural number nearest to `num / den`, the even one of two equally near. -/
def roundHalfEven (num den : Nat) : Nat :=
  let q := num / den
  let r := num % den
  if 2 * r < den then q
  else if den < 2 * r then q + 1
  else if q % 2 = 0 then q else q + 1

/-- The ratio `(num / den) / 2^e`, as numerator and denominator. -/
def scaleDown (num den : Nat) (e : Int) : Nat × Nat :=
  match e with
  | .ofNat k => (num, den * Nat.pow 2 k)
  | .negSucc k => (num * Nat.pow 2 (k + 1), den)

/-- The least exponent. -/
def minExponent : Int := -1074

/-- The greatest exponent. -/
def maxExponent : Int := 971

/-- The exponent at which `num / den` has 53 binary digits before the point, or the least one. -/
def exponentFor (num den : Nat) : Int :=
  let k : Int := (num.log2 : Int) - (den.log2 : Int)
  let (n, d) := scaleDown num den k
  max minExponent (if d ≤ n then k - 52 else k - 53)

/-- The number nearest to `num / den` (`den` positive), with the given sign. -/
def ofRatio (negative : Bool) (num den : Nat) : Binary64 :=
  if num = 0 then .finite negative 0 minExponent
  else
    let e := exponentFor num den
    let (n, d) := scaleDown num den e
    let m := roundHalfEven n d
    -- rounding up may give one digit more
    let (m, e) := if m = Nat.pow 2 53 then (Nat.pow 2 52, e + 1) else (m, e)
    if maxExponent < e then .infinite negative else .finite negative m e

/-- The number nearest to an integer; `none` if that is an infinity. -/
def ofInt? (i : Int) : Option Binary64 :=
  match ofRatio (decide (i < 0)) i.natAbs 1 with
  | .infinite _ => none
  | x => some x

/-! ## §2. Reading a number back as a ratio. -/

/-- The magnitude `m · 2^e` as numerator and denominator. -/
def magnitude (m : Nat) : Int → Nat × Nat
  | .ofNat k => (m * Nat.pow 2 k, 1)
  | .negSucc k => (m, Nat.pow 2 (k + 1))

/-- The integer that a number equals, if it equals one. -/
def toInt? : Binary64 → Option Int
  | .finite negative m e =>
    let (n, d) := magnitude m e
    if n % d = 0 then some (if negative then -((n / d : Nat) : Int) else ((n / d : Nat) : Int))
    else none
  | _ => none

/-- Whether the number is finite. -/
def isFinite : Binary64 → Bool
  | .finite .. => true
  | _ => false

/-- Equality of values: the two zeros are equal, and a number that is none equals nothing. -/
def sameValue : Binary64 → Binary64 → Bool
  | .finite s m e, .finite s' m' e' =>
    if m = 0 then m' == 0
    else
      let (n, d) := magnitude m e
      let (n', d') := magnitude m' e'
      s == s' && n * d' == n' * d
  | .infinite s, .infinite s' => s == s'
  | _, _ => false

/-! ## §3. Arithmetic. -/

/-- The number with the opposite sign. -/
def neg : Binary64 → Binary64
  | .finite s m e => .finite (!s) m e
  | .infinite s => .infinite (!s)
  | .nan => .nan

/-- The product, rounded once. -/
def mul : Binary64 → Binary64 → Binary64
  | .nan, _ => .nan
  | _, .nan => .nan
  | .infinite s, .infinite t => .infinite (s != t)
  | .infinite s, .finite t m _ => if m = 0 then .nan else .infinite (s != t)
  | .finite s m _, .infinite t => if m = 0 then .nan else .infinite (s != t)
  | .finite s m e, .finite t m' e' =>
    let (n, d) := magnitude m e
    let (n', d') := magnitude m' e'
    ofRatio (s != t) (n * n') (d * d')

/-- The sum, rounded once; a sum of zero is negative only if both terms are. -/
def add : Binary64 → Binary64 → Binary64
  | .nan, _ => .nan
  | _, .nan => .nan
  | .infinite s, .infinite t => if s = t then .infinite s else .nan
  | .infinite s, .finite .. => .infinite s
  | .finite .., .infinite t => .infinite t
  | .finite s m e, .finite t m' e' =>
    let (n, d) := magnitude m e
    let (n', d') := magnitude m' e'
    let left : Int := if s then -((n * d' : Nat) : Int) else ((n * d' : Nat) : Int)
    let right : Int := if t then -((n' * d : Nat) : Int) else ((n' * d : Nat) : Int)
    let sum := left + right
    if sum = 0 then .finite (s && t) 0 minExponent
    else ofRatio (decide (sum < 0)) sum.natAbs (d * d')

/-- A rounded quotient differs from the exact one by at most half. -/
theorem roundHalfEven_near (num den : Nat) (h : 0 < den) :
    2 * num ≤ (2 * roundHalfEven num den + 1) * den
      ∧ 2 * (roundHalfEven num den * den) ≤ 2 * num + den := by
  have hd := Nat.div_add_mod num den
  have hm := Nat.mod_lt num h
  unfold roundHalfEven
  generalize hq : num / den = q at *
  generalize hr : num % den = r at *
  have hnum : num = den * q + r := hd.symm
  have hc : den * q = q * den := Nat.mul_comm _ _
  have expand : ∀ k, (2 * k + 1) * den = 2 * (k * den) + den := by
    intro k
    rw [Nat.add_mul, Nat.mul_assoc, Nat.one_mul]
  have step : (q + 1) * den = q * den + den := by rw [Nat.add_mul, Nat.one_mul]
  simp only [expand]
  split
  · omega
  · split
    · rw [step]; omega
    · split
      · omega
      · rw [step]; omega

end Binary64

end Converge.Number
