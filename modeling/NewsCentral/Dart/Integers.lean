import NewsCentral.Dart.JsonRead

/-
  `int.parse`: the integer in a text.

  White space around the integer is skipped.  Decimal digits
  have to stay in 64 bits; behind `0x` a number of 64 bits
  without a sign is read as a signed one.

  Key definitions include:
    * `Dart.intTryParse` and `Dart.intParse`

  Key theorems include:
    * `Dart.parseDigits_eq_some`
    * `Dart.intTryParse_toString`
-/

------------------------------------------------------------
-- Reading An Integer
------------------------------------------------------------

namespace Dart

/- The number with one more digit of a radix. -/
def putDigit
    (radix n : Nat)
    (c : Char) : Option Nat := do
  let digit ← hexValue c
  if digit < radix then
    some (radix * n + digit)
  else
    none

/- The number that digits of a radix write, if there are. -/
def parseDigits
    (radix : Nat)
    (cs : List Char) : Option Nat :=
  if cs.isEmpty then
    none
  else
    cs.foldlM (putDigit radix) 0

/- A sign and what follows it; `true` is for minus. -/
def readSign : List Char → Bool × List Char
  | '-' :: cs => (true, cs)
  | '+' :: cs => (false, cs)
  | cs => (false, cs)

def decimal
    (minus : Bool)
    (cs : List Char) : Option Int := do
  let n ← parseDigits 10 cs
  let signed : Int := if minus then -n else n
  if isInt64 signed then some signed else none

/- A number that fills 64 bits stands for a negative one. -/
def hexadecimal
    (minus : Bool)
    (cs : List Char) : Option Int := do
  let n ← parseDigits 16 cs
  if minus then
    if n ≤ 2 ^ 63 then some (-n) else none
  else if n < 2 ^ 63 then
    some n
  else if n < 2 ^ 64 then
    some (n - 2 ^ 64)
  else
    none

/- Which digits follow, behind a sign if there is one. -/
def unsigned (minus : Bool) : List Char → Option Int
  | '0' :: 'x' :: cs => hexadecimal minus cs
  | '0' :: 'X' :: cs => hexadecimal minus cs
  | cs => decimal minus cs

def intTryParse (source : String) : Option Int :=
  let read := readSign (trim source).toList
  unsigned read.1 read.2

def intParse (source : String) : Except Thrown Int :=
  match intTryParse source with
  | some n => .ok n
  | none => .error (.error "FormatException" source)

theorem intParse_eq_ok_iff
    {source : String}
    {n : Int} :
    intParse source = .ok n ↔ intTryParse source = some n := by
  unfold intParse
  cases intTryParse source with
  | none => simp
  | some m => simp

end Dart

------------------------------------------------------------
-- Integers As They Print
------------------------------------------------------------

namespace Dart

theorem putDigit_ten
    {c : Char}
    (n : Nat)
    (hDigit : c.isDigit = true) :
    putDigit 10 n c = some (10 * n + (c.toNat - 48)) := by
  rw [Char.isDigit, Bool.and_eq_true, decide_eq_true_eq,
    decide_eq_true_eq] at hDigit
  have hLow : '0' ≤ c := hDigit.1
  have hHigh : c ≤ '9' := hDigit.2
  have hBound : c.toNat ≤ 57 := hDigit.2
  have hValue : hexValue c = some (c.toNat - 48) := by
    rw [hexValue, if_pos ⟨hLow, hHigh⟩]
  unfold putDigit
  rw [hValue, Option.bind_eq_bind, Option.bind_some,
    if_pos (by omega)]

/- Decimal digits write their number. -/
theorem parseDigits_eq_some
    {cs : List Char}
    (hSome : cs ≠ [])
    (hDigits : ∀ c ∈ cs, c.isDigit = true) :
    parseDigits 10 cs = some (Nat.ofDigitChars 10 cs 0) := by
  have hLoop (n : Nat) :
      cs.foldlM (putDigit 10) n =
        some (Nat.ofDigitChars 10 cs n) := by
    clear hSome
    induction cs generalizing n with
    | nil => simp [pure]
    | cons c cs ih =>
        rw [List.forall_mem_cons] at hDigits
        rw [List.foldlM_cons, putDigit_ten n hDigits.1,
          Option.bind_eq_bind, Option.bind_some,
          ih hDigits.2, Nat.ofDigitChars_cons]
        rfl
  rw [parseDigits, if_neg (by simpa using hSome), hLoop]

theorem not_isWhitespace_of_isDigit
    {c : Char}
    (hDigit : c.isDigit = true) :
    isWhitespace c = false := by
  rw [Char.isDigit, Bool.and_eq_true, decide_eq_true_eq,
    decide_eq_true_eq] at hDigit
  have hLow : 48 ≤ c.toNat := hDigit.1
  have hHigh : c.toNat ≤ 57 := hDigit.2
  have hNone : c.isWhitespace = false := by
    rw [← Bool.not_eq_true]
    intro hSpace
    simp only [Char.isWhitespace, Bool.or_eq_true,
      decide_eq_true_eq] at hSpace
    rcases hSpace with ((rfl | rfl) | rfl) | rfl <;>
      simp at hLow
  simp only [isWhitespace, hNone, Bool.false_or,
    List.mem_cons, List.not_mem_nil, or_false]
  simp
  omega

/- A text without white space is trimmed already. -/
theorem trim_eq_self
    {s : String}
    (hNone : ∀ c ∈ s.toList, isWhitespace c = false) :
    trim s = s := by
  have hKeep
      (cs : List Char)
      (hEach : ∀ c ∈ cs, isWhitespace c = false) :
      cs.dropWhile isWhitespace = cs := by
    rw [List.dropWhile_eq_self_iff]
    intro hSome
    simp [hEach _ (List.getElem_mem hSome)]
  unfold trim
  rw [hKeep _ hNone, hKeep, List.reverse_reverse,
    String.ofList_toList]
  intro c hMem
  exact hNone c (List.mem_reverse.mp hMem)

/- Digits are no sign and do not start a number in hex. -/
theorem unsigned_toDigits
    (minus : Bool)
    (n : Nat) :
    unsigned minus (Nat.toDigits 10 n) =
      decimal minus (Nat.toDigits 10 n) := by
  have hDigits := @isDigit_of_mem_toDigits n
  unfold unsigned
  split
  next hHex => simp [hHex] at hDigits
  next hHex => simp [hHex] at hDigits
  next => rfl

theorem readSign_toString
    (n : Int) :
    readSign (toString n).toList =
      (decide (n < 0), Nat.toDigits 10 n.natAbs) := by
  have hDigits := @isDigit_of_mem_toDigits n.natAbs
  rw [← Numeral.text_ofInt]
  by_cases hSign : 0 ≤ n
  · simp only [Numeral.text, Numeral.ofInt, hSign, if_true,
      List.nil_append, List.append_nil]
    unfold readSign
    split
    next hMinus => simp [hMinus] at hDigits
    next hPlus => simp [hPlus] at hDigits
    next => simp [hSign]
  · simp [Numeral.text, Numeral.ofInt, hSign, readSign]
    omega

/- An integer is read back from the text it prints as. -/
theorem intTryParse_toString
    (n : Int) :
    intTryParse (toString n) =
      if isInt64 n then some n else none := by
  have hTrim : trim (toString n) = toString n := by
    apply trim_eq_self
    intro c hMem
    rw [← Numeral.text_ofInt] at hMem
    simp only [Numeral.text, Numeral.ofInt,
      List.append_nil, List.mem_append] at hMem
    rcases hMem with hSign | hDigit
    · split at hSign
      · cases hSign
      · rw [List.mem_singleton.mp hSign]
        decide
    · exact not_isWhitespace_of_isDigit
        (isDigit_of_mem_toDigits c hDigit)
  have hSigned :
      (if n < 0 then -(n.natAbs : Int) else n.natAbs) =
        n := by
    split <;> omega
  simp only [intTryParse, hTrim, readSign_toString,
    unsigned_toDigits, decimal]
  rw [parseDigits_eq_some Nat.toDigits_ne_nil
    isDigit_of_mem_toDigits, Nat.ofDigitChars_ten_toDigits]
  simp only [Option.bind_eq_bind, Option.bind_some,
    decide_eq_true_eq, hSigned]

/- Other integers that are read. -/
example : intTryParse " +0x1F" = some 31 := by decide

example : intTryParse "9223372036854775808" = none := by
  decide

end Dart
