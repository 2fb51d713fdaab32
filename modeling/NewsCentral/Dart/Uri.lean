import Mathlib.Data.List.Infix
import Mathlib.Data.List.TakeWhile

/-
  The scheme and the host of a URL, as `Uri.parse` finds
  them.

  The authority of a URL follows on "://" and ends before
  the path, the query or the fragment.  Its host is between
  the user information and the port.  Schemes and hosts are
  compared in lower case.

  Key definitions include:
    * `Dart.Uri`
    * `Dart.Uri.parse`

  Key theorems include:
    * `Dart.Uri.hostOf_isInfix`
    * `Dart.Uri.parse_authority`
-/

------------------------------------------------------------
-- Lower Case
------------------------------------------------------------

namespace Dart

variable {c x : Char}

/- A letter in lower case, or the same character. -/
theorem toLower_cases
    (x : Char) :
    x.toLower = x ∨ x.toLower.isLower = true := by
  unfold Char.toLower
  split
  next hUpper =>
    right
    have hLow : 65 ≤ x.val.toNat := hUpper.1
    have hHigh : x.val.toNat ≤ 90 := hUpper.2
    have hSum : (x.val + ('a'.val - 'A'.val)).toNat =
        x.val.toNat + 32 := by
      rw [UInt32.toNat_add]
      change (_ + 32) % 4294967296 = _
      omega
    refine Bool.and_eq_true_iff.mpr
      ⟨decide_eq_true ?_, decide_eq_true ?_⟩
    · rw [ge_iff_le, UInt32.le_iff_toNat_le, hSum]
      change 97 ≤ _
      omega
    · rw [UInt32.le_iff_toNat_le, hSum]
      change _ ≤ 122
      omega
  next => exact .inl rfl

theorem toLower_of_isDigit
    (hDigit : c.isDigit = true) :
    c.toLower = c := by
  rcases toLower_cases c with hSame | _
  · exact hSame
  · unfold Char.toLower
    rw [dif_neg]
    rintro ⟨hLow, _⟩
    have hUpper : 65 ≤ c.val.toNat := hLow
    rw [Char.isDigit, Bool.and_eq_true, decide_eq_true_eq,
      decide_eq_true_eq] at hDigit
    have hHigh : c.val.toNat ≤ 57 := hDigit.2
    omega

/- No other character is lowered to one that is no letter. -/
theorem toLower_eq_iff
    (hLetter : c.isLower = false)
    (hSame : c.toLower = c) :
    x.toLower = c ↔ x = c := by
  constructor
  · intro hLower
    rcases toLower_cases x with hEq | hIs
    · exact hEq.symm.trans hLower
    · rw [hLower, hLetter] at hIs
      cases hIs
  · rintro rfl
    exact hSame

end Dart

------------------------------------------------------------
-- Scheme And Host
------------------------------------------------------------

namespace Dart

structure Uri where
  scheme : String
  host : String
deriving DecidableEq

namespace Uri

/- What ends an authority. -/
def endsAuthority (c : Char) : Bool :=
  c = '/' || c = '?' || c = '#'

/- Behind the user information, in front of the port. -/
def hostOf (authority : List Char) : List Char :=
  ((authority.reverse.takeWhile (· ≠ '@')).reverse).takeWhile
    (· ≠ ':')

def lower (text : List Char) : String :=
  String.ofList (text.map Char.toLower)

/- A URL without an authority has no host. -/
def parse (url : List Char) : Option Uri :=
  match url.dropWhile (· ≠ ':') with
  | ':' :: '/' :: '/' :: rest =>
      some
        { scheme := lower (url.takeWhile (· ≠ ':'))
          host :=
            lower
              (hostOf
                (rest.takeWhile fun c => !endsAuthority c)) }
  | _ => none

variable {scheme authority rest : List Char}

theorem hostOf_isInfix
    (authority : List Char) :
    hostOf authority <:+: authority := by
  unfold hostOf
  have hFront :=
    List.takeWhile_prefix (l := authority.reverse)
      fun c => decide (c ≠ '@')
  rw [← List.reverse_suffix, List.reverse_reverse] at hFront
  exact (List.takeWhile_prefix _).isInfix.trans hFront.isInfix

theorem hostOf_eq_self
    (hPlain : ∀ c ∈ authority, c ≠ '@' ∧ c ≠ ':') :
    hostOf authority = authority := by
  unfold hostOf
  have hAt :
      authority.reverse.takeWhile (fun c => decide (c ≠ '@')) =
        authority.reverse := by
    rw [List.takeWhile_eq_self_iff]
    intro c hMem
    exact decide_eq_true (hPlain c (List.mem_reverse.mp hMem)).1
  rw [hAt, List.reverse_reverse, List.takeWhile_eq_self_iff]
  intro c hMem
  exact decide_eq_true (hPlain c hMem).2

/- A scheme, "://", and something that a slash ends. -/
theorem parse_authority
    (hScheme : ∀ c ∈ scheme, c ≠ ':') :
    parse (scheme ++ ':' :: '/' :: '/' ::
        (authority ++ '/' :: rest)) =
      some
        { scheme := lower scheme
          host :=
            lower
              (hostOf
                (authority.takeWhile fun c =>
                  !endsAuthority c)) } := by
  have hAll :
      ∀ c ∈ scheme, decide (c ≠ ':') = true :=
    fun c hMem => decide_eq_true (hScheme c hMem)
  have hDrop :
      (scheme ++ ':' :: '/' :: '/' ::
          (authority ++ '/' :: rest)).dropWhile
        (fun c => decide (c ≠ ':')) =
      ':' :: '/' :: '/' :: (authority ++ '/' :: rest) := by
    rw [List.dropWhile_append_of_pos hAll]
    simp
  have hTake :
      (scheme ++ ':' :: '/' :: '/' ::
          (authority ++ '/' :: rest)).takeWhile
        (fun c => decide (c ≠ ':')) = scheme := by
    rw [List.takeWhile_append_of_pos hAll]
    simp
  have hAuthority :
      (authority ++ '/' :: rest).takeWhile
          (fun c => !endsAuthority c) =
        authority.takeWhile fun c => !endsAuthority c := by
    rw [List.takeWhile_append]
    split
    next hLength =>
      have hSelf :=
        (List.takeWhile_prefix _).eq_of_length hLength
      rw [hSelf]
      simp [endsAuthority]
    next => rfl
  rw [parse, hDrop, hTake]
  change some (Uri.mk _ (lower (hostOf _))) = _
  rw [hAuthority]

end Uri

end Dart
