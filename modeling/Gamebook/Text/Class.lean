/-!
Classes of characters, by their code points.
-/

namespace Gamebook.Text

/-!
### Spans

A character property is a list of spans in ascending order; membership stops at the first span that
begins above the code.
-/

/-- An inclusive span of code points. -/
abbrev Span := Nat × Nat

/-- Whether a code lies in one of the ascending spans. -/
def inSpans (code : Nat) : List Span → Bool
  | [] => false
  | (first, last) :: rest =>
    if code < first then false else code ≤ last || inSpans code rest

/-!
### Blanks

A blank is every character that separates words. The class is wider than the space, tab and line ends
of plain ASCII; it also holds the separators of information (28 to 31), the no-break spaces and the
spaces of typography.
-/

def isBlank (c : Char) : Bool :=
  let n := c.toNat
  (9 ≤ n && n ≤ 13) || (28 ≤ n && n ≤ 32) || n == 0x85 || n == 0xA0 || n == 0x1680 ||
    (0x2000 ≤ n && n ≤ 0x200A) || n == 0x2028 || n == 0x2029 || n == 0x202F || n == 0x205F ||
    n == 0x3000

/-- Whether a character is white space proper; the separators of information are not. -/
def isWhiteSpace (c : Char) : Bool := isBlank c && !(28 ≤ c.toNat && c.toNat ≤ 31)

theorem isBlank_of_isWhitespace {c : Char} (h : c.isWhitespace) : isBlank c := by
  simp only [Char.isWhitespace, Bool.or_eq_true, decide_eq_true_eq] at h
  rcases h with ((rfl | rfl) | rfl) | rfl <;> decide

/-!
### Digits

Each script's ten decimal digits are consecutive, zero first, so a digit's value is its distance from
the zero of its script.
-/

/-- The zeros of all scripts, in ascending order. -/
def zeroCodes : List Nat :=
  [0x30, 0x660, 0x6F0, 0x7C0, 0x966, 0x9E6, 0xA66, 0xAE6, 0xB66, 0xBE6, 0xC66, 0xCE6, 0xD66,
   0xDE6, 0xE50, 0xED0, 0xF20, 0x1040, 0x1090, 0x17E0, 0x1810, 0x1946, 0x19D0, 0x1A80, 0x1A90,
   0x1B50, 0x1BB0, 0x1C40, 0x1C50, 0xA620, 0xA8D0, 0xA900, 0xA9D0, 0xA9F0, 0xAA50, 0xABF0,
   0xFF10, 0x104A0, 0x10D30, 0x11066, 0x110F0, 0x11136, 0x111D0, 0x112F0, 0x11450, 0x114D0,
   0x11650, 0x116C0, 0x11730, 0x118E0, 0x11950, 0x11C50, 0x11D50, 0x11DA0, 0x16A60, 0x16AC0,
   0x16B50, 0x1D7CE, 0x1D7D8, 0x1D7E2, 0x1D7EC, 0x1D7F6, 0x1E140, 0x1E2F0, 0x1E950, 0x1FBF0]

/-- The distance of a code from the zero of its script. -/
def digitAmong (code : Nat) : List Nat → Option Nat
  | [] => none
  | origin :: rest =>
    if code < origin then none
    else if code < origin + 10 then some (code - origin)
    else digitAmong code rest

/-- The value of a decimal digit. -/
def digitValue? (c : Char) : Option Nat := digitAmong c.toNat zeroCodes

/-- Whether a character is a decimal digit of some script. -/
def isDigit (c : Char) : Bool := (digitValue? c).isSome

end Gamebook.Text
