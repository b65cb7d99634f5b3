/-! # Blanks

The characters that count as blank, the removal of blanks at the ends of a text
and the words between them. The blanks are those of Unicode: the ASCII controls
U+0009 to U+000D and U+001C to U+001F, the space, and the wider spaces and
separators. Zero-width characters are not blank.
-/

namespace Wordsheet.Text

def isBlank (c : Char) : Bool :=
  let n := c.toNat
  (9 ≤ n && n ≤ 13) || (28 ≤ n && n ≤ 32) || n == 0x85 || n == 0xa0 || n == 0x1680
    || (0x2000 ≤ n && n ≤ 0x200a) || n == 0x2028 || n == 0x2029 || n == 0x202f || n == 0x205f
    || n == 0x3000

def trimStart (cs : List Char) : List Char :=
  cs.dropWhile isBlank

def trimEnd (cs : List Char) : List Char :=
  (cs.reverse.dropWhile isBlank).reverse

def trim (cs : List Char) : List Char :=
  trimEnd (trimStart cs)

def isAllBlank (cs : List Char) : Bool :=
  cs.all isBlank

theorem trimStart_cons_of_not_blank {c : Char} {cs : List Char} (h : isBlank c = false) :
    trimStart (c :: cs) = c :: cs := by
  simp [trimStart, h]

theorem trimStart_eq_nil_iff (cs : List Char) : trimStart cs = [] ↔ isAllBlank cs = true := by
  induction cs with
  | nil => simp [trimStart, isAllBlank]
  | cons c cs ih =>
      cases h : isBlank c <;> simp_all [trimStart, isAllBlank]

theorem trim_eq_self {cs : List Char} (h : ∀ c ∈ cs, isBlank c = false) : trim cs = cs := by
  have keeps (ds : List Char) (hs : ∀ c ∈ ds, isBlank c = false) : ds.dropWhile isBlank = ds := by
    cases ds with
    | nil => rfl
    | cons d ds => exact List.dropWhile_cons_of_neg (by simp [hs d List.mem_cons_self])
  rw [trim, trimEnd, trimStart, keeps cs h, keeps cs.reverse (by simpa using h),
    List.reverse_reverse]

end Wordsheet.Text
