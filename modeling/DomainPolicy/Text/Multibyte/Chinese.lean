import DomainPolicy.Text.Grid.Big5
import DomainPolicy.Text.Grid.Gb
import DomainPolicy.Text.Grid.HongKong

/-!
# Chinese characters of several bytes

* GB 2312 is a part of GBK but for two signs, and GBK is the part of GB 18030 that has two bytes. The rest of that has
  four bytes, of which the second and the fourth are digits (`Chinese.four?`).
* Big5 has variants that put characters in place of others, or beside them.
-/

namespace DomainPolicy.Chinese

/-! ### GB -/

def gbk? (a b : Nat) : Option Char :=
  if a < 0x81 then none
  else if 0x40 ≤ b ∧ b < 0x7F then Grid.gbk.char? (a - 0x81) (b - 0x40)
  else if 0x80 ≤ b then Grid.gbk.char? (a - 0x81) (b - 0x41)
  else none

/-- Places of GBK that GB 2312 has left empty: the first and how many. -/
def gb2312Gaps : List (Nat × Nat) :=
  [(0xA2A1, 10), (0xA6E0, 12), (0xA6EE, 5), (0xA6F4, 2), (0xA8BB, 1), (0xA8BD, 2), (0xA8C0, 1)]

/-- GB 2312 has the rows and columns of GBK from `0xA1` on, with two other signs. -/
def gb2312? (a b : Nat) : Option Char :=
  let code := a * 256 + b
  if a < 0xA1 ∨ b < 0xA1 ∨ gb2312Gaps.any fun g => g.1 ≤ code && code < g.1 + g.2 then none
  else if code = 0xA1A4 then some '・'
  else if code = 0xA1AA then some '―'
  else gbk? a b

def gb18030? (a b : Nat) : Option Char := (gbk? a b).or (Stretch.find? Grid.privateGb (a * 256 + b))

/-- The character of four bytes, the second of which is a digit. Those of the first 65536 code points are what two bytes
leave out; the others are in order. -/
def four? (a b c d : Nat) : Option Char :=
  if 0x81 ≤ a ∧ a ≤ 0xFE ∧ 0x81 ≤ c ∧ c ≤ 0xFE ∧ 0x30 ≤ d ∧ d ≤ 0x39 then
    let below := (b - 0x30) * 1260 + (c - 0x81) * 10 + (d - 0x30)
    if a < 0x85 then Stretch.find? Grid.restGb ((a - 0x81) * 12600 + below)
    else if 0x90 ≤ a then
      let n := 0x10000 + (a - 0x90) * 12600 + below
      if n ≤ 0x10FFFF then some (Char.ofNat n) else none
    else none
  else none

/-! ### Big5 -/

def big5? (a b : Nat) : Option Char :=
  if a < 0xA1 then none
  else if 0x40 ≤ b ∧ b < 0x7F then Grid.big5.char? (a - 0xA1) (b - 0x40)
  else if 0xA1 ≤ b then Grid.big5.char? (a - 0xA1) (b - 0x62)
  else none

def windows? (a b : Nat) : Option Char := (Strip.find? Grid.windowsBig5 (a * 256 + b)).or (big5? a b)

def hongKong? (a b : Nat) : Option (List Char) :=
  let code := a * 256 + b
  if Grid.hongKongGaps.contains code then none
  else
    match (Strip.find? Grid.hongKong code).or (big5? a b) with
    | some c => some [c]
    | none => (Grid.hongKongCombined.lookup code).map String.toList

end DomainPolicy.Chinese
