import QueryTree.Hex

/-!
# Universally unique identifiers

An identifier is a number of 128 bits. It is written as 32 hexadecimal digits in five groups. It is
read with or without the hyphens, in braces or after `urn:uuid:`, with letters of either case.
-/
namespace QueryTree

structure Uuid where
  bits : BitVec 128
  deriving DecidableEq

namespace Uuid

/-- The identifier with random bits. Six bits are not random: they say that the others are. -/
def ofRandom (n : Nat) : Uuid :=
  let fixed : BitVec 128 := 0xf <<< 76 ||| 3 <<< 62
  ⟨BitVec.ofNat 128 n &&& ~~~fixed ||| 4 <<< 76 ||| 2 <<< 62⟩

/-- The hexadecimal digits, highest first. -/
def digits (u : Uuid) : List Char :=
  (List.range 32).map fun i => Hex.digit (u.bits.toNat / Nat.pow 16 (31 - i) % 16)

def text (u : Uuid) : String :=
  let ds := u.digits
  String.ofList (ds.take 8 ++ '-' :: (ds.drop 8).take 4 ++ '-' :: (ds.drop 12).take 4 ++
    '-' :: (ds.drop 16).take 4 ++ '-' :: ds.drop 20)

def ofDigits? (cs : List Char) : Option Uuid := do
  let n ← Hex.number? cs
  if cs.length = 32 then some ⟨BitVec.ofNat 128 n⟩ else none

/-- The identifier written in five groups with hyphens between them. -/
def ofGroups? (cs : List Char) : Option Uuid :=
  if cs.length = 36 ∧ cs[8]? = some '-' ∧ cs[13]? = some '-' ∧ cs[18]? = some '-' ∧
      cs[23]? = some '-' then
    ofDigits? (cs.take 8 ++ (cs.drop 9).take 4 ++ (cs.drop 14).take 4 ++ (cs.drop 19).take 4 ++
      cs.drop 24)
  else none

/-- What stands before an identifier in the form of a uniform resource name. -/
def resourceScheme : List Char := "urn:uuid:".toList

def read? (s : String) : Option Uuid :=
  match s.toList with
  | '\x7b' :: rest =>
    if rest.getLast? = some '\x7d' then ofGroups? rest.dropLast else none
  | cs =>
    let (lead, rest) := cs.splitAt resourceScheme.length
    if lead.map Char.toLower = resourceScheme then ofGroups? rest
    else (ofGroups? cs).or (ofDigits? cs)

end Uuid

end QueryTree
