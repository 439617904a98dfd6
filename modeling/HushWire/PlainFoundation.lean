import HushWire.ConfigurationPolicy

namespace HushWire.PacketTunnel

/-!
# A plain stand-in for the platform's libraries

`PlainFoundation.foundation` is a `Foundation` on which plans can be
evaluated.  It reads dotted decimal, and the one combination of characters
that it knows to be canonically equivalent to another is an `e` followed by a
combining acute accent.
-/

namespace PlainFoundation

/-- Compose every `e` with an acute accent after it. -/
def composed : List Char → List Char
  | 'e' :: '\u0301' :: rest => 'é' :: composed rest
  | character :: rest => character :: composed rest
  | [] => []

/-- The byte that is written with the given digits. -/
def byteOf (digits : List Char) : Option UInt8 :=
  let byte :=
    UInt8.ofNat
      (digits.foldl (fun value digit => 10 * value + (digit.toNat - 48)) 0)
  if (toString byte).toList = digits then some byte else none

/-- Four bytes in decimal, separated by dots. -/
def ipv4Address (text : String) : Option Ipv4Addr :=
  match (text.toList.splitOn '.').map byteOf with
  | [some first, some second, some third, some fourth] =>
      some (.ofOctets first second third fourth)
  | _ => none

def foundation : Foundation where
  canonicalForm := fun text => .ofList (composed text.toList)
  sortsBefore := fun first second => decide (first < second)
  ipv4Address := ipv4Address
  ipv6Description := fun _ => none

theorem byteOf_toString (byte : UInt8) :
    byteOf (toString byte).toList = some byte := by
  have each :
      ∀ value : Fin 256,
        byteOf (toString (UInt8.ofNat value.val)).toList =
          some (UInt8.ofNat value.val) := by
    decide +kernel
  simpa using each ⟨byte.toNat, byte.toNat_lt⟩

theorem dot_notMem_toString (byte : UInt8) :
    '.' ∉ (toString byte).toList := by
  have each :
      ∀ value : Fin 256,
        '.' ∉ (toString (UInt8.ofNat value.val)).toList := by
    decide +kernel
  simpa using each ⟨byte.toNat, byte.toNat_lt⟩

/-- Writing four bytes and reading them gives their address. -/
theorem ipv4Address_dotted (first second third fourth : UInt8) :
    ipv4Address (Ipv4Addr.dotted [first, second, third, fourth]) =
      some (Ipv4Addr.ofOctets first second third fourth) := by
  have parts :
      (Ipv4Addr.dotted [first, second, third, fourth]).toList.splitOn '.' =
        [first, second, third, fourth].map fun byte =>
          (toString byte).toList := by
    rw [Ipv4Addr.dotted, String.toList_intercalate]
    refine (List.splitOn_intercalate '.' ?_ (by simp)).trans (by simp)
    intro digits member
    rw [List.map_map] at member
    obtain ⟨byte, _, rfl⟩ := List.mem_map.mp member
    exact dot_notMem_toString byte
  have bytes :
      ((Ipv4Addr.dotted [first, second, third, fourth]).toList.splitOn
          '.').map byteOf =
        [some first, some second, some third, some fourth] := by
    rw [parts]
    simp only [List.map_cons, List.map_nil, byteOf_toString]
  unfold ipv4Address
  rw [bytes]

theorem foundation_ipv4Address : foundation.ipv4Address = ipv4Address :=
  rfl

theorem foundation_lawful : foundation.Lawful where
  ipv4Address_dotted := by
    rw [foundation_ipv4Address]
    exact ipv4Address_dotted

end PlainFoundation

end HushWire.PacketTunnel
